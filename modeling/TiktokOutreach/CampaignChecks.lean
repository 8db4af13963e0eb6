-- Four commands write the state of a campaign by its id alone. Each program
-- makes such a write right after it saw the campaign, and not as cancelled.
import TiktokOutreach.OperatorRules
import TiktokOutreach.WorkerRules

open executions executions.Js tiktok_outreach.schema tiktok_outreach.dispatch_safety
  tiktok_outreach.settlements tiktok_outreach.outreach_service tiktok_outreach.outbound_throttle
  tiktok_outreach.commands tiktok_outreach.worker tiktok_outreach.outbox_sweeps tiktok_outreach.send_protocol
  tiktok_outreach.worker_rules tiktok_outreach.operator_rules

namespace tiktok_outreach.campaign_checks

/-- The campaign whose state a command writes, whatever it is by then. -/
def writes : Command → Option CampaignId
  | .requestPause c => some c
  | .resume c _ => some c
  | .pauseCampaign c => some c
  | .completeCampaign c _ => some c
  | _ => none

def unlessCancelled (c : CampaignId) (state : CampaignState) : Option CampaignId :=
  if state = .CANCELLED then none else some c

/-- The campaign that an answer shows, unless it shows it as cancelled. -/
def shown : (c : Call) → c.Answer → Option CampaignId
  | .db (.requiredCampaign c), .ok campaign => unlessCancelled c campaign.state
  | .db (.campaignState c), .ok state => unlessCancelled c state
  | .db (.findSendRecipient _), .ok (some recipient) =>
    unlessCancelled recipient.id.campaignId recipient.campaignState
  | _, _ => none

theorem shown_error (c : Command) (e : Failure) : shown (.db c) (.error e) = none := by
  cases c <;> rfl

/-- The role of a thread is the campaign that its last call showed. -/
def checkProtocol : Protocol Call Call.Answer (Option CampaignId) where
  ok role
    | .db (.rebuild _ _ _) => False
    | .db c => ∀ id, writes c = some id → role = some id
    | _ => True
  next _ := shown

/-- The program makes its writes right after its reads, whatever the thread did before. -/
abbrev Checks {L α : Type} (m : Program L α) (role : Option CampaignId) : Prop :=
  Lawful checkProtocol (fun _ => True) m role

section Rules

variable {L α β : Type} {role : Option CampaignId}

theorem writes_of_quiet {c : Command} (hc : quiet (.db c) = true) : writes c = none := by
  cases c <;> first | rfl | cases hc

theorem writes_of_ends {c : Command} {id : RecipientId} (hc : ends c = some id) :
    writes c = none := by
  cases c <;> first | rfl | cases hc

theorem not_rebuild_of_ok {command : Command} (h : checkProtocol.ok role (.db command))
    (id : CampaignId) (retained : List RetainedCreator) (summary : List (String × Int)) :
    command ≠ .rebuild id retained summary := by
  rintro rfl
  exact h

theorem role_of_ok {command : Command} (h : checkProtocol.ok role (.db command)) {id : CampaignId}
    (hid : writes command = some id) : role = some id := by
  cases command with
  | rebuild => cases hid
  | _ => exact h id hid

theorem ok_of_quiet {c : Call} (hc : quiet c = true) (role : Option CampaignId) :
    checkProtocol.ok role c := by
  cases c with
  | db c =>
    cases c with
    | rebuild id retained summary => cases hc
    | _ => exact fun id hid => absurd hid (by simp [writes_of_quiet hc])
  | _ => trivial

theorem completeCampaignIfDone_checks (c : CampaignId) :
    Checks (completeCampaignIfDone c : Program L Unit) role := by
  unfold completeCampaignIfDone
  apply lawful_call_bind (ok_of_quiet rfl role) _ (fun _ => trivial)
  intro states
  apply lawful_ite
  · intro _
    exact lawful_pure trivial
  · intro _
    apply lawful_call_bind (ok_of_quiet rfl _) _ (fun _ => trivial)
    intro (state : CampaignState)
    apply lawful_ite
    · intro _
      exact lawful_pure trivial
    · intro hstate
      apply lawful_call _ (fun _ => trivial)
      intro id hid
      cases hid
      exact if_neg hstate

theorem scheduleReconciliation_checks (config : WorkerConfig) (id : DeliveryId)
    (attemptNumber : Int) :
    Checks (scheduleReconciliation config id attemptNumber : Program L Unit) role := by
  unfold scheduleReconciliation
  apply lawful_call_bind (ok_of_quiet rfl role) _ (fun _ => trivial)
  intro now
  apply lawful_call_bind (ok_of_quiet rfl _) _ (fun _ => trivial)
  intro _
  exact lawful_call trivial (fun _ => trivial)

theorem check_rules : Rules checkProtocol (fun _ => True) where
  quiet c role hc _ := ⟨ok_of_quiet hc role, fun _ => trivial⟩
  complete c role _ := completeCampaignIfDone_checks c
  ends c id role hc _ := by
    apply lawful_bind
    · apply lawful_call _ (fun _ => trivial)
      cases c with
      | rebuild => cases hc
      | _ => exact fun id' hid => absurd hid (by simp [writes_of_ends hc])
    · intro _ role' _
      exact completeCampaignIfDone_checks id.campaignId
  unknown config id n role rest _ hrest := by
    apply lawful_bind
    · apply lawful_call _ (fun _ => trivial)
      intro _ hid
      cases hid
    · intro _ role1 _
      apply lawful_bind (scheduleReconciliation_checks config id 1)
      intro _ role2 _
      exact hrest () role2 trivial

/-- A call that is allowed to everyone. -/
theorem checks_bind {c : Call} {f : c.Result → Program L β} (hc : quiet c = true)
    (hf : ∀ a role', Checks (f a) role') : Checks (Js.call c >>= f) role :=
  quiet_bind check_rules hc trivial (fun a role' _ => hf a role')

theorem checks_last {c : Call} (hc : quiet c = true) :
    Checks (Js.call c : Program L c.Result) role :=
  quiet_lawful check_rules hc trivial

end Rules

/-! ## The jobs of the worker -/

section Worker

variable {role : Option CampaignId} (job : SendJob) (recipient : SendRecipient)

theorem claimAndDispatch_checks (config : WorkerConfig) (rounds : Nat) (createPermit : Permit)
    (creatorOpenId : String) :
    Checks (claimAndDispatch config job rounds recipient createPermit creatorOpenId) role := by
  unfold claimAndDispatch
  apply lawful_bind
  · apply lawful_tryCatch
    · apply lawful_call _ (fun _ => trivial)
      intro _ hid
      cases hid
    · intro error role1 _
      apply settled_bind check_rules rfl trivial
      intro _ role2 _
      exact lawful_throw trivial
  · intro claim role1 _
    cases claim with
    | notClaimed cancelled reason =>
      apply settled_bind check_rules rfl trivial
      intro _ role2 _
      apply lawful_ite
      · intro _
        exact completeCampaignIfDone_checks _
      · intro _
        exact lawful_pure trivial
    | claimed attemptNumber =>
      apply lawful_tryFinally
      · exact dispatch_lawful check_rules job recipient attemptNumber config rounds createPermit
          creatorOpenId trivial
      · intro role2 _
        exact releasePermits_lawful check_rules createPermit trivial

/-- The pause of a campaign that was seen is acknowledged by its id. -/
theorem startDispatch_checks (config : WorkerConfig) (rounds : Nat) (delivery : DeliverySnapshot)
    (hseen : recipient.campaignState ≠ .CANCELLED → role = some recipient.id.campaignId) :
    Checks (startDispatch config job rounds recipient delivery) role := by
  unfold startDispatch
  split
  · rename_i hstate
    apply lawful_bind
    · apply lawful_call _ (fun _ => trivial)
      intro id hid
      cases hid
      exact hseen (by simp [hstate])
    · intro _ role1 _
      exact delayJob_lawful check_rules job _ trivial
  · exact delayJob_lawful check_rules job _ trivial
  · exact lawful_pure trivial
  · apply lawful_ite
    · intro _
      exact check_rules.ends (.markTerminalFailure recipient.id _) _ _ rfl trivial
    · intro _
      apply checks_bind rfl
      intro result role1
      cases result with
      | refused delayMs => exact delayJob_lawful check_rules job _ trivial
      | acquired createPermit nextPermittedAt =>
        exact claimAndDispatch_checks job recipient config rounds createPermit _

theorem processSend_checks (config : WorkerConfig) (rounds : Nat) :
    Checks (processSend config job rounds) role := by
  unfold processSend
  apply lawful_ite
  · intro _
    exact lawful_throw trivial
  intro _
  apply lawful_call_bind (ok_of_quiet rfl role) _ (fun _ => trivial)
  intro found
  cases found with
  | none => exact lawful_pure trivial
  | some recipient =>
    cases hdelivery : recipient.delivery with
    | none =>
      simp only [hdelivery]
      exact lawful_pure trivial
    | some delivery =>
      simp only [hdelivery]
      apply lawful_ite
      · intro _
        exact lawful_pure trivial
      intro _
      cases haction : deliveryAction delivery.state with
      | SKIP => exact lawful_pure trivial
      | RECOVER_AS_UNKNOWN =>
        apply lawful_bind
        · apply lawful_call _ (fun _ => trivial)
          intro _ hid
          cases hid
        · intro _ role1 _
          exact scheduleReconciliation_checks config recipient.id 1
      | DISPATCH =>
        apply startDispatch_checks job recipient config rounds delivery
        intro hstate
        exact if_neg hstate

theorem processReconciliation_checks (config : WorkerConfig) (job : ReconciliationJob) :
    Checks (processReconciliation config job) role := by
  unfold processReconciliation
  apply checks_bind rfl
  intro found role1
  cases found with
  | none => exact lawful_pure trivial
  | some delivery =>
    apply lawful_ite
    · intro _
      exact lawful_pure trivial
    intro _
    split
    · apply checks_bind rfl
      intro linked role2
      split
      · apply checks_bind rfl
        intro _ role3
        exact check_rules.ends (.markSent job.deliveryId _ _ _) _ _ rfl trivial
      · apply lawful_ite
        · intro _
          apply checks_bind rfl
          intro _ role3
          apply lawful_bind (scheduleReconciliation_checks config job.deliveryId _)
          intro _ role4 _
          exact completeCampaignIfDone_checks _
        · intro _
          apply lawful_bind
          · apply lawful_call _ (fun _ => trivial)
            intro _ hid
            cases hid
          · intro _ role3 _
            exact completeCampaignIfDone_checks _
    · exact lawful_pure trivial

end Worker

/-! ## The operator's actions and the sweeps -/

theorem check_sends : Allows checkProtocol (fun _ => True) sendCalls := by
  intro c role hc _
  refine ⟨?_, fun _ => trivial⟩
  unfold sendCalls at hc
  split at hc <;> first | trivial | (intro id hid; cases hid)

theorem check_sweeps : Allows checkProtocol (fun _ => True) sweepCalls := by
  intro c role hc _
  refine ⟨ok_of_quiet ?_ role, fun _ => trivial⟩
  unfold sweepCalls at hc
  split at hc <;> first | rfl | cases hc

section Operator

variable {role : Option CampaignId} (c : CampaignId)

theorem pauseCampaign_checks : Checks (outreach_service.pauseCampaign c) role := by
  unfold outreach_service.pauseCampaign
  apply lawful_call_bind (ok_of_quiet rfl role) _ (fun _ => trivial)
  intro campaign
  apply lawful_ite
  · intro hstate
    apply lawful_call _ (fun _ => trivial)
    intro id hid
    cases hid
    apply if_neg
    rcases hstate with h | h <;> simp [h]
  · intro _
    exact lawful_throw trivial

theorem resumeCampaign_checks : Checks (resumeCampaign c) role := by
  unfold resumeCampaign
  apply lawful_call_bind (ok_of_quiet rfl role) _ (fun _ => trivial)
  intro campaign
  apply lawful_ite
  · intro hstate
    apply lawful_ite
    · intro _
      exact lawful_throw trivial
    · intro _
      apply lawful_bind
      · apply lawful_call _ (fun _ => trivial)
        intro id hid
        cases hid
        apply if_neg
        rcases hstate with h | h | h <;> simp [h]
      · intro _ role1 _
        exact checks_last rfl
  · intro _
    exact lawful_throw trivial

theorem cancelCampaign_checks : Checks (cancelCampaign c) role := by
  unfold cancelCampaign
  apply checks_bind rfl
  intro campaign role1
  apply lawful_ite
  · intro _
    apply lawful_call _ (fun _ => trivial)
    intro id hid
    cases hid
  · intro _
    apply lawful_ite
    · intro _
      exact lawful_pure trivial
    · intro _
      exact lawful_throw trivial

end Operator

/-! ## All programs -/

theorem startable_checks {p : Prog Call Call.Answer Unit} (hp : Startable Job.keeps p)
    (role : Option CampaignId) : p.Conforms checkProtocol role (fun _ _ => True) := by
  obtain ⟨job, hkeeps, rfl⟩ := hp
  cases job with
  | processSend config job rounds => exact conforms_of_lawful (processSend_checks job config rounds)
  | processReconciliation config job =>
    exact conforms_of_lawful (processReconciliation_checks config job)
  | send c version => exact conforms_of_lawful (send_lawful check_sends c version trivial)
  | freeze c version =>
    exact conforms_of_lawful (freezeCampaign_lawful check_sends c version trivial)
  | queueFrozen c version =>
    exact conforms_of_lawful (queueFrozenCampaign_lawful check_sends c version trivial)
  | pause c => exact conforms_of_lawful (pauseCampaign_checks c)
  | resume c => exact conforms_of_lawful (resumeCampaign_checks c)
  | cancel c => exact conforms_of_lawful (cancelCampaign_checks c)
  | expirySweep => exact conforms_of_lawful (expirySweep_lawful check_sweeps trivial)
  | discover c => cases hkeeps
  | maintenanceSweep limit =>
    exact conforms_of_lawful (maintenanceSweep_lawful check_sweeps limit trivial)
  | reconcileOutbox readOnly limit =>
    exact conforms_of_lawful (reconcileOutbox_lawful check_sweeps readOnly limit trivial)
  | takenReconciliation config job =>
    apply conforms_of_lawful
    apply lawful_bind
    · exact lawful_call trivial (fun _ => trivial)
    · intro _ role1 _
      exact processReconciliation_checks config job

end tiktok_outreach.campaign_checks
