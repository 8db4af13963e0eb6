-- What a thread of the worker still has to do. Whoever makes a recipient
-- terminal owes the check whether its campaign is done, and whoever made a
-- delivery unknown, or took its reconciliation job, has it in custody until the
-- next job is in the queue or the delivery is settled.
import TiktokOutreach.OperatorRules
import TiktokOutreach.StateTransitions
import TiktokOutreach.WorkerRules

open executions executions.Js tiktok_outreach.schema tiktok_outreach.dispatch_safety
  tiktok_outreach.settlements tiktok_outreach.outbound_throttle tiktok_outreach.outreach_service
  tiktok_outreach.commands tiktok_outreach.worker tiktok_outreach.send_protocol tiktok_outreach.worker_rules
  tiktok_outreach.operator_rules tiktok_outreach.dispatch_core

namespace tiktok_outreach.worker_debts

inductive Debt
  | free
  | custody (d : DeliveryId)
  | completion (c : CampaignId)
  deriving DecidableEq, Repr

/-- The jobs of the worker and the sweeps. -/
def workerJobs : Job → Bool
  | .processSend _ _ _ | .processReconciliation _ _ | .takenReconciliation _ _ | .expirySweep
  | .maintenanceSweep _ | .reconcileOutbox _ _ => true
  | _ => false

/-! ## The protocol -/

/-- The recipient that a command made terminal. -/
def ended : (c : Command) → c.Result → Option RecipientId
  | .reserveDispatchSlot id, .notClaimed true _ => some id
  | .markSent id _ _ _, _ | .markTerminalFailure id _, _ | .markRestricted id _, _
  | .giveUpReconciliation id _, _ => some id
  | _, _ => none

/-- The calls of threads that owe nothing. -/
def works : Call → Bool
  | .db (.requestPause _) | .db (.resume _ _) | .db (.rebuild _ _ _) | .db (.freeze _ _ _ _)
  | .db (.queueFrozen _ _) | .db (.cancel _) => false
  | _ => true

/-- The calls of a thread that has the delivery in custody. -/
def tends (d : DeliveryId) : Call → Bool
  | .db (.findUnknownDelivery id) | .db (.updateReconciliationRun id _ _ _)
  | .db (.scheduleReconciliationRun id _ _) | .db (.giveUpReconciliation id _)
  | .db (.markSent id _ _ _) => id = d
  | .addJob job => job.deliveryId = d
  | .db .linkedMessageIds | .dateNow => true
  | _ => false

/-- The calls of a thread that owes the completion check of the campaign. -/
def completes (c : CampaignId) : Call → Bool
  | .db (.frozenRecipientStates id) | .db (.campaignState id) | .db (.completeCampaign id _) => id = c
  | .db (.release _ _ _) => true
  | _ => false

/-- The delivery is unknown and can be reconciled. -/
def reconcilable (found : Option UnknownDelivery) : Bool :=
  found.any (fun delivery => delivery.state = .DELIVERY_UNKNOWN && delivery.conversationId.isSome &&
    delivery.firstDispatchedAt.isSome)

/-- What a thread owes after a command. -/
def owes (debt : Debt) : (c : Command) → c.Result → Debt
  | .reserveDispatchSlot id, .notClaimed true _ => .completion id.campaignId
  | .markSent id _ _ _, _ | .markTerminalFailure id _, _ | .markRestricted id _, _
  | .giveUpReconciliation id _, _ => .completion id.campaignId
  | .recoverDispatchingDelivery id, _ | .markDeliveryUnknown id _, _ => .custody id
  | .findUnknownDelivery _, found => if reconcilable found then debt else .free
  | .frozenRecipientStates _, states =>
    if allFrozenRecipientsTerminal states then debt else .free
  | .campaignState c, (state : CampaignState) =>
    if state = .CANCELLED ∧ debt = .completion c then .free else debt
  | .completeCampaign _ _, _ => .free
  | _, _ => debt

def debtProtocol : Protocol Call Call.Answer Debt where
  ok debt call := match debt with
    | .free => works call = true
    | .custody d => tends d call = true
    | .completion c => completes c call = true
  next debt
    | .db c, .ok r => owes debt c r
    | .takeJob job, .ok _ => .custody job.deliveryId
    | .addJob _, .ok _ => .free
    | _, .ok _ => debt
    | _, .error _ => .free

/-- The thread ends without a debt, whether it returns or throws. -/
abbrev Pays {L α : Type} (m : Program L α) (debt : Debt) : Prop :=
  Lawful debtProtocol (· = .free) m debt

section Rules

variable {L α β : Type} {debt : Debt}

/-- An error ends every debt. -/
theorem next_error (debt : Debt) (call : Call) (e : Failure) :
    debtProtocol.next debt call (.error e) = .free := by
  cases call <;> rfl

/-- A call of a thread with a debt. -/
theorem pays_bind {c : Call} {f : c.Result → Program L β} (hok : debtProtocol.ok debt c)
    (hf : ∀ a, Pays (f a) (debtProtocol.next debt c (.ok a))) : Pays (Js.call c >>= f) debt :=
  lawful_call_bind hok hf (fun e => next_error debt c e)

theorem next_of_quiet {c : Call} (hc : quiet c = true) (answer : c.Answer) :
    debtProtocol.next .free c answer = .free := by
  cases answer with
  | error e => exact next_error _ _ _
  | ok a =>
    cases c with
    | db c =>
      cases c with
      | findUnknownDelivery id => exact ite_self _
      | frozenRecipientStates id => exact ite_self _
      | campaignState id => exact ite_self _
      | _ => first | rfl | cases hc
    | _ => first | rfl | cases hc

theorem works_of_quiet {c : Call} (hc : quiet c = true) : works c = true := by
  cases c with
  | db c => cases c <;> first | rfl | cases hc
  | _ => rfl

theorem completeCampaignIfDone_pays (c : CampaignId) (hdebt : debt = .free ∨ debt = .completion c) :
    Pays (completeCampaignIfDone c : Program L Unit) debt := by
  have hok : ∀ call, completes c call = true → debtProtocol.ok debt call := by
    intro call hcall
    rcases hdebt with rfl | rfl
    · cases call with
      | db command => cases command <;> first | rfl | cases hcall
      | _ => rfl
    · exact hcall
  unfold completeCampaignIfDone
  apply pays_bind (hok _ (by simp [completes]))
  intro (states : List RecipientState)
  have hstates : debtProtocol.next debt (.db (.frozenRecipientStates c)) (.ok states) =
      if allFrozenRecipientsTerminal states then debt else .free := rfl
  rw [hstates]
  apply lawful_ite
  · intro hnot
    exact lawful_pure (if_neg (by simpa using hnot))
  · intro hterminal
    rw [if_pos (by simpa using hterminal)]
    apply pays_bind (hok _ (by simp [completes]))
    intro (state : CampaignState)
    have hstate : debtProtocol.next debt (.db (.campaignState c)) (.ok state) =
        if state = .CANCELLED ∧ debt = .completion c then .free else debt := rfl
    rw [hstate]
    apply lawful_ite
    · intro hcancelled
      apply lawful_pure
      rcases hdebt with rfl | rfl <;> simp [hcancelled]
    · intro hcancelled
      rw [if_neg (fun h => hcancelled h.1)]
      apply lawful_call (hok _ (by simp [completes]))
      intro answer
      cases answer with
      | ok a => rfl
      | error e => rfl

/-- The next job goes into the queue. -/
theorem scheduleReconciliation_pays (config : WorkerConfig) (id : DeliveryId) (attemptNumber : Int)
    (hdebt : debt = .free ∨ debt = .custody id) :
    Pays (scheduleReconciliation config id attemptNumber : Program L Unit) debt := by
  have hok : ∀ call, works call = true → tends id call = true → debtProtocol.ok debt call := by
    intro call hworks htends
    rcases hdebt with rfl | rfl
    · exact hworks
    · exact htends
  unfold scheduleReconciliation
  apply pays_bind (hok _ rfl rfl)
  intro now
  apply pays_bind (hok _ rfl (by simp [tends]))
  intro _
  apply lawful_call (hok _ rfl (by simp [tends]))
  intro answer
  cases answer with
  | ok a => rfl
  | error e => rfl

theorem debt_rules : Rules debtProtocol (· = .free) where
  quiet c debt hc hdebt := by
    subst hdebt
    exact ⟨works_of_quiet hc, next_of_quiet hc⟩
  complete c debt hdebt := completeCampaignIfDone_pays c (Or.inl hdebt)
  ends c id debt hc hdebt := by
    subst hdebt
    apply pays_bind
    · cases c <;> first | rfl | cases hc
    · intro a
      apply completeCampaignIfDone_pays
      right
      cases c with
      | markSent id' => cases hc; rfl
      | markTerminalFailure id' => cases hc; rfl
      | markRestricted id' => cases hc; rfl
      | _ => cases hc
  unknown config id n debt rest hdebt hrest := by
    subst hdebt
    apply lawful_call_bind (show works (.db (.markDeliveryUnknown id n)) = true from rfl)
    · intro _
      exact lawful_bind (scheduleReconciliation_pays config id 1 (Or.inr rfl)) hrest
    · intro e
      rfl

theorem debt_sweeps : Allows debtProtocol (· = .free) sweepCalls := by
  rintro c debt hc rfl
  have hquiet : quiet c = true := by
    unfold sweepCalls at hc
    split at hc <;> first | rfl | cases hc
  exact ⟨works_of_quiet hquiet, next_of_quiet hquiet⟩

end Rules

/-! ## The jobs -/

section Jobs

variable (config : WorkerConfig) (job : SendJob) (recipient : SendRecipient)

/-- A claim that safety forbids makes its recipient terminal. -/
theorem notClaimed_pays (createPermit : Permit) (cancelled : Bool) {debt : Debt}
    (hdebt : debt = .free ∨ cancelled = true ∧ debt = .completion recipient.id.campaignId) :
    Pays (do
      query (.release createPermit "NOT_DISPATCHED" {})
      createPermitIsSettled
      if cancelled then completeCampaignIfDone recipient.id.campaignId
      else pure ()) debt := by
  have hok : debtProtocol.ok debt (.db (.release createPermit "NOT_DISPATCHED" {})) := by
    rcases hdebt with rfl | ⟨_, rfl⟩ <;> rfl
  apply pays_bind hok
  intro _
  apply lawful_locals
  apply lawful_ite
  · intro _
    apply completeCampaignIfDone_pays
    rcases hdebt with h | ⟨_, h⟩
    · exact Or.inl h
    · exact Or.inr h
  · intro hnot
    apply lawful_pure
    rcases hdebt with h | ⟨h, _⟩
    · exact h
    · exact absurd h hnot

theorem claimAndDispatch_pays (rounds : Nat) (createPermit : Permit) (creatorOpenId : String) :
    Pays (claimAndDispatch config job rounds recipient createPermit creatorOpenId) .free := by
  have hclaimed : ∀ attemptNumber debt, debt = .free → Pays (Js.tryFinally
      (dispatch config job rounds recipient attemptNumber createPermit creatorOpenId)
      (releasePermits createPermit)) debt := by
    intro attemptNumber debt hdebt
    apply lawful_tryFinally
    · exact dispatch_lawful debt_rules job recipient attemptNumber config rounds createPermit
        creatorOpenId hdebt
    · intro debt' hdebt'
      exact releasePermits_lawful debt_rules createPermit hdebt'
  unfold claimAndDispatch
  apply lawful_tryCall_bind (show works (.db (.reserveDispatchSlot recipient.id)) = true from rfl)
  · intro claim
    cases claim with
    | notClaimed cancelled reason =>
      apply notClaimed_pays recipient createPermit cancelled
      cases cancelled with
      | true => exact Or.inr ⟨rfl, rfl⟩
      | false => exact Or.inl rfl
    | claimed attemptNumber => exact hclaimed attemptNumber _ rfl
  · intro e
    apply lawful_bind
    · apply settled_bind debt_rules rfl rfl
      intro _ debt hdebt
      exact lawful_throw hdebt
    · intro claim debt hdebt
      cases claim with
      | notClaimed cancelled reason =>
        exact notClaimed_pays recipient createPermit cancelled (Or.inl hdebt)
      | claimed attemptNumber => exact hclaimed attemptNumber debt hdebt

theorem startDispatch_pays (rounds : Nat) (delivery : DeliverySnapshot) :
    Pays (startDispatch config job rounds recipient delivery) .free := by
  unfold startDispatch
  split
  · apply lawful_bind
    · apply lawful_call (show works (.db (.pauseCampaign recipient.id.campaignId)) = true from rfl)
      intro answer
      cases answer <;> rfl
    · intro _ debt hdebt
      exact delayJob_lawful debt_rules job _ hdebt
  · exact delayJob_lawful debt_rules job _ rfl
  · exact lawful_pure rfl
  · apply lawful_ite
    · intro _
      exact debt_rules.ends (.markTerminalFailure recipient.id _) _ _ rfl rfl
    · intro _
      apply quiet_bind debt_rules rfl rfl
      intro result debt hdebt
      subst hdebt
      cases result with
      | refused delayMs => exact delayJob_lawful debt_rules job _ rfl
      | acquired createPermit nextPermittedAt =>
        exact claimAndDispatch_pays config job recipient rounds createPermit _

theorem processSend_pays (rounds : Nat) : Pays (processSend config job rounds) .free := by
  unfold processSend
  apply lawful_ite
  · intro _
    exact lawful_throw rfl
  intro _
  apply quiet_bind debt_rules rfl rfl
  intro found debt hdebt
  subst hdebt
  cases found with
  | none => exact lawful_pure rfl
  | some recipient =>
    cases hdelivery : recipient.delivery with
    | none =>
      simp only [hdelivery]
      exact lawful_pure rfl
    | some delivery =>
      simp only [hdelivery]
      apply lawful_ite
      · intro _
        exact lawful_pure rfl
      intro _
      cases haction : deliveryAction delivery.state with
      | SKIP => exact lawful_pure rfl
      | RECOVER_AS_UNKNOWN =>
        apply lawful_call_bind
          (show works (.db (.recoverDispatchingDelivery recipient.id)) = true from rfl)
        · intro _
          exact scheduleReconciliation_pays config recipient.id 1 (Or.inr rfl)
        · intro e
          rfl
      | DISPATCH => exact startDispatch_pays config job recipient rounds delivery

/-- The reconciliation of a delivery that a thread has in custody, or not. -/
theorem processReconciliation_pays (job : ReconciliationJob) {debt : Debt}
    (hdebt : debt = .free ∨ debt = .custody job.deliveryId) :
    Pays (processReconciliation config job) debt := by
  have hok : ∀ call, works call = true → tends job.deliveryId call = true →
      debtProtocol.ok debt call := by
    intro call hworks htends
    rcases hdebt with rfl | rfl
    · exact hworks
    · exact htends
  unfold processReconciliation
  apply pays_bind (hok _ rfl (by simp [tends]))
  intro (found : Option UnknownDelivery)
  have hfound : debtProtocol.next debt (.db (.findUnknownDelivery job.deliveryId)) (.ok found) =
      if reconcilable found then debt else .free := rfl
  rw [hfound]
  cases found with
  | none => exact lawful_pure rfl
  | some delivery =>
    apply lawful_ite
    · intro hstate
      apply lawful_pure
      simp [reconcilable, hstate]
    intro hstate
    split
    · rename_i conversationId dispatchedAt hconversation hdispatched
      have hreconcilable : reconcilable (some delivery) = true := by
        simp only [ne_eq, not_not] at hstate
        simp [reconcilable, hstate, hconversation, hdispatched]
      rw [if_pos hreconcilable]
      apply pays_bind (hok _ rfl rfl)
      intro linked
      split
      · apply pays_bind (hok _ rfl (by simp [tends]))
        intro _
        apply pays_bind (hok _ rfl (by simp [tends]))
        intro _
        exact completeCampaignIfDone_pays _ (Or.inr rfl)
      · apply lawful_ite
        · intro _
          apply pays_bind (hok _ rfl (by simp [tends]))
          intro _
          apply lawful_bind (scheduleReconciliation_pays config job.deliveryId _ hdebt)
          intro _ debt' hdebt'
          exact completeCampaignIfDone_pays _ (Or.inl hdebt')
        · intro _
          apply pays_bind (hok _ rfl (by simp [tends]))
          intro _
          exact completeCampaignIfDone_pays _ (Or.inr rfl)
    · rename_i hmissing
      apply lawful_pure
      apply if_neg
      intro h
      simp only [reconcilable, Option.any_some, Bool.and_eq_true, Option.isSome_iff_exists] at h
      obtain ⟨⟨_, conversationId, hconversation⟩, dispatchedAt, hdispatched⟩ := h
      exact hmissing conversationId dispatchedAt hconversation hdispatched

end Jobs

theorem startable_pays {p : Prog Call Call.Answer Unit} (hp : Startable workerJobs p) :
    p.Conforms debtProtocol .free (fun _ debt => debt = .free) := by
  obtain ⟨job, hallowed, rfl⟩ := hp
  cases job with
  | processSend config job rounds => exact conforms_of_lawful (processSend_pays config job rounds)
  | processReconciliation config job =>
    exact conforms_of_lawful (processReconciliation_pays config job (Or.inl rfl))
  | takenReconciliation config job =>
    apply conforms_of_lawful
    apply lawful_call_bind (show works (.takeJob job) = true from rfl)
    · intro _
      exact processReconciliation_pays config job (Or.inr rfl)
    · intro e
      rfl
  | expirySweep => exact conforms_of_lawful (expirySweep_lawful debt_sweeps rfl)
  | maintenanceSweep limit => exact conforms_of_lawful (maintenanceSweep_lawful debt_sweeps limit rfl)
  | reconcileOutbox readOnly limit =>
    exact conforms_of_lawful (reconcileOutbox_lawful debt_sweeps readOnly limit rfl)
  | _ => cases hallowed

/-! ## Their actions -/

/-- The actions of the worker and the sweeps. -/
def ofWorker : Action → Prop
  | .setCampaign _ s => dispatching s = false
  | .freeze _ _ _ | .queue _ | .cancel _ | .rebuild _ => False
  | _ => True

theorem ofWorker_of_works {ambient : Ambient} {command : Command} {r : command.Result}
    (h : works (.db command) = true) :
    ofWorker (actionOf ambient command r) := by
  cases command with
  | completeCampaign id completion =>
    show dispatching (if completion.completedSuccessfully then _ else _) = false
    split <;> rfl
  | reserveDispatchSlot id =>
    cases r with
    | claimed attemptNumber => trivial
    | notClaimed cancelled reason => cases cancelled <;> trivial
  | pauseCampaign id => rfl
  | _ => trivial

theorem works_of_ok {debt : Debt} {call : Call} (h : debtProtocol.ok debt call) :
    works call = true := by
  cases debt with
  | free => exact h
  | custody d =>
    cases call with
    | db command => cases command <;> first | rfl | cases h
    | _ => rfl
  | completion c =>
    cases call with
    | db command => cases command <;> first | rfl | cases h
    | _ => rfl

end tiktok_outreach.worker_debts
