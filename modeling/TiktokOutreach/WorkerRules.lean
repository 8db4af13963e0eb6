-- The path of a claimed delivery, for any protocol. A protocol that says what
-- its few special calls mean gets from here that the worker follows it from the
-- claim to the last settlement.
import TiktokOutreach.ProtocolConformance

open executions executions.Js tiktok_outreach.schema tiktok_outreach.settlements
  tiktok_outreach.outbound_throttle tiktok_outreach.commands tiktok_outreach.worker

namespace tiktok_outreach.worker_rules

/-- The calls that settle no delivery, claim none, decide no campaign and move no job. -/
def quiet : Call → Bool
  | .db (.recoverDispatchingDelivery _) | .db (.reserveDispatchSlot _) | .db (.markSent _ _ _ _)
  | .db (.markTerminalFailure _ _) | .db (.markRestricted _ _) | .db (.markDeliveryUnknown _ _)
  | .db (.giveUpReconciliation _ _) | .db (.pauseCampaign _) | .db (.completeCampaign _ _)
  | .db (.requestPause _) | .db (.resume _ _) | .db (.rebuild _ _ _) | .db (.freeze _ _ _ _)
  | .db (.queueFrozen _ _) | .db (.cancel _) | .addJob _ | .takeJob _ => false
  | _ => true

/-- The settlements that make a recipient terminal. -/
def ends : Command → Option RecipientId
  | .markSent id _ _ _ => some id
  | .markTerminalFailure id _ => some id
  | .markRestricted id _ => some id
  | _ => none

/-- What a protocol says of the calls after a claim, for threads with a role in `D`. -/
structure Rules {Role : Type} (P : Protocol Call Call.Answer Role) (D : Role → Prop) : Prop where
  quiet : ∀ c r, quiet c = true → D r → P.ok r c ∧ ∀ answer, D (P.next r c answer)
  complete : ∀ {L : Type} c r, D r →
    Lawful P D (completeCampaignIfDone c : Program L Unit) r
  ends : ∀ {L : Type} c id r, ends c = some id → D r →
    Lawful P D (query c >>= fun _ => completeCampaignIfDone id.campaignId : Program L Unit) r
  unknown : ∀ config id n r (rest : Unit → Program SendLocals Unit), D r →
    (∀ a r', D r' → Lawful P D (rest a) r') →
    Lawful P D (query (.markDeliveryUnknown id n) >>= fun _ =>
      scheduleReconciliation config id 1 >>= rest) r

section Dispatch

variable {Role L α β : Type} {P : Protocol Call Call.Answer Role} {D : Role → Prop} {r : Role}
  (h : Rules P D)

include h

theorem quiet_lawful {c : Call} (hc : quiet c = true) (hr : D r) :
    Lawful P D (Js.call c : Program L c.Result) r :=
  lawful_call (h.quiet c r hc hr).1 (h.quiet c r hc hr).2

theorem quiet_bind {c : Call} {f : c.Result → Program L β} (hc : quiet c = true) (hr : D r)
    (hf : ∀ a r', D r' → Lawful P D (f a) r') : Lawful P D (Js.call c >>= f) r :=
  lawful_bind (quiet_lawful h hc hr) hf

/-- A settlement of a permit, noted in the locals. -/
theorem settled_bind {c : Command} {f : L → L} {rest : c.Result → Program L β}
    (hc : quiet (.db c) = true) (hr : D r) (hrest : ∀ a r', D r' → Lawful P D (rest a) r') :
    Lawful P D (query c >>= fun a => Js.modifyLocals f >>= fun _ => rest a) r := by
  apply quiet_bind h hc hr
  intro a r' hr'
  exact lawful_locals (hrest a r' hr')

theorem delayJob_lawful (job : SendJob) (delayMs : Int) (hr : D r) :
    Lawful P D (delayJob job delayMs : Program L α) r := by
  unfold delayJob
  split
  · exact lawful_throw hr
  · apply quiet_bind h rfl hr
    intro _ r' hr'
    exact lawful_throw hr'

theorem waitForSendPermit_lawful (id : RecipientId) (owner : String) (rounds : Nat) (hr : D r) :
    Lawful P D (waitForSendPermitWhileCampaignActive id owner rounds : Program L _) r := by
  induction rounds generalizing r with
  | zero =>
    unfold waitForSendPermitWhileCampaignActive
    apply quiet_bind h rfl hr
    intro never
    cases never
  | succ rounds ih =>
    unfold waitForSendPermitWhileCampaignActive
    apply quiet_bind h rfl hr
    intro result r1 hr1
    cases result with
    | acquired permit nextPermittedAt => exact lawful_pure hr1
    | refused delayMs =>
      apply quiet_bind h rfl hr1
      intro state r2 hr2
      apply lawful_ite
      · intro _
        exact lawful_pure hr2
      · intro _
        apply quiet_bind h rfl hr2
        intro _ r3 hr3
        exact ih hr3

/-! ## The ends of a dispatch -/

section Send

variable (job : SendJob) (recipient : SendRecipient) (attemptNumber : Int)

/-- The end of a path that gives the delivery back. -/
theorem giveBack_lawful {outcome : AttemptOutcome} {rest : Unit → Program SendLocals α}
    (hr : D r) (hrest : ∀ a r', D r' → Lawful P D (rest a) r') :
    Lawful P D (do
      query (.updateAttempt recipient.id attemptNumber outcome)
      query (.makeDeliveryRetryable recipient.id) >>= rest) r := by
  apply quiet_bind h rfl hr
  intro _ r1 hr1
  exact quiet_bind h rfl hr1 hrest

/-- The end of a path that settles the delivery by the command `c`, and then looks whether the
campaign is done. -/
theorem settleAndComplete_lawful {outcome : AttemptOutcome} {c : Command}
    (hc : ends c = some recipient.id) (hr : D r) :
    Lawful P D (do
      query (.updateAttempt recipient.id attemptNumber outcome)
      query c >>= fun _ => completeCampaignIfDone recipient.id.campaignId : Program SendLocals Unit) r := by
  apply quiet_bind h rfl hr
  intro _ r1 hr1
  exact h.ends c recipient.id r1 hc hr1

/-- The end of a path that gives the delivery back unless this was the last attempt. -/
theorem retry_lawful (isThrottled : Bool) (errorCode : String) (delayMs : Int) (error : Failure)
    (hr : D r) :
    Lawful P D (do
      query (.updateAttempt recipient.id attemptNumber
        (if isThrottled || !finalAttempt job then .FAILED_RETRYABLE else .FAILED_TERMINAL))
      if !isThrottled && finalAttempt job then do
        query (.markTerminalFailure recipient.id errorCode)
        completeCampaignIfDone recipient.id.campaignId
      else do
        query (.makeDeliveryRetryable recipient.id)
        if isThrottled then delayJob job delayMs
        else Js.throw error : Program SendLocals Unit) r := by
  apply quiet_bind h rfl hr
  intro _ r1 hr1
  apply lawful_ite
  · intro _
    exact h.ends (.markTerminalFailure recipient.id errorCode) recipient.id r1 rfl hr1
  · intro _
    apply quiet_bind h rfl hr1
    intro _ r2 hr2
    apply lawful_ite
    · intro _
      exact delayJob_lawful h job _ hr2
    · intro _
      exact lawful_throw hr2

theorem conversationFailed_lawful (createPermit : Permit) (error : Failure) (hr : D r) :
    Lawful P D (conversationFailed job recipient attemptNumber createPermit error) r := by
  unfold conversationFailed
  split
  · dsimp only
    split
    · apply settled_bind h rfl hr
      intro _ r1 hr1
      apply giveBack_lawful h recipient attemptNumber hr1
      intro _ r2 hr2
      exact quiet_lawful h rfl hr2
    · apply settled_bind h rfl hr
      intro _ r1 hr1
      apply giveBack_lawful h recipient attemptNumber hr1
      intro _ r2 hr2
      exact quiet_lawful h rfl hr2
    · apply settled_bind h rfl hr
      intro _ r1 hr1
      apply giveBack_lawful h recipient attemptNumber hr1
      intro _ r2 hr2
      exact quiet_lawful h rfl hr2
    · apply settled_bind h rfl hr
      intro _ r1 hr1
      exact settleAndComplete_lawful h recipient attemptNumber rfl hr1
    · apply lawful_ite
      · intro _
        apply settled_bind h rfl hr
        intro _ r1 hr1
        exact retry_lawful h job recipient attemptNumber _ _ _ _ hr1
      · intro _
        apply settled_bind h rfl hr
        intro _ r1 hr1
        exact retry_lawful h job recipient attemptNumber _ _ _ _ hr1
    · apply settled_bind h rfl hr
      intro _ r1 hr1
      exact retry_lawful h job recipient attemptNumber _ _ _ _ hr1
    · apply settled_bind h rfl hr
      intro _ r1 hr1
      exact retry_lawful h job recipient attemptNumber _ _ _ _ hr1
  · apply settled_bind h rfl hr
    intro _ r1 hr1
    exact retry_lawful h job recipient attemptNumber _ _ _ _ hr1

theorem openConversation_lawful (createPermit : Permit) (creatorOpenId : String) (hr : D r) :
    Lawful P D (openConversation job recipient attemptNumber createPermit creatorOpenId) r := by
  unfold openConversation
  apply lawful_tryCatch
  · apply quiet_bind h rfl hr
    intro conversationId r1 hr1
    apply settled_bind h rfl hr1
    intro _ r2 hr2
    exact lawful_pure hr2
  · intro error r1 hr1
    apply lawful_bind (conversationFailed_lawful h job recipient attemptNumber createPermit error hr1)
    intro _ r2 hr2
    exact lawful_pure hr2

theorem persistConversation_lawful (conversationId : String) (hr : D r) :
    Lawful P D (persistConversation recipient attemptNumber conversationId) r := by
  unfold persistConversation
  apply lawful_tryCatch
  · apply quiet_bind h rfl hr
    intro _ r1 hr1
    exact quiet_lawful h rfl hr1
  · intro error r1 hr1
    apply giveBack_lawful h recipient attemptNumber hr1
    intro _ r2 hr2
    exact lawful_throw hr2

theorem sendFailed_lawful (config : WorkerConfig) (sendPermit : Permit) (error : Failure)
    (hr : D r) : Lawful P D (sendFailed config recipient attemptNumber sendPermit error) r := by
  have hunknown : ∀ r', D r' → Lawful P D (do
      query (.markDeliveryUnknown recipient.id attemptNumber)
      scheduleReconciliation config recipient.id 1
      completeCampaignIfDone recipient.id.campaignId : Program SendLocals Unit) r' := by
    intro r' hr'
    apply h.unknown config recipient.id attemptNumber r' _ hr'
    intro _ r2 hr2
    exact h.complete _ r2 hr2
  unfold sendFailed
  split
  · dsimp only
    split
    · apply settled_bind h rfl hr
      intro _ r1 hr1
      apply giveBack_lawful h recipient attemptNumber hr1
      intro _ r2 hr2
      exact quiet_lawful h rfl hr2
    · apply settled_bind h rfl hr
      intro _ r1 hr1
      apply giveBack_lawful h recipient attemptNumber hr1
      intro _ r2 hr2
      exact quiet_lawful h rfl hr2
    · apply settled_bind h rfl hr
      intro _ r1 hr1
      apply giveBack_lawful h recipient attemptNumber hr1
      intro _ r2 hr2
      exact quiet_lawful h rfl hr2
    all_goals
      apply settled_bind h rfl hr
      intro _ r1 hr1
      exact settleAndComplete_lawful h recipient attemptNumber rfl hr1
  · apply settled_bind h rfl hr
    intro _ r1 hr1
    exact hunknown r1 hr1

theorem settleResult_lawful (config : WorkerConfig) (sendPermit : Permit)
    (creatorOpenId conversationId : String) (result : SendMessageResult) (hr : D r) :
    Lawful P D (settleResult config job recipient attemptNumber sendPermit creatorOpenId
      conversationId result) r := by
  cases result with
  | SENT messageId httpStatus =>
    apply settled_bind h rfl hr
    intro _ r1 hr1
    exact settleAndComplete_lawful h recipient attemptNumber rfl hr1
  | DELIVERY_UNKNOWN httpStatus =>
    apply settled_bind h rfl hr
    intro _ r1 hr1
    apply h.unknown config recipient.id attemptNumber r1 _ hr1
    intro _ r2 hr2
    apply lawful_ite
    · intro _
      apply quiet_bind h rfl hr2
      intro _ r3 hr3
      exact h.complete _ r3 hr3
    · intro _
      exact h.complete _ r2 hr2
  | RESTRICTED errorCode httpStatus =>
    apply settled_bind h rfl hr
    intro _ r1 hr1
    exact settleAndComplete_lawful h recipient attemptNumber rfl hr1
  | QUOTA_LIMITED errorCode httpStatus =>
    apply settled_bind h rfl hr
    intro _ r1 hr1
    apply giveBack_lawful h recipient attemptNumber hr1
    intro _ r2 hr2
    exact quiet_lawful h rfl hr2
  | RETRYABLE_ERROR errorCode retryAfterMs httpStatus =>
    have hrest : ∀ delayMs : Int, ∀ r', D r' → Lawful P D (do
        sendPermitIsSettled
        query (.updateAttempt recipient.id attemptNumber
          (if isProviderThrottle httpStatus (some errorCode) || !finalAttempt job
            then .FAILED_RETRYABLE else .FAILED_TERMINAL))
        if !isProviderThrottle httpStatus (some errorCode) && finalAttempt job then do
          query (.markTerminalFailure recipient.id errorCode)
          completeCampaignIfDone recipient.id.campaignId
        else do
          query (.makeDeliveryRetryable recipient.id)
          if isProviderThrottle httpStatus (some errorCode) then delayJob job delayMs
          else Js.throw (.other errorCode) : Program SendLocals Unit) r' := by
      intro delayMs r' hr'
      exact lawful_locals (retry_lawful h job recipient attemptNumber _ _ _ _ hr')
    apply lawful_ite
    · intro _
      apply quiet_bind h rfl hr
      intro result r1 hr1
      exact hrest result.delayMs r1 hr1
    · intro _
      apply quiet_bind h rfl hr
      intro result r1 hr1
      exact hrest result.delayMs r1 hr1

theorem sendWithPermit_lawful (config : WorkerConfig) (sendPermit : Permit)
    (creatorOpenId conversationId : String) (hr : D r) :
    Lawful P D (sendWithPermit config job recipient attemptNumber sendPermit creatorOpenId
      conversationId) r := by
  unfold sendWithPermit
  apply lawful_locals
  apply lawful_bind
  · apply lawful_tryCatch
    · apply quiet_bind h rfl hr
      intro _ r1 hr1
      apply quiet_bind h rfl hr1
      intro result r2 hr2
      exact lawful_pure hr2
    · intro error r1 hr1
      apply lawful_bind (sendFailed_lawful h recipient attemptNumber config sendPermit error hr1)
      intro _ r2 hr2
      exact lawful_pure hr2
  · intro result r1 hr1
    cases result with
    | none => exact lawful_pure hr1
    | some result =>
      exact settleResult_lawful h job recipient attemptNumber config sendPermit creatorOpenId
        conversationId result hr1

/-- The body of the `try` that follows a claim. -/
theorem dispatch_lawful (config : WorkerConfig) (rounds : Nat) (createPermit : Permit)
    (creatorOpenId : String) (hr : D r) :
    Lawful P D (dispatch config job rounds recipient attemptNumber createPermit creatorOpenId) r := by
  unfold dispatch
  apply quiet_bind h rfl hr
  intro _ r1 hr1
  apply lawful_bind
    (openConversation_lawful h job recipient attemptNumber createPermit creatorOpenId hr1)
  intro conversation r2 hr2
  cases conversation with
  | none => exact lawful_pure hr2
  | some conversationId =>
    apply lawful_bind (persistConversation_lawful h recipient attemptNumber conversationId hr2)
    intro _ r3 hr3
    apply lawful_bind (waitForSendPermit_lawful h recipient.id _ rounds hr3)
    intro sendPermit r4 hr4
    cases sendPermit with
    | none =>
      apply giveBack_lawful h recipient attemptNumber hr4
      intro _ r5 hr5
      exact quiet_lawful h rfl hr5
    | some sendPermit =>
      exact sendWithPermit_lawful h job recipient attemptNumber config sendPermit creatorOpenId
        conversationId hr4

end Send

/-- A release whose errors are swallowed. -/
theorem release_lawful (permit : Permit) (outcome : String) (meta_ : ResponseMeta) (hr : D r) :
    Lawful P D (Js.tryCatch (query (.release permit outcome meta_)) (fun _ => pure ()) :
      Program SendLocals Unit) r := by
  apply lawful_tryCatch (quiet_lawful h rfl hr)
  intro _ r1 hr1
  exact lawful_pure hr1

theorem releasePermits_lawful (createPermit : Permit) (hr : D r) :
    Lawful P D (releasePermits createPermit) r := by
  unfold releasePermits
  apply lawful_getLocals
  intro locals
  obtain ⟨createSettled, sendPermit, sendSettled⟩ := locals
  cases sendPermit with
  | none =>
    apply lawful_ite
    · intro _
      apply lawful_bind (release_lawful h createPermit _ _ hr)
      intro _ r1 hr1
      exact lawful_pure hr1
    · intro _
      exact lawful_pure hr
  | some sendPermit =>
    have hrest : ∀ r', D r' → Lawful P D (if !sendSettled then
        Js.tryCatch (query (.release sendPermit "LOCAL_FAILURE" {})) (fun _ => pure ())
      else pure () : Program SendLocals Unit) r' := by
      intro r' hr'
      apply lawful_ite
      · intro _
        exact release_lawful h sendPermit _ _ hr'
      · intro _
        exact lawful_pure hr'
    apply lawful_ite
    · intro _
      apply lawful_bind (release_lawful h createPermit _ _ hr)
      intro _ r1 hr1
      exact hrest r1 hr1
    · intro _
      exact hrest r hr

end Dispatch

end tiktok_outreach.worker_rules
