-- The operator's send and the sweeps, for any protocol that allows their calls
-- to the roles of a set and leads back to it.
import TiktokOutreach.ProtocolConformance

open executions executions.Js tiktok_outreach.schema tiktok_outreach.outreach_service
  tiktok_outreach.commands tiktok_outreach.outbox_sweeps

namespace tiktok_outreach.operator_rules

/-- A protocol allows some calls to every thread with a role in `D`, which then has a role in
`D` again. -/
def Allows {Role : Type} (P : Protocol Call Call.Answer Role) (D : Role → Prop)
    (calls : Call → Bool) : Prop :=
  ∀ c r, calls c = true → D r → P.ok r c ∧ ∀ answer, D (P.next r c answer)

/-- The calls of `send`, `freeze` and `queueFrozen`. -/
def sendCalls : Call → Bool
  | .db .expireFrozenCampaigns | .db (.requiredCampaign _) | .db (.freeze _ _ _ _)
  | .db (.queueFrozen _ _) | .outboundCapability | .reconcileOutbox | .dateNow => true
  | _ => false

/-- The calls of the sweeps. -/
def sweepCalls : Call → Bool
  | .db .expireFrozenCampaigns | .db .completeSettledOutbox | .db (.queuedRecipients _)
  | .db (.upsertOutbox _) | .db (.openOutbox _) | .db (.markEnqueued _) | .db (.requeueOutbox _ _)
  | .getJob _ | .getJobState _ | .removeJob _ | .addSendJob _ => true
  | _ => false

section Allows

variable {Role L α β : Type} {P : Protocol Call Call.Answer Role} {D : Role → Prop} {r : Role}
  {calls calls' : Call → Bool}

theorem Allows.mono (h : Allows P D calls) (hcalls : ∀ c, calls' c = true → calls c = true) :
    Allows P D calls' :=
  fun c r hc hr => h c r (hcalls c hc) hr

theorem Allows.call (h : Allows P D calls) {c : Call} (hc : calls c = true) (hr : D r) :
    Lawful P D (Js.call c : Program L c.Result) r :=
  lawful_call (h c r hc hr).1 (h c r hc hr).2

theorem Allows.bind (h : Allows P D calls) {c : Call} {f : c.Result → Program L β}
    (hc : calls c = true) (hr : D r) (hf : ∀ a r', D r' → Lawful P D (f a) r') :
    Lawful P D (Js.call c >>= f) r :=
  lawful_bind (h.call hc hr) hf

end Allows

/-! ## The operator's send -/

section Sends

variable {Role : Type} {P : Protocol Call Call.Answer Role} {D : Role → Prop} {r : Role}
  (h : Allows P D sendCalls) (c : CampaignId)

include h

theorem requireOutboundAvailable_lawful (hr : D r) : Lawful P D requireOutboundAvailable r := by
  unfold requireOutboundAvailable
  apply h.bind rfl hr
  intro (available : Bool) r1 hr1
  apply lawful_ite
  · intro _
    exact lawful_pure hr1
  · intro _
    exact lawful_throw hr1

theorem freezeCampaign_lawful (version : Int) (hr : D r) :
    Lawful P D (freezeCampaign c version) r := by
  unfold freezeCampaign
  apply lawful_bind (requireOutboundAvailable_lawful h hr)
  intro _ r1 hr1
  apply h.bind rfl hr1
  intro _ r2 hr2
  apply h.bind rfl hr2
  intro campaign r3 hr3
  apply lawful_ite
  · intro _
    exact lawful_throw hr3
  · intro _
    apply h.bind rfl hr3
    intro now r4 hr4
    exact h.call rfl hr4

theorem queueFrozenCampaign_lawful (version : Int) (hr : D r) :
    Lawful P D (queueFrozenCampaign c version) r := by
  unfold queueFrozenCampaign
  apply h.bind rfl hr
  intro _ r1 hr1
  apply h.bind rfl hr1
  intro campaign r2 hr2
  apply h.bind rfl hr2
  intro now r3 hr3
  apply lawful_ite
  · intro _
    exact lawful_throw hr3
  · intro _
    apply h.bind rfl hr3
    intro _ r4 hr4
    exact h.call rfl hr4

theorem materialize_lawful (version : Int) (hr : D r) : Lawful P D (materialize c version) r := by
  unfold materialize
  apply lawful_tryCatch (queueFrozenCampaign_lawful h c version hr)
  intro error r1 hr1
  apply h.bind rfl hr1
  intro current r2 hr2
  apply lawful_ite
  · intro _
    exact lawful_pure hr2
  · intro _
    exact lawful_throw hr2

theorem send_lawful (version : Int) (hr : D r) : Lawful P D (send c version) r := by
  unfold send
  apply h.bind rfl hr
  intro _ r1 hr1
  apply h.bind rfl hr1
  intro campaign r2 hr2
  apply lawful_ite
  · intro _
    exact lawful_pure hr2
  intro _
  apply lawful_bind (requireOutboundAvailable_lawful h hr2)
  intro _ r3 hr3
  split
  · apply lawful_bind
    · apply lawful_tryCatch (freezeCampaign_lawful h c version hr3)
      intro error r4 hr4
      apply h.bind rfl hr4
      intro current r5 hr5
      apply lawful_ite
      · intro _
        exact lawful_throw hr5
      · intro _
        exact lawful_pure hr5
    intro _ r4 hr4
    apply h.bind rfl hr4
    intro frozen r5 hr5
    apply lawful_ite
    · intro _
      exact lawful_pure hr5
    · intro _
      exact materialize_lawful h c frozen.version hr5
  · exact materialize_lawful h c version hr3
  · exact lawful_throw hr3

end Sends

/-! ## The sweeps -/

section Sweeps

variable {Role : Type} {P : Protocol Call Call.Answer Role} {D : Role → Prop} {r : Role}
  (h : Allows P D sweepCalls)

include h

theorem expirySweep_lawful (hr : D r) : Lawful P D expirySweep r := by
  unfold expirySweep
  apply h.bind rfl hr
  intro _ r1 hr1
  exact lawful_pure hr1

theorem enqueueEntry_lawful (id : RecipientId) {known : Program Unit Unit} (backoffMs : Option Int)
    (hr : D r) (hknown : ∀ r', D r' → Lawful P D known r') :
    Lawful P D (enqueueEntry id known backoffMs) r := by
  unfold enqueueEntry
  apply lawful_tryCatch
  · apply h.bind rfl hr
    intro (existing : Bool) r1 hr1
    apply lawful_ite
    · intro _
      apply h.bind rfl hr1
      intro (state : String) r2 hr2
      apply lawful_ite
      · intro _
        apply h.bind rfl hr2
        intro _ r3 hr3
        apply h.bind rfl hr3
        intro _ r4 hr4
        exact h.call rfl hr4
      · intro _
        exact hknown r2 hr2
    · intro _
      apply h.bind rfl hr1
      intro _ r2 hr2
      exact h.call rfl hr2
  · intro error r1 hr1
    exact h.call rfl hr1

theorem sweepRecipients_lawful (ids : List RecipientId) (hr : D r) :
    Lawful P D (sweepRecipients ids) r := by
  induction ids generalizing r with
  | nil => exact lawful_pure hr
  | cons id rest ih =>
    unfold sweepRecipients
    apply h.bind rfl hr
    intro entry r1 hr1
    apply lawful_ite
    · intro _
      apply lawful_bind (enqueueEntry_lawful h id none hr1 (fun _ => lawful_pure))
      intro _ r2 hr2
      exact ih hr2
    · intro _
      exact ih hr1

theorem maintenanceSweep_lawful (limit : Nat) (hr : D r) :
    Lawful P D (maintenanceSweep limit) r := by
  unfold maintenanceSweep
  apply h.bind rfl hr
  intro _ r1 hr1
  apply h.bind rfl hr1
  intro _ r2 hr2
  apply h.bind rfl hr2
  intro recipients r3 hr3
  exact sweepRecipients_lawful h recipients hr3

theorem upsertMissing_lawful (ids : List RecipientId) (hr : D r) :
    Lawful P D (upsertMissing ids) r := by
  induction ids generalizing r with
  | nil => exact lawful_pure hr
  | cons id rest ih =>
    unfold upsertMissing
    apply h.bind rfl hr
    intro _ r1 hr1
    exact ih hr1

theorem enqueueEntries_lawful (ids : List RecipientId) (hr : D r) :
    Lawful P D (enqueueEntries ids) r := by
  induction ids generalizing r with
  | nil => exact lawful_pure hr
  | cons id rest ih =>
    unfold enqueueEntries
    apply lawful_bind (enqueueEntry_lawful h id (some 5000) hr (fun _ => h.call rfl))
    intro _ r1 hr1
    exact ih hr1

theorem reconcileOutbox_lawful (readOnly : Bool) (limit : Nat) (hr : D r) :
    Lawful P D (reconcileOutbox readOnly limit) r := by
  unfold reconcileOutbox
  apply lawful_ite
  · intro _
    exact lawful_pure hr
  intro _
  apply h.bind rfl hr
  intro missing r1 hr1
  apply lawful_bind (upsertMissing_lawful h missing hr1)
  intro _ r2 hr2
  apply h.bind rfl hr2
  intro entries r3 hr3
  exact enqueueEntries_lawful h entries hr3

end Sweeps

end tiktok_outreach.operator_rules
