-- The protocol of the programs around a delivery: who holds a claim, what a
-- thread knows from its reads, and which calls it may make then. The jobs of
-- the worker and the operator's actions follow it.
import TiktokOutreach.WorkerJobs
import TiktokOutreach.OperatorActions
import TiktokOutreach.OutboxSweeps

open executions tiktok_outreach.schema tiktok_outreach.dispatch_safety tiktok_outreach.settlements
  tiktok_outreach.outreach_service tiktok_outreach.outbound_throttle tiktok_outreach.commands

namespace tiktok_outreach.send_protocol

/-! ## Roles -/

/-- How far a thread is with a delivery that it claimed. -/
inductive Phase
  /-- It holds no claim. -/
  | free
  /-- It holds a claim, and no message of that claim can have been accepted. -/
  | holder (id : DeliveryId)
  /-- It waits for the provider. -/
  | calling (id : DeliveryId)
  /-- Its message was accepted or may have been. -/
  | burned (id : DeliveryId)

/-- What a thread learned from a read. -/
inductive Fact
  /-- The campaign was queued. -/
  | started (c : CampaignId)
  /-- The campaign was queued, and all its frozen recipients were terminal. -/
  | finished (c : CampaignId)
  /-- The frozen recipient had no Creator Open ID. -/
  | unmessageable (id : RecipientId)
  /-- The delivery was unknown. -/
  | unknown (id : DeliveryId)
  /-- The delivery was in flight when its job started. -/
  | interrupted (id : DeliveryId)

structure Role where
  phase : Phase
  facts : Set Fact

def start : Role := ⟨.free, ∅⟩

def Phase.holds (phase : Phase) (id : DeliveryId) : Prop := phase = .holder id ∨ phase = .burned id

/-- The delivery that a command settles, for a holder of its claim. -/
def settles : Command → Option DeliveryId
  | .markSent id _ _ _ => some id
  | .markTerminalFailure id _ => some id
  | .markRestricted id _ => some id
  | .markDeliveryUnknown id _ => some id
  | .makeDeliveryRetryable id => some id
  | _ => none

/-! ## What a thread learns -/

def learned (facts : Set Fact) : (c : Command) → c.Result → Set Fact
  | .findSendRecipient _, found => { f |
      ∃ recipient delivery, found = some recipient ∧ recipient.delivery = some delivery ∧
        (f = .started recipient.id.campaignId ∨
          f = .interrupted recipient.id ∧ delivery.state = .DISPATCHING ∨
          f = .unmessageable recipient.id ∧ recipient.frozenMessage.isSome ∧
            recipient.creatorOpenIdSnapshot.getD "" = "") }
  | .frozenRecipientStates c, states => { f | f = .finished c ∧ Fact.started c ∈ facts ∧
      allFrozenRecipientsTerminal states = true }
  | .findUnknownDelivery id, found => { f |
      ∃ delivery, found = some delivery ∧
        (f = .started id.campaignId ∨ f = .unknown id ∧ delivery.state = .DELIVERY_UNKNOWN) }
  | .requiredCampaign c, campaign => { f | f = .started c ∧ started campaign.state = true }
  | _, _ => ∅

/-- What the answer of `sendMessage` says about its message. `MALFORMED_RESPONSE` and errors that
are not the provider's say nothing. -/
inductive SendOutcome
  | accepted
  | unknown
  | rejected
  deriving DecidableEq, Repr

def sendOutcome : Except Failure SendMessageResult → SendOutcome
  | .ok (.SENT _ _) => .accepted
  | .ok (.DELIVERY_UNKNOWN _) => .unknown
  | .ok (.RESTRICTED _ _) | .ok (.QUOTA_LIMITED _ _) | .ok (.RETRYABLE_ERROR _ _ _) => .rejected
  | .error (.outbound e) => if e.kind = .MALFORMED_RESPONSE then .unknown else .rejected
  | .error _ => .unknown

/-! ## The protocol -/

def okCommand (role : Role) : Command → Prop
  | .reserveDispatchSlot _ => role.phase = .free
  | .recoverDispatchingDelivery id => Fact.interrupted id ∈ role.facts
  | .markSent id _ _ _ => role.phase.holds id ∨ role.phase = .free ∧ Fact.unknown id ∈ role.facts
  | .markTerminalFailure id _ =>
    role.phase.holds id ∨ role.phase = .free ∧ Fact.unmessageable id ∈ role.facts
  | .markRestricted id _ => role.phase.holds id
  | .markDeliveryUnknown id _ => role.phase.holds id
  | .makeDeliveryRetryable id => role.phase = .holder id
  | .giveUpReconciliation id _ => role.phase = .free ∧ Fact.unknown id ∈ role.facts
  | .pauseCampaign c => Fact.started c ∈ role.facts
  | .requestPause c => Fact.started c ∈ role.facts
  | .resume c _ => Fact.started c ∈ role.facts
  | .completeCampaign c _ => Fact.finished c ∈ role.facts
  | .rebuild _ _ _ => False
  | _ => True

def nextPhase (phase : Phase) : (c : Command) → c.Result → Phase
  | .reserveDispatchSlot id, .claimed _ => .holder id
  | c, _ => if (settles c).isSome then .free else phase

def nextRole (role : Role) : (c : Call) → c.Answer → Role
  | .db c, .ok r => ⟨nextPhase role.phase c r, role.facts ∪ learned role.facts c r⟩
  | .db c, .error _ => if (settles c).isSome then { role with phase := .free } else role
  | .sendMessage id _ _ _, .ok _ => { role with phase := .calling id }
  | .awaitSend id, answer => match sendOutcome answer with
    | .rejected => { role with phase := .holder id }
    | _ => { role with phase := .burned id }
  | _, _ => role

def sendProtocol : Protocol Call Call.Answer Role where
  ok role
    | .db c => okCommand role c
    | .sendMessage id _ _ _ => role.phase = .holder id
    | .awaitSend id => role.phase = .calling id
    | _ => True
  next := nextRole

theorem facts_subset (role : Role) (c : Call) (answer : c.Answer) :
    role.facts ⊆ (nextRole role c answer).facts := by
  unfold nextRole
  split
  · exact Set.subset_union_left
  · split <;> exact subset_rfl
  · exact subset_rfl
  · split <;> exact subset_rfl
  · exact subset_rfl

/-- An error of the database ends at most a phase. -/
theorem phase_error (role : Role) (c : Command) (e : Failure) :
    (nextRole role (.db c) (.error e)).phase = role.phase ∨
      (nextRole role (.db c) (.error e)).phase = .free := by
  cases h : (settles c).isSome
  · exact Or.inl (by simp [nextRole, h])
  · exact Or.inr (by simp [nextRole, h])

end tiktok_outreach.send_protocol
