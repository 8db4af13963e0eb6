-- The dispatch claim of a delivery and the recovery of an interrupted one
-- (apps/worker/src/dispatch-safety.ts and delivery-policy.ts).
import TiktokOutreach.Schema

open tables transactions tiktok_outreach.schema

namespace tiktok_outreach.dispatch_safety

inductive DeliveryAction
  | DISPATCH
  | RECOVER_AS_UNKNOWN
  | SKIP
  deriving DecidableEq, Repr

def deliveryAction : DeliveryState → DeliveryAction
  | .DISPATCHING => .RECOVER_AS_UNKNOWN
  | .SENT | .RESTRICTED | .FAILED_TERMINAL | .CANCELLED | .DELIVERY_UNKNOWN
  | .DELIVERY_UNKNOWN_UNRESOLVED => .SKIP
  | .PENDING | .FAILED_RETRYABLE => .DISPATCH

/-- The states in which a delivery can be claimed. -/
def claimable : DeliveryState → Bool
  | .PENDING | .FAILED_RETRYABLE => true
  | _ => false

/-- The states in which a campaign dispatches. -/
def dispatching : CampaignState → Bool
  | .QUEUED | .RUNNING => true
  | _ => false

/-- The write of the contact row that blocks the creator. -/
def markUnresolved (id : RecipientId) : Transaction Unit :=
  Tx.upsert table.contacts (id.shopId, id.creatorId)
    (fun contact => { contact with unresolvedDelivery := true, lastDeliveryId := some id })
    { unresolvedDelivery := true, lastDeliveryId := some id }

def completeOutbox (id : RecipientId) : Transaction Unit := do
  let _ ← Tx.updateMany table.outbox (fun _ id' _ => id' = id)
    (fun entry => { entry with state := .COMPLETED })

def recoverDispatchingDelivery (id : RecipientId) : Transaction Unit := do
  lockCreatorEligibility id.shopId [id.creatorId]
  Tx.update table.deliveries .notFound id (fun delivery =>
    { delivery with state := .DELIVERY_UNKNOWN })
  Tx.update table.recipients .notFound id (fun recipient =>
    { recipient with state := .DELIVERY_UNKNOWN })
  markUnresolved id
  completeOutbox id

/-! ## The claim -/

inductive DispatchClaim
  | claimed (attemptNumber : Int)
  | notClaimed (cancelled : Bool) (reason : Option String)
  deriving DecidableEq, Repr

/-- Why a claim must not dispatch. The ids carry the comparisons of the reservation and the
recipient with the campaign that cannot fail. -/
def exclusionReason (id : RecipientId) (campaign : Campaign) (reservation : Option Reservation)
    (contact : Option Contact) (now : Int) : Option String :=
  if contact.any (·.doNotContact) then some "DO_NOT_CONTACT"
  else if contact.any (fun c => c.unresolvedDelivery && c.lastDeliveryId ≠ some id) then
    some "DELIVERY_UNKNOWN"
  else if ¬ reservation.any (fun r =>
      now < r.expiresAt && r.shopId = id.shopId && r.creatorId = id.creatorId) then
    some "RESERVATION_INVALID"
  else
    let ownConfirmedContact := contact.any (fun c =>
      c.lastCampaignId = some id.campaignId && c.lastDeliveryId = some id)
    let cutoff := now - campaign.cooldownDays * 86400000
    if !ownConfirmedContact && (contact.bind (·.lastContactedAt)).any (cutoff < ·) then
      some "COOLDOWN_CHANGED"
    else none

/-- The writes of a claim that safety forbids. -/
def cancelBeforeDispatch (id : RecipientId) (reason : String) : Transaction DispatchClaim := do
  Tx.update table.deliveries .notFound id (fun delivery =>
    { delivery with state := .FAILED_TERMINAL })
  Tx.update table.recipients .notFound id (fun recipient =>
    { recipient with state := .CANCELLED, eligibility := .EXCLUDED, skipReason := some reason })
  Tx.deleteMany table.reservations (fun _ id' _ => id' = id)
  completeOutbox id
  return .notClaimed true (some reason)

/-- The writes of a claim that dispatches. `shopDate` gives the date of an instant in the
time zone of a shop. -/
def claimDispatch (shopDate : Nat → Int → Int) (id : RecipientId) (currentDelivery : Delivery)
    (now : Int) : Transaction DispatchClaim := do
  Tx.upsert table.dailyUsage (id.shopId, shopDate id.shopId now) (· + 1) 1
  Tx.stmt (fun _ => []) (fun _ db => { db with
    dispatchEvents := db.dispatchEvents ++ [⟨id.campaignId, id, now⟩] }) (fun _ => Tx.ret ())
  Tx.update table.campaigns .notFound id.campaignId (fun campaign =>
    { campaign with dispatchCount := campaign.dispatchCount + 1, state := .RUNNING })
  Tx.update table.deliveries .notFound id (fun delivery =>
    { delivery with
      state := .DISPATCHING
      firstDispatchedAt := some (currentDelivery.firstDispatchedAt.getD now)
      lastAttemptedAt := some now
      attemptCount := delivery.attemptCount + 1 })
  Tx.update table.recipients .notFound id (fun recipient =>
    { recipient with state := .PROCESSING })
  return .claimed (currentDelivery.attemptCount + 1)

def reserveDispatchSlot (shopDate : Nat → Int → Int) (id : RecipientId) (now : Int) :
    Transaction DispatchClaim := do
  lockCreatorEligibility id.shopId [id.creatorId]
  Tx.lock (.outbound id.shopId) (Tx.ret ())
  let campaign ← Tx.readOrThrow .notFound (fun db => db.campaigns.get id.campaignId)
  let currentDelivery ← Tx.readOrThrow .notFound (fun db => db.deliveries.get id)
  if !claimable currentDelivery.state then return .notClaimed false none
  else if !dispatching campaign.state then return .notClaimed false none
  else
    let _ ← Tx.readOrThrow .notFound (fun db => db.recipients.get id)
    let reservation ← Tx.read (fun db => db.reservations.get id)
    let contact ← Tx.read (fun db => db.contacts.get (id.shopId, id.creatorId))
    match exclusionReason id campaign reservation contact now with
    | some reason => cancelBeforeDispatch id reason
    | none => claimDispatch shopDate id currentDelivery now

end tiktok_outreach.dispatch_safety
