-- The transactions of the two sweeps that put the entries of the outbox into
-- the queue: `maintenanceSweep` (apps/worker/src/main.ts) and `reconcileOutbox`
-- (apps/api/src/shared.ts).
import TiktokOutreach.Settlements

open tables transactions tiktok_outreach.schema tiktok_outreach.dispatch_safety

namespace tiktok_outreach.queue_outbox

/-- The states of an entry that a sweep enqueues. -/
def enqueueable : OutboxState → Bool
  | .PENDING | .ENQUEUED => true
  | .SAFETY_PAUSED | .COMPLETED => false

/-- The states of a delivery whose entry is over. -/
def settledState : DeliveryState → Bool
  | .SENT | .RESTRICTED | .FAILED_TERMINAL | .DELIVERY_UNKNOWN | .DELIVERY_UNKNOWN_UNRESOLVED
  | .CANCELLED => true
  | .PENDING | .DISPATCHING | .FAILED_RETRYABLE => false

def completeSettledOutbox : Transaction Unit := do
  let _ ← Tx.updateMany table.outbox
    (fun db id entry => enqueueable entry.state &&
      (db.deliveries.get id).any (fun delivery => settledState delivery.state))
    (fun entry => { entry with state := .COMPLETED })

/-- The recipient is queued, it has a delivery, and its campaign dispatches. -/
def isQueued (db : Db) (id : RecipientId) (recipient : Recipient) : Bool :=
  recipient.state = .QUEUED && (db.deliveries.get id).isSome &&
    (db.campaigns.get id.campaignId).any (fun campaign => dispatching campaign.state)

def queuedRecipients (limit : Nat) : Transaction (List RecipientId) :=
  Tx.read (fun db => ((db.recipients.findMany (isQueued db)).map (·.1)).take limit)

/-- The entry of a recipient, which is created when it is missing. -/
def upsertOutbox (id : RecipientId) (now : Int) : Transaction Outbox := do
  let existing ← Tx.read (fun db => db.outbox.get id)
  match existing with
  | some entry => return entry
  | none =>
    -- the foreign keys of the new row
    let _ ← Tx.readOrThrow (.other "P2003") (fun db => db.deliveries.get id)
    Tx.create table.outbox .uniqueViolation [] (fun _ => false) id { availableAt := now }
    return { availableAt := now }

def openOutbox (limit : Nat) (now : Int) : Transaction (List RecipientId) :=
  Tx.read (fun db => ((db.outbox.findMany (fun id entry =>
    enqueueable entry.state && decide (entry.availableAt ≤ now) &&
      (db.campaigns.get id.campaignId).any (fun campaign => dispatching campaign.state) &&
      (db.recipients.get id).any (fun recipient => recipient.state = .QUEUED))).map (·.1)).take limit)

def markEnqueued (id : RecipientId) : Transaction Unit := do
  let _ ← Tx.updateMany table.outbox
    (fun db id' entry => id' = id && enqueueable entry.state &&
      (db.recipients.get id').any (fun recipient => recipient.state = .QUEUED))
    (fun entry => { entry with state := .ENQUEUED })

/-- The update of an entry after an error of the queue. -/
def requeueOutbox (id : RecipientId) (backoffMs : Option Int) (now : Int) : Transaction Unit :=
  Tx.update table.outbox .notFound id (fun entry => { entry with
    state := .PENDING
    availableAt := (backoffMs.map (now + ·)).getD entry.availableAt })

/-! ## The sweeps write the outbox alone -/

section Keeps

variable {τ : Type} {π : Db → τ}

theorem completeSettledOutbox_keeps (h : ∀ db t, π { db with outbox := t } = π db) :
    completeSettledOutbox.Keeps π := by
  unfold completeSettledOutbox
  refine Tx.keeps_bind ?_ fun _ => trivial
  simp [h]

theorem upsertOutbox_keeps (h : ∀ db t, π { db with outbox := t } = π db) (id : RecipientId)
    (now : Int) : (upsertOutbox id now).Keeps π := by
  unfold upsertOutbox
  apply Tx.keeps_bind (by simp)
  intro existing
  cases existing with
  | some entry => trivial
  | none =>
    refine Tx.keeps_bind (by simp) fun _ => Tx.keeps_bind ?_ fun _ => trivial
    simp [h]

theorem markEnqueued_keeps (h : ∀ db t, π { db with outbox := t } = π db) (id : RecipientId) :
    (markEnqueued id).Keeps π := by
  unfold markEnqueued
  refine Tx.keeps_bind ?_ fun _ => trivial
  simp [h]

theorem requeueOutbox_keeps (h : ∀ db t, π { db with outbox := t } = π db) (id : RecipientId)
    (backoffMs : Option Int) (now : Int) : (requeueOutbox id backoffMs now).Keeps π := by
  unfold requeueOutbox
  simp [h]

end Keeps

end tiktok_outreach.queue_outbox
