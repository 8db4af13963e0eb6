-- The two sweeps of the outbox, as programs whose calls are the awaits of the
-- source: `maintenanceSweep` of the worker (apps/worker/src/main.ts) and
-- `reconcileOutbox` of the API (apps/api/src/shared.ts).
import TiktokOutreach.Commands

open executions tiktok_outreach.schema tiktok_outreach.queue_outbox tiktok_outreach.commands

namespace tiktok_outreach.outbox_sweeps

/-- `try { ... } catch` around the queue calls of one entry. `known` is what happens to an entry
whose job is still in the queue. -/
def enqueueEntry (id : RecipientId) (known : Program Unit Unit) (backoffMs : Option Int) :
    Program Unit Unit :=
  let addAndMark : Program Unit Unit := do
    Js.call (Call.addSendJob id)
    query (.markEnqueued id)
  Js.tryCatch
    (do
      let existing : Bool ← Js.call (Call.getJob id)
      if existing then do
        let state : String ← Js.call (Call.getJobState id)
        if state = "completed" ∨ state = "failed" then do
          Js.call (Call.removeJob id)
          addAndMark
        else known
      else addAndMark)
    (fun _ => query (.requeueOutbox id backoffMs))

/-! ## `maintenanceSweep` -/

def sweepRecipients : List RecipientId → Program Unit Unit
  | [] => pure ()
  | id :: rest => do
    let entry : Outbox ← query (.upsertOutbox id)
    if enqueueable entry.state then do
      enqueueEntry id (pure ()) none
      sweepRecipients rest
    else sweepRecipients rest

def maintenanceSweep (limit : Nat) : Program Unit Unit := do
  query .completeSettledOutbox
  let _ : Nat ← query .expireFrozenCampaigns
  let recipients : List RecipientId ← query (.queuedRecipients limit)
  sweepRecipients recipients

/-! ## `reconcileOutbox` -/

def upsertMissing : List RecipientId → Program Unit Unit
  | [] => pure ()
  | id :: rest => do
    let _ : Outbox ← query (.upsertOutbox id)
    upsertMissing rest

def enqueueEntries : List RecipientId → Program Unit Unit
  | [] => pure ()
  | id :: rest => do
    enqueueEntry id (query (.markEnqueued id)) (some 5000)
    enqueueEntries rest

def reconcileOutbox (readOnly : Bool) (limit : Nat) : Program Unit Unit :=
  if readOnly then pure ()
  else do
    let missing : List RecipientId ← query (.queuedRecipients limit)
    upsertMissing missing
    let entries : List RecipientId ← query (.openOutbox limit)
    enqueueEntries entries

end tiktok_outreach.outbox_sweeps
