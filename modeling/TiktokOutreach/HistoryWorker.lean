-- The programs of the conversation history sync: `processNext` with all that it
-- calls (apps/api/src/history/history-processor.ts), and the operator's actions
-- (apps/api/src/history/history.service.ts).
import TiktokOutreach.HistorySync
import TiktokOutreach.Lib.Executions

open transactions executions tiktok_outreach.history_schema tiktok_outreach.history_sync

namespace tiktok_outreach.history_worker

/-! ## Calls -/

/-- A transaction or a single statement, under the name of its function. The lease of `findWork` is
there for the statements about runs. -/
inductive Command
  | findCandidate (now : Int)
  | jobUnderLease (id leaseOwner : Nat)
  | stageConversations (id leaseOwner pageSequence : Nat)
      (page : ProviderPage ProviderConversation) (now : Int)
  | findWork (id leaseOwner pageSequence : Nat)
  | findConversation (id : String)
  | upsertConversation (shopId : String) (creatorId : Nat) (item : ProviderConversation)
      (now : Int)
  | storeMessages (id leaseOwner workId : Nat) (shopId : String) (creatorId : Nat)
      (conversationId : String) (page : ProviderPage ProviderMessage) (imported : Bool) (now : Int)
  | advanceCompletedPage (id leaseOwner : Nat) (advance : Advance) (now : Int)
  | findUnderLease (id leaseOwner : Nat)
  | recoverCursor (id : Nat) (job : HistorySyncJob) (error : TikTokApiError) (now : Int)
  | backOff (id : Nat) (job : HistorySyncJob) (error : TikTokApiError) (now : Int)
  | fail (id : Nat) (failure : Failure)
  /-- The insert of a row of the audit. -/
  | auditEvent
  | findJobOfShop (shopId : String)
  | restart (id : Nat) (existing : HistorySyncJob)
  | createJob (shopId : String)
  | pause (id : Nat)
  | queueIncremental (id : Nat)
  deriving DecidableEq

/-- What a command returns. -/
def Command.Result : Command → Type
  | findCandidate _ => Option (Nat × HistorySyncJob)
  | jobUnderLease _ _ => HistorySyncJob
  | findWork _ _ _ => Option (Nat × HistorySyncConversationWork)
  | findConversation _ => Bool
  | advanceCompletedPage _ _ _ _ => Nat
  | findUnderLease _ _ => Option HistorySyncJob
  | findJobOfShop _ => Option (Nat × HistorySyncJob)
  | restart _ _ => HistorySyncJob
  | createJob _ => HistorySyncJob
  | pause _ => HistorySyncJob
  | queueIncremental _ => HistorySyncJob
  | _ => Unit

/-- The transaction of a command. -/
def Command.body (config : Config) : (c : Command) → Transaction c.Result
  | findCandidate now => history_sync.findCandidate now
  | jobUnderLease id leaseOwner => history_sync.jobUnderLease id leaseOwner
  | stageConversations id leaseOwner pageSequence page now =>
    history_sync.stageConversations config id leaseOwner pageSequence page now
  | findWork id _ pageSequence => history_sync.findWork id pageSequence
  | findConversation id => history_sync.findConversation id
  | upsertConversation shopId creatorId item now =>
    history_sync.upsertConversation shopId creatorId item now
  | storeMessages id leaseOwner workId shopId creatorId conversationId page imported now =>
    history_sync.storeMessages config id leaseOwner workId shopId creatorId conversationId page
      imported now
  | advanceCompletedPage id leaseOwner advance now =>
    history_sync.advanceCompletedPage config id leaseOwner advance now
  | findUnderLease id leaseOwner => history_sync.findUnderLease id leaseOwner
  | recoverCursor id job error now => history_sync.recoverCursor id job error now
  | backOff id job error now => do
    let _ ← updateJob id (backedOff job error now)
    return ()
  | fail id failure => do
    let _ ← updateJob id (failed failure)
    return ()
  | auditEvent => return ()
  | findJobOfShop shopId => history_sync.findJobOfShop shopId
  | restart id existing => updateJob id (restarted existing)
  | createJob shopId => history_sync.createJob shopId
  | pause id => updateJob id paused
  | queueIncremental id => updateJob id incrementalQueued

inductive Call
  | db (c : Command)
  /-- `randomBytes(18)` for a lease, which gives no value twice, and the claim of a job under it. -/
  | claim (id : Nat) (candidate : HistorySyncJob) (now : Int)
  | now
  | historyAdapter
  | listConversations (pageToken : Option String)
  | ensureConversationCreator (item : ProviderConversation)
  | listMessages (conversationId creatorImId : String) (pageToken : Option String)
  | activeShop
  deriving DecidableEq

def Call.Result : Call → Type
  | db c => c.Result
  /- the lease and the number of jobs that were claimed -/
  | claim _ _ _ => Nat × Nat
  | now => Int
  | listConversations _ => ProviderPage ProviderConversation
  | ensureConversationCreator _ => Nat
  | listMessages _ _ _ => ProviderPage ProviderMessage
  | activeShop => String
  | historyAdapter => Unit

/-- The answer of a call: a result, or what it throws. -/
abbrev Call.Answer (c : Call) : Type := Except Failure c.Result

abbrev Program (α : Type) : Type := Js Call Call.Result Failure Unit α

def query (c : Command) : Program c.Result := Js.call (Call.db c)

/-! ## The worker -/

def fetchConversationPage (id leaseOwner : Nat) (job : HistorySyncJob) : Program Unit := do
  let page ← Js.call (Call.listConversations (given (listCursor job)))
  let now ← Js.call Call.now
  query (.stageConversations id leaseOwner job.pageSequence page now)

/-- The creator of a conversation, and whether the conversation is new. -/
def ensureConversation (item : ProviderConversation) (shopId : String) : Program (Nat × Bool) := do
  let creatorId ← Js.call (Call.ensureConversationCreator item)
  let existed ← query (.findConversation item.id)
  let now ← Js.call Call.now
  query (.upsertConversation shopId creatorId item now)
  return (creatorId, !existed)

def itemOf (work : HistorySyncConversationWork) : ProviderConversation where
  id := work.externalConversationId
  creatorImId := work.creatorImId
  username := work.username
  avatarUrl := work.avatarUrl
  unreadCount := some work.unreadCount

def fetchMessagePage (id leaseOwner : Nat) (job : HistorySyncJob) (workId : Nat)
    (work : HistorySyncConversationWork) : Program Unit := do
  let (creatorId, imported) ← ensureConversation (itemOf work) job.shopId
  let page ← Js.call (Call.listMessages work.externalConversationId work.creatorImId
    (given work.privateMessagePageToken))
  let now ← Js.call Call.now
  query (.storeMessages id leaseOwner workId job.shopId creatorId work.externalConversationId page
    imported now)

/-- The insert of an audit row at the first page and every tenth one. -/
def auditPage (pagesProcessed : Nat) : Program Unit :=
  if pagesProcessed = 1 || pagesProcessed % 10 = 0 then query .auditEvent else pure ()

def missingCursor : Failure :=
  .api { kind := .MALFORMED_RESPONSE, operation := "LIST_CONVERSATIONS",
         message := "Missing continuation cursor" }

def advanceCompletedPage (config : Config) (id leaseOwner : Nat) (job : HistorySyncJob) :
    Program Unit := do
  let now ← Js.call Call.now
  let nextToken := job.privatePendingNextPageToken
  let hasMore : Bool := job.privatePendingHasMore = some true
  match job.passKind with
  | .HEAD => do
    let _ ← query (.advanceCompletedPage id leaseOwner .head now)
  | .BACKFILL =>
    if hasMore && (given nextToken).isNone then Js.throw missingCursor
    else if hasMore then do
      let pagesSinceHead := job.backfillPagesSinceHead + 1
      let _ ← query (.advanceCompletedPage id leaseOwner (.backfill nextToken pagesSinceHead
        (pagesSinceHead ≥ config.headEveryBackfillPages)) now)
      auditPage (job.pagesProcessed + 1)
    else do
      let _ ← query (.advanceCompletedPage id leaseOwner
        (.backfillComplete job.initialCompletedAt) now)
  | .INCREMENTAL => do
    let nextIndex := job.incrementalPageIndex + 1
    if hasMore && (given nextToken).isSome && nextIndex < config.incrementalPages then do
      let _ ← query (.advanceCompletedPage id leaseOwner (.incremental nextToken nextIndex) now)
    else do
      let _ ← query (.advanceCompletedPage id leaseOwner .incrementalComplete now)

def processClaimed (config : Config) (id leaseOwner : Nat) : Program Unit := do
  let job ← query (.jobUnderLease id leaseOwner)
  if job.phase = .LIST then fetchConversationPage id leaseOwner job
  else do
    let found ← query (.findWork id leaseOwner job.pageSequence)
    match found with
    | some (workId, work) => fetchMessagePage id leaseOwner job workId work
    | none => advanceCompletedPage config id leaseOwner job

def handleError (id leaseOwner : Nat) (failure : Failure) : Program Unit := do
  let now ← Js.call Call.now
  let found ← query (.findUnderLease id leaseOwner)
  match found with
  | none => return ()
  | some job => match failure with
    | .api error =>
      if isCursorInvalid job failure then query (.recoverCursor id job error now)
      else if error.kind = .RATE_LIMIT || error.kind = .TEMPORARY then
        query (.backOff id job error now)
      else query (.fail id failure)
    | _ => query (.fail id failure)

def processNext (config : Config) : Program Bool := do
  let now ← Js.call Call.now
  let candidate ← query (.findCandidate now)
  match candidate with
  | none => return false
  | some (id, candidate) =>
    if candidate.state = .COMPLETE && candidate.mode ≠ .INCREMENTAL then return false
    else do
      let (leaseOwner, count) ← Js.call (Call.claim id candidate now)
      if count ≠ 1 then return true
      else do
        if candidate.state = .BACKING_OFF then query .auditEvent else pure ()
        Js.tryCatch (do
          Js.call Call.historyAdapter
          processClaimed config id leaseOwner) (handleError id leaseOwner)
        return true

/-! ## The operator -/

/-- What a job shows of itself. -/
structure PublicHistoryJob where
  state : HistorySyncState
  mode : HistorySyncMode
  passKind : HistorySyncPassKind
  pagesProcessed : Nat
  conversationsDiscovered : Nat
  conversationsImported : Nat
  conversationsCompleted : Nat
  messagesImported : Nat
  totalProviderRequests : Nat
  cursorRecoveryCount : Nat
  lastProviderCode : Option String
  lastErrorCategory : Option String
  lastSuccessfulProviderRequestAt : Option Int
  nextAttemptAt : Option Int
  startedAt : Option Int
  initialCompletedAt : Option Int
  completedAt : Option Int
  deriving DecidableEq, Repr

def publicHistoryJob (job : HistorySyncJob) : PublicHistoryJob :=
  { job with }

def historyStatus : Program (Option PublicHistoryJob) := do
  let shopId ← Js.call Call.activeShop
  let job ← query (.findJobOfShop shopId)
  return job.map (fun row => publicHistoryJob row.2)

def startHistorySync : Program PublicHistoryJob := do
  let shopId ← Js.call Call.activeShop
  let existing ← query (.findJobOfShop shopId)
  match existing with
  | some (id, existing) =>
    if existing.state ≠ .FAILED && existing.state ≠ .PAUSED then return publicHistoryJob existing
    else do
      let job ← query (.restart id existing)
      query .auditEvent
      return publicHistoryJob job
  | none => do
    let job ← query (.createJob shopId)
    query .auditEvent
    return publicHistoryJob job

def pauseHistorySync : Program PublicHistoryJob := do
  let shopId ← Js.call Call.activeShop
  let existing ← query (.findJobOfShop shopId)
  match existing with
  | none => Js.throw (.badRequest "Historical sync has not been started")
  | some (id, _) => do
    let job ← query (.pause id)
    query .auditEvent
    return publicHistoryJob job

def resumeHistorySync : Program PublicHistoryJob := startHistorySync

def runIncrementalNow : Program PublicHistoryJob := do
  let shopId ← Js.call Call.activeShop
  let existing ← query (.findJobOfShop shopId)
  match existing with
  | none => Js.throw (.badRequest "Initial historical backfill is not complete")
  | some (id, job) =>
    if job.initialCompletedAt.isNone then
      Js.throw (.badRequest "Initial historical backfill is not complete")
    else if job.state = .RUNNING || job.state = .BACKING_OFF then
      Js.throw (.badRequest "Historical sync is already active")
    else do
      let queued ← query (.queueIncremental id)
      query .auditEvent
      return publicHistoryJob queued

end tiktok_outreach.history_worker
