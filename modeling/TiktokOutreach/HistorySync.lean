-- The transactions of the conversation history sync: those of its worker
-- (apps/api/src/history/history-processor.ts) and those of the operator
-- (apps/api/src/history/history.service.ts). The rows of the audit are left out.
import TiktokOutreach.HistorySchema

open tables transactions tiktok_outreach.history_schema

namespace tiktok_outreach.history_sync

/-! ## The claim of a job -/

def claimableState (job : HistorySyncJob) : Bool :=
  job.state = .QUEUED || job.state = .RUNNING || job.state = .BACKING_OFF || job.state = .COMPLETE

/-- `OR: [{ leaseOwner: null }, { leaseExpiresAt: { lte: now } }]` -/
def unleased (now : Int) (job : HistorySyncJob) : Bool :=
  job.leaseOwner.isNone || job.leaseExpiresAt.any (· ≤ now)

/-- The order of the candidates, by the time of their next attempt and their age. Jobs without an
attempt come last. -/
def attemptOrder (a b : Nat × HistorySyncJob) : Bool :=
  match a.2.nextAttemptAt, b.2.nextAttemptAt with
  | some s, some t => s < t || (s = t && a.1 ≤ b.1)
  | some _, none => true
  | none, some _ => false
  | none, none => a.1 ≤ b.1

def findCandidate (now : Int) : Transaction (Option (Nat × HistorySyncJob)) :=
  Tx.read (fun db => ((db.jobs.findMany (fun _ job => claimableState job &&
    (job.nextAttemptAt.isNone || job.nextAttemptAt.any (· ≤ now)) &&
      unleased now job)).insertionSort (fun a b => attemptOrder a b = true)).head?)

/-- The job as the claim of a candidate leaves it. -/
def claimed (config : Config) (candidate : HistorySyncJob) (leaseOwner : Nat) (now : Int)
    (job : HistorySyncJob) : HistorySyncJob :=
  let running := { job with
    state := .RUNNING
    leaseOwner := some leaseOwner
    leaseExpiresAt := some (now + config.leaseMs)
    nextAttemptAt := none
    startedAt := some (candidate.startedAt.getD now) }
  if candidate.state = .COMPLETE then { running with
    passKind := .INCREMENTAL
    phase := .LIST
    privateIncrementalPageToken := none
    incrementalPageIndex := 0 }
  else running

def claim (config : Config) (id : Nat) (candidate : HistorySyncJob) (leaseOwner : Nat)
    (now : Int) : Transaction Nat :=
  Tx.updateMany table.jobs (fun _ i job => i = id && claimableState job && unleased now job)
    (claimed config candidate leaseOwner now)

def holds (leaseOwner : Nat) (job : HistorySyncJob) : Bool := job.leaseOwner = some leaseOwner

/-- `findFirst({ where: { id: jobId, leaseOwner } })` -/
def findUnderLease (id leaseOwner : Nat) : Transaction (Option HistorySyncJob) :=
  Tx.read (fun db => (db.jobs.get id).filter (holds leaseOwner))

/-- `findFirstOrThrow({ where: { id: jobId, leaseOwner } })` -/
def jobUnderLease (id leaseOwner : Nat) : Transaction HistorySyncJob :=
  Tx.readOrThrow .notFound (fun db => (db.jobs.get id).filter (holds leaseOwner))

/-- `updateMany({ where: { id: job.id, leaseOwner } })` -/
def updateUnderLease (id leaseOwner : Nat) (f : HistorySyncJob → HistorySyncJob) :
    Transaction Nat :=
  Tx.updateMany table.jobs (fun _ i job => i = id && holds leaseOwner job) f

/-- What every successful step does to the job: the lease is given up until the next attempt. -/
def released (nextAttemptAt : Int) (job : HistorySyncJob) : HistorySyncJob :=
  { job with
    leaseOwner := none
    leaseExpiresAt := none
    nextAttemptAt := some nextAttemptAt }

/-- What a response of the provider does to the job. -/
def answered (config : Config) (now : Int) (job : HistorySyncJob) : HistorySyncJob :=
  { released (now + config.successSpacingMs) job with
    totalProviderRequests := job.totalProviderRequests + 1
    lastSuccessfulProviderRequestAt := some now
    consecutiveFailureCount := 0
    lastProviderCode := some "0"
    lastErrorCategory := none }

/-! ## A page of conversations -/

/-- The work of a conversation on a page of a job. -/
def workOf (db : Db) (jobId pageSequence : Nat) (conversationId : String) : Option Nat :=
  ((db.works.findMany (fun _ work => work.historySyncJobId = jobId &&
    work.pageSequence = pageSequence && work.externalConversationId = conversationId)).head?).map
      Prod.fst

def newWork (jobId pageSequence : Nat) (item : ProviderConversation) :
    HistorySyncConversationWork where
  historySyncJobId := jobId
  pageSequence := pageSequence
  externalConversationId := item.id
  creatorImId := item.creatorImId
  username := item.username
  avatarUrl := item.avatarUrl
  unreadCount := item.unreadCount.getD 0

def withWork (db : Db) (jobId pageSequence : Nat) (item : ProviderConversation) : Db :=
  if (workOf db jobId pageSequence item.id).isSome then db
  else { db with
    works := db.works.set db.nextWorkId (newWork jobId pageSequence item)
    nextWorkId := db.nextWorkId + 1 }

/-- The `upsert` of the work of a conversation, which keeps one that is there. -/
def stageWork (jobId pageSequence : Nat) (item : ProviderConversation) : Transaction Unit :=
  Tx.stmt (fun db => [.work ((workOf db jobId pageSequence item.id).getD db.nextWorkId)])
    (fun _ db => withWork db jobId pageSequence item) (fun _ => Tx.ret ())

def stageWorks (jobId pageSequence : Nat) : List ProviderConversation → Transaction Unit
  | [] => return ()
  | item :: items => do
    stageWork jobId pageSequence item
    stageWorks jobId pageSequence items

/-- The job after a page of the list. -/
def listed (config : Config) (page : ProviderPage ProviderConversation) (now : Int)
    (job : HistorySyncJob) : HistorySyncJob :=
  { answered config now job with
    phase := .MESSAGES
    privatePendingNextPageToken := page.nextPageToken
    privatePendingHasMore := some page.hasMore
    conversationsDiscovered := job.conversationsDiscovered + page.items.length }

/-- The transaction of `fetchConversationPage`. -/
def stageConversations (config : Config) (id leaseOwner pageSequence : Nat)
    (page : ProviderPage ProviderConversation) (now : Int) : Transaction Unit := do
  stageWorks id pageSequence page.items
  let _ ← updateUnderLease id leaseOwner (listed config page now)
  return ()

/-! ## A page of messages -/

/-- The oldest work of the page that is not complete. -/
def findWork (id pageSequence : Nat) :
    Transaction (Option (Nat × HistorySyncConversationWork)) :=
  Tx.read (fun db => (db.works.findMany (fun _ work => work.historySyncJobId = id &&
    work.pageSequence = pageSequence && work.state ≠ .COMPLETE)).argmin (fun row => row.1))

def findConversation (id : String) : Transaction Bool :=
  Tx.read (fun db => (db.conversations.get id).isSome)

/-- The `upsert` of `ensureConversation`. -/
def upsertConversation (shopId : String) (creatorId : Nat) (item : ProviderConversation)
    (now : Int) : Transaction Unit :=
  Tx.upsert table.conversations item.id
    (fun conversation => { conversation with
      unreadCount := item.unreadCount.getD 0
      lastSyncedAt := now })
    { shopId
      creatorId
      unreadCount := item.unreadCount.getD 0
      lastSyncedAt := now }

/-- `createMany({ skipDuplicates: true })` of one message. It gives the number of new rows. -/
def insertMessage (conversationId : String) (message : ProviderMessage) : Transaction Nat :=
  Tx.stmt (fun _ => [.message message.id])
    (fun _ db => if (db.messages.get message.id).isSome then db else { db with
      messages := db.messages.set message.id
        { conversationId
          direction := message.direction
          content := message.content
          providerCreatedAt := message.createdAt
          importSource := SOURCE } })
    (fun db => Tx.ret (if (db.messages.get message.id).isSome then 0 else 1))

/-- The loop over the messages of a page, which counts the new ones. -/
def insertMessages (conversationId : String) : List ProviderMessage → Transaction Nat
  | [] => return 0
  | message :: messages => do
    let inserted ← insertMessage conversationId message
    let others ← insertMessages conversationId messages
    return inserted + others

/-- The work after a page of messages. -/
def worked (page : ProviderPage ProviderMessage) (newlyImported : Nat) (now : Int)
    (work : HistorySyncConversationWork) : HistorySyncConversationWork :=
  { work with
    state := if page.hasMore then .RUNNING else .COMPLETE
    privateMessagePageToken := page.nextPageToken
    messagesImported := work.messagesImported + newlyImported
    providerRequests := work.providerRequests + 1
    completedAt := if page.hasMore then none else some now }

/-- The job after a page of messages. -/
def counted (config : Config) (page : ProviderPage ProviderMessage) (newlyImported : Nat)
    (imported : Bool) (now : Int) (job : HistorySyncJob) : HistorySyncJob :=
  { answered config now job with
    messagesImported := job.messagesImported + newlyImported
    conversationsImported := job.conversationsImported + if imported then 1 else 0
    conversationsCompleted := job.conversationsCompleted + if page.hasMore then 0 else 1 }

/-- The transaction of `fetchMessagePage`. The contact state of the creator is rebuilt under its
lock, from these messages and from rows of the outreach. -/
def storeMessages (config : Config) (id leaseOwner workId : Nat) (shopId : String)
    (creatorId : Nat) (conversationId : String) (page : ProviderPage ProviderMessage)
    (imported : Bool) (now : Int) : Transaction Unit := do
  let newlyImported ← insertMessages conversationId page.items
  Tx.lock ⟨shopId, creatorId⟩ do
    Tx.update table.works .notFound workId (worked page newlyImported now)
    let _ ← updateUnderLease id leaseOwner (counted config page newlyImported imported now)
    return ()

/-! ## The end of a page -/

/-- What `advanceCompletedPage` decides. -/
inductive Advance
  | head
  | backfill (nextToken : Option String) (pagesSinceHead : Nat) (runHead : Bool)
  | backfillComplete (initialCompletedAt : Option Int)
  | incremental (nextToken : Option String) (nextIndex : Nat)
  | incrementalComplete
  deriving DecidableEq, Repr

/-- The columns that every pass writes at the end of a page. -/
def common (config : Config) (now : Int) (job : HistorySyncJob) : HistorySyncJob :=
  { released (now + config.successSpacingMs) job with
    pagesProcessed := job.pagesProcessed + 1
    pageSequence := job.pageSequence + 1
    phase := .LIST
    privatePendingNextPageToken := none
    privatePendingHasMore := none }

def advanced (config : Config) (now : Int) (advance : Advance) (job : HistorySyncJob) :
    HistorySyncJob :=
  match advance with
  | .head => { common config now job with
      passKind := .BACKFILL
      privateIncrementalPageToken := none
      backfillPagesSinceHead := 0 }
  | .backfill nextToken pagesSinceHead runHead =>
    let next := { common config now job with
      privateBackfillPageToken := nextToken
      backfillPagesSinceHead := pagesSinceHead }
    if runHead then { next with
      passKind := .HEAD
      privateIncrementalPageToken := none }
    else next
  | .backfillComplete initialCompletedAt => { common config now job with
      state := .COMPLETE
      mode := .INCREMENTAL
      passKind := .INCREMENTAL
      privateBackfillPageToken := none
      privateIncrementalPageToken := none
      initialCompletedAt := some (initialCompletedAt.getD now)
      completedAt := some now
      nextAttemptAt := some (now + config.incrementalIntervalMs) }
  | .incremental nextToken nextIndex => { common config now job with
      privateIncrementalPageToken := nextToken
      incrementalPageIndex := nextIndex }
  | .incrementalComplete => { common config now job with
      state := .COMPLETE
      passKind := .INCREMENTAL
      privateIncrementalPageToken := none
      incrementalPageIndex := 0
      completedAt := some now
      nextAttemptAt := some (now + config.incrementalIntervalMs) }

def advanceCompletedPage (config : Config) (id leaseOwner : Nat) (advance : Advance)
    (now : Int) : Transaction Nat :=
  updateUnderLease id leaseOwner (advanced config now advance)

/-! ## Errors -/

/-- The update of a job by its id, which must exist. It gives the row after it. -/
def updateJob (id : Nat) (f : HistorySyncJob → HistorySyncJob) : Transaction HistorySyncJob := do
  Tx.update table.jobs .notFound id f
  Tx.readOrThrow .notFound (fun db => db.jobs.get id)

/-- The job after the recovery from a cursor, as the handler has read it. -/
def recovered (job : HistorySyncJob) (error : TikTokApiError) (now : Int) (row : HistorySyncJob) :
    HistorySyncJob :=
  { row with
    state := .QUEUED
    passKind := if job.mode = .INITIAL_BACKFILL then .BACKFILL else .INCREMENTAL
    phase := .LIST
    privateBackfillPageToken := none
    privateIncrementalPageToken := none
    privatePendingNextPageToken := none
    privatePendingHasMore := none
    cursorRecoveryCount := row.cursorRecoveryCount + 1
    pageSequence := row.pageSequence + 1
    lastProviderCode := some (publicErrorCode error)
    lastErrorCategory := some "CURSOR_INVALID_RECOVERING"
    totalProviderRequests := row.totalProviderRequests + 1
    nextAttemptAt := some (now + 30000)
    leaseOwner := none
    leaseExpiresAt := none }

def recoverCursor (id : Nat) (job : HistorySyncJob) (error : TikTokApiError) (now : Int) :
    Transaction Unit := do
  Tx.deleteMany table.works (fun _ _ work => work.historySyncJobId = id &&
    work.pageSequence = job.pageSequence)
  let _ ← updateJob id (recovered job error now)
  return ()

/-- The failures in a row after an error that the provider has sent, or that was kept back. -/
def failureCount (job : HistorySyncJob) (error : TikTokApiError) : Nat :=
  job.consecutiveFailureCount + if error.locallyBlocked then 0 else 1

def exponential (count : Nat) : ℚ :=
  min TEMPORARY_MAX_MS (TEMPORARY_BASE_MS * 2 ^ min (count - 1) 20)

/-- The next attempt after an error. A date drops the fraction of its milliseconds. -/
def backoffAt (job : HistorySyncJob) (error : TikTokApiError) (now : Int) : Int :=
  error.nextPermittedAt.getD
    (now + ⌊max (error.retryAfterMs.getD 0) (exponential (failureCount job error))⌋)

def backedOff (job : HistorySyncJob) (error : TikTokApiError) (now : Int) (row : HistorySyncJob) :
    HistorySyncJob :=
  { row with
    state := .BACKING_OFF
    nextAttemptAt := some (backoffAt job error now)
    consecutiveFailureCount := failureCount job error
    totalProviderRequests := row.totalProviderRequests + if error.locallyBlocked then 0 else 1
    lastProviderCode := some (publicErrorCode error)
    lastErrorCategory := some error.kind.text
    leaseOwner := none
    leaseExpiresAt := none }

/-- The error is one of a request that reached the provider. -/
def physical : Failure → Bool
  | .api error => !error.locallyBlocked && (error.httpStatus.isSome || error.requestId.isSome)
  | _ => false

def failed (failure : Failure) (row : HistorySyncJob) : HistorySyncJob :=
  { row with
    state := .FAILED
    lastErrorCategory := some (match failure with
      | .api error => error.kind.text
      | _ => "HISTORY_WORKER_FAILURE")
    lastProviderCode := match failure with
      | .api error => some (publicErrorCode error)
      | _ => none
    totalProviderRequests := row.totalProviderRequests + if physical failure then 1 else 0
    nextAttemptAt := none
    leaseOwner := none
    leaseExpiresAt := none }

/-! ## The operator -/

def findJobOfShop (shopId : String) : Transaction (Option (Nat × HistorySyncJob)) :=
  Tx.read (fun db => (db.jobs.findMany (fun _ job => job.shopId = shopId)).head?)

/-- The job that `startHistorySync` has found, as it leaves it. -/
def restarted (existing : HistorySyncJob) (row : HistorySyncJob) : HistorySyncJob :=
  let queued := { row with
    state := .QUEUED
    nextAttemptAt := none
    lastErrorCategory := none
    lastProviderCode := none
    completedAt := none }
  if existing.state = .FAILED then { queued with
    leaseOwner := none
    leaseExpiresAt := none }
  else queued

/-- The insert of a job, whose shop has none. -/
def createJob (shopId : String) : Transaction HistorySyncJob :=
  Tx.stmt (fun db => [.job db.nextJobId])
    (fun _ db => { db with
      jobs := db.jobs.set db.nextJobId { shopId }
      nextJobId := db.nextJobId + 1 })
    (fun db => if db.jobs.any (fun _ job => job.shopId = shopId) then Tx.throw .uniqueViolation
      else Tx.ret { shopId })

def paused (row : HistorySyncJob) : HistorySyncJob :=
  { row with
    state := .PAUSED
    nextAttemptAt := none }

def incrementalQueued (row : HistorySyncJob) : HistorySyncJob :=
  { row with
    state := .QUEUED
    mode := .INCREMENTAL
    passKind := .INCREMENTAL
    phase := .LIST
    privateIncrementalPageToken := none
    incrementalPageIndex := 0
    nextAttemptAt := none
    leaseOwner := none
    leaseExpiresAt := none }

end tiktok_outreach.history_sync
