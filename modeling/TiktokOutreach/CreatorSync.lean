-- The other transactions of the crawler: those of the processor
-- (apps/api/src/creator-database/creator-sync.processor.ts) and those of the
-- service (apps/api/src/creator-database/creator-database.service.ts).
import TiktokOutreach.PartitionClaims

open tables transactions tiktok_outreach.creator_schema tiktok_outreach.marketplace_partitions
  tiktok_outreach.creator_scheduler tiktok_outreach.adaptive_queue
  tiktok_outreach.partition_claims

namespace tiktok_outreach.creator_sync

def BUSINESS_16032001_MAX_ATTEMPTS : Nat := 10
def CREATOR_MARKETPLACE_RETRY_MS : Int := 5000
def SHEETS_BLOCKED_RETRY_MS : Int := 300000
def SHEETS_RETRY_BASE_DELAYS_MS : List Int := [5000, 10000, 20000, 40000, 60000, 120000, 300000]

/-! ## The lease -/

def leaseFree (now : Int) (job : CreatorSyncJob) : Bool :=
  job.leaseId.isNone || job.leaseExpiresAt.any (fun expires => decide (expires ≤ now))

def working (state : SyncState) : Bool := state = .RUNNING || state = .WAITING

/-- Whether `processNext` finds a job that is due. -/
def findCandidate (now : Int) : Transaction Bool :=
  Tx.read (fun db => working db.job.state &&
    db.job.nextAttemptAt.all (fun next => decide (next ≤ now)) && leaseFree now db.job)

def claimLease (leaseId : Nat) (now leaseMs : Int) : Transaction Nat :=
  updateJobWhere (fun job => working job.state && leaseFree now job) (fun job => { job with
    state := .RUNNING
    leaseId := some leaseId
    leaseExpiresAt := some (now + leaseMs)
    nextAttemptAt := none })

/-! ## Between the steps of a page -/

/-- `recordActivity`, which throws when the lease was lost. -/
def recordActivity (leaseId : Nat) (stage : Stage) : Transaction Unit := do
  let updated ← updateJobWhere (fun job => job.leaseId = some leaseId)
    (fun job => { job with currentStage := stage })
  if updated ≠ 1 then Tx.throw (.other "Creator sync lease changed before activity was recorded")
  else return ()

/-- The oldest page under a condition on it. -/
def oldestPage (db : Db) (p : CreatorSyncPage → Bool) : Option (Nat × CreatorSyncPage) :=
  (db.pages.findMany (fun _ page => page.state = .RECEIVED && p page)).head?

/-- The partition of the page is one of the structured ones. -/
def ofProduction (db : Db) (page : CreatorSyncPage) : Bool :=
  (db.partitions.get page.creatorSearchPartitionId).any
    (fun p => PRODUCTION_PARTITION_TYPES.contains p.partitionType)

def pendingPage : Transaction (Option Nat) :=
  Tx.read (fun db => (oldestPage db (ofProduction db)).map Prod.fst)

def recordSheetImport (leaseId : Nat) (now : Int) : Transaction Nat :=
  updateJobWhere (fun job => job.leaseId = some leaseId)
    (fun job => { job with sheetImportedAt := some now })

def pauseClaimed (leaseId : Nat) (partitionId : Option Nat) : Transaction Unit := do
  let _ ← updateJobWhere (fun job => job.leaseId = some leaseId) (fun job => { job with
    state := .PAUSED
    currentStage := .PAUSED
    pauseRequested := false
    nextAttemptAt := none
    leaseId := none
    leaseExpiresAt := none })
  match partitionId with
  | some id => Tx.update table.partitions .notFound id (fun p => { p with status := .PAUSED })
  | none => return ()

/-- `findUniqueOrThrow` -/
def findPartition (id : Nat) : Transaction CreatorSearchPartition :=
  Tx.readOrThrow .notFound (fun db => db.partitions.get id)

def markRequested (id : Nat) (status : PartitionStatus) : Transaction Nat :=
  Tx.updateMany table.partitions (fun _ k _ => k = id) (fun p => { p with status })

def countRequest (id : Nat) : Transaction Unit :=
  Tx.update table.partitions .notFound id
    (fun p => { p with marketplaceRequests := p.marketplaceRequests + 1 })

def resetBusinessRetries (id : Nat) : Transaction Nat :=
  Tx.updateMany table.partitions (fun _ k _ => k = id) (fun p => { p with
    business16032001RetryCount := 0
    business16032001RetryPage := none })

/-- Those of some Open IDs that are stored. -/
def existingOpenIds (ids : List String) : Transaction (List String) :=
  Tx.read (fun db => ids.filter (fun id => (db.creators.get id).isSome))

/-! ## Receipts -/

/-- The key of a receipt: the partition and the token of the request, of which the first has none. -/
def receiptRequestKey (partitionId : Nat) (providerRequestToken : String) : String :=
  "PARTITION:" ++ partitionId.repr ++ ":" ++ providerRequestToken

/-- The receipt of a request, by its token. -/
def receiptOf (db : Db) (requestToken : String) : Option Nat :=
  ((db.pages.findMany (fun _ page => page.privateRequestToken = requestToken)).head?).map Prod.fst

/-- The staging of a page: the receipt of its request is created, or the one there is taken. -/
def stagePage (page : CreatorSyncPage) (categoryChildId : Option String) (respondedAt : Int) :
    Transaction Nat := do
  let receipt ← Tx.stmt (fun _ => []) (fun v db => match receiptOf v page.privateRequestToken with
      | some _ => db
      | none => { db with
        pages := db.pages.set db.nextPageId page
        nextPageId := db.nextPageId + 1 })
    (fun v => Tx.ret ((receiptOf v page.privateRequestToken).getD v.nextPageId))
  match categoryChildId with
  | none => return receipt
  | some child => do
    let _ ← Tx.updateMany table.categories
      (fun _ id category => id = child && category.creatorFirstSampledAt.isNone)
      (fun category => { category with creatorFirstSampledAt := some respondedAt })
    let _ ← Tx.updateMany table.categories (fun _ id _ => id = child)
      (fun category => { category with creatorLastSampledAt := some respondedAt })
    return receipt

/-- `ensureMarketplaceCreatorInTransaction`, which stores a creator once. -/
def ensureMarketplaceCreator (origin : Origin) (candidate : CreatorCandidate) :
    Transaction Unit :=
  if candidate.creatorOpenId = "" then
    Tx.throw (.badRequest "Marketplace creator_open_id is required")
  else Tx.upsert table.creators candidate.creatorOpenId id origin

/-- The transaction of one batch of `persistCreators`. -/
def persistBatch (origin : Origin) (batch : List CreatorCandidate) : Transaction Unit := do
  let _ ← Tx.traverse (ensureMarketplaceCreator origin) batch

/-- `findFirstOrThrow({ where: { id, state: "RECEIVED" } })` -/
def receivedPage (id : Nat) : Transaction CreatorSyncPage :=
  Tx.readOrThrow .notFound (fun db => (db.pages.get id).filter (fun page => page.state = .RECEIVED))

def markPersisted (id : Nat) (now : Int) : Transaction Unit :=
  Tx.update table.pages .notFound id (fun page => { page with databasePersistedAt := some now })

def recordSheetAttempt (leaseId id attempt : Nat) (stage : Stage) : Transaction Unit := do
  Tx.update table.pages .notFound id (fun page => { page with
    sheetsAttemptCount := attempt
    nextSheetsAttemptAt := none })
  let updated ← updateJobWhere (fun job => job.leaseId = some leaseId)
    (fun job => { job with currentStage := stage })
  if updated ≠ 1 then
    Tx.throw (.other "Creator sync lease changed before the Sheets attempt was recorded")
  else return ()

/-! ## The commit -/

/-- What a commit adds to the columns of a partition: `partition` is the row that was read. -/
def countedPage (partition : CreatorSearchPartition) (page : CreatorSyncPage) (now : Int)
    (p : CreatorSearchPartition) : CreatorSearchPartition :=
  let yieldValue := rate (partition.uniqueCreatorsAdded + page.newUniqueCreators)
    (partition.rowsReturned + page.creatorsReturned)
  { p with
    privateSearchKey := some page.privateSearchKey
    pagesCompleted := p.pagesCompleted + 1
    rowsReturned := p.rowsReturned + page.creatorsReturned
    uniqueCreatorsAdded := p.uniqueCreatorsAdded + page.newUniqueCreators
    duplicates := p.duplicates + page.duplicateRows
    originalYield := if partition.partitionType = .V2_SEED then some (decimal8 yieldValue)
      else partition.originalYield
    incrementalYield := if isAdaptive partition then some (decimal8 yieldValue)
      else partition.incrementalYield
    lastSuccessAt := some now }

def queuedPartitions (db : Db) : Nat :=
  db.partitions.count (fun _ p => PRODUCTION_PARTITION_TYPES.contains p.partitionType &&
    isSpecificGmvBucket p.gmvBucket && p.status = .QUEUED)

/-- The job's update of a commit, which needs the lease and the partition as the current one. -/
def commitJob (leaseId partitionId : Nat) (f : CreatorSyncJob → CreatorSyncJob) : Transaction Nat :=
  updateJobWhere
    (fun job => job.leaseId = some leaseId && job.currentPartitionId = some partitionId)
    (fun job => { f job with
      pauseRequested := false
      leaseId := none
      leaseExpiresAt := none })

/-- The commit of a page with more pages behind it. -/
def commitMore (config : Config) (leaseId : Nat) (page : CreatorSyncPage)
    (partition : CreatorSearchPartition) (pause strategyDisabled : Bool) (now : Int) :
    Transaction Unit := do
  Tx.update table.partitions .notFound page.creatorSearchPartitionId (fun p =>
    { countedPage partition page now p with
      status := if strategyDisabled then .DISABLED_BY_STRATEGY else if pause then .PAUSED
        else .RUNNING
      privateNextPageToken := page.privateNextToken })
  let _ ← commitJob leaseId page.creatorSearchPartitionId (fun job => { job with
    state := if strategyDisabled || pause then .PAUSED else .RUNNING
    currentStage := if strategyDisabled then .GMV_ALL_DISABLED_BY_STRATEGY
      else if pause then .PAUSED else .PAGE_COMMITTED
    nextAttemptAt := if strategyDisabled || pause then none
      else some (now + config.marketplaceSuccessSpacingMs) })

/-- The commit of the last page of a partition. -/
def commitLast (config : Config) (leaseId : Nat) (page : CreatorSyncPage)
    (partition : CreatorSearchPartition) (pause strategyDisabled : Bool) (now : Int) :
    Transaction Unit := do
  let rowsReturned := partition.rowsReturned + page.creatorsReturned
  let saturation := observedSaturationState true rowsReturned config.observedSaturationMinRows
    config.observedSaturationMaxRows
  let yieldValue := rate (partition.uniqueCreatorsAdded + page.newUniqueCreators) rowsReturned
  let finalStatus : PartitionStatus := if strategyDisabled then .DISABLED_BY_STRATEGY
    else if partition.partitionType = .ADAPTIVE_GMV && saturation = .OBSERVED_SATURATED then
      .DEEPLY_SATURATED
    else .COMPLETE
  Tx.update table.partitions .notFound page.creatorSearchPartitionId (fun p =>
    { countedPage partition page now p with
      status := finalStatus
      privateNextPageToken := none
      observedSaturationState := saturation
      branchClassification := classifyIncrementalYield (some yieldValue) })
  if strategyDisabled then pure () else expandReadyBranches config
  let queuedAfter ← Tx.read queuedPartitions
  let _ ← commitJob leaseId page.creatorSearchPartitionId (fun job => { job with
    state := if strategyDisabled || pause then .PAUSED
      else if queuedAfter ≠ 0 then .RUNNING else .EXHAUSTED
    currentStage := if strategyDisabled then .GMV_ALL_DISABLED_BY_STRATEGY
      else if pause then .PAUSED
      else if finalStatus = .DEEPLY_SATURATED then .DEEPLY_SATURATED else .PARTITION_COMPLETE
    currentPartitionId := if strategyDisabled then some page.creatorSearchPartitionId else none
    nextAttemptAt := if strategyDisabled || pause || queuedAfter = 0 then none
      else some (now + config.marketplaceSuccessSpacingMs) })

/-- The transaction of `commitPage`, with the rows of the page and its partition as they were
read before. -/
def commitPage (config : Config) (leaseId pageId : Nat) (page : CreatorSyncPage)
    (partition : CreatorSearchPartition) (now : Int) : Transaction Unit := do
  let latestJob ← jobUnderLease leaseId
  let strategyDisabled := !isSpecificGmvPartition partition.gmvBucket partition.gmvRange
  Tx.update table.pages .notFound pageId (fun page => { page with
    state := .COMMITTED
    nextSheetsAttemptAt := none })
  if page.providerHasMore then
    commitMore config leaseId page partition latestJob.pauseRequested strategyDisabled now
  else
    commitLast config leaseId page partition latestJob.pauseRequested strategyDisabled now

/-! ## Errors -/

/-- `findFirst({ where: { id: jobId, leaseId } })` -/
def findJob (leaseId : Nat) : Transaction (Option CreatorSyncJob) :=
  Tx.read (fun db => if db.job.leaseId = some leaseId then some db.job else none)

def findCurrent (id : Nat) : Transaction (Option CreatorSearchPartition) :=
  Tx.read (fun db => db.partitions.get id)

/-- Whether a page of any partition is staged. -/
def anyStaged : Transaction Bool := Tx.read (fun db => (oldestPage db (fun _ => true)).isSome)

/-- The staged page that a failure of the sheet is about, with its partition. -/
def stagedPage : Transaction (Option (Nat × CreatorSyncPage × CreatorSearchPartition)) :=
  Tx.read (fun db => (oldestPage db (fun _ => true)).bind (fun row =>
    (db.partitions.get row.2.creatorSearchPartitionId).map (fun p => (row.1, row.2, p))))

def googleSheetsFailure : Failure → Bool
  | .sheets retryable => retryable
  | _ => true

def sheetsRetryDelayMs (attempt : Nat) (retryable : Bool) (random : ℚ) : Int :=
  if !retryable then SHEETS_BLOCKED_RETRY_MS
  else
    let ordinal := max 1 attempt
    let base := SHEETS_RETRY_BASE_DELAYS_MS.getD
      (min (ordinal - 1) (SHEETS_RETRY_BASE_DELAYS_MS.length - 1)) SHEETS_BLOCKED_RETRY_MS
    let jitterRoom := max 0 (SHEETS_BLOCKED_RETRY_MS - base)
    let jitter := (min ((base : ℚ) / 10) jitterRoom * min 1 (max 0 random)).floor
    base + jitter

/-- The end of an attempt: the job is written by its id, and the lease is given up. -/
def leaveJob (state : SyncState) (stage : Stage) (nextAttemptAt : Option Int) : Transaction Unit :=
  updateJob (fun job => { job with
    state
    currentStage := stage
    pauseRequested := false
    nextAttemptAt
    leaseId := none
    leaseExpiresAt := none })

/-- The transaction of `handleSheetsFailure`: `target` is the partition with the job's id for it,
or that of the page. -/
def sheetsFailure (pageId : Nat) (page : CreatorSyncPage) (targetId : Nat)
    (target : CreatorSearchPartition) (pause retryable : Bool) (random : ℚ) (now : Int) :
    Transaction Unit := do
  let strategyDisabled := !isSpecificGmvPartition target.gmvBucket target.gmvRange
  let attempt := max 1 page.sheetsAttemptCount
  let nextAttemptAt := now + sheetsRetryDelayMs attempt retryable random
  Tx.update table.pages .notFound pageId (fun page => { page with
    sheetsAttemptCount := attempt
    nextSheetsAttemptAt := if pause then none else some nextAttemptAt })
  leaveJob (if pause then .PAUSED else .WAITING)
    (if pause then .PAUSED else if retryable then .WAITING_SHEET_RETRY
      else .SHEETS_BLOCKED_RETRYING)
    (if pause then none else some nextAttemptAt)
  Tx.update table.partitions .notFound targetId (fun p => { p with
    status := if strategyDisabled then .DISABLED_BY_STRATEGY else if pause then .PAUSED
      else .WAITING_RETRY })

/-- The number of the attempt for the business error 16032001. -/
def businessAttempt (partition : CreatorSearchPartition) : Nat :=
  if partition.business16032001RetryPage = some (partition.pagesCompleted + 1) then
    partition.business16032001RetryCount + 1
  else 1

def businessRetry (pauseRequested : Bool) (partitionId : Nat) (partition : CreatorSearchPartition)
    (now : Int) : Transaction Unit := do
  let attempt := businessAttempt partition
  let limitReached := decide (BUSINESS_16032001_MAX_ATTEMPTS ≤ attempt)
  let pause := pauseRequested || limitReached
  leaveJob (if pause then .PAUSED else .WAITING)
    (if limitReached then .TIKTOK_BUSINESS_RETRY_LIMIT
      else if pause then .PAUSED else .WAITING_BUSINESS_RETRY)
    (if pause then none else some (now + CREATOR_MARKETPLACE_RETRY_MS))
  Tx.update table.partitions .notFound partitionId (fun p => { p with
    status := if pause then .PAUSED else .WAITING_RETRY
    business16032001RetryCount := attempt
    business16032001RetryPage := some (partition.pagesCompleted + 1) })

/-- The statement on the partition of an error, when there is one. -/
def updatePartition (partitionId : Option Nat) (status : PartitionStatus) : Transaction Unit :=
  match partitionId with
  | some id => Tx.update table.partitions .notFound id (fun p => { p with status })
  | none => return ()

/-- When the next attempt after a rate limit or a temporary error may start. -/
def retryAt (job : CreatorSyncJob) (error : TikTokApiError) (now : Int) : Int :=
  let marketplaceThrottle := error.searchCreators && error.kind = .RATE_LIMIT &&
    (error.httpStatus = some 429 || error.providerCode = some 36009002)
  let retryDelayMs := if marketplaceThrottle then job.marketplaceRetryDelaySeconds * 1000
    else CREATOR_MARKETPLACE_RETRY_MS
  let localRetryAt := now + max retryDelayMs (error.retryAfterMs.getD 0)
  match error.nextPermittedAt with
  | some permitted => if localRetryAt < permitted then permitted else localRetryAt
  | none => localRetryAt

def retryLater (job : CreatorSyncJob) (error : TikTokApiError) (partitionId : Option Nat)
    (now : Int) : Transaction Unit := do
  let pause := job.pauseRequested
  leaveJob (if pause then .PAUSED else .WAITING) (if pause then .PAUSED else .WAITING_RETRY)
    (if pause then none else some (retryAt job error now))
  updatePartition partitionId (if pause then .PAUSED else .WAITING_RETRY)

/-- The stage of an error that ends the job. -/
def errorStage (job : CreatorSyncJob) : Failure → Stage
  | .stage stage _ => stage
  | .tiktok _ => .TIKTOK_ERROR
  | _ => if job.currentStage = .STAGING_PAGE || job.currentStage = .SAVING_DATABASE then
      .DATABASE_ERROR
    else if job.currentStage = .SAVING_SHEET then .SHEET_ERROR
    else if job.currentStage = .COMMITTING_PAGE then .CURSOR_ERROR
    else .SYNC_ERROR

/-- The last resort of `handleError`. It does not write `pauseRequested`. -/
def failJob (stage : Stage) (partitionId : Option Nat) : Transaction Unit := do
  updateJob (fun job => { job with
    state := .ERROR
    currentStage := stage
    nextAttemptAt := none
    leaseId := none
    leaseExpiresAt := none })
  updatePartition partitionId .ERROR

/-! ## The operator -/

/-- The read of the job by the service. -/
def readJob : Transaction CreatorSyncJob := Tx.read (fun db => db.job)

/-- The transaction of `pause`, with the job as it was read before. -/
def pause (job : CreatorSyncJob) : Transaction Unit := do
  updateJob (fun current => if job.leaseId.isSome then
      { current with pauseRequested := true, currentStage := .PAUSING, nextAttemptAt := none }
    else { current with
      state := .PAUSED
      currentStage := .PAUSED
      pauseRequested := false
      nextAttemptAt := none })
  let _ ← Tx.updateMany table.pages (fun _ _ page => page.state = .RECEIVED)
    (fun page => { page with nextSheetsAttemptAt := none })
  match job.leaseId, job.currentPartitionId with
  | none, some id => do
    let _ ← Tx.updateMany table.partitions (fun _ k p => k = id &&
        [PartitionStatus.STARTING, .RUNNING, .WAITING_RETRY, .ERROR].contains p.status)
      (fun p => { p with status := .PAUSED })
  | _, _ => return ()

/-- The partitions that `resume` counts as work. -/
def eligiblePartition (p : CreatorSearchPartition) : Bool :=
  PRODUCTION_PARTITION_TYPES.contains p.partitionType &&
    (((isG1G2 p || p.gmvBucket = some .G3) && (p.status = .QUEUED || midway p.status)) ||
      (p.gmvBucket = some .G4 && p.status = .EXPERIMENT_ONLY) ||
      (p.gmvBucket = some .G4 && p.schedulerIsG4Probe && midway p.status))

def eligible (db : Db) : Nat := db.partitions.count (fun _ p => eligiblePartition p)

def countEligible : Transaction Nat := Tx.read eligible

/-- The current partition is given up when the job resumes. -/
def releaseDisabledPointer (pendingPage : Bool) (current : Option CreatorSearchPartition) : Bool :=
  !pendingPage && current.any (fun p => p.status = .DISABLED_BY_STRATEGY ||
    (p.gmvBucket = some .G4 && !p.schedulerIsG4Probe))

/-- What `resume` does with the current partition. -/
def resumePartition (job : CreatorSyncJob) (id : Nat) (release : Bool)
    (current : Option CreatorSearchPartition) : Transaction Unit :=
  if release then
    if current.any (fun p => p.gmvBucket = some .G4) then do
      let _ ← Tx.updateMany table.partitions (fun _ k p => k = id && midway p.status)
        (fun p => { p with status := .EXPERIMENT_ONLY })
    else return ()
  else do
    let _ ← Tx.updateMany table.partitions (fun _ k p => k = id && isSpecificGmvBucket p.gmvBucket &&
        (p.status = .PAUSED || p.status = .ERROR))
      (fun p => if job.currentStage = .TIKTOK_BUSINESS_RETRY_LIMIT then
        { p with status := .RUNNING, business16032001RetryCount := 0, business16032001RetryPage := none }
      else { p with status := .RUNNING })

/-- The transaction of `resume`, with the job and whether a page is staged as they were read. -/
def resume (job : CreatorSyncJob) (pendingPage : Bool) : Transaction Unit := do
  let current ← Tx.read (fun db => job.currentPartitionId.bind db.partitions.get)
  let release := releaseDisabledPointer pendingPage current
  match job.currentPartitionId with
  | some id => resumePartition job id release current
  | none => pure ()
  updateJob (fun current => { current with
    state := .RUNNING
    currentStage := if pendingPage then .RECONCILING_SHEET
      else if release then .CLAIMING_PARTITION
      else if job.currentPartitionId.isSome then .RUNNING else .CLAIMING_PARTITION
    currentPartitionId := if release then none else current.currentPartitionId
    pauseRequested := false
    nextAttemptAt := none })

def updateMarketplaceRetryDelay (seconds : Int) : Transaction Unit :=
  updateJob (fun job => { job with marketplaceRetryDelaySeconds := seconds })

/-! ## Categories -/

/-- A category of the provider, whose parent is `"0"` for a root. -/
structure TikTokShopCategory where
  id : String
  parentId : String
  deriving DecidableEq, Repr

/-- The catalog as the processor and `initializePartitions` read it. -/
def catalogOf (db : Db) : List CatalogNode :=
  db.categories.rows.map (fun row => ⟨row.1, row.2.parentCategoryId, row.2.enabledForCreatorCrawl,
    row.2.availableForCreatorFilter, row.2.sortOrder⟩)

def findCategories : Transaction (List CatalogNode) := Tx.read catalogOf

/-- The upsert of one category. -/
def upsertCategory (category : TikTokShopCategory × Nat) : Transaction Unit :=
  let root := category.1.parentId = "0"
  let parent := if root then none else some category.1.parentId
  Tx.upsert table.categories category.1.id
    (fun before => { before with
      parentCategoryId := parent
      sortOrder := category.2
      availableForCreatorFilter := true })
    { parentCategoryId := parent
      enabledForCreatorCrawl := root
      availableForCreatorFilter := true
      sortOrder := category.2 }

/-- The transaction of `refreshCategories`. -/
def refreshCategories (categories : List TikTokShopCategory) : Transaction Unit := do
  let _ ← Tx.updateMany table.categories (fun _ id _ => !(categories.map (·.id)).contains id)
    (fun category => { category with
      enabledForCreatorCrawl := false
      availableForCreatorFilter := false })
  let _ ← Tx.traverse upsertCategory categories.zipIdx

end tiktok_outreach.creator_sync
