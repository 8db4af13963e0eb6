-- The programs of the crawler: `processNext` with all that it calls
-- (apps/api/src/creator-database/creator-sync.processor.ts), and the operator's
-- actions (apps/api/src/creator-database/creator-database.service.ts).
import TiktokOutreach.CreatorCommands

open executions tiktok_outreach.creator_schema tiktok_outreach.marketplace_partitions
  tiktok_outreach.partition_claims tiktok_outreach.creator_sync tiktok_outreach.creator_commands

namespace tiktok_outreach.creator_worker

/-- A text that a condition takes as false: none, or the empty one. -/
def falsy (s : Option String) : Bool := s.getD "" = ""

/-! ## A page -/

/-- The loop of `persistCreators` over its batches of twenty. -/
def persistBatches (origin : Origin) : List (List CreatorCandidate) → Program Unit
  | [] => return ()
  | batch :: batches => do
    query (.persistBatch origin batch)
    persistBatches origin batches

/-- The batches of a list. -/
def batches (creators : List CreatorCandidate) : List (List CreatorCandidate) := creators.toChunks 20

def persistCreators (origin : Origin) (creators : List CreatorCandidate) : Program Unit :=
  persistBatches origin (batches creators)

def commitPage (leaseId pageId : Nat) : Program Unit := do
  let page ← query (.receivedPage pageId)
  let _ ← query (.jobUnderLease leaseId)
  let partition ← query (.findPartition page.creatorSearchPartitionId)
  if page.databasePersistedAt.isNone then do
    query (.recordActivity leaseId .SAVING_DATABASE)
    persistCreators (.page pageId) page.payload
    query (.markPersisted pageId)
  else pure ()
  let sheetAttempt := page.sheetsAttemptCount + 1
  query (.recordSheetAttempt leaseId pageId sheetAttempt
    (if sheetAttempt = 1 then .SAVING_SHEET else .RECONCILING_SHEET))
  Js.call (Call.reconcilePage page.payload)
  query (.recordActivity leaseId .COMMITTING_PAGE)
  query (.commitPage leaseId pageId page partition)

/-! ## A claim -/

/-- `claimPartition`: the current partition outside of the transaction, else the transaction. -/
def claimPartition (leaseId : Nat) : Program (Option Row) := do
  let job ← query (.jobUnderLease leaseId)
  match job.currentPartitionId with
  | none => do
    let claim ← query (.claimPartition leaseId)
    return claim.map Claim.row
  | some id => do
    let current ← query (.findPartition id)
    if resumes current then return some (id, current)
    else do
      let claim ← query (.claimPartition leaseId)
      return claim.map Claim.row

/-- What is checked of a claimed partition before its request. -/
def validatePartition (partition : CreatorSearchPartition) (catalog : List CatalogNode) :
    Except String Unit :=
  if !isSpecificGmvPartition partition.gmvBucket partition.gmvRange then
    .error "Future Marketplace partitions must specify one documented GMV bucket"
  else if PRODUCTION_PARTITION_TYPES.contains partition.partitionType then
    match validateV2CategorySelection (partition.categoryId.getD "") partition.categoryChildIds
      catalog with
    | .error message => .error message
    | .ok () =>
      if partition.categoryChildIds.head? ≠ partition.categoryChildId then
        .error "V2 Marketplace partition child identity does not match its one-child request snapshot"
      else .ok ()
  else validateMarketplaceCategorySelection (partition.categoryId.getD "")
    partition.categoryChildIds catalog

/-- The filters of the request of a claimed partition, or the error of its configuration. -/
def requestFilters (partition : CreatorSearchPartition) (catalog : List CatalogNode) :
    Except Failure CreatorFilters :=
  if partition.gmvBucket = some .G4 && !partition.schedulerIsG4Probe then
    .error (.stage .PARTITION_CONFIG_ERROR
      "Very High Marketplace work requires a persisted rare-probe scheduler claim")
  else match validatePartition partition catalog with
    | .error message => .error (.stage .PARTITION_CONFIG_ERROR message)
    | .ok () => match partitionFilters partition with
      | .error message => .error (.other message)
      | .ok filters => .ok filters

/-! ## A response -/

/-- The search key of a response, or the error of its cursor. -/
def checkResponse (partition : CreatorSearchPartition) (page : CreatorPage) :
    Except Failure String :=
  if page.hasMore && falsy page.nextPageToken then
    .error (.stage .CURSOR_ERROR "TikTok response had has_more without a next page token")
  else if !falsy partition.privateNextPageToken &&
      page.nextPageToken = partition.privateNextPageToken then
    .error (.stage .CURSOR_ERROR "TikTok repeated the current page token")
  else
    let searchKey := if falsy partition.privateSearchKey then page.searchKey
      else partition.privateSearchKey
    if falsy searchKey then .error (.stage .CURSOR_ERROR "TikTok omitted the search key")
    else .ok (searchKey.getD "")

/-- `[...new Set(page.creators.map((creator) => creator.creatorOpenId))]` -/
def uniqueOpenIds (page : CreatorPage) : List String :=
  (page.creators.map (·.creatorOpenId)).reverse.dedup.reverse

/-- The receipt of a response, where `existing` are the Open IDs that were stored. -/
def receipt (row : Row) (page : CreatorPage) (searchKey : String) (existing : List String) :
    CreatorSyncPage :=
  let newCreatorOpenIds := (uniqueOpenIds page).filter (fun id => !existing.contains id)
  { creatorSearchPartitionId := row.1
    pageNumber := row.2.pagesCompleted + 1
    privateRequestToken := receiptRequestKey row.1 (row.2.privateNextPageToken.getD "FIRST")
    privateNextToken := page.nextPageToken
    privateSearchKey := searchKey
    providerHasMore := page.hasMore
    creatorsReturned := page.creators.length
    newUniqueCreators := newCreatorOpenIds.length
    duplicateRows := page.creators.length - newCreatorOpenIds.length
    newCreatorOpenIds
    payload := page.creators }

/-- `value ? { token: value } : {}` -/
def givenToken (value : Option String) : Option String := if falsy value then none else value

def ofExcept {α : Type} : Except Failure α → Program α
  | .ok a => pure a
  | .error e => Js.throw e

/-- The request of a page and the staging of its response. -/
def requestPage (leaseId : Nat) (row : Row) (filters : CreatorFilters) : Program Unit := do
  let status : PartitionStatus := if row.2.pagesCompleted ≠ 0 then .RUNNING else .STARTING
  query (.recordActivity leaseId
    (if row.2.pagesCompleted ≠ 0 then .REQUESTING_TIKTOK else .STARTING_MARKETPLACE_SEARCH))
  let _ ← query (.markRequested row.1 status)
  Js.call Call.discoveryAdapter
  query (.countRequest row.1)
  Js.call (Call.searchCreators filters (givenToken row.2.privateNextPageToken)
    (givenToken row.2.privateSearchKey))
  let page ← Js.call Call.awaitSearch
  let _ ← query (.resetBusinessRetries row.1)
  query (.recordActivity leaseId .TIKTOK_SUCCESS)
  let searchKey ← ofExcept (checkResponse row.2 page)
  query (.recordActivity leaseId .STAGING_PAGE)
  let existing ← query (.existingOpenIds (uniqueOpenIds page))
  let staged ← query (.stagePage (receipt row page searchKey existing) row.2.categoryChildId)
  commitPage leaseId staged

/-! ## An attempt -/

/-- The import of the sheet into the database, once. -/
def importSheet (leaseId : Nat) : Program Unit := do
  let existing ← Js.call Call.readCreators
  persistCreators .sheetImport existing
  let _ ← query (.recordSheetImport leaseId)

/-- From the claim of a partition on. -/
def processPartition (leaseId : Nat) : Program Unit := do
  let claimed ← claimPartition leaseId
  match claimed with
  | none => return ()
  | some row => do
    let job ← query (.jobUnderLease leaseId)
    if job.pauseRequested then query (.pauseClaimed leaseId (some row.1))
    else do
      let catalog ← query .findCategories
      let filters ← ofExcept (requestFilters row.2 catalog)
      requestPage leaseId row filters

def processClaimed (leaseId : Nat) : Program Unit := do
  let job ← query (.jobUnderLease leaseId)
  let pending ← query .pendingPage
  match pending with
  | some pageId => commitPage leaseId pageId
  | none => do
    let job ← if job.sheetImportedAt.isNone then do
        importSheet leaseId
        query (.jobUnderLease leaseId)
      else pure job
    if job.pauseRequested then query (.pauseClaimed leaseId none)
    else processPartition leaseId

/-! ## Errors -/

/-- `handleSheetsFailure`, which says whether there was a page to wait for. -/
def handleSheetsFailure (job : CreatorSyncJob) (partition : Option Row) (error : Failure) :
    Program Bool := do
  let staged ← query .stagedPage
  match staged with
  | none => return false
  | some (pageId, page, pagePartition) => do
    let target := partition.getD (page.creatorSearchPartitionId, pagePartition)
    query (.sheetsFailure pageId page target.1 target.2 job.pauseRequested
      (googleSheetsFailure error))
    return true

def sheetStage (stage : Stage) : Bool :=
  stage = .SAVING_SHEET || stage = .RECONCILING_SHEET || stage = .WAITING_SHEET_RETRY ||
    stage = .SHEETS_BLOCKED_RETRYING

/-- `handleError` for the errors of TikTok and all others. -/
def handleFailure (job : CreatorSyncJob) (partition : Option Row) (error : Failure) :
    Program Unit :=
  match error, partition with
  | .tiktok e, some row =>
    if e.searchCreators && e.providerCode = some 16032001 then
      query (.businessRetry job.pauseRequested row.1 row.2)
    else if e.kind = .RATE_LIMIT || e.kind = .TEMPORARY then
      query (.retryLater job e (some row.1))
    else query (.failJob (errorStage job error) (some row.1))
  | .tiktok e, none =>
    if e.kind = .RATE_LIMIT || e.kind = .TEMPORARY then query (.retryLater job e none)
    else query (.failJob (errorStage job error) none)
  | _, _ => query (.failJob (errorStage job error) (partition.map Prod.fst))

/-- The partition of a job, when it is there. -/
def currentRow (job : CreatorSyncJob) : Program (Option Row) :=
  match job.currentPartitionId with
  | none => return none
  | some id => do
    let current ← query (.findCurrent id)
    return current.map (fun p => (id, p))

def handleError (leaseId : Nat) (error : Failure) : Program Unit := do
  let found ← query (.findJob leaseId)
  match found with
  | none => return ()
  | some job => do
    let partition ← currentRow job
    let staged : Bool ← query .anyStaged
    if staged && sheetStage job.currentStage then do
      let handled ← handleSheetsFailure job partition error
      if handled then return () else handleFailure job partition error
    else handleFailure job partition error

/-! ## `processNext` -/

def processNext : Program Bool := do
  let candidate ← query .findCandidate
  if !candidate then return false
  else do
    let leaseId ← Js.call Call.newLease
    let claimed : Nat ← query (.claimLease leaseId)
    if claimed ≠ 1 then return true
    else do
      Js.tryCatch (processClaimed leaseId) (handleError leaseId)
      return true

/-! ## The operator -/

def pause : Program Unit := do
  let job ← query .readJob
  query (.pause job)

def resume : Program Unit := do
  let job ← query .readJob
  let pendingPage ← query .pendingPage
  let eligible : Nat ← query .countEligible
  if eligible = 0 && pendingPage.isNone then
    Js.throw (.badRequest
      "No structured Marketplace partitions are queued; refresh category metadata first")
  else query (.resume job pendingPage.isSome)

def initializePartitions : Program Unit := do
  let job ← query .readJob
  if job.state ≠ .PAUSED && job.state ≠ .EXHAUSTED then
    Js.throw (.badRequest "Pause the Creator Database crawler before initializing V2")
  else do
    let staged : Bool ← query .anyStaged
    if staged then Js.throw (.badRequest "A staged Marketplace page is awaiting Google Sheets reconciliation; Continue it before reinitializing partitions")
    else do
      let catalog ← query .findCategories
      if v2BasePartitionRows catalog = [] then
        Js.throw (.badRequest "No valid immediate Marketplace child categories are available for specific-GMV discovery")
      else do
        let _ ← query (.initializePartitions catalog)

/-- The ancestors of a category, nearest first, as far as the list is long. -/
def ancestors (categories : List TikTokShopCategory) : Nat → String → List String
  | 0, _ => []
  | fuel + 1, id => if id = "0" then []
    else id :: match (categories.find? (fun c => c.id = id)).map (·.parentId) with
      | some parent => ancestors categories fuel parent
      | none => []

/-- The checks of `refreshCategories` on what the provider gave. -/
def validateCategories (categories : List TikTokShopCategory) : Except Failure Unit :=
  if categories = [] then
    .error (.badRequest "TikTok returned no Marketplace-compatible categories")
  else if ¬ (categories.map (·.id)).Nodup then
    .error (.badRequest "TikTok returned duplicate category IDs")
  else if categories.any (fun c => c.parentId ≠ "0" && !(categories.map (·.id)).contains c.parentId)
  then .error (.badRequest "TikTok returned an incomplete category hierarchy")
  else if categories.any (fun c => !(ancestors categories (categories.length + 1) c.id).Nodup) then
    .error (.badRequest "TikTok returned a cyclic category hierarchy")
  else .ok ()

def refreshCategories : Program Unit := do
  let job ← query .readJob
  if job.state ≠ .PAUSED then
    Js.throw (.badRequest "Pause the Creator Database crawler before refreshing category metadata")
  else do
    let categories ← Js.call Call.getCategories
    ofExcept (validateCategories categories)
    query (.refreshCategories categories)
    initializePartitions

def updateMarketplaceRetryDelay (seconds : Int) : Program Unit := do
  if seconds < 1 then
    Js.throw (.badRequest "Marketplace retry delay must be an integer of at least 1 second")
  else query (.updateMarketplaceRetryDelay seconds)

def prepareAdaptiveQueue : Program Unit := query .prepareAdaptiveQueue

end tiktok_outreach.creator_worker
