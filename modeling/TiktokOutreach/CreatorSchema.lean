-- The rows of the creator crawler (packages/db/prisma/schema.prisma), with the
-- columns that the modelled operations read. The tables are those of one
-- `CreatorSyncJob`, so that its id and the id of its shop are left out.
import TiktokOutreach.Lib.Transactions

open tables transactions

namespace tiktok_outreach.creator_schema

/-! ## States -/

inductive SyncState
  | IDLE
  | RUNNING
  | PAUSED
  | WAITING
  | EXHAUSTED
  | ERROR
  deriving DecidableEq, Repr

inductive PageState
  | RECEIVED
  | COMMITTED
  deriving DecidableEq, Repr

inductive PartitionStatus
  | QUEUED
  | STARTING
  | RUNNING
  | WAITING_RETRY
  | SATURATED
  | SPLIT
  | COMPLETE
  | PAUSED
  | ERROR
  | SUPERSEDED
  | DEEPLY_SATURATED
  | DISABLED_BY_STRATEGY
  | EXPERIMENT_ONLY
  deriving DecidableEq, Repr

inductive PartitionType
  | LEGACY
  | V2_SEED
  | EXPERIMENT
  | ADAPTIVE_FOLLOWER
  | ADAPTIVE_GMV
  deriving DecidableEq, Repr

inductive ObservedSaturationState
  | UNKNOWN
  | OBSERVED_SATURATED
  | NOT_OBSERVED_SATURATED
  deriving DecidableEq, Repr

inductive BranchClassification
  | UNCLASSIFIED
  | STRONG
  | PRODUCTIVE
  | MARGINAL
  | LOW_VALUE
  | EFFECTIVELY_DEAD
  deriving DecidableEq, Repr

inductive GmvBucketCode
  | G1
  | G2
  | G3
  | G4
  deriving DecidableEq, Repr

/-- The values of `currentStage`. -/
inductive Stage
  | PAUSED
  | PAUSING
  | RUNNING
  | CLAIMING_PARTITION
  | STARTING_PARTITION
  | STARTING_MARKETPLACE_SEARCH
  | REQUESTING_TIKTOK
  | TIKTOK_SUCCESS
  | STAGING_PAGE
  | SAVING_DATABASE
  | SAVING_SHEET
  | RECONCILING_SHEET
  | COMMITTING_PAGE
  | PAGE_COMMITTED
  | PARTITION_COMPLETE
  | DEEPLY_SATURATED
  | ALL_PARTITIONS_COMPLETE
  | GMV_ALL_DISABLED_BY_STRATEGY
  | WAITING_SHEET_RETRY
  | SHEETS_BLOCKED_RETRYING
  | WAITING_BUSINESS_RETRY
  | TIKTOK_BUSINESS_RETRY_LIMIT
  | WAITING_RETRY
  | CURSOR_ERROR
  | PARTITION_CONFIG_ERROR
  | TIKTOK_ERROR
  | DATABASE_ERROR
  | SHEET_ERROR
  | SYNC_ERROR
  deriving DecidableEq, Repr

/-! ## Rows -/

structure CreatorSyncJob where
  state : SyncState := .PAUSED
  currentStage : Stage := .PAUSED
  pauseRequested : Bool := false
  nextAttemptAt : Option Int := none
  sheetImportedAt : Option Int := none
  leaseId : Option Nat := none
  leaseExpiresAt : Option Int := none
  currentPartitionId : Option Nat := none
  partitionClaimSequence : Nat := 0
  marketplaceRetryDelaySeconds : Int := 3
  deriving DecidableEq, Repr

structure CreatorSearchPartition where
  partitionKey : String
  partitionType : PartitionType
  adaptiveDepth : Nat := 0
  categoryId : Option String
  categoryChildId : Option String
  categoryChildIds : List String
  followersMin : Option Nat
  followersMax : Option Nat
  gmvBucket : Option GmvBucketCode
  gmvRange : Option String
  parentPartitionId : Option Nat := none
  status : PartitionStatus := .QUEUED
  queuePosition : Nat
  privateSearchKey : Option String := none
  privateNextPageToken : Option String := none
  pagesCompleted : Nat := 0
  rowsReturned : Nat := 0
  uniqueCreatorsAdded : Nat := 0
  duplicates : Nat := 0
  marketplaceRequests : Nat := 0
  originalYield : Option ℚ := none
  incrementalYield : Option ℚ := none
  combinedChildIncrementalYield : Option ℚ := none
  observedSaturationState : ObservedSaturationState := .UNKNOWN
  branchClassification : BranchClassification := .UNCLASSIFIED
  followerSplitExplored : Bool := false
  followerRecursionTerminal : Bool := false
  followerRecursionStopReason : Option String := none
  gmvSplitCreated : Bool := false
  schedulerClaimSequence : Option Nat := none
  schedulerFamilyKey : Option String := none
  schedulerG1G2FirstBucket : Option GmvBucketCode := none
  schedulerIsG4Probe : Bool := false
  business16032001RetryCount : Nat := 0
  business16032001RetryPage : Option Nat := none
  startedAt : Option Int := none
  lastSuccessAt : Option Int := none
  deriving DecidableEq, Repr

/-- A creator of a page, of which only the Open ID matters here. -/
structure CreatorCandidate where
  creatorOpenId : String
  deriving DecidableEq, Repr

structure CreatorSyncPage where
  creatorSearchPartitionId : Nat
  state : PageState := .RECEIVED
  pageNumber : Nat
  privateRequestToken : String
  privateNextToken : Option String
  privateSearchKey : String
  providerHasMore : Bool
  creatorsReturned : Nat
  newUniqueCreators : Nat
  duplicateRows : Nat
  newCreatorOpenIds : List String
  payload : List CreatorCandidate
  databasePersistedAt : Option Int := none
  sheetsAttemptCount : Nat := 0
  nextSheetsAttemptAt : Option Int := none
  deriving DecidableEq, Repr

/-- A row of `CreatorMarketplaceCategory`, whose key is its `categoryId`. -/
structure MarketplaceCategory where
  parentCategoryId : Option String
  enabledForCreatorCrawl : Bool
  availableForCreatorFilter : Bool
  sortOrder : Int
  creatorFirstSampledAt : Option Int := none
  creatorLastSampledAt : Option Int := none
  creatorLastExplorationClaimAt : Option Int := none
  deriving DecidableEq, Repr

/-- Where a creator was stored first, as the key of its first snapshot says. -/
inductive Origin
  | sheetImport
  | page (id : Nat)
  deriving DecidableEq, Repr

/-! ## The database -/

/-- The tables of a job. An insert takes its id from a counter. -/
structure Db where
  job : CreatorSyncJob
  partitions : Table Nat CreatorSearchPartition
  nextPartitionId : Nat
  pages : Table Nat CreatorSyncPage
  nextPageId : Nat
  /-- The stored creators, by their Open IDs. -/
  creators : Table String Origin
  categories : Table String MarketplaceCategory

/-- The job that `ensureJob` creates, in an empty database. -/
def Db.initial : Db := ⟨{}, .empty, 0, .empty, 0, .empty, .empty⟩

inductive RowId
  | job
  | partition (id : Nat)
  | page (id : Nat)
  | creator (openId : String)
  | category (categoryId : String)
  deriving DecidableEq, Repr

/-- The advisory locks of the crawler. -/
inductive LockKey
  | adaptiveExpansion
  | partitionCrawler
  | v2Initialization
  deriving DecidableEq, Repr

namespace table

@[simp] def partitions : TableOf Db RowId Nat CreatorSearchPartition :=
  ⟨Db.partitions, fun db t => { db with partitions := t }, .partition⟩
@[simp] def pages : TableOf Db RowId Nat CreatorSyncPage :=
  ⟨Db.pages, fun db t => { db with pages := t }, .page⟩
@[simp] def creators : TableOf Db RowId String Origin :=
  ⟨Db.creators, fun db t => { db with creators := t }, .creator⟩
@[simp] def categories : TableOf Db RowId String MarketplaceCategory :=
  ⟨Db.categories, fun db t => { db with categories := t }, .category⟩

end table

/-! ## Errors -/

inductive TikTokApiErrorKind
  | RATE_LIMIT
  | TEMPORARY
  | AUTH_EXPIRED
  | PERMISSION
  | INVALID_SHOP_CIPHER
  | MALFORMED_RESPONSE
  | PROVIDER
  deriving DecidableEq, Repr

structure TikTokApiError where
  kind : TikTokApiErrorKind
  /-- The operation is `SEARCH_CREATORS`. -/
  searchCreators : Bool
  providerCode : Option Int := none
  httpStatus : Option Int := none
  retryAfterMs : Option Int := none
  nextPermittedAt : Option Int := none
  deriving DecidableEq, Repr

/-- What a function of the crawler can throw. -/
inductive Failure
  | tiktok (error : TikTokApiError)
  /-- A `CreatorSyncStageError`, whose stage is `CURSOR_ERROR` or `PARTITION_CONFIG_ERROR`. -/
  | stage (stage : Stage) (message : String)
  /-- A `GoogleSheetsError`. -/
  | sheets (retryable : Bool)
  | badRequest (message : String)
  | notFound
  | other (message : String)
  deriving DecidableEq, Repr

abbrev Transaction (α : Type) := Tx Db LockKey RowId Failure α

/-- The update of the job under a condition. It gives the number of rows. -/
def updateJobWhere (p : CreatorSyncJob → Bool) (f : CreatorSyncJob → CreatorSyncJob) :
    Transaction Nat :=
  Tx.stmt (fun _ => [.job]) (fun v db => if p v.job then { db with job := f db.job } else db)
    (fun v => Tx.ret (if p v.job then 1 else 0))

/-- The update of the job by its id. -/
def updateJob (f : CreatorSyncJob → CreatorSyncJob) : Transaction Unit :=
  Tx.stmt (fun _ => [.job]) (fun _ db => { db with job := f db.job }) (fun _ => Tx.ret ())

/-- `findFirstOrThrow({ where: { id: jobId, leaseId } })` -/
def jobUnderLease (leaseId : Nat) : Transaction CreatorSyncJob :=
  Tx.readOrThrow .notFound (fun db => if db.job.leaseId = some leaseId then some db.job else none)

@[simp] theorem run_updateJobWhere (p : CreatorSyncJob → Bool)
    (f : CreatorSyncJob → CreatorSyncJob) (db : Db) :
    (updateJobWhere p f).run db = .ok (if p db.job then 1 else 0,
      if p db.job then { db with job := f db.job } else db) := rfl

@[simp] theorem run_updateJob (f : CreatorSyncJob → CreatorSyncJob) (db : Db) :
    (updateJob f).run db = .ok ((), { db with job := f db.job }) := rfl

@[simp] theorem run_jobUnderLease_eq_ok {leaseId : Nat} {db : Db} {r : CreatorSyncJob × Db} :
    (jobUnderLease leaseId).run db = .ok r ↔
      db.job.leaseId = some leaseId ∧ r = (db.job, db) := by
  unfold jobUnderLease
  rw [Tx.run_readOrThrow_eq_ok]
  by_cases h : db.job.leaseId = some leaseId
  · simp [h, Prod.ext_iff, eq_comm]
  · simp [h]

end tiktok_outreach.creator_schema
