-- The calls that the programs of the crawler make: the transactions, and the
-- calls of the Marketplace, of the sheet and of the random generator.
import TiktokOutreach.CreatorSync
import TiktokOutreach.Lib.Executions

open transactions executions tiktok_outreach.creator_schema
  tiktok_outreach.marketplace_partitions tiktok_outreach.creator_scheduler
  tiktok_outreach.adaptive_queue tiktok_outreach.partition_claims tiktok_outreach.creator_sync

namespace tiktok_outreach.creator_commands

/-- A transaction or a single statement, under the name of its function. -/
inductive Command
  | findCandidate
  | claimLease (leaseId : Nat)
  | jobUnderLease (leaseId : Nat)
  | pendingPage
  | recordSheetImport (leaseId : Nat)
  | pauseClaimed (leaseId : Nat) (partitionId : Option Nat)
  | findPartition (id : Nat)
  | claimPartition (leaseId : Nat)
  | findCategories
  | recordActivity (leaseId : Nat) (stage : Stage)
  | markRequested (id : Nat) (status : PartitionStatus)
  | countRequest (id : Nat)
  | resetBusinessRetries (id : Nat)
  | existingOpenIds (ids : List String)
  | stagePage (page : CreatorSyncPage) (categoryChildId : Option String)
  | persistBatch (origin : Origin) (batch : List CreatorCandidate)
  | receivedPage (id : Nat)
  | markPersisted (id : Nat)
  | recordSheetAttempt (leaseId id attempt : Nat) (stage : Stage)
  | commitPage (leaseId pageId : Nat) (page : CreatorSyncPage) (partition : CreatorSearchPartition)
  | findJob (leaseId : Nat)
  | findCurrent (id : Nat)
  | anyStaged
  | stagedPage
  | sheetsFailure (pageId : Nat) (page : CreatorSyncPage) (targetId : Nat)
      (target : CreatorSearchPartition) (paused retryable : Bool)
  | businessRetry (pauseRequested : Bool) (partitionId : Nat) (partition : CreatorSearchPartition)
  | retryLater (job : CreatorSyncJob) (error : TikTokApiError) (partitionId : Option Nat)
  | failJob (stage : Stage) (partitionId : Option Nat)
  | readJob
  | pause (job : CreatorSyncJob)
  | countEligible
  | resume (job : CreatorSyncJob) (staged : Bool)
  | updateMarketplaceRetryDelay (seconds : Int)
  | refreshCategories (categories : List TikTokShopCategory)
  | initializePartitions (catalog : List CatalogNode)
  | prepareAdaptiveQueue
  deriving DecidableEq

/-- What a command returns. -/
def Command.Result : Command → Type
  | findCandidate => Bool
  | claimLease _ => Nat
  | jobUnderLease _ => CreatorSyncJob
  | pendingPage => Option Nat
  | recordSheetImport _ => Nat
  | findPartition _ => CreatorSearchPartition
  | claimPartition _ => Option Claim
  | findCategories => List CatalogNode
  | markRequested _ _ => Nat
  | resetBusinessRetries _ => Nat
  | existingOpenIds _ => List String
  | stagePage _ _ => Nat
  | receivedPage _ => CreatorSyncPage
  | findJob _ => Option CreatorSyncJob
  | findCurrent _ => Option CreatorSearchPartition
  | anyStaged => Bool
  | stagedPage => Option (Nat × CreatorSyncPage × CreatorSearchPartition)
  | readJob => CreatorSyncJob
  | countEligible => Nat
  | initializePartitions _ => Nat
  | _ => Unit

/-- What a transaction takes from outside while it runs. -/
structure Ambient where
  now : Int
  random : ℚ

/-- How long a lease lasts. -/
def LEASE_MS : Int := 2 * 60000

/-- The transaction of a command. -/
def Command.body (env : Environment) (config : Config) (ambient : Ambient) :
    (c : Command) → Transaction c.Result
  | findCandidate => creator_sync.findCandidate ambient.now
  | claimLease leaseId => creator_sync.claimLease leaseId ambient.now LEASE_MS
  | jobUnderLease leaseId => creator_schema.jobUnderLease leaseId
  | pendingPage => creator_sync.pendingPage
  | recordSheetImport leaseId => creator_sync.recordSheetImport leaseId ambient.now
  | pauseClaimed leaseId partitionId => creator_sync.pauseClaimed leaseId partitionId
  | findPartition id => creator_sync.findPartition id
  | claimPartition leaseId => partition_claims.claimPartition env config leaseId ambient.now
  | findCategories => creator_sync.findCategories
  | recordActivity leaseId stage => creator_sync.recordActivity leaseId stage
  | markRequested id status => creator_sync.markRequested id status
  | countRequest id => creator_sync.countRequest id
  | resetBusinessRetries id => creator_sync.resetBusinessRetries id
  | existingOpenIds ids => creator_sync.existingOpenIds ids
  | stagePage page categoryChildId => creator_sync.stagePage page categoryChildId ambient.now
  | persistBatch origin batch => creator_sync.persistBatch origin batch
  | receivedPage id => creator_sync.receivedPage id
  | markPersisted id => creator_sync.markPersisted id ambient.now
  | recordSheetAttempt leaseId id attempt stage =>
    creator_sync.recordSheetAttempt leaseId id attempt stage
  | commitPage leaseId pageId page partition =>
    creator_sync.commitPage config leaseId pageId page partition ambient.now
  | findJob leaseId => creator_sync.findJob leaseId
  | findCurrent id => creator_sync.findCurrent id
  | anyStaged => creator_sync.anyStaged
  | stagedPage => creator_sync.stagedPage
  | sheetsFailure pageId page targetId target paused retryable =>
    creator_sync.sheetsFailure pageId page targetId target paused retryable ambient.random
      ambient.now
  | businessRetry pauseRequested partitionId partition =>
    creator_sync.businessRetry pauseRequested partitionId partition ambient.now
  | retryLater job error partitionId =>
    creator_sync.retryLater job error partitionId ambient.now
  | failJob stage partitionId => creator_sync.failJob stage partitionId
  | readJob => creator_sync.readJob
  | pause job => creator_sync.pause job
  | countEligible => creator_sync.countEligible
  | resume job staged => creator_sync.resume job staged
  | updateMarketplaceRetryDelay seconds => creator_sync.updateMarketplaceRetryDelay seconds
  | refreshCategories categories => creator_sync.refreshCategories categories
  | initializePartitions catalog => adaptive_queue.initializePartitions env catalog
  | prepareAdaptiveQueue => adaptive_queue.prepareAdaptiveQueue config

/-! ## All calls -/

/-- A page of the Marketplace. -/
structure CreatorPage where
  creators : List CreatorCandidate
  hasMore : Bool
  nextPageToken : Option String
  searchKey : Option String
  deriving DecidableEq, Repr

inductive Call
  | db (c : Command)
  /-- `randomBytes(18)` for a lease, which gives no value twice. -/
  | newLease
  | readCreators
  | discoveryAdapter
  /-- The call of `adapter.searchCreators`, up to its `await`. -/
  | searchCreators (filters : CreatorFilters) (pageToken searchKey : Option String)
  /-- The `await` of `adapter.searchCreators`. -/
  | awaitSearch
  | reconcilePage (creators : List CreatorCandidate)
  | getCategories
  deriving DecidableEq

def Call.Result : Call → Type
  | db c => c.Result
  | newLease => Nat
  | readCreators => List CreatorCandidate
  | awaitSearch => CreatorPage
  | getCategories => List TikTokShopCategory
  | _ => Unit

/-- The answer of a call: a result, or what it throws. -/
abbrev Call.Answer (c : Call) : Type := Except Failure c.Result

/-- A program of the crawler. -/
abbrev Program (α : Type) : Type := Js Call Call.Result Failure Unit α

def query (c : Command) : Program c.Result := Js.call (Call.db c)

end tiktok_outreach.creator_commands
