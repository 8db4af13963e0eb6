-- How partitions come into the queue: the seeds of `initializePartitions`
-- (apps/api/src/creator-database/creator-database.service.ts) and the follower
-- splits of `expandReadyBranches`
-- (apps/api/src/creator-database/creator-sync.processor.ts).
import TiktokOutreach.CreatorScheduler

open tables transactions tiktok_outreach.creator_schema tiktok_outreach.marketplace_partitions
  tiktok_outreach.creator_scheduler

namespace tiktok_outreach.adaptive_queue

/-- The configuration of the crawler, within the bounds of packages/config/src/index.ts. -/
structure Config where
  followerWidthRules : FollowerWidthRules
  deepSplitMinIncrementalYield : ℚ
  lowValueCombinedYield : ℚ
  observedSaturationMinRows : Nat
  observedSaturationMaxRows : Nat
  g4ProbeCadence : Nat
  schedulerPrimaryCycle : Nat
  marketplaceSuccessSpacingMs : Int
  admitted : 100 ≤ g4ProbeCadence ∧ 10 ≤ schedulerPrimaryCycle

/-- The defaults of packages/config/src/index.ts. -/
def Config.defaults : Config where
  followerWidthRules := ⟨50, 100, 1000, 10000, 100000, by decide⟩
  deepSplitMinIncrementalYield := 10 / 100
  lowValueCombinedYield := 5 / 100
  observedSaturationMinRows := 380
  observedSaturationMaxRows := 405
  g4ProbeCadence := 100
  schedulerPrimaryCycle := 10
  marketplaceSuccessSpacingMs := 1000
  admitted := by decide

/-! ## Inserts -/

/-- The insert of a partition, which is skipped when its key is taken. -/
def insertPartition (db : Db) (p : CreatorSearchPartition) : Db :=
  if db.partitions.any (fun _ q => q.partitionKey = p.partitionKey) then db
  else { db with
    partitions := db.partitions.set db.nextPartitionId p
    nextPartitionId := db.nextPartitionId + 1 }

def insertPartitions (db : Db) (ps : List CreatorSearchPartition) : Db := ps.foldl insertPartition db

/-- `createMany({ skipDuplicates: true })`. It gives the number of new rows. -/
def createMany (ps : List CreatorSearchPartition) : Transaction Nat :=
  Tx.stmt (fun _ => []) (fun _ db => insertPartitions db ps)
    (fun v => Tx.ret ((insertPartitions v ps).nextPartitionId - v.nextPartitionId))

/-! ## Follower splits -/

def numericYield (partition : CreatorSearchPartition) : Option ℚ :=
  partition.incrementalYield.or partition.originalYield

def specificGmvCombinationKeyOf (p : CreatorSearchPartition) : Option String :=
  specificGmvCombinationKey p.categoryId p.categoryChildId p.followersMin p.followersMax p.gmvBucket

/-- The child of a split for one of its bounds: `index` is the index of the bound. -/
def followerChild (parentId : Nat) (parent : CreatorSearchPartition) (bound : Bounds)
    (index : Nat) : CreatorSearchPartition where
  partitionKey := adaptiveFollowerPartitionKey parent.partitionKey bound.min bound.max
  partitionType := .ADAPTIVE_FOLLOWER
  adaptiveDepth := parent.adaptiveDepth + 1
  categoryId := parent.categoryId
  categoryChildId := parent.categoryChildId
  categoryChildIds := parent.categoryChildIds
  followersMin := some bound.min
  followersMax := some bound.max
  parentPartitionId := some parentId
  queuePosition := parent.queuePosition * 100 + (index + 1)
  gmvBucket := parent.gmvBucket
  gmvRange := parent.gmvRange
  status := if parent.gmvBucket = some .G4 then .EXPERIMENT_ONLY else .QUEUED

/-- Both children of a split, in order. -/
def followerChildren (parentId : Nat) (parent : CreatorSearchPartition)
    (bounds : Bounds × Bounds) : List CreatorSearchPartition :=
  [followerChild parentId parent bounds.1 0, followerChild parentId parent bounds.2 1]

/-- The rows that `createFollowerChildren` takes for halves that exist. -/
def existingHalves (db : Db) (parent : CreatorSearchPartition) (bounds : Bounds × Bounds) :
    List CreatorSearchPartition :=
  (db.partitions.findMany (fun _ p =>
    p.categoryId = parent.categoryId && p.categoryChildId = parent.categoryChildId &&
    p.gmvBucket = parent.gmvBucket &&
    (p.followersMin = some bounds.1.min || p.followersMin = some bounds.2.min) &&
    (p.followersMax = some bounds.1.max || p.followersMax = some bounds.2.max))).map Prod.snd

def createFollowerChildren (parentId : Nat) (parent : CreatorSearchPartition)
    (bounds : Bounds × Bounds) : Transaction Nat :=
  if !isSpecificGmvPartition parent.gmvBucket parent.gmvRange then
    Tx.throw (.other "Follower recursion requires a specific documented GMV branch")
  else do
    let existing ← Tx.read (fun db => existingHalves db parent bounds)
    let missing := (followerChildren parentId parent bounds).filter (fun child =>
      !(existing.map specificGmvCombinationKeyOf).contains (specificGmvCombinationKeyOf child))
    let created ← createMany missing
    Tx.update table.partitions .notFound parentId (fun p => { p with followerSplitExplored := true })
    return created

def expansionFor (config : Config) (partition : CreatorSearchPartition) : AdaptiveExpansion :=
  match partition.followersMin with
  | none => .NONE "NOT_PRODUCTION_FOLLOWER_BRANCH"
  | some followersMin =>
    if !PRODUCTION_PARTITION_TYPES.contains partition.partitionType then
      .NONE "NOT_PRODUCTION_FOLLOWER_BRANCH"
    else adaptiveExpansion
      { partitionType := partition.partitionType
        observedSaturationState := partition.observedSaturationState
        followersMin
        followersMax := partition.followersMax
        yield := numericYield partition
        rowsReturned := partition.rowsReturned
        successfulPages := partition.pagesCompleted
        uniqueCreatorsAdded := partition.uniqueCreatorsAdded
        followerSplitExplored := partition.followerSplitExplored
        followerRecursionTerminal := partition.followerRecursionTerminal
        gmvSplitCreated := partition.gmvSplitCreated
        gmvBucket := partition.gmvBucket
        gmvRange := partition.gmvRange }
      config.followerWidthRules config.deepSplitMinIncrementalYield

/-- What both loops do with a partition. -/
def expandBranch (config : Config) (row : Nat × CreatorSearchPartition) : Transaction Unit :=
  match expansionFor config row.2 with
  | .FOLLOWER bounds _ => do
    let _ ← createFollowerChildren row.1 row.2 bounds
  | .NONE reason => Tx.update table.partitions .notFound row.1 (fun p => { p with
      followerRecursionTerminal := true
      followerRecursionStopReason := some reason })

/-- The columns that say that nothing was decided about a branch yet. -/
def undecided (p : CreatorSearchPartition) : Bool :=
  !p.followerSplitExplored && !p.followerRecursionTerminal && !p.gmvSplitCreated

def completedSeeds (db : Db) : List (Nat × CreatorSearchPartition) :=
  db.partitions.findMany (fun _ p => p.partitionType = .V2_SEED && isSpecificGmvBucket p.gmvBucket &&
    (p.status = .COMPLETE || p.status = .SPLIT) && undecided p)

/-- `["COMPLETE", "SPLIT", "DEEPLY_SATURATED"].includes(status)` -/
def finished (status : PartitionStatus) : Bool :=
  status = .COMPLETE || status = .SPLIT || status = .DEEPLY_SATURATED

def completedFollowerParents (db : Db) : List Nat :=
  ((db.partitions.findMany (fun _ p => p.partitionType = .ADAPTIVE_FOLLOWER &&
    isSpecificGmvBucket p.gmvBucket && finished p.status && undecided p)).filterMap
      (fun row => row.2.parentPartitionId)).dedup

/-- `a` comes before `b`, or with it: `orderBy: [{ followersMin: "asc" }, { id: "asc" }]`. -/
def siblingOrder (a b : Nat × CreatorSearchPartition) : Bool :=
  decide (a.2.followersMin.getD 0 < b.2.followersMin.getD 0) ||
    (decide (a.2.followersMin.getD 0 = b.2.followersMin.getD 0) && decide (a.1 ≤ b.1))

def siblingsOf (db : Db) (parentId : Nat) : List (Nat × CreatorSearchPartition) :=
  (db.partitions.findMany (fun _ p => p.parentPartitionId = some parentId &&
    p.partitionType = .ADAPTIVE_FOLLOWER)).insertionSort (fun a b => siblingOrder a b = true)

def lowValue (config : Config) (siblings : List CreatorSearchPartition) : Bool :=
  siblings.all (fun sibling => decide (DEFAULT_BRANCH_EVIDENCE_MIN_ROWS ≤ sibling.rowsReturned)) &&
    siblings.all (fun sibling => decide (0 < sibling.rowsReturned) &&
      decide (rate sibling.uniqueCreatorsAdded sibling.rowsReturned < config.lowValueCombinedYield)) &&
    decide (combinedIncrementalYield siblings < config.lowValueCombinedYield)

/-- A rate as a column of type `Decimal(10, 8)` stores it. -/
def decimal8 (value : ℚ) : ℚ := ((value * 100000000 + 1 / 2).floor : ℚ) / 100000000

/-- What `expandReadyBranches` does with the children of one parent. -/
def expandSiblings (config : Config) (parentId : Nat) : Transaction Unit := do
  let siblings ← Tx.read (fun db => siblingsOf db parentId)
  if siblings.length ≠ 2 || siblings.any (fun sibling => !finished sibling.2.status) then
    return ()
  else
    let combined := combinedIncrementalYield (siblings.map Prod.snd)
    let low := lowValue config (siblings.map Prod.snd)
    Tx.update table.partitions .notFound parentId (fun p => { p with
      combinedChildIncrementalYield := some (decimal8 combined)
      branchClassification := classifyIncrementalYield (some combined)
      followerRecursionTerminal := low })
    if low then
      let _ ← Tx.updateMany table.partitions (fun _ id _ => (siblings.map Prod.fst).contains id)
        (fun p => { p with
          followerRecursionTerminal := true
          followerRecursionStopReason := some "BOTH_CHILDREN_BELOW_FIVE_PERCENT" })
    else
      let _ ← Tx.traverse (expandBranch config) siblings

def expandReadyBranches (config : Config) : Transaction Unit := do
  let seeds ← Tx.read completedSeeds
  let _ ← Tx.traverse (expandBranch config) seeds
  let parentIds ← Tx.read completedFollowerParents
  let _ ← Tx.traverse (expandSiblings config) parentIds

def prepareAdaptiveQueue (config : Config) : Transaction Unit :=
  Tx.lock .adaptiveExpansion (expandReadyBranches config)

/-! ## Seeds -/

/-- The row of a seed. -/
def seedPartition (env : Environment) (rootByKey : String → Option Nat) (row : BasePartitionRow) :
    CreatorSearchPartition :=
  let familyKey := if row.gmvBucket = .G1 || row.gmvBucket = .G2 then
      g1G2FamilyKey (some row.parentCategoryId) (some row.childCategoryId) (some row.followersMin)
        row.followersMax
    else none
  { partitionKey := row.partitionKey
    partitionType := .V2_SEED
    categoryId := some row.parentCategoryId
    categoryChildId := some row.childCategoryId
    categoryChildIds := [row.childCategoryId]
    followersMin := some row.followersMin
    followersMax := row.followersMax
    gmvBucket := some row.gmvBucket
    gmvRange := some row.gmvRange
    parentPartitionId := rootByKey (partitionKeyV2 row.parentCategoryId row.childCategoryId
      row.followersMin row.followersMax none)
    status := if row.gmvBucket = .G4 then .EXPERIMENT_ONLY else .QUEUED
    queuePosition := row.queuePosition
    schedulerFamilyKey := familyKey
    schedulerG1G2FirstBucket := familyKey.map (designatedFirstG1G2Bucket env) }

/-- The historical roots by their keys, of which the last one counts. -/
def rootByKey (db : Db) (key : String) : Option Nat :=
  ((db.partitions.findMany (fun _ p => p.partitionType = .V2_SEED && p.gmvBucket.isNone)).reverse.find?
    (fun row => row.2.partitionKey = key)).map Prod.fst

def existingCombinations (db : Db) : List (Option String) :=
  (db.partitions.findMany (fun _ p => isSpecificGmvBucket p.gmvBucket)).map
    (fun row => specificGmvCombinationKeyOf row.2)

/-- The key of the combination of a row. -/
def combinationKeyOf (row : BasePartitionRow) : Option String :=
  specificGmvCombinationKey (some row.parentCategoryId) (some row.childCategoryId)
    (some row.followersMin) row.followersMax (some row.gmvBucket)

def ensureSpecificGmvPartitions (env : Environment) (catalog : List CatalogNode) :
    Transaction Nat := do
  let rows := v2BasePartitionRows catalog
  let roots ← Tx.read rootByKey
  let existingKeys ← Tx.read existingCombinations
  let missing := rows.filter (fun row => !existingKeys.contains (combinationKeyOf row))
  let _ ← createMany (missing.map (seedPartition env roots))
  return rows.length

/-- The statuses of historical partitions that the strategy disables. -/
def disabledByStrategy (p : CreatorSearchPartition) : Bool :=
  PRODUCTION_PARTITION_TYPES.contains p.partitionType && p.gmvBucket.isNone &&
    [PartitionStatus.QUEUED, .STARTING, .RUNNING, .WAITING_RETRY, .SATURATED, .PAUSED,
      .ERROR].contains p.status

/-- The transaction of `initializePartitions`, with the catalog that it read before. -/
def initializePartitions (env : Environment) (catalog : List CatalogNode) : Transaction Nat :=
  Tx.lock .v2Initialization do
    let _ ← Tx.updateMany table.partitions (fun _ _ p => disabledByStrategy p)
      (fun p => { p with status := .DISABLED_BY_STRATEGY })
    let generated ← ensureSpecificGmvPartitions env catalog
    updateJob (fun job => { job with
      state := .PAUSED
      currentStage := .PAUSED
      pauseRequested := false
      nextAttemptAt := none
      leaseId := none
      leaseExpiresAt := none })
    return generated

end tiktok_outreach.adaptive_queue
