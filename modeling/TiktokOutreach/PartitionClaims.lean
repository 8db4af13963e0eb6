-- `claimPartition` (apps/api/src/creator-database/creator-sync.processor.ts):
-- which partition a worker takes next, and the transaction that takes it.
import TiktokOutreach.AdaptiveQueue

open tables transactions tiktok_outreach.creator_schema tiktok_outreach.marketplace_partitions
  tiktok_outreach.creator_scheduler tiktok_outreach.adaptive_queue

namespace tiktok_outreach.partition_claims

/-- A partition with its id. -/
abbrev Row : Type := Nat × CreatorSearchPartition

/-! ## The current partition -/

/-- `["STARTING", "RUNNING", "WAITING_RETRY", "PAUSED"].includes(status)` -/
def midway (status : PartitionStatus) : Bool :=
  status = .STARTING || status = .RUNNING || status = .WAITING_RETRY || status = .PAUSED

def resumable (current : CreatorSearchPartition) : Bool :=
  isSpecificGmvPartition current.gmvBucket current.gmvRange && midway current.status

/-- The current partition goes on: any resumable one, of G4 only that of a probe. -/
def resumes (current : CreatorSearchPartition) : Bool :=
  resumable current && (current.gmvBucket ≠ some .G4 || current.schedulerIsG4Probe)

/-! ## The rows that a claim reads -/

/-- `orderBy: [{ queuePosition: "asc" }, { id: "asc" }]` -/
def queueOrder (a b : Row) : Bool :=
  decide (a.2.queuePosition < b.2.queuePosition) ||
    (decide (a.2.queuePosition = b.2.queuePosition) && decide (a.1 ≤ b.1))

def inQueueOrder (rows : List Row) : List Row :=
  rows.insertionSort (fun a b => queueOrder a b = true)

def isG1G2 (p : CreatorSearchPartition) : Bool := p.gmvBucket = some .G1 || p.gmvBucket = some .G2

def isAdaptive (p : CreatorSearchPartition) : Bool :=
  p.partitionType = .ADAPTIVE_FOLLOWER || p.partitionType = .ADAPTIVE_GMV

def primaryFamilyRows (db : Db) : List Row :=
  inQueueOrder (db.partitions.findMany (fun _ p => p.partitionType = .V2_SEED && isG1G2 p))

def g3Seed (db : Db) : Option Row :=
  (inQueueOrder (db.partitions.findMany (fun _ p => p.partitionType = .V2_SEED &&
    p.gmvBucket = some .G3 && p.status = .QUEUED))).head?

def adaptiveCandidates (db : Db) : List Row :=
  db.partitions.findMany (fun _ p => isAdaptive p && (isG1G2 p || p.gmvBucket = some .G3) &&
    p.status = .QUEUED)

def g4Adaptive (db : Db) : List Row :=
  inQueueOrder (db.partitions.findMany (fun _ p => p.gmvBucket = some .G4 &&
    p.status = .EXPERIMENT_ONLY && isAdaptive p))

def g4Seed (db : Db) : Option Row :=
  (inQueueOrder (db.partitions.findMany (fun _ p => p.partitionType = .V2_SEED &&
    p.gmvBucket = some .G4 && p.status = .EXPERIMENT_ONLY))).head?

/-- The observations of all finished partitions. -/
def historical (db : Db) : List CreatorSearchPartition :=
  (db.partitions.findMany (fun _ p => PRODUCTION_PARTITION_TYPES.contains p.partitionType &&
    isSpecificGmvBucket p.gmvBucket && finished p.status && decide (0 < p.rowsReturned))).map Prod.snd

/-! ## Seeds -/

def familyKey (row : CreatorSearchPartition) : Option String :=
  row.schedulerFamilyKey.or
    (g1G2FamilyKey row.categoryId row.categoryChildId row.followersMin row.followersMax)

/-- The rows of a family. An empty key is none. -/
def familyRows (rows : List Row) (key : String) : List Row :=
  rows.filter (fun row => familyKey row.2 = some key && key ≠ "")

def familyTouched (rows : List Row) (key : String) : Bool :=
  (familyRows rows key).any (fun row => row.2.startedAt.isSome || row.2.status ≠ .QUEUED)

/-- `familyBuckets.get(key)?.size` -/
def familyBuckets (rows : List Row) (key : String) : Nat :=
  ((familyRows rows key).map (fun row => row.2.gmvBucket)).dedup.length

def validParents (db : Db) (id : String) : Option MarketplaceCategory :=
  (db.categories.get id).filter (fun category => category.parentCategoryId.isNone &&
    category.enabledForCreatorCrawl && category.availableForCreatorFilter)

def validChildren (db : Db) (id : String) : Option MarketplaceCategory :=
  (db.categories.get id).filter (fun category =>
    category.parentCategoryId.any (fun parent => (validParents db parent).isSome) &&
      category.availableForCreatorFilter)

def validSeedSnapshot (db : Db) (row : CreatorSearchPartition) : Bool :=
  match row.categoryId, row.categoryChildId with
  | some parent, some child =>
    parent ≠ "" && child ≠ "" && (validParents db parent).isSome &&
      (validChildren db child).any (fun category => category.parentCategoryId = some parent) &&
      row.categoryChildIds = [child] &&
      row.followersMin.any (fun min => row.followersMax.all (fun max => decide (min ≤ max)))
  | _, _ => false

def eligibleSeed (env : Environment) (db : Db) (rows : List Row) (row : CreatorSearchPartition) :
    Bool :=
  row.status = .QUEUED && validSeedSnapshot db row &&
    match (familyKey row).filter (· ≠ "") with
    | none => true
    | some key => familyTouched rows key || familyBuckets rows key ≠ 2 ||
        row.gmvBucket = some (row.schedulerG1G2FirstBucket.getD (designatedFirstG1G2Bucket env key))

def eligibleSeeds (env : Environment) (db : Db) : List Row :=
  (primaryFamilyRows db).filter (fun row => eligibleSeed env db (primaryFamilyRows db) row.2)

/-! ## Coverage -/

def sampledByParent (db : Db) (parent : String) : Nat :=
  db.categories.count (fun id category => (validChildren db id).isSome &&
    category.creatorFirstSampledAt.isSome && category.parentCategoryId = some parent)

/-- An eligible seed with its categories. -/
def coverageCandidate (db : Db) (row : Row) : Option CategoryExplorationCandidate := do
  let parentId ← row.2.categoryId
  let child ← row.2.categoryChildId.bind (validChildren db)
  let parent ← validParents db parentId
  return {
    id := row.1
    candidate := row.2
    parentSampledChildren := sampledByParent db parentId
    parentLastExplorationClaimAt := parent.creatorLastExplorationClaimAt
    parentSortOrder := parent.sortOrder
    childFirstSampledAt := child.creatorFirstSampledAt
    childLastSampledAt := child.creatorLastSampledAt
    childLastExplorationClaimAt := child.creatorLastExplorationClaimAt
    childSortOrder := child.sortOrder }

def coverageCandidates (env : Environment) (db : Db) : List CategoryExplorationCandidate :=
  (eligibleSeeds env db).filterMap (coverageCandidate db)

def coverageMode (env : Environment) (db : Db) : CategoryCoverageMode :=
  if (coverageCandidates env db).any (fun value => value.childFirstSampledAt.isNone) then .COVERAGE
  else .BALANCED

def coverageSeed (env : Environment) (db : Db) : Option Row :=
  (selectCategoryExplorationCandidate (coverageCandidates env db) (coverageMode env db)).map
    (fun value => (value.id, value.candidate))

/-! ## Scores -/

/-- The parent that is read with an adaptive partition. -/
def parentPartition (db : Db) (p : CreatorSearchPartition) : Option CreatorSearchPartition :=
  if isAdaptive p then p.parentPartitionId.bind db.partitions.get else none

def exceptional (db : Db) (candidate : CreatorSearchPartition) : Bool :=
  let evidence := (parentPartition db candidate).getD candidate
  decide (200 ≤ evidence.rowsReturned) &&
    decide (10 / 100 ≤ rate evidence.uniqueCreatorsAdded evidence.rowsReturned) &&
    decide (4 ≤ rate evidence.uniqueCreatorsAdded evidence.pagesCompleted)

def g4Probe (db : Db) : Option Row :=
  ((g4Adaptive db).find? (fun row => exceptional db row.2)).or (g4Seed db)

/-- `pagesCompleted > 0 ? uniqueCreatorsAdded / pagesCompleted : null` -/
def newPerSuccessfulPage (p : CreatorSearchPartition) : Option ℚ :=
  if 0 < p.pagesCompleted then some (rate p.uniqueCreatorsAdded p.pagesCompleted) else none

def scoreCandidate (env : Environment) (db : Db) (now : Int) (row : Row) : ScoredCandidate :=
  let candidate := row.2
  let parent := parentPartition db candidate
  let observations := historical db
  let parentYield := parent.bind (fun p =>
    (p.incrementalYield.or p.originalYield).or p.combinedChildIncrementalYield)
  let inherited := match parent with
    | some p => if candidate.branchClassification = .UNCLASSIFIED && p.partitionType ≠ .V2_SEED then
        p.branchClassification else candidate.branchClassification
    | none => candidate.branchClassification
  { id := row.1
    candidate
    priority := scoreSchedulerPriority
      { partitionType := candidate.partitionType
        adaptiveDepth := candidate.adaptiveDepth
        branchClassification := inherited
        expectedYield := (candidate.incrementalYield.or candidate.originalYield).or parentYield
        expectedNewPerSuccessfulPage :=
          (newPerSuccessfulPage candidate).or (parent.bind newPerSuccessfulPage)
        observedSaturated := decide ((parent.getD candidate).observedSaturationState =
          .OBSERVED_SATURATED)
        evidenceRows := if 0 < candidate.rowsReturned then candidate.rowsReturned
          else (parent.map (·.rowsReturned)).getD 0
        gmvBucket := candidate.gmvBucket
        categoryEvidence := categoryEvidence env observations candidate.categoryChildId now
          candidate.gmvBucket
        followerEvidence := followerEvidence env observations candidate.followersMin
          candidate.followersMax now candidate.gmvBucket
        globalEvidence := aggregateEvidence env
          (observations.filter (fun p => p.gmvBucket.isSome && p.gmvBucket = candidate.gmvBucket))
          now (fun _ => 1) } }

/-- All rows that the scheduler chooses from. -/
def candidateRows (env : Environment) (db : Db) : List Row :=
  let seed := (eligibleSeeds env db).head?
  adaptiveCandidates db ++ seed.toList ++
    ((coverageSeed env db).filter (fun row => some row.1 ≠ seed.map Prod.fst)).toList ++
    (g3Seed db).toList ++ (g4Probe db).toList

def scoredCandidates (env : Environment) (db : Db) (now : Int) : List ScoredCandidate :=
  (candidateRows env db).map (scoreCandidate env db now)

/-! ## The choice -/

structure Selection where
  slot : SchedulerSlot
  selected : Option ScoredCandidate
  /-- The slot explores a category. -/
  isCategoryExploration : Bool

def selectPartition (env : Environment) (config : Config) (db : Db) (sequence : Nat) (now : Int) :
    Except String Selection :=
  let scored := scoredCandidates env db now
  match schedulerSlot sequence (coverageMode env db) config.g4ProbeCadence
    config.schedulerPrimaryCycle with
  | .error message => .error message
  | .ok slot =>
    let coverageSelected := if slot = .PRIMARY_EXPLORATION then
        (coverageSeed env db).bind (fun seed => scored.find? (fun candidate => candidate.id = seed.1))
      else none
    .ok ⟨slot, coverageSelected.or (selectSchedulerCandidate scored slot), coverageSelected.isSome⟩

/-! ## The transaction -/

/-- What `claimPartition` gives, with the number of a new claim. -/
inductive Claim
  | current (row : Row)
  | started (row : Row) (sequence : Nat)
  deriving DecidableEq, Repr

def Claim.row : Claim → Row
  | current row => row
  | started row _ => row

def claimableStatus (p : CreatorSearchPartition) : PartitionStatus :=
  if p.gmvBucket = some .G4 then .EXPERIMENT_ONLY else .QUEUED

/-- The row of a claim as the transaction writes it. -/
def startedPartition (env : Environment) (slot : SchedulerSlot) (sequence : Nat) (now : Int)
    (next p : CreatorSearchPartition) : CreatorSearchPartition :=
  let familyKey := if next.partitionType = .V2_SEED && isG1G2 next then familyKey next else none
  { p with
    status := .STARTING
    startedAt := some now
    schedulerClaimSequence := some sequence
    schedulerFamilyKey := familyKey
    schedulerG1G2FirstBucket := (familyKey.filter (· ≠ "")).map (designatedFirstG1G2Bucket env)
    schedulerIsG4Probe := decide (slot = .G4_PROBE) && decide (next.gmvBucket = some .G4) }

/-- The row that the worker goes on with. -/
def claimedRow (slot : SchedulerSlot) (now : Int) (next : Row) : Row :=
  (next.1, { next.2 with
    status := .STARTING
    startedAt := some now
    schedulerIsG4Probe := decide (slot = .G4_PROBE) && decide (next.2.gmvBucket = some .G4) })

/-- The write of an exploration to its two categories. -/
def recordExploration (now : Int) (next : CreatorSearchPartition) : Transaction Unit :=
  match next.categoryId, next.categoryChildId with
  | some parent, some child => do
    let _ ← Tx.updateMany table.categories (fun _ id _ => id = parent || id = child)
      (fun category => { category with creatorLastExplorationClaimAt := some now })
  | _, _ => return ()

/-- The claim of the partition that was selected. -/
def startPartition (env : Environment) (leaseId sequence : Nat) (now : Int) (selection : Selection)
    (next : Row) : Transaction (Option Claim) := do
  let claimed ← Tx.updateMany table.partitions
    (fun _ id p => id = next.1 && p.status = claimableStatus next.2)
    (startedPartition env selection.slot sequence now next.2)
  if claimed ≠ 1 then Tx.throw (.other "Marketplace partition claim raced")
  else do
    let _ ← updateJobWhere (fun job => job.leaseId = some leaseId) (fun job => { job with
      currentPartitionId := some next.1
      partitionClaimSequence := sequence
      currentStage := .STARTING_PARTITION })
    if selection.isCategoryExploration then recordExploration now next.2 else pure ()
    return some (.started (claimedRow selection.slot now next) sequence)

/-- The part of the transaction behind the current partition. -/
def claimNext (env : Environment) (config : Config) (leaseId sequence : Nat) (now : Int) :
    Transaction (Option Claim) := do
  let selection ← Tx.read (fun db => selectPartition env config db sequence now)
  match selection with
  | .error message => Tx.throw (.other message)
  | .ok selection => match selection.selected with
    | none => do
      let _ ← updateJobWhere (fun job => job.leaseId = some leaseId) (fun job => { job with
        state := .EXHAUSTED
        currentStage := .ALL_PARTITIONS_COMPLETE
        leaseId := none
        leaseExpiresAt := none })
      return none
    | some selected =>
      startPartition env leaseId sequence now selection (selected.id, selected.candidate)

def claimPartition (env : Environment) (config : Config) (leaseId : Nat) (now : Int) :
    Transaction (Option Claim) :=
  Tx.lock .partitionCrawler do
    expandReadyBranches config
    let lockedJob ← jobUnderLease leaseId
    match lockedJob.currentPartitionId with
    | none => claimNext env config leaseId (lockedJob.partitionClaimSequence + 1) now
    | some id => do
      let current ← Tx.read (fun db => db.partitions.get id)
      match current.filter resumes with
      | some current => return some (.current (id, current))
      | none => do
        let _ ← updateJobWhere
          (fun job => job.leaseId = some leaseId && job.currentPartitionId = some id)
          (fun job => { job with currentPartitionId := none, currentStage := .CLAIMING_PARTITION })
        claimNext env config leaseId (lockedJob.partitionClaimSequence + 1) now

end tiktok_outreach.partition_claims
