-- The scheduler of the crawler
-- (apps/api/src/creator-database/creator-scheduler.ts), without the texts that
-- only an operator reads. Its arithmetic is that of the rationals.
import TiktokOutreach.MarketplacePartitions

open tiktok_outreach.creator_schema tiktok_outreach.marketplace_partitions

namespace tiktok_outreach.creator_scheduler

/-- What the scheduler takes from outside. -/
structure Environment where
  /-- The first byte of the MD5 digest of a text. -/
  md5FirstByte : String → Nat
  /-- `2 ** (-ageDays / PRODUCTIVITY_HALF_LIFE_DAYS)` for an age in milliseconds. -/
  decay : Int → ℚ

def CATEGORY_MIN_EVIDENCE_ROWS : ℚ := 1000
def FOLLOWER_MIN_EVIDENCE_ROWS : ℚ := 1000
def BRANCH_EVIDENCE_MIN_ROWS : Nat := 200

inductive SchedulerClass
  | HIGH
  | MEDIUM
  | EXPLORATION
  | LOW
  | EXPERIMENT_ONLY
  deriving DecidableEq, Repr

inductive SchedulerSlot
  | PRIMARY_PRODUCTIVE
  | PRIMARY_EXPLORATION
  | G3_EXPLORATION
  | G4_PROBE
  deriving DecidableEq, Repr

inductive CategoryCoverageMode
  | COVERAGE
  | BALANCED
  deriving DecidableEq, Repr

/-! ## Families and slots -/

def g1G2FamilyKey (categoryId categoryChildId : Option String)
    (followersMin followersMax : Option Nat) : Option String :=
  match categoryId, categoryChildId, followersMin with
  | some parent, some child, some min =>
    if parent = "" || child = "" then none
    else some (parent.toLower ++ ":" ++ child.toLower ++ ":" ++ min.repr ++ ":" ++
      maxLabel followersMax)
  | _, _, _ => none

def designatedFirstG1G2Bucket (env : Environment) (familyKey : String) : GmvBucketCode :=
  if env.md5FirstByte familyKey % 2 = 0 then .G1 else .G2

def schedulerSlot (claimSequence : Nat) (coverageMode : CategoryCoverageMode)
    (g4ProbeCadence primaryCycle : Nat) : Except String SchedulerSlot :=
  if claimSequence < 1 then .error "Scheduler claim sequence must be a positive integer"
  else if g4ProbeCadence < 100 then .error "G4 probe cadence must be at least 100 claims"
  else if primaryCycle < 10 then .error "Primary scheduler cycle must be at least ten claims"
  else if claimSequence % g4ProbeCadence = 0 then .ok .G4_PROBE
  else
    let position := (claimSequence - 1) % primaryCycle + 1
    let productiveShare := if coverageMode = .COVERAGE then 4 else 6
    if position ≤ primaryCycle * productiveShare / 10 then .ok .PRIMARY_PRODUCTIVE
    else if position ≤ primaryCycle * 9 / 10 then .ok .PRIMARY_EXPLORATION
    else .ok .G3_EXPLORATION

/-! ## Category exploration -/

structure CategoryExplorationCandidate where
  id : Nat
  candidate : CreatorSearchPartition
  parentSampledChildren : Nat
  parentLastExplorationClaimAt : Option Int
  parentSortOrder : Int
  childFirstSampledAt : Option Int
  childLastSampledAt : Option Int
  childLastExplorationClaimAt : Option Int
  childSortOrder : Int

/-- What the candidates are ordered by, first to last. A missing date comes before all others. -/
def explorationOrder (c : CategoryExplorationCandidate) : List (WithBot Int) :=
  [((c.parentSampledChildren : Int) : WithBot Int), c.parentLastExplorationClaimAt,
    (c.parentSortOrder : WithBot Int), c.childLastSampledAt, c.childLastExplorationClaimAt,
    (c.childSortOrder : WithBot Int), ((c.candidate.queuePosition : Int) : WithBot Int),
    ((c.id : Int) : WithBot Int)]

def selectCategoryExplorationCandidate (candidates : List CategoryExplorationCandidate)
    (mode : CategoryCoverageMode) : Option CategoryExplorationCandidate :=
  let untouched := candidates.filter (fun value => value.childFirstSampledAt.isNone)
  let pool := if mode = .COVERAGE && !untouched.isEmpty then untouched else candidates
  (pool.insertionSort (fun a b => explorationOrder a ≤ explorationOrder b)).head?

/-! ## Evidence -/

structure ProductivityEvidence where
  rows : ℚ
  newCreators : ℚ
  yield : Option ℚ
  deriving DecidableEq, Repr

def clamp (value minimum maximum : ℚ) : ℚ := min maximum (max minimum value)

/-- `Math.round(value * 10 ** 6) / 10 ** 6` -/
def rounded (value : ℚ) : ℚ := ((value * 1000000 + 1 / 2).floor : ℚ) / 1000000

def decayFactor (env : Environment) (lastSuccessAt : Option Int) (now : Int) : ℚ :=
  match lastSuccessAt with
  | none => 1
  | some last => env.decay (max 0 (now - last))

def followerOverlapWeight (targetMin targetMax observedMin observedMax : Option Nat) : ℚ :=
  match targetMin, observedMin with
  | some targetMin, some observedMin => match observedMax with
    | none => match targetMax with
      | none => if targetMin = observedMin then 1 else 0
      | some _ => 0
    | some observedMax =>
      let overlapMin := max targetMin observedMin
      let overlapMax := min (targetMax.getD observedMax) observedMax
      if overlapMax < overlapMin then 0
      else ((overlapMax : ℚ) - overlapMin + 1) / ((observedMax : ℚ) - observedMin + 1)
  | _, _ => 0

def aggregateEvidence (env : Environment) (observations : List CreatorSearchPartition)
    (now : Int) (contribution : CreatorSearchPartition → ℚ) : ProductivityEvidence :=
  let weights := observations.map (fun observation =>
    (observation, clamp (contribution observation) 0 1 * decayFactor env observation.lastSuccessAt
      now))
  let rows := (weights.map (fun w => (w.1.rowsReturned : ℚ) * w.2)).sum
  let newCreators := (weights.map (fun w =>
    if w.1.rowsReturned = 0 then 0 else (w.1.uniqueCreatorsAdded : ℚ) * w.2)).sum
  ⟨rows, newCreators, if 0 < rows then some (newCreators / rows) else none⟩

def branchObservations (observations : List CreatorSearchPartition)
    (gmvBucket : Option GmvBucketCode) : List CreatorSearchPartition :=
  match gmvBucket with
  | some bucket => observations.filter (fun observation => observation.gmvBucket = some bucket)
  | none => observations

def categoryEvidence (env : Environment) (observations : List CreatorSearchPartition)
    (categoryChildId : Option String) (now : Int) (gmvBucket : Option GmvBucketCode) :
    ProductivityEvidence :=
  aggregateEvidence env (branchObservations observations gmvBucket) now (fun observation =>
    if categoryChildId.isSome && observation.categoryChildId = categoryChildId then 1 else 0)

def followerEvidence (env : Environment) (observations : List CreatorSearchPartition)
    (followersMin followersMax : Option Nat) (now : Int) (gmvBucket : Option GmvBucketCode) :
    ProductivityEvidence :=
  aggregateEvidence env (branchObservations observations gmvBucket) now (fun observation =>
    followerOverlapWeight followersMin followersMax observation.followersMin
      observation.followersMax)

/-- The weight of a kind of evidence, by its minimum of rows, its scale and its bounds. -/
def softProductivityWeight (evidence globalEvidence : ProductivityEvidence)
    (minimumRows scale lowest highest : ℚ) : ℚ :=
  match evidence.yield, globalEvidence.yield with
  | some yield, some globalYield =>
    if evidence.rows < minimumRows then 0
    else
      let confidence := clamp (evidence.rows / 5000) 0 1
      let relative := (yield - globalYield) / max (5 / 100) globalYield
      rounded (clamp (relative * scale * confidence) lowest highest)
  | _, _ => 0

def categoryProductivityWeight (evidence globalEvidence : ProductivityEvidence) : ℚ :=
  softProductivityWeight evidence globalEvidence CATEGORY_MIN_EVIDENCE_ROWS 400 (-450) 250

def followerProductivityWeight (evidence globalEvidence : ProductivityEvidence) : ℚ :=
  softProductivityWeight evidence globalEvidence FOLLOWER_MIN_EVIDENCE_ROWS 250 (-250) 200

/-! ## Priorities -/

structure SchedulerPriorityInput where
  partitionType : PartitionType
  adaptiveDepth : Nat
  branchClassification : BranchClassification
  expectedYield : Option ℚ
  expectedNewPerSuccessfulPage : Option ℚ
  observedSaturated : Bool
  evidenceRows : Nat
  gmvBucket : Option GmvBucketCode
  categoryEvidence : ProductivityEvidence
  followerEvidence : ProductivityEvidence
  globalEvidence : ProductivityEvidence

structure SchedulerPriority where
  schedulerClass : SchedulerClass
  score : ℚ
  deriving DecidableEq, Repr

def classificationSignal : BranchClassification → ℚ
  | .STRONG => 500
  | .PRODUCTIVE => 250
  | .MARGINAL => -100
  | .LOW_VALUE => -1200
  | .EFFECTIVELY_DEAD => -1800
  | .UNCLASSIFIED => 0

def depthSignal : Nat → ℚ
  | 0 => 0
  | 1 => 100
  | 2 => 300
  | 3 => 325
  | _ => 100

def scoreSchedulerPriority (input : SchedulerPriorityInput) : SchedulerPriority :=
  if input.gmvBucket = some .G4 then ⟨.EXPERIMENT_ONLY, -10000⟩
  else if input.partitionType = .V2_SEED then
    if input.gmvBucket = some .G3 then ⟨.LOW, -500⟩ else ⟨.EXPLORATION, 100⟩
  else
    let authoritativeLow := decide (input.branchClassification = .LOW_VALUE) ||
      decide (input.branchClassification = .EFFECTIVELY_DEAD)
    let meaningful := decide (BRANCH_EVIDENCE_MIN_ROWS ≤ input.evidenceRows)
    let yield := input.expectedYield.getD 0
    let newPerPage := input.expectedNewPerSuccessfulPage.getD 0
    let productive := meaningful && decide (10 / 100 ≤ yield) && decide (4 ≤ newPerPage)
    let strongG3 := meaningful && decide (20 / 100 ≤ yield) && decide (4 ≤ newPerPage)
    let schedulerClass : SchedulerClass :=
      if authoritativeLow then .LOW
      else if input.gmvBucket = some .G3 then if strongG3 then .MEDIUM else .LOW
      else if productive then .HIGH else .MEDIUM
    let score := 1000 + depthSignal input.adaptiveDepth +
      classificationSignal input.branchClassification + clamp yield 0 (60 / 100) * 1000 +
      clamp newPerPage 0 20 * 20 + (if input.observedSaturated then 75 else 0) +
      categoryProductivityWeight input.categoryEvidence input.globalEvidence +
      followerProductivityWeight input.followerEvidence input.globalEvidence
    ⟨schedulerClass, rounded score⟩

/-! ## Selection -/

structure ScoredCandidate where
  id : Nat
  candidate : CreatorSearchPartition
  priority : SchedulerPriority

/-- `left` comes before `right`, or with it. -/
def candidateOrder (classes : List SchedulerClass) (left right : ScoredCandidate) : Bool :=
  let a := classes.idxOf left.priority.schedulerClass
  let b := classes.idxOf right.priority.schedulerClass
  decide (a < b) || (decide (a = b) && (decide (right.priority.score < left.priority.score) ||
    (decide (left.priority.score = right.priority.score) &&
      (decide (left.candidate.queuePosition < right.candidate.queuePosition) ||
        (decide (left.candidate.queuePosition = right.candidate.queuePosition) &&
          decide (left.id ≤ right.id))))))

def ordered (candidates : List ScoredCandidate) (classes : List SchedulerClass) :
    List ScoredCandidate :=
  (candidates.filter (fun candidate => classes.contains candidate.priority.schedulerClass)).insertionSort
    (fun a b => candidateOrder classes a b = true)

/-- The candidates of some buckets. -/
def ofBuckets (candidates : List ScoredCandidate) (buckets : List GmvBucketCode) :
    List ScoredCandidate :=
  candidates.filter (fun candidate =>
    buckets.any (fun bucket => candidate.candidate.gmvBucket = some bucket))

/-- The pools of a slot, in the order in which they are tried. -/
def schedulerPools (candidates : List ScoredCandidate) (slot : SchedulerSlot) :
    List (List ScoredCandidate) :=
  let primary := ofBuckets candidates [.G1, .G2]
  let g3 := ofBuckets candidates [.G3]
  let g4 := ofBuckets candidates [.G4]
  let productivePrimary := ordered primary [.HIGH]
  let unknownPrimary := ordered primary
    (if slot = .PRIMARY_EXPLORATION then [.EXPLORATION, .MEDIUM] else [.MEDIUM, .EXPLORATION])
  let productiveG3 := ordered g3 [.HIGH, .MEDIUM]
  let generalG3 := ordered g3 [.EXPLORATION, .LOW]
  let lowPrimary := ordered primary [.LOW]
  match slot with
  | .G4_PROBE => [ordered g4 [.EXPERIMENT_ONLY], productivePrimary, unknownPrimary, productiveG3,
      generalG3, lowPrimary]
  | .G3_EXPLORATION => [productiveG3, generalG3, productivePrimary, unknownPrimary, lowPrimary]
  | .PRIMARY_EXPLORATION => [unknownPrimary, productivePrimary, productiveG3, generalG3, lowPrimary]
  | .PRIMARY_PRODUCTIVE => [productivePrimary, unknownPrimary, productiveG3, generalG3, lowPrimary]

def selectSchedulerCandidate (candidates : List ScoredCandidate) (slot : SchedulerSlot) :
    Option ScoredCandidate :=
  ((schedulerPools candidates slot).find? (fun pool => !pool.isEmpty)).bind List.head?

end tiktok_outreach.creator_scheduler
