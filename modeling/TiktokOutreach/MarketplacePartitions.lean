-- The partitions of the Marketplace search
-- (apps/api/src/creator-database/marketplace-partitions.ts, with the buckets of
-- packages/domain/src/index.ts). A rate is an exact rational.
import TiktokOutreach.CreatorSchema

open tiktok_outreach.creator_schema

namespace tiktok_outreach.marketplace_partitions

/-! ## Buckets -/

structure FollowerBucket where
  code : String
  min : Nat
  max : Option Nat
  deriving DecidableEq, Repr

def FOLLOWER_BUCKETS : List FollowerBucket :=
  [⟨"F01", 600, some 799⟩, ⟨"F02", 800, some 999⟩,
    ⟨"F03", 1000, some 1499⟩, ⟨"F04", 1500, some 1999⟩,
    ⟨"F05", 2000, some 2999⟩, ⟨"F06", 3000, some 3999⟩,
    ⟨"F07", 4000, some 4999⟩, ⟨"F08", 5000, some 7499⟩,
    ⟨"F09", 7500, some 9999⟩, ⟨"F10", 10000, some 14999⟩,
    ⟨"F11", 15000, some 24999⟩, ⟨"F12", 25000, some 34999⟩,
    ⟨"F13", 35000, some 49999⟩, ⟨"F14", 50000, some 74999⟩,
    ⟨"F15", 75000, some 99999⟩, ⟨"F16", 100000, some 149999⟩,
    ⟨"F17", 150000, some 249999⟩, ⟨"F18", 250000, some 349999⟩,
    ⟨"F19", 350000, some 499999⟩, ⟨"F20", 500000, some 749999⟩,
    ⟨"F21", 750000, some 999999⟩, ⟨"F22", 1000000, some 1499999⟩,
    ⟨"F23", 1500000, some 2499999⟩, ⟨"F24", 2500000, some 4999999⟩,
    ⟨"F25", 5000000, none⟩]

structure GmvBucket where
  code : GmvBucketCode
  range : String
  deriving DecidableEq, Repr

def GMV_BUCKETS : List GmvBucket :=
  [⟨.G1, "GMV_RANGE_0_100"⟩, ⟨.G2, "GMV_RANGE_100_1000"⟩, ⟨.G3, "GMV_RANGE_1000_10000"⟩,
    ⟨.G4, "GMV_RANGE_10000_AND_ABOVE"⟩]

def CREATOR_FOLLOWER_HARD_FLOOR : Nat := 600
def BASE_QUEUE_GAP : Nat := 1000000
def DEFAULT_BRANCH_EVIDENCE_MIN_ROWS : Nat := 200
def DEFAULT_FIRST_SPLIT_MIN_UNIQUE_RATE : ℚ := 20 / 100
def DEFAULT_FIRST_SPLIT_MIN_NEW_PER_PAGE : ℚ := 4
def DEFAULT_G4_RECURSION_MIN_UNIQUE_RATE : ℚ := 10 / 100
def DEFAULT_G4_RECURSION_MIN_NEW_PER_PAGE : ℚ := 4

def PRODUCTION_PARTITION_TYPES : List PartitionType := [.V2_SEED, .ADAPTIVE_FOLLOWER, .ADAPTIVE_GMV]

def gmvBucketDefinition (code : Option GmvBucketCode) : Option GmvBucket :=
  GMV_BUCKETS.find? (fun bucket => some bucket.code = code)

def isSpecificGmvBucket (code : Option GmvBucketCode) : Bool := (gmvBucketDefinition code).isSome

def isSpecificGmvPartition (gmvBucket : Option GmvBucketCode) (gmvRange : Option String) : Bool :=
  match gmvBucketDefinition gmvBucket with
  | some bucket => decide (gmvRange = some bucket.range)
  | none => false

/-! ## Keys -/

def gmvBucketName : GmvBucketCode → String
  | .G1 => "G1"
  | .G2 => "G2"
  | .G3 => "G3"
  | .G4 => "G4"

/-- `max == null ? "plus" : max` -/
def maxLabel : Option Nat → String
  | some max => max.repr
  | none => "plus"

/-- The text before the first separator of the follower range, and the range behind it. -/
def followersLabel (min : Nat) (max : Option Nat) : String :=
  "f" ++ min.repr ++ "-" ++ maxLabel max

def specificGmvCombinationKey (categoryId categoryChildId : Option String)
    (followersMin followersMax : Option Nat) (gmvBucket : Option GmvBucketCode) : Option String :=
  match categoryId, categoryChildId, followersMin, gmvBucket with
  | some parent, some child, some min, some bucket =>
    if parent = "" || child = "" || !isSpecificGmvBucket gmvBucket then none
    else some (parent.toLower ++ ":" ++ child.toLower ++ ":" ++ min.repr ++ ":" ++
      maxLabel followersMax ++ ":" ++ (gmvBucketName bucket).toLower)
  | _, _, _, _ => none

def partitionKeyV2 (parentCategoryId childCategoryId : String) (min : Nat) (max : Option Nat)
    (gmvBucket : Option GmvBucketCode) : String :=
  "v2:" ++ parentCategoryId.toLower ++ ":" ++ childCategoryId.toLower ++ ":" ++
    followersLabel min max ++
    match gmvBucket with
    | some bucket => ":" ++ (gmvBucketName bucket).toLower
    | none => ""

def adaptiveFollowerPartitionKey (parentPartitionKey : String) (min max : Nat) : String :=
  "v3:" ++ parentPartitionKey ++ ":" ++ followersLabel min (some max)

/-! ## Splits -/

/-- The minimum widths, each of which the configuration admits from 1 on. -/
structure FollowerWidthRules where
  from600 : Nat
  from1000 : Nat
  from10000 : Nat
  from100000 : Nat
  from1000000 : Nat
  admitted : 1 ≤ from600 ∧ 1 ≤ from1000 ∧ 1 ≤ from10000 ∧ 1 ≤ from100000 ∧ 1 ≤ from1000000

structure Bounds where
  min : Nat
  max : Nat
  deriving DecidableEq, Repr

def inclusiveFollowerWidth (min : Nat) (max : Option Nat) : Option Nat :=
  match max with
  | none => none
  | some max => if min < CREATOR_FOLLOWER_HARD_FLOOR || max < min then none
      else some (max - min + 1)

def binaryFollowerRange (min : Nat) (max : Option Nat) : Option (Bounds × Bounds) :=
  match inclusiveFollowerWidth min max, max with
  | some width, some max =>
    if width < 2 then none
    else
      let mid := (min + max) / 2
      some (⟨min, mid⟩, ⟨mid + 1, max⟩)
  | _, _ => none

def minimumFollowerWidth (min : Nat) (rules : FollowerWidthRules) : Nat :=
  if 1000000 ≤ min then rules.from1000000
  else if 100000 ≤ min then rules.from100000
  else if 10000 ≤ min then rules.from10000
  else if 1000 ≤ min then rules.from1000
  else rules.from600

def splitFollowerRange (min : Nat) (max : Option Nat) (rules : FollowerWidthRules) :
    Option (Bounds × Bounds) :=
  match inclusiveFollowerWidth min max with
  | none => none
  | some width =>
    if width < minimumFollowerWidth min rules * 2 then none else binaryFollowerRange min max

/-! ## Evidence -/

def observedSaturationState (completed : Bool) (rowsReturned minRows maxRows : Nat) :
    ObservedSaturationState :=
  if !completed then .UNKNOWN
  else if minRows ≤ rowsReturned && rowsReturned ≤ maxRows then .OBSERVED_SATURATED
  else .NOT_OBSERVED_SATURATED

def classifyIncrementalYield : Option ℚ → BranchClassification
  | none => .UNCLASSIFIED
  | some value =>
    if value ≤ 2 / 100 then .EFFECTIVELY_DEAD
    else if value < 5 / 100 then .LOW_VALUE
    else if value < 10 / 100 then .MARGINAL
    else if value < 20 / 100 then .PRODUCTIVE
    else .STRONG

/-- `divisor ? dividend / divisor : 0` -/
def rate (dividend divisor : Nat) : ℚ := if divisor = 0 then 0 else dividend / divisor

def combinedIncrementalYield (children : List CreatorSearchPartition) : ℚ :=
  rate (children.map (·.uniqueCreatorsAdded)).sum (children.map (·.rowsReturned)).sum

structure ExpansionInput where
  partitionType : PartitionType
  observedSaturationState : ObservedSaturationState
  followersMin : Nat
  followersMax : Option Nat
  yield : Option ℚ
  rowsReturned : Nat
  successfulPages : Nat
  uniqueCreatorsAdded : Nat
  followerSplitExplored : Bool
  followerRecursionTerminal : Bool
  gmvSplitCreated : Bool
  gmvBucket : Option GmvBucketCode
  gmvRange : Option String

inductive AdaptiveExpansion
  | FOLLOWER (bounds : Bounds × Bounds) (reason : String)
  | NONE (reason : String)
  deriving DecidableEq, Repr

def adaptiveExpansion (input : ExpansionInput) (rules : FollowerWidthRules)
    (deepMinimumYield : ℚ) : AdaptiveExpansion :=
  if !isSpecificGmvPartition input.gmvBucket input.gmvRange then .NONE "UNSUPPORTED_GMV_BRANCH"
  else if input.followerRecursionTerminal then .NONE "ALREADY_TERMINAL"
  else if input.gmvSplitCreated || input.followerSplitExplored then .NONE "ALREADY_EXPLORED"
  else match splitFollowerRange input.followersMin input.followersMax rules with
    | none => .NONE "RANGE_AT_MINIMUM_WIDTH"
    | some bounds =>
      if input.rowsReturned < DEFAULT_BRANCH_EVIDENCE_MIN_ROWS then .NONE "INSUFFICIENT_SAMPLE"
      else
        let uniqueRate := rate input.uniqueCreatorsAdded input.rowsReturned
        let newPerPage := rate input.uniqueCreatorsAdded input.successfulPages
        let saturated := decide (input.observedSaturationState = .OBSERVED_SATURATED)
        match input.gmvBucket with
        | some .G4 =>
          if DEFAULT_G4_RECURSION_MIN_UNIQUE_RATE ≤ uniqueRate &&
              DEFAULT_G4_RECURSION_MIN_NEW_PER_PAGE ≤ newPerPage then
            .FOLLOWER bounds "G4_EXCEPTIONAL_EVIDENCE"
          else .NONE "G4_EVIDENCE_GATE_NOT_MET"
        | some .G3 =>
          if DEFAULT_FIRST_SPLIT_MIN_UNIQUE_RATE ≤ uniqueRate &&
              DEFAULT_FIRST_SPLIT_MIN_NEW_PER_PAGE ≤ newPerPage then
            .FOLLOWER bounds "G3_LOCAL_PRODUCTIVITY_OVERRIDE"
          else .NONE "G3_LOCAL_EVIDENCE_NOT_PRODUCTIVE"
        | some .G1 | some .G2 =>
          if input.partitionType = .V2_SEED then
            if saturated || DEFAULT_FIRST_SPLIT_MIN_UNIQUE_RATE ≤ uniqueRate ||
                DEFAULT_FIRST_SPLIT_MIN_NEW_PER_PAGE ≤ newPerPage then
              .FOLLOWER bounds "G1_G2_FIRST_SPLIT_EVIDENCE"
            else .NONE "FIRST_SPLIT_EVIDENCE_NOT_PRODUCTIVE"
          else match input.partitionType, input.yield with
            | .ADAPTIVE_FOLLOWER, some yield =>
              if deepMinimumYield ≤ yield && DEFAULT_FIRST_SPLIT_MIN_NEW_PER_PAGE ≤ newPerPage &&
                  (saturated || DEFAULT_FIRST_SPLIT_MIN_UNIQUE_RATE ≤ uniqueRate) then
                .FOLLOWER bounds "G1_G2_DEEP_PRODUCTIVITY"
              else .NONE "DEEPER_EVIDENCE_NOT_PRODUCTIVE"
            | _, _ => .NONE "NOT_FOLLOWER_RECURSION"
        | none => .NONE "UNSUPPORTED_GMV_BRANCH"

/-! ## Requests -/

structure CreatorFilters where
  parentCategoryId : String
  childCategoryIds : List String
  minFollowers : Nat
  maxFollowers : Option Nat
  marketplaceGmvRanges : List String
  deriving DecidableEq, Repr

def partitionFilters (partition : CreatorSearchPartition) : Except String CreatorFilters :=
  match partition.categoryId, partition.followersMin with
  | some categoryId, some followersMin =>
    if categoryId = "" then .error "Structured Marketplace partition is missing documented filters"
    else match gmvBucketDefinition partition.gmvBucket with
      | some gmv =>
        if partition.gmvRange = some gmv.range then
          .ok ⟨categoryId, partition.categoryChildIds, followersMin, partition.followersMax,
            [gmv.range]⟩
        else .error "Specific documented GMV bucket is required for Marketplace discovery"
      | none => .error "Specific documented GMV bucket is required for Marketplace discovery"
  | _, _ => .error "Structured Marketplace partition is missing documented filters"

structure CatalogNode where
  categoryId : String
  parentCategoryId : Option String
  enabledForCreatorCrawl : Bool
  availableForCreatorFilter : Bool
  sortOrder : Int
  deriving DecidableEq, Repr

/-- `new Map(catalog.map((category) => [category.categoryId, category])).get(id)`, where the last
node of an id counts. -/
def byId (catalog : List CatalogNode) (id : String) : Option CatalogNode :=
  catalog.reverse.find? (fun node => node.categoryId = id)

def validateChild (parentCategoryId : String) (catalog : List CatalogNode) (childId : String) :
    Except String Unit :=
  match byId catalog childId with
  | none => .error "Marketplace category child must be exactly one catalog level below its parent"
  | some child =>
    if child.parentCategoryId ≠ some parentCategoryId then
      .error "Marketplace category child must be exactly one catalog level below its parent"
    else if !child.availableForCreatorFilter then
      .error "Marketplace category child is disabled or stale"
    else .ok ()

def validateMarketplaceCategorySelection (parentCategoryId : String)
    (childCategoryIds : List String) (catalog : List CatalogNode) : Except String Unit :=
  match byId catalog parentCategoryId with
  | none => .error "Marketplace partition category is absent from the verified TikTok catalog"
  | some parent =>
    if parent.parentCategoryId ≠ none then
      .error "Marketplace partition parent must be a verified root category"
    else if !parent.enabledForCreatorCrawl then
      .error "Marketplace partition category is not enabled for creator crawling"
    else if childCategoryIds = [] then
      .error "Marketplace partition category requires at least one verified immediate child"
    else if childCategoryIds.dedup.length ≠ childCategoryIds.length then
      .error "Marketplace partition category contains duplicate child IDs"
    else childCategoryIds.forM (validateChild parentCategoryId catalog)

def validateV2CategorySelection (parentCategoryId : String) (childCategoryIds : List String)
    (catalog : List CatalogNode) : Except String Unit :=
  if childCategoryIds.length ≠ 1 then
    .error "V2 Marketplace partition must contain exactly one immediate child category"
  else validateMarketplaceCategorySelection parentCategoryId childCategoryIds catalog

/-! ## Seeds -/

structure BasePartitionRow where
  partitionKey : String
  parentCategoryId : String
  childCategoryId : String
  followersMin : Nat
  followersMax : Option Nat
  gmvBucket : GmvBucketCode
  gmvRange : String
  queuePosition : Nat
  deriving DecidableEq, Repr

/-- `left.sortOrder - right.sortOrder || left.categoryId.localeCompare(right.categoryId)` -/
def catalogOrder (left right : CatalogNode) : Bool :=
  decide (left.sortOrder < right.sortOrder) ||
    (decide (left.sortOrder = right.sortOrder) && decide (left.categoryId ≤ right.categoryId))

def crawlParents (catalog : List CatalogNode) : List CatalogNode :=
  (catalog.filter (fun node => node.parentCategoryId = none && node.enabledForCreatorCrawl &&
    node.availableForCreatorFilter)).insertionSort (fun a b => catalogOrder a b = true)

def crawlChildren (catalog : List CatalogNode) (parent : CatalogNode) : List CatalogNode :=
  (catalog.filter (fun node => node.parentCategoryId = some parent.categoryId &&
    node.availableForCreatorFilter)).insertionSort (fun a b => catalogOrder a b = true)

/-- The pairs of a parent and a child that the crawler goes through, in order. -/
def crawlPairs (catalog : List CatalogNode) : List (String × String) :=
  (crawlParents catalog).flatMap (fun parent =>
    (crawlChildren catalog parent).map (fun child => (parent.categoryId, child.categoryId)))

/-- The buckets of a pair, in order. -/
def bucketPairs : List (FollowerBucket × GmvBucket) :=
  FOLLOWER_BUCKETS.flatMap (fun bucket => GMV_BUCKETS.map (fun gmv => (bucket, gmv)))

/-- The row of a combination that comes behind `position` others. -/
def basePartitionRow (pair : String × String) (bucket : FollowerBucket) (gmv : GmvBucket)
    (position : Nat) : BasePartitionRow where
  partitionKey := partitionKeyV2 pair.1 pair.2 bucket.min bucket.max (some gmv.code)
  parentCategoryId := pair.1
  childCategoryId := pair.2
  followersMin := bucket.min
  followersMax := bucket.max
  gmvBucket := gmv.code
  gmvRange := gmv.range
  queuePosition := (position + 1) * BASE_QUEUE_GAP

/-- No bucket is below the hard floor, on which the source throws. -/
theorem floor_le_min : ∀ bucket ∈ FOLLOWER_BUCKETS, CREATOR_FOLLOWER_HARD_FLOOR ≤ bucket.min := by
  decide

/-- All combinations, in order. -/
def combinations (catalog : List CatalogNode) :
    List ((String × String) × FollowerBucket × GmvBucket) :=
  (crawlPairs catalog).flatMap (fun pair => bucketPairs.map (fun bucket => (pair, bucket)))

def v2BasePartitionRows (catalog : List CatalogNode) : List BasePartitionRow :=
  (combinations catalog).zipIdx.map (fun c => basePartitionRow c.1.1 c.1.2.1 c.1.2.2 c.2)

end tiktok_outreach.marketplace_partitions
