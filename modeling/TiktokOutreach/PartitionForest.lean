-- What the partitions of a job are for: a forest of follower ranges. A seed is
-- planted for each combination, and a range is divided into two halves that
-- become its children. In every forest that grows so, ranges that meet are
-- nested, and those that are not divided cover no follower count twice.
import TiktokOutreach.AdaptiveQueue
import TiktokOutreach.PartitionKeys
import TiktokOutreach.Lib.Divisions

open separated divisions tiktok_outreach.creator_schema tiktok_outreach.marketplace_partitions
  tiktok_outreach.adaptive_queue

namespace tiktok_outreach.partition_forest

/-! ## Identities -/

/-- The columns of a partition that nothing writes after its insert. -/
structure Identity where
  partitionKey : String
  partitionType : PartitionType
  adaptiveDepth : Nat
  categoryId : Option String
  categoryChildId : Option String
  categoryChildIds : List String
  followersMin : Option Nat
  followersMax : Option Nat
  gmvBucket : Option GmvBucketCode
  gmvRange : Option String
  parentPartitionId : Option Nat
  queuePosition : Nat
  deriving DecidableEq, Repr

def identity (p : CreatorSearchPartition) : Identity :=
  ⟨p.partitionKey, p.partitionType, p.adaptiveDepth, p.categoryId, p.categoryChildId,
    p.categoryChildIds, p.followersMin, p.followersMax, p.gmvBucket, p.gmvRange,
    p.parentPartitionId, p.queuePosition⟩

def seedIdentity (pair : String × String) (bucket : FollowerBucket) (gmv : GmvBucket)
    (position : Nat) : Identity where
  partitionKey := partitionKeyV2 pair.1 pair.2 bucket.min bucket.max (some gmv.code)
  partitionType := .V2_SEED
  adaptiveDepth := 0
  categoryId := some pair.1
  categoryChildId := some pair.2
  categoryChildIds := [pair.2]
  followersMin := some bucket.min
  followersMax := bucket.max
  gmvBucket := some gmv.code
  gmvRange := some gmv.range
  parentPartitionId := none
  queuePosition := (position + 1) * BASE_QUEUE_GAP

def childIdentity (parentId : Nat) (parent : Identity) (bound : Bounds) (index : Nat) :
    Identity where
  partitionKey := adaptiveFollowerPartitionKey parent.partitionKey bound.min bound.max
  partitionType := .ADAPTIVE_FOLLOWER
  adaptiveDepth := parent.adaptiveDepth + 1
  categoryId := parent.categoryId
  categoryChildId := parent.categoryChildId
  categoryChildIds := parent.categoryChildIds
  followersMin := some bound.min
  followersMax := some bound.max
  gmvBucket := parent.gmvBucket
  gmvRange := parent.gmvRange
  parentPartitionId := some parentId
  queuePosition := parent.queuePosition * 100 + (index + 1)

def lowerHalfBounds (lo hi : Nat) : Bounds := ⟨lo, (lo + hi) / 2⟩

def upperHalfBounds (lo hi : Nat) : Bounds := ⟨(lo + hi) / 2 + 1, hi⟩

def lowerChild (parentId : Nat) (parent : Identity) (lo hi : Nat) : Identity :=
  childIdentity parentId parent (lowerHalfBounds lo hi) 0

def upperChild (parentId : Nat) (parent : Identity) (lo hi : Nat) : Identity :=
  childIdentity parentId parent (upperHalfBounds lo hi) 1

/-- The combination of category ids and GMV bucket in which a partition searches. -/
def group (n : Identity) : Option String × Option String × Option GmvBucketCode :=
  (n.categoryId, n.categoryChildId, n.gmvBucket)

/-- The follower counts that a partition searches. -/
def span (n : Identity) : Span := ⟨n.followersMin.getD 0, n.followersMax⟩

def bucketSpan (bucket : FollowerBucket) : Span := ⟨bucket.min, bucket.max⟩

@[simp] theorem group_childIdentity (parentId : Nat) (parent : Identity) (bound : Bounds)
    (index : Nat) : group (childIdentity parentId parent bound index) = group parent := rfl

@[simp] theorem span_lowerChild (parentId : Nat) (parent : Identity) (lo hi : Nat) :
    span (lowerChild parentId parent lo hi) = lowerHalf lo hi := rfl

@[simp] theorem span_upperChild (parentId : Nat) (parent : Identity) (lo hi : Nat) :
    span (upperChild parentId parent lo hi) = upperHalf lo hi := rfl

@[simp] theorem span_seedIdentity (pair : String × String) (bucket : FollowerBucket)
    (gmv : GmvBucket) (position : Nat) :
    span (seedIdentity pair bucket gmv position) = bucketSpan bucket := rfl

/-- A seed of some decimal category ids. -/
def IsSeed (n : Identity) : Prop :=
  ∃ pair bucket gmv position, Decimal pair.1 ∧ Decimal pair.2 ∧ bucket ∈ FOLLOWER_BUCKETS ∧
    gmv ∈ GMV_BUCKETS ∧ n = seedIdentity pair bucket gmv position

/-- A range that the rules allow to divide: each half has the minimum width of the range. -/
structure Splittable (rules : FollowerWidthRules) (n : Identity) (lo hi : Nat) : Prop where
  min : n.followersMin = some lo
  max : n.followersMax = some hi
  floor : CREATOR_FOLLOWER_HARD_FLOOR ≤ lo
  lt : lo < hi
  wide : minimumFollowerWidth lo rules * 2 ≤ hi + 1 - lo

theorem Splittable.span {rules : FollowerWidthRules} {n : Identity} {lo hi : Nat}
    (h : Splittable rules n lo hi) : span n = ⟨lo, some hi⟩ := by
  simp [partition_forest.span, h.min, h.max]

theorem one_le_minimumFollowerWidth (lo : Nat) (rules : FollowerWidthRules) :
    1 ≤ minimumFollowerWidth lo rules := by
  obtain ⟨h1, h2, h3, h4, h5⟩ := rules.admitted
  unfold minimumFollowerWidth
  split_ifs <;> assumption

/-- `splitFollowerRange` gives the two halves, where the range is wide enough. -/
theorem splitFollowerRange_eq_some {lo : Nat} {max : Option Nat} {rules : FollowerWidthRules}
    {bounds : Bounds × Bounds} :
    splitFollowerRange lo max rules = some bounds ↔
      ∃ hi, max = some hi ∧ CREATOR_FOLLOWER_HARD_FLOOR ≤ lo ∧ lo < hi ∧
        minimumFollowerWidth lo rules * 2 ≤ hi + 1 - lo ∧
        bounds = (lowerHalfBounds lo hi, upperHalfBounds lo hi) := by
  have hone := one_le_minimumFollowerWidth lo rules
  unfold splitFollowerRange binaryFollowerRange inclusiveFollowerWidth
  cases max with
  | none => simp
  | some hi =>
    simp only [Bool.or_eq_true, decide_eq_true_eq, Option.some.injEq, exists_eq_left']
    by_cases hrange : lo < CREATOR_FOLLOWER_HARD_FLOOR ∨ hi < lo
    · rw [if_pos hrange]
      constructor
      · intro h
        cases h
      · rintro ⟨h1, h2, _⟩
        omega
    · rw [if_neg hrange]
      by_cases hwide : hi - lo + 1 < minimumFollowerWidth lo rules * 2
      · simp only [if_pos hwide]
        constructor
        · intro h
          cases h
        · rintro ⟨_, _, h3, _⟩
          omega
      · simp only [if_neg hwide]
        rw [if_neg (by omega), Option.some.injEq]
        unfold lowerHalfBounds upperHalfBounds
        constructor
        · intro h
          exact ⟨by omega, by omega, by omega, h.symm⟩
        · rintro ⟨_, _, _, h⟩
          exact h.symm

/-- Only a range that can be divided is expanded, and only once. -/
theorem follower_of_adaptiveExpansion {input : ExpansionInput} {rules : FollowerWidthRules}
    {deepMinimumYield : ℚ} {bounds : Bounds × Bounds} {reason : String}
    (h : adaptiveExpansion input rules deepMinimumYield = .FOLLOWER bounds reason) :
    splitFollowerRange input.followersMin input.followersMax rules = some bounds ∧
      input.followerSplitExplored = false ∧
      isSpecificGmvPartition input.gmvBucket input.gmvRange = true := by
  unfold adaptiveExpansion at h
  cases hsplit : splitFollowerRange input.followersMin input.followersMax rules with
  | none => grind
  | some bounds =>
    simp only [hsplit] at h
    grind

/-! ## The follower buckets -/

/-- Two buckets are one, or one of them ends below the other. -/
theorem buckets_apart : ∀ b ∈ FOLLOWER_BUCKETS, ∀ b' ∈ FOLLOWER_BUCKETS,
    b = b' ∨ b.max.any (fun m => decide (m < b'.min)) = true ∨
      b'.max.any (fun m => decide (m < b.min)) = true := by
  decide +kernel

theorem eq_of_buckets_meet {b b' : FollowerBucket} (hb : b ∈ FOLLOWER_BUCKETS)
    (hb' : b' ∈ FOLLOWER_BUCKETS) (h : (bucketSpan b).Meets (bucketSpan b')) : b = b' := by
  obtain ⟨n, ⟨hlo, hhi⟩, hlo', hhi'⟩ := h
  rcases buckets_apart b hb b' hb' with heq | hbelow | habove
  · exact heq
  · rw [Option.any_eq_true] at hbelow
    obtain ⟨m, hm, hlt⟩ := hbelow
    have := hhi m hm
    simp only [bucketSpan, decide_eq_true_eq] at *
    omega
  · rw [Option.any_eq_true] at habove
    obtain ⟨m, hm, hlt⟩ := habove
    have := hhi' m hm
    simp only [bucketSpan, decide_eq_true_eq] at *
    omega

/-- Every count from the floor on is in a bucket. -/
theorem exists_bucket {n : Nat} (h : CREATOR_FOLLOWER_HARD_FLOOR ≤ n) :
    ∃ b ∈ FOLLOWER_BUCKETS, (bucketSpan b).Has n := by
  unfold CREATOR_FOLLOWER_HARD_FLOOR at h
  simp only [FOLLOWER_BUCKETS, List.mem_cons, List.not_mem_nil, or_false, exists_eq_or_imp,
    exists_eq_left, bucketSpan, Span.has_some, Span.has_none]
  omega

theorem bucket_has_min (b : FollowerBucket) (hb : b ∈ FOLLOWER_BUCKETS) :
    (bucketSpan b).Has b.min := by
  revert b
  simp [FOLLOWER_BUCKETS, bucketSpan, Span.has_some, Span.has_none]

/-! ## Forests -/

structure Node where
  identity : Identity
  split : Bool
  deriving DecidableEq, Repr

@[ext] structure Forest where
  node : Nat → Option Node
  next : Nat

def Forest.empty : Forest := ⟨fun _ => none, 0⟩

def Forest.plant (F : Forest) (s : Identity) : Forest :=
  ⟨fun i => if i = F.next then some ⟨s, false⟩ else F.node i, F.next + 1⟩

def Forest.divide (F : Forest) (i : Nat) (n : Identity) (lo hi : Nat) : Forest :=
  ⟨fun j =>
    if j = i then some ⟨n, true⟩
    else if j = F.next then some ⟨lowerChild i n lo hi, false⟩
    else if j = F.next + 1 then some ⟨upperChild i n lo hi, false⟩
    else F.node j, F.next + 2⟩

/-- No node has the key. -/
def Forest.KeyNew (F : Forest) (key : String) : Prop :=
  ∀ i n, F.node i = some n → n.identity.partitionKey ≠ key

inductive Divides (rules : FollowerWidthRules) : Forest → Forest → Prop
  | divide (F : Forest) (i : Nat) (n : Identity) (lo hi : Nat)
      (hnode : F.node i = some ⟨n, false⟩) (hsplit : Splittable rules n lo hi) :
      Divides rules F (F.divide i n lo hi)

inductive Grows (rules : FollowerWidthRules) : Forest → Forest → Prop
  | plant (F : Forest) (s : Identity) (hseed : IsSeed s) (hnew : F.KeyNew s.partitionKey) :
      Grows rules F (F.plant s)
  | divide (F F' : Forest) (h : Divides rules F F') : Grows rules F F'

/-- The ranges of one group. -/
def cells (F : Forest) (g : Option String × Option String × Option GmvBucketCode) (i : Nat) :
    Option Cell :=
  (F.node i).bind (fun n => if group n.identity = g then some ⟨span n.identity, n.split⟩ else none)

theorem cells_eq_some {F : Forest} {g : Option String × Option String × Option GmvBucketCode}
    {i : Nat} {c : Cell} :
    cells F g i = some c ↔
      ∃ n, F.node i = some n ∧ group n.identity = g ∧ c = ⟨span n.identity, n.split⟩ := by
  unfold cells
  rw [Option.bind_eq_some_iff]
  constructor
  · rintro ⟨n, hn, h⟩
    by_cases hg : group n.identity = g
    · rw [if_pos hg, Option.some.injEq] at h
      exact ⟨n, hn, hg, h.symm⟩
    · rw [if_neg hg] at h
      cases h
  · rintro ⟨n, hn, hg, rfl⟩
    exact ⟨n, hn, by rw [if_pos hg]⟩

/-- What holds of every forest that grows from nothing. -/
structure Tiled (rules : FollowerWidthRules) (F : Forest) : Prop where
  fresh : ∀ i n, F.node i = some n → i < F.next
  keys : ∀ i j n m, F.node i = some n → F.node j = some m →
    n.identity.partitionKey = m.identity.partitionKey → i = j
  /-- A node is a seed, or a half of a divided parent. -/
  origin : ∀ i n, F.node i = some n → IsSeed n.identity ∨
    ∃ j m lo hi, F.node j = some ⟨m, true⟩ ∧ Splittable rules m lo hi ∧
      (n.identity = lowerChild j m lo hi ∨ n.identity = upperChild j m lo hi)
  /-- A divided node has both its halves. -/
  halves : ∀ i n, F.node i = some ⟨n, true⟩ → ∃ lo hi, Splittable rules n lo hi ∧
    (∃ j b, F.node j = some ⟨lowerChild i n lo hi, b⟩) ∧
    ∃ j b, F.node j = some ⟨upperChild i n lo hi, b⟩
  nested : ∀ g, Nested (cells F g)
  /-- A range is inside the range of a seed of its group. -/
  rooted : ∀ i n, F.node i = some n → ∃ j s b, F.node j = some ⟨s, b⟩ ∧ IsSeed s ∧
    group s = group n.identity ∧ (span n.identity).Inside (span s)

section Laws

variable {rules : FollowerWidthRules} {F F' : Forest}

theorem tiled_empty : Tiled rules Forest.empty where
  fresh i n h := by cases h
  keys i j n m h := by cases h
  origin i n h := by cases h
  halves i n h := by cases h
  nested g i j a b h := by
    obtain ⟨n, hn, _⟩ := cells_eq_some.1 h
    cases hn
  rooted i n h := by cases h

theorem IsSeed.group_ne_none {s : Identity} (h : IsSeed s) :
    ∃ parent child gmv, Decimal parent ∧ Decimal child ∧
      group s = (some parent, some child, some gmv) := by
  obtain ⟨pair, bucket, gmv, position, hp, hc, _, _, rfl⟩ := h
  exact ⟨pair.1, pair.2, gmv.code, hp, hc, rfl⟩

/-- Seeds of one group that meet are one: they have one key. -/
theorem key_of_seeds_meet {s t : Identity} (hs : IsSeed s) (ht : IsSeed t)
    (hgroup : group s = group t) (hmeet : (span s).Meets (span t)) :
    s.partitionKey = t.partitionKey := by
  obtain ⟨pair, bucket, gmv, position, _, _, hb, _, rfl⟩ := hs
  obtain ⟨pair', bucket', gmv', position', _, _, hb', _, rfl⟩ := ht
  obtain rfl := eq_of_buckets_meet hb hb' hmeet
  simp only [group, seedIdentity, Prod.mk.injEq, Option.some.injEq] at hgroup
  obtain ⟨h1, h2, h3⟩ := hgroup
  simp only [seedIdentity, h1, h2, h3]

/-- A seed that meets a bucket has the range of that bucket. -/
theorem span_of_seed_meets {s : Identity} (hs : IsSeed s) {bucket : FollowerBucket}
    (hbucket : bucket ∈ FOLLOWER_BUCKETS) (hmeet : (span s).Meets (bucketSpan bucket)) :
    span s = bucketSpan bucket := by
  obtain ⟨pair, bucket', gmv, position, _, _, hb, _, rfl⟩ := hs
  obtain rfl := eq_of_buckets_meet hb hbucket hmeet
  rfl

/-- A seed whose key is new meets nothing of its group. -/
theorem apart_of_keyNew (h : Tiled rules F) {s : Identity} (hseed : IsSeed s)
    (hnew : F.KeyNew s.partitionKey) {i : Nat} {n : Node} (hn : F.node i = some n)
    (hgroup : group n.identity = group s) : ¬ (span n.identity).Meets (span s) := by
  intro hmeet
  obtain ⟨j, root, b, hroot, hrootseed, hrootgroup, hinside⟩ := h.rooted i n hn
  have hkey := key_of_seeds_meet hrootseed hseed (hrootgroup.trans hgroup)
    (hmeet.of_inside hinside)
  exact hnew j _ hroot hkey

/-- The children of an undivided node have new keys. -/
theorem keyNew_children (h : Tiled rules F) {i : Nat} {n : Identity}
    (hn : F.node i = some ⟨n, false⟩) (min max : Nat) :
    F.KeyNew (adaptiveFollowerPartitionKey n.partitionKey min max) := by
  intro j m hm hkey
  rcases h.origin j m hm with ⟨pair, bucket, gmv, position, _, _, _, _, hseed⟩ |
    ⟨k, parent, lo, hi, hparent, hsplit, hchild⟩
  · simp only [hseed, seedIdentity] at hkey
    exact adaptiveKey_ne_partitionKeyV2 hkey.symm
  · -- the parent has the key of the node, so it is the node, which is not divided
    have hparentkey : parent.partitionKey = n.partitionKey := by
      rcases hchild with hchild | hchild
      · rw [hchild] at hkey
        exact (adaptiveFollowerPartitionKey_inj hkey).1
      · rw [hchild] at hkey
        exact (adaptiveFollowerPartitionKey_inj hkey).1
    have hki := h.keys k i _ _ hparent hn hparentkey
    rw [hki, hn] at hparent
    cases hparent

theorem tiled_plant (h : Tiled rules F) {s : Identity} (hseed : IsSeed s)
    (hnew : F.KeyNew s.partitionKey) : Tiled rules (F.plant s) := by
  have hcases : ∀ i n, (F.plant s).node i = some n →
      (i = F.next ∧ n = ⟨s, false⟩) ∨ (i ≠ F.next ∧ F.node i = some n) := by
    intro i n hn
    unfold Forest.plant at hn
    dsimp only at hn
    by_cases hi : i = F.next
    · rw [if_pos hi, Option.some.injEq] at hn
      exact Or.inl ⟨hi, hn.symm⟩
    · rw [if_neg hi] at hn
      exact Or.inr ⟨hi, hn⟩
  have hold : ∀ i n, F.node i = some n → (F.plant s).node i = some n := by
    intro i n hn
    have hne : i ≠ F.next := (h.fresh i n hn).ne
    simp [Forest.plant, hne, hn]
  have hself : (F.plant s).node F.next = some ⟨s, false⟩ := by simp [Forest.plant]
  refine ⟨?_, ?_, ?_, ?_, ?_, ?_⟩
  · intro i n hn
    rcases hcases i n hn with ⟨rfl, _⟩ | ⟨_, hn⟩
    · exact Nat.lt_succ_self _
    · exact Nat.lt_succ_of_lt (h.fresh i n hn)
  · intro i j n m hn hm hkey
    rcases hcases i n hn with ⟨rfl, rfl⟩ | ⟨_, hn⟩ <;> rcases hcases j m hm with ⟨rfl, rfl⟩ | ⟨_, hm⟩
    · rfl
    · exact absurd hkey.symm (hnew j m hm)
    · exact absurd hkey (hnew i n hn)
    · exact h.keys i j n m hn hm hkey
  · intro i n hn
    rcases hcases i n hn with ⟨_, rfl⟩ | ⟨_, hn⟩
    · exact Or.inl hseed
    · rcases h.origin i n hn with hroot | ⟨j, m, lo, hi, hm, hrest⟩
      · exact Or.inl hroot
      · exact Or.inr ⟨j, m, lo, hi, hold j _ hm, hrest⟩
  · intro i n hn
    rcases hcases i _ hn with ⟨_, heq⟩ | ⟨_, hn⟩
    · cases heq
    · obtain ⟨lo, hi, hsplit, ⟨j, b, hl⟩, k, c, hu⟩ := h.halves i n hn
      exact ⟨lo, hi, hsplit, ⟨j, b, hold j _ hl⟩, k, c, hold k _ hu⟩
  · intro g
    by_cases hg : group s = g
    · have hcells : cells (F.plant s) g = add (cells F g) F.next (span s) := by
        funext i
        unfold cells add Forest.plant
        dsimp only
        by_cases hi : i = F.next
        · simp [hi, hg]
        · simp [hi]
      rw [hcells]
      apply nested_add (h.nested g)
      intro i a ha
      obtain ⟨n, hn, hgroup, rfl⟩ := cells_eq_some.1 ha
      exact apart_of_keyNew h hseed hnew hn (hgroup.trans hg.symm)
    · have hcells : cells (F.plant s) g = cells F g := by
        funext i
        unfold cells Forest.plant
        dsimp only
        by_cases hi : i = F.next
        · have hnone : F.node F.next = none := by
            cases hn : F.node F.next with
            | none => rfl
            | some n => exact absurd (h.fresh _ n hn) (lt_irrefl _)
          simp [hi, hg, hnone]
        · simp [hi]
      rw [hcells]
      exact h.nested g
  · intro i n hn
    rcases hcases i n hn with ⟨_, rfl⟩ | ⟨_, hn⟩
    · exact ⟨F.next, s, false, hself, hseed, rfl, fun _ hin => hin⟩
    · obtain ⟨j, root, b, hroot, hrest⟩ := h.rooted i n hn
      exact ⟨j, root, b, hold j _ hroot, hrest⟩

theorem tiled_divide (h : Tiled rules F) {i : Nat} {n : Identity} {lo hi : Nat}
    (hnode : F.node i = some ⟨n, false⟩) (hsplit : Splittable rules n lo hi) :
    Tiled rules (F.divide i n lo hi) := by
  have hlt : i < F.next := h.fresh i _ hnode
  have hcases : ∀ j m, (F.divide i n lo hi).node j = some m →
      (j = i ∧ m = ⟨n, true⟩) ∨ (j = F.next ∧ m = ⟨lowerChild i n lo hi, false⟩) ∨
      (j = F.next + 1 ∧ m = ⟨upperChild i n lo hi, false⟩) ∨ (j ≠ i ∧ F.node j = some m) := by
    intro j m hm
    unfold Forest.divide at hm
    dsimp only at hm
    by_cases h1 : j = i
    · rw [if_pos h1, Option.some.injEq] at hm
      exact Or.inl ⟨h1, hm.symm⟩
    · rw [if_neg h1] at hm
      by_cases h2 : j = F.next
      · rw [if_pos h2, Option.some.injEq] at hm
        exact Or.inr (Or.inl ⟨h2, hm.symm⟩)
      · rw [if_neg h2] at hm
        by_cases h3 : j = F.next + 1
        · rw [if_pos h3, Option.some.injEq] at hm
          exact Or.inr (Or.inr (Or.inl ⟨h3, hm.symm⟩))
        · rw [if_neg h3] at hm
          exact Or.inr (Or.inr (Or.inr ⟨h1, hm⟩))
  have hself : (F.divide i n lo hi).node i = some ⟨n, true⟩ := by simp [Forest.divide]
  have hlower : (F.divide i n lo hi).node F.next = some ⟨lowerChild i n lo hi, false⟩ := by
    simp [Forest.divide, hlt.ne']
  have hupper : (F.divide i n lo hi).node (F.next + 1) = some ⟨upperChild i n lo hi, false⟩ := by
    have hne : F.next + 1 ≠ i := by omega
    simp [Forest.divide, hne]
  have hold : ∀ j m, F.node j = some m →
      ∃ b, (F.divide i n lo hi).node j = some ⟨m.identity, b⟩ ∧ (m.split = true → b = true) := by
    intro j m hm
    have hj := h.fresh j m hm
    by_cases hji : j = i
    · subst hji
      rw [hnode, Option.some.injEq] at hm
      subst hm
      exact ⟨true, hself, fun _ => rfl⟩
    · have h2 : j ≠ F.next := by omega
      have h3 : j ≠ F.next + 1 := by omega
      exact ⟨m.split, by simp [Forest.divide, hji, h2, h3, hm], id⟩
  have hkeylow := keyNew_children h hnode lo ((lo + hi) / 2)
  have hkeyup := keyNew_children h hnode ((lo + hi) / 2 + 1) hi
  -- the two halves have two keys
  have hapart : (lowerChild i n lo hi).partitionKey ≠ (upperChild i n lo hi).partitionKey := by
    intro heq
    have hmin := (adaptiveFollowerPartitionKey_inj heq).2.1
    have hrange := hsplit.lt
    simp only [lowerHalfBounds, upperHalfBounds] at hmin
    omega
  refine ⟨?_, ?_, ?_, ?_, ?_, ?_⟩
  · intro j m hm
    have hnext : (F.divide i n lo hi).next = F.next + 2 := rfl
    rcases hcases j m hm with ⟨rfl, _⟩ | ⟨rfl, _⟩ | ⟨rfl, _⟩ | ⟨_, hm⟩
    · omega
    · omega
    · omega
    · have := h.fresh j m hm
      omega
  · intro j k m m' hm hm' hkey
    rcases hcases j m hm with ⟨rfl, rfl⟩ | ⟨rfl, rfl⟩ | ⟨rfl, rfl⟩ | ⟨_, hj⟩ <;>
      rcases hcases k m' hm' with ⟨rfl, rfl⟩ | ⟨rfl, rfl⟩ | ⟨rfl, rfl⟩ | ⟨_, hk⟩
    · rfl
    · exact absurd hkey (hkeylow j ⟨n, false⟩ hnode)
    · exact absurd hkey (hkeyup j ⟨n, false⟩ hnode)
    · exact h.keys j k ⟨n, false⟩ _ hnode hk hkey
    · exact absurd hkey.symm (hkeylow k ⟨n, false⟩ hnode)
    · rfl
    · exact absurd hkey hapart
    · exact absurd hkey.symm (hkeylow k _ hk)
    · exact absurd hkey.symm (hkeyup k ⟨n, false⟩ hnode)
    · exact absurd hkey.symm hapart
    · rfl
    · exact absurd hkey.symm (hkeyup k _ hk)
    · exact h.keys j k _ ⟨n, false⟩ hj hnode hkey
    · exact absurd hkey (hkeylow j _ hj)
    · exact absurd hkey (hkeyup j _ hj)
    · exact h.keys j k _ _ hj hk hkey
  · intro j m hm
    have horigin : ∀ k m', F.node k = some m' → m'.identity = m.identity →
        IsSeed m.identity ∨ ∃ j m' lo' hi', (F.divide i n lo hi).node j = some ⟨m', true⟩ ∧
          Splittable rules m' lo' hi' ∧ (m.identity = lowerChild j m' lo' hi' ∨
            m.identity = upperChild j m' lo' hi') := by
      intro k m' hm' heq
      rcases h.origin k m' hm' with hseed | ⟨j, parent, lo', hi', hparent, hrest⟩
      · exact Or.inl (heq ▸ hseed)
      · obtain ⟨b, hb, htrue⟩ := hold j _ hparent
        rw [htrue rfl] at hb
        exact Or.inr ⟨j, parent, lo', hi', hb, heq ▸ hrest⟩
    rcases hcases j m hm with ⟨rfl, rfl⟩ | ⟨_, rfl⟩ | ⟨_, rfl⟩ | ⟨_, hm⟩
    · exact horigin j _ hnode rfl
    · exact Or.inr ⟨i, n, lo, hi, hself, hsplit, Or.inl rfl⟩
    · exact Or.inr ⟨i, n, lo, hi, hself, hsplit, Or.inr rfl⟩
    · exact horigin j m hm rfl
  · intro j m hm
    rcases hcases j _ hm with ⟨rfl, heq⟩ | ⟨_, heq⟩ | ⟨_, heq⟩ | ⟨_, hm⟩
    · cases heq
      exact ⟨lo, hi, hsplit, ⟨F.next, false, hlower⟩, F.next + 1, false, hupper⟩
    · cases heq
    · cases heq
    · obtain ⟨lo', hi', hsplit', ⟨k, b, hl⟩, k', b', hu⟩ := h.halves j m hm
      obtain ⟨c, hc, _⟩ := hold k _ hl
      obtain ⟨c', hc', _⟩ := hold k' _ hu
      exact ⟨lo', hi', hsplit', ⟨k, c, hc⟩, k', c', hc'⟩
  · intro g
    by_cases hg : group n = g
    · have hcell : cells F g i = some ⟨⟨lo, some hi⟩, false⟩ :=
        cells_eq_some.2 ⟨_, hnode, hg, by rw [hsplit.span]⟩
      have hcells : cells (F.divide i n lo hi) g =
          divide (cells F g) i F.next (F.next + 1) lo hi := by
        funext j
        unfold cells divide Forest.divide
        dsimp only
        split_ifs <;> simp [hg, hsplit.span, lowerChild, upperChild] <;> rfl
      rw [hcells]
      exact nested_divide (h.nested g) hcell hsplit.lt
    · have hcells : cells (F.divide i n lo hi) g = cells F g := by
        have hnone : ∀ j, F.next ≤ j → F.node j = none := by
          intro j hj
          cases hn : F.node j with
          | none => rfl
          | some m => exact absurd (h.fresh j m hn) (by omega)
        funext j
        unfold cells Forest.divide
        dsimp only
        split_ifs with h1 h2 h3
        · simp [h1, hnode, hg]
        · simp [h2, hnone F.next (le_refl _), lowerChild, hg]
        · simp [h3, hnone (F.next + 1) (by omega), upperChild, hg]
        · rfl
      rw [hcells]
      exact h.nested g
  · intro j m hm
    have hroot : ∀ k m', F.node k = some m' → group m'.identity = group m.identity →
        (span m.identity).Inside (span m'.identity) → ∃ j s b,
          (F.divide i n lo hi).node j = some ⟨s, b⟩ ∧ IsSeed s ∧ group s = group m.identity ∧
          (span m.identity).Inside (span s) := by
      intro k m' hm' hgroup hinside
      obtain ⟨j, s, b, hs, hseed, hsgroup, hsinside⟩ := h.rooted k m' hm'
      obtain ⟨c, hc, _⟩ := hold j _ hs
      exact ⟨j, s, c, hc, hseed, hsgroup.trans hgroup, hinside.trans hsinside⟩
    rcases hcases j m hm with ⟨rfl, rfl⟩ | ⟨_, rfl⟩ | ⟨_, rfl⟩ | ⟨_, hm⟩
    · exact hroot j _ hnode rfl (fun _ hin => hin)
    · apply hroot i _ hnode rfl
      rw [hsplit.span]
      exact lowerHalf_inside hsplit.lt
    · apply hroot i _ hnode rfl
      rw [hsplit.span]
      exact upperHalf_inside hsplit.lt
    · exact hroot j m hm rfl (fun _ hin => hin)

theorem tiled_grows (h : Tiled rules F) (hgrows : Grows rules F F') : Tiled rules F' := by
  cases hgrows with
  | plant s hseed hnew => exact tiled_plant h hseed hnew
  | divide _ hdivides =>
    cases hdivides with
    | divide i n lo hi hnode hsplit => exact tiled_divide h hnode hsplit

theorem growth_of_divisions (h : Relation.ReflTransGen (Divides rules) F F') :
    Relation.ReflTransGen (Grows rules) F F' :=
  Relation.ReflTransGen.mono Grows.divide _ _ h

/-- The laws hold however far a forest has grown. -/
theorem tiled_growth (h : Tiled rules F) (hgrows : Relation.ReflTransGen (Grows rules) F F') :
    Tiled rules F' := by
  induction hgrows with
  | refl => exact h
  | tail _ hstep ih => exact tiled_grows ih hstep

/-- A node stays, and stays divided. -/
theorem stays (h : Tiled rules F) (hgrows : Grows rules F F') {i : Nat} {n : Node}
    (hn : F.node i = some n) :
    ∃ b, F'.node i = some ⟨n.identity, b⟩ ∧ (n.split = true → b = true) := by
  have hi := h.fresh i n hn
  cases hgrows with
  | plant s hseed hnew => exact ⟨n.split, by simp [Forest.plant, hi.ne, hn], id⟩
  | divide _ hdivides =>
    obtain ⟨j, m, lo, hi', hnode, hsplit⟩ := hdivides
    by_cases hij : i = j
    · subst hij
      rw [hnode, Option.some.injEq] at hn
      subst hn
      exact ⟨true, by simp [Forest.divide], fun _ => rfl⟩
    · have h2 : i ≠ F.next := by omega
      have h3 : i ≠ F.next + 1 := by omega
      exact ⟨n.split, by simp [Forest.divide, hij, h2, h3, hn], id⟩

theorem stays_growth (h : Tiled rules F) (hgrows : Relation.ReflTransGen (Grows rules) F F')
    {i : Nat} {n : Node} (hn : F.node i = some n) :
    ∃ b, F'.node i = some ⟨n.identity, b⟩ ∧ (n.split = true → b = true) := by
  induction hgrows with
  | refl => exact ⟨n.split, hn, id⟩
  | tail hmany hstep ih =>
    obtain ⟨b, hb, htrue⟩ := ih
    obtain ⟨c, hc, htrue'⟩ := stays (tiled_growth h hmany) hstep hb
    exact ⟨c, hc, fun hsplit => htrue' (htrue hsplit)⟩

/-- A group that has a node has the seeds of all follower buckets. -/
def Full (F : Forest) : Prop :=
  ∀ i n, F.node i = some n → ∀ bucket ∈ FOLLOWER_BUCKETS, ∃ j m, F.node j = some m ∧
    IsSeed m.identity ∧ group m.identity = group n.identity ∧
    span m.identity = bucketSpan bucket

/-- A node of a forest has the group of a node from before the division. -/
theorem group_of_divides (hdivides : Divides rules F F') {i : Nat} {n : Node}
    (hn : F'.node i = some n) : ∃ j m, F.node j = some m ∧ group m.identity = group n.identity := by
  cases hdivides with
  | divide j m lo hi hnode hsplit =>
    unfold Forest.divide at hn
    dsimp only at hn
    split_ifs at hn
    · cases hn
      exact ⟨j, _, hnode, rfl⟩
    · cases hn
      exact ⟨j, _, hnode, rfl⟩
    · cases hn
      exact ⟨j, _, hnode, rfl⟩
    · exact ⟨i, n, hn, rfl⟩

theorem full_divides (h : Tiled rules F) (hfull : Full F) (hdivides : Divides rules F F') :
    Full F' := by
  intro i n hn bucket hbucket
  obtain ⟨j, m, hm, hgroup⟩ := group_of_divides hdivides hn
  obtain ⟨k, s, hs, hseed, hsgroup, hspan⟩ := hfull j m hm bucket hbucket
  obtain ⟨b, hb, _⟩ := stays h (Grows.divide F F' hdivides) hs
  exact ⟨k, ⟨s.identity, b⟩, hb, hseed, hsgroup.trans hgroup, hspan⟩

theorem full_divisions (h : Tiled rules F) (hfull : Full F)
    (hdivides : Relation.ReflTransGen (Divides rules) F F') : Full F' := by
  induction hdivides with
  | refl => exact hfull
  | tail hmany hstep ih => exact full_divides (tiled_growth h (growth_of_divisions hmany)) ih hstep

end Laws

end tiktok_outreach.partition_forest
