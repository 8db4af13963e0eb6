-- The evidence of an observed follower range is shared out: among targets that tile
-- the follower counts every row counts once, and a target that is halved passes on
-- what it had.
import TiktokOutreach.CreatorScheduler
import TiktokOutreach.Lib.Divisions

open divisions tiktok_outreach.creator_schema tiktok_outreach.marketplace_partitions
  tiktok_outreach.creator_scheduler

namespace tiktok_outreach.follower_evidence

/-- The target ranges have each follower count from `lo` on once, in order. Only the last one is
unbounded. -/
def Tiles : Nat → List Span → Prop
  | _, [] => False
  | lo, [s] => s = ⟨lo, none⟩
  | lo, s :: t :: rest => ∃ m, s = ⟨lo, some m⟩ ∧ lo ≤ m ∧ Tiles (m + 1) (t :: rest)

/-- The weight that a target gets from the observed range. -/
def weight (lo hi : Nat) (target : Span) : ℚ :=
  followerOverlapWeight (some target.lo) target.hi (some lo) (some hi)

/-- How many follower counts of the observed range a target has. -/
def shared (lo hi : Nat) (target : Span) : Nat :=
  min (target.hi.getD hi) hi + 1 - max target.lo lo

section Weight

variable {lo hi : Nat}

theorem weight_eq (h : lo ≤ hi) (target : Span) :
    weight lo hi target = (shared lo hi target : ℚ) / (hi + 1 - lo : Nat) := by
  unfold weight shared followerOverlapWeight
  dsimp only
  have hwidth : ((hi : ℚ) - lo + 1) = ((hi + 1 - lo : Nat) : ℚ) := by
    rw [Nat.cast_sub (by omega)]
    push_cast
    ring
  rw [hwidth]
  split
  · next hempty =>
    have hnone : min (target.hi.getD hi) hi + 1 - max target.lo lo = 0 := by omega
    rw [hnone, Nat.cast_zero, zero_div]
  · next hmeet =>
    have hcount : ((min (target.hi.getD hi) hi : Nat) : ℚ) - (max target.lo lo : Nat) + 1 =
        ((min (target.hi.getD hi) hi + 1 - max target.lo lo : Nat) : ℚ) := by
      rw [Nat.cast_sub (by omega)]
      push_cast
      ring
    rw [hcount]

theorem shared_le (target : Span) : shared lo hi target ≤ hi + 1 - lo := by
  unfold shared
  omega

theorem weight_nonneg (h : lo ≤ hi) (target : Span) : 0 ≤ weight lo hi target := by
  rw [weight_eq h]
  positivity

theorem weight_le_one (h : lo ≤ hi) (target : Span) : weight lo hi target ≤ 1 := by
  rw [weight_eq h]
  have hpositive : (0 : ℚ) < (hi + 1 - lo : Nat) := by
    rw [Nat.cast_pos]
    omega
  rw [div_le_one hpositive, Nat.cast_le]
  exact shared_le target

/-- The targets share out what is left of the observed range from their start on. -/
theorem sum_shared (h : lo ≤ hi) {start : Nat} {targets : List Span} (htiles : Tiles start targets) :
    (targets.map (shared lo hi)).sum = hi + 1 - max start lo := by
  induction targets generalizing start with
  | nil => cases htiles
  | cons s rest ih =>
    cases rest with
    | nil =>
      obtain rfl : s = ⟨start, none⟩ := htiles
      simp [shared]
    | cons t rest =>
      obtain ⟨m, rfl, hle, hrest⟩ := htiles
      have hsum := ih hrest
      rw [List.map_cons, List.sum_cons, hsum]
      simp only [shared, Option.getD_some]
      omega

theorem sum_weight_eq (h : lo ≤ hi) (targets : List Span) : (targets.map (weight lo hi)).sum =
    ((targets.map (shared lo hi)).sum : Nat) / (hi + 1 - lo : Nat) := by
  induction targets with
  | nil => simp
  | cons s rest ih =>
    rw [List.map_cons, List.sum_cons, List.map_cons, List.sum_cons, ih, weight_eq h,
      Nat.cast_add, add_div]

theorem sum_weight (h : lo ≤ hi) {start : Nat} (hstart : start ≤ lo) {targets : List Span}
    (htiles : Tiles start targets) : (targets.map (weight lo hi)).sum = 1 := by
  have hwidth : ((hi + 1 - lo : Nat) : ℚ) ≠ 0 := by
    rw [Nat.cast_ne_zero]
    omega
  rw [sum_weight_eq h, sum_shared h htiles, max_eq_right hstart]
  exact div_self hwidth

end Weight

theorem of_binaryFollowerRange {min : Nat} {max : Option Nat} {a b : Bounds}
    (h : binaryFollowerRange min max = some (a, b)) :
    ∃ m, max = some m ∧ min < m ∧ a = ⟨min, (min + m) / 2⟩ ∧ b = ⟨(min + m) / 2 + 1, m⟩ := by
  unfold binaryFollowerRange at h
  split at h
  · next width m hwidth =>
    unfold inclusiveFollowerWidth at hwidth
    dsimp only at hwidth
    split at hwidth
    · cases hwidth
    next hrange =>
    simp only [Bool.or_eq_true, decide_eq_true_eq, not_or] at hrange
    split at h
    · cases h
    next hwide =>
    cases hwidth
    cases h
    exact ⟨m, rfl, by omega, rfl, rfl⟩
  · cases h

/-- A target gets as much as its two halves. -/
theorem weight_halves {lo hi : Nat} (h : lo ≤ hi) {min : Nat} {max : Option Nat} {a b : Bounds}
    (hhalves : binaryFollowerRange min max = some (a, b)) :
    weight lo hi ⟨min, max⟩ = weight lo hi ⟨a.min, some a.max⟩ + weight lo hi ⟨b.min, some b.max⟩ := by
  obtain ⟨m, rfl, hlt, rfl, rfl⟩ := of_binaryFollowerRange hhalves
  rw [weight_eq h, weight_eq h, weight_eq h, ← add_div, ← Nat.cast_add]
  congr 2
  simp only [shared, Option.getD_some]
  omega

/-- The weights that targets get from a bounded range that was observed are shares of it, and
together the whole of it. A target that is halved passes on its share. -/
theorem follower_evidence_is_conserved {targets : List Span}
    (htiles : Tiles CREATOR_FOLLOWER_HARD_FLOOR targets) {lo hi : Nat}
    (hfloor : CREATOR_FOLLOWER_HARD_FLOOR ≤ lo) (h : lo ≤ hi) :
    (∀ target ∈ targets, 0 ≤ weight lo hi target ∧ weight lo hi target ≤ 1) ∧
      (targets.map (weight lo hi)).sum = 1 ∧
      ∀ min max a b, binaryFollowerRange min max = some (a, b) →
        weight lo hi ⟨min, max⟩ =
          weight lo hi ⟨a.min, some a.max⟩ + weight lo hi ⟨b.min, some b.max⟩ := by
  refine ⟨?_, sum_weight h hfloor htiles, ?_⟩
  · intro target _
    exact ⟨weight_nonneg h target, weight_le_one h target⟩
  · intro min max a b hhalves
    exact weight_halves h hhalves

/-- The buckets that a crawl starts from. -/
theorem tiles_buckets : Tiles CREATOR_FOLLOWER_HARD_FLOOR
    (FOLLOWER_BUCKETS.map (fun bucket => ⟨bucket.min, bucket.max⟩)) := by
  simp [FOLLOWER_BUCKETS, Tiles, CREATOR_FOLLOWER_HARD_FLOOR]

theorem the_buckets_share_out_a_range : ((FOLLOWER_BUCKETS.map (fun bucket =>
    (⟨bucket.min, bucket.max⟩ : Span))).map (weight 700 1200)).sum = 1 :=
  (follower_evidence_is_conserved tiles_buckets (by decide) (by decide)).2.1

end tiktok_outreach.follower_evidence
