-- Follower ranges tile: whatever was planted and split so far, the two children
-- of a split partition share out its range, and the partitions of a combination
-- that are not split have every follower count once.
import TiktokOutreach.ForestRuns

open tables transactions runs separated divisions tiktok_outreach.creator_schema
  tiktok_outreach.marketplace_partitions tiktok_outreach.creator_scheduler
  tiktok_outreach.adaptive_queue tiktok_outreach.creator_commands tiktok_outreach.partition_forest
  tiktok_outreach.queue_growth tiktok_outreach.forest_runs Relation

namespace tiktok_outreach.follower_tiling

/-- The partition searches for creators with this follower count. -/
def Covers (p : CreatorSearchPartition) (n : Nat) : Prop :=
  ∃ min, p.followersMin = some min ∧ min ≤ n ∧ ∀ max, p.followersMax = some max → n ≤ max

/-- Two partitions share out the range of a third one. -/
structure SharedOut (rules : FollowerWidthRules) (parent lower upper : CreatorSearchPartition) :
    Prop where
  nonempty : (∃ n, Covers lower n) ∧ ∃ n, Covers upper n
  contiguous : ∃ mid, lower.followersMax = some mid ∧ upper.followersMin = some (mid + 1)
  disjoint : ∀ n, ¬ (Covers lower n ∧ Covers upper n)
  union : ∀ n, Covers parent n ↔ Covers lower n ∨ Covers upper n
  /-- Both have the minimum width of the range. -/
  wide : ∃ min lowerMin upperMin lowerWidth upperWidth, parent.followersMin = some min ∧
    lower.followersMin = some lowerMin ∧ upper.followersMin = some upperMin ∧
    inclusiveFollowerWidth lowerMin lower.followersMax = some lowerWidth ∧
    inclusiveFollowerWidth upperMin upper.followersMax = some upperWidth ∧
    minimumFollowerWidth min rules ≤ lowerWidth ∧ minimumFollowerWidth min rules ≤ upperWidth

/-- Every split partition has two children, which share out its range, and no others. -/
def SplitsTile (rules : FollowerWidthRules) (db : Db) : Prop :=
  ∀ i parent, db.partitions.get i = some parent → parent.followerSplitExplored = true →
    ∃ j lower k upper, j ≠ k ∧ db.partitions.get j = some lower ∧
      db.partitions.get k = some upper ∧ SharedOut rules parent lower upper ∧
      ∀ l child, db.partitions.get l = some child →
        (child.parentPartitionId = some i ↔ l = j ∨ l = k)

/-- The partitions are of one parent category, child category and GMV bucket. -/
def SameCombination (p q : CreatorSearchPartition) : Prop :=
  p.categoryId = q.categoryId ∧ p.categoryChildId = q.categoryChildId ∧ p.gmvBucket = q.gmvBucket

/-- Every combination that has a seed has each follower count from 600 on in one partition that
is not split. -/
def CombinationsTile (db : Db) : Prop :=
  ∀ i seed, db.partitions.get i = some seed → seed.partitionType = .V2_SEED →
    ∀ n, CREATOR_FOLLOWER_HARD_FLOOR ≤ n → ∃! j, ∃ p, db.partitions.get j = some p ∧
      SameCombination p seed ∧ p.followerSplitExplored = false ∧ Covers p n

section Rows

variable {rules : FollowerWidthRules} {db : Db}

theorem followersMin_of_tiled (h : Tiled rules (forest db)) {i : Nat} {p : CreatorSearchPartition}
    (hp : db.partitions.get i = some p) : ∃ min, p.followersMin = some min := by
  rcases h.origin i _ (node_of_get hp) with ⟨pair, bucket, gmv, position, _, _, _, _, heq⟩ |
    ⟨j, m, lo, hi, _, _, heq | heq⟩
  · exact ⟨_, congrArg Identity.followersMin heq⟩
  · exact ⟨_, congrArg Identity.followersMin heq⟩
  · exact ⟨_, congrArg Identity.followersMin heq⟩

theorem covers_iff (h : Tiled rules (forest db)) {i n : Nat} {p : CreatorSearchPartition}
    (hp : db.partitions.get i = some p) : Covers p n ↔ (span (identity p)).Has n := by
  obtain ⟨min, hmin⟩ := followersMin_of_tiled h hp
  simp [Covers, span, identity, Span.Has, hmin]

theorem sameCombination_iff {p q : CreatorSearchPartition} :
    SameCombination p q ↔ group (identity p) = group (identity q) := by
  simp [SameCombination, group, identity]

/-- A child of a divided partition is one of its halves. -/
theorem half_of_child (h : Tiled rules (forest db)) {i l : Nat} {n : Identity}
    {child : CreatorSearchPartition} (hn : (forest db).node i = some ⟨n, true⟩)
    (hchild : db.partitions.get l = some child) (hparent : child.parentPartitionId = some i)
    {lo hi : Nat} (hsplit : Splittable rules n lo hi) :
    identity child = lowerChild i n lo hi ∨ identity child = upperChild i n lo hi := by
  rcases h.origin l _ (node_of_get hchild) with ⟨pair, bucket, gmv, position, _, _, _, _, heq⟩ |
    ⟨j, m, lo', hi', hm, hsplit', heq⟩
  · have hnone : child.parentPartitionId = none := congrArg Identity.parentPartitionId heq
    rw [hnone] at hparent
    cases hparent
  · have hji : child.parentPartitionId = some j := by
      rcases heq with heq | heq <;> exact congrArg Identity.parentPartitionId heq
    rw [hparent, Option.some.injEq] at hji
    subst hji
    rw [hn, Option.some.injEq, Node.mk.injEq] at hm
    obtain ⟨rfl, _⟩ := hm
    have hlo := hsplit.min.symm.trans hsplit'.min
    have hhi := hsplit.max.symm.trans hsplit'.max
    rw [Option.some.injEq] at hlo hhi
    subst hlo hhi
    exact heq

theorem inclusiveFollowerWidth_some {lo hi : Nat} (hfloor : CREATOR_FOLLOWER_HARD_FLOOR ≤ lo)
    (hle : lo ≤ hi) : inclusiveFollowerWidth lo (some hi) = some (hi - lo + 1) := by
  have hrange : ¬ (lo < CREATOR_FOLLOWER_HARD_FLOOR ∨ hi < lo) := by omega
  simp [inclusiveFollowerWidth, hrange]

theorem splits_tile (h : Tiled rules (forest db)) : SplitsTile rules db := by
  intro i parent hparent hexplored
  have hn : (forest db).node i = some ⟨identity parent, true⟩ := by
    rw [node_of_get hparent, node, hexplored]
  obtain ⟨lo, hi, hsplit, ⟨j, b, hj⟩, k, c, hk⟩ := h.halves i _ hn
  obtain ⟨lower, hlower, hlnode⟩ := forest_node.1 hj
  obtain ⟨upper, hupper, hunode⟩ := forest_node.1 hk
  have hlid : identity lower = lowerChild i (identity parent) lo hi :=
    congrArg Node.identity hlnode
  have huid : identity upper = upperChild i (identity parent) lo hi :=
    congrArg Node.identity hunode
  have hlt := hsplit.lt
  have hfloor := hsplit.floor
  have hwide := hsplit.wide
  have hlmin : lower.followersMin = some lo := congrArg Identity.followersMin hlid
  have hlmax : lower.followersMax = some ((lo + hi) / 2) := congrArg Identity.followersMax hlid
  have humin : upper.followersMin = some ((lo + hi) / 2 + 1) :=
    congrArg Identity.followersMin huid
  have humax : upper.followersMax = some hi := congrArg Identity.followersMax huid
  have hpmin : parent.followersMin = some lo := hsplit.min
  have hpmax : parent.followersMax = some hi := hsplit.max
  refine ⟨j, lower, k, upper, ?_, hlower, hupper, ?_, ?_⟩
  · rintro rfl
    rw [hlower, Option.some.injEq] at hupper
    subst hupper
    rw [hlmin, Option.some.injEq] at humin
    omega
  · refine ⟨⟨⟨lo, ?_⟩, ⟨hi, ?_⟩⟩, ⟨_, hlmax, humin⟩, ?_, ?_, ?_⟩
    · simp only [Covers, hlmin, hlmax, Option.some.injEq, exists_eq_left', forall_eq']
      omega
    · simp only [Covers, humin, humax, Option.some.injEq, exists_eq_left', forall_eq']
      omega
    · intro n
      simp only [Covers, hlmin, hlmax, humin, humax, Option.some.injEq, exists_eq_left',
        forall_eq']
      omega
    · intro n
      simp only [Covers, hlmin, hlmax, humin, humax, hpmin, hpmax, Option.some.injEq,
        exists_eq_left', forall_eq']
      omega
    · refine ⟨lo, lo, (lo + hi) / 2 + 1, (lo + hi) / 2 - lo + 1, hi - ((lo + hi) / 2 + 1) + 1,
        hpmin, hlmin, humin, ?_, ?_, ?_, ?_⟩
      · rw [hlmax]
        exact inclusiveFollowerWidth_some hfloor (by omega)
      · rw [humax]
        exact inclusiveFollowerWidth_some (by omega) (by omega)
      · omega
      · omega
  · intro l child hchild
    constructor
    · intro hid
      rcases half_of_child h hn hchild hid hsplit with heq | heq
      · refine Or.inl (h.keys l j _ _ (node_of_get hchild) hj ?_)
        exact congrArg Identity.partitionKey heq
      · refine Or.inr (h.keys l k _ _ (node_of_get hchild) hk ?_)
        exact congrArg Identity.partitionKey heq
    · rintro (rfl | rfl)
      · rw [hlower, Option.some.injEq] at hchild
        subst hchild
        exact congrArg Identity.parentPartitionId hlid
      · rw [hupper, Option.some.injEq] at hchild
        subst hchild
        exact congrArg Identity.parentPartitionId huid

/-- Both halves of a divided cell of a group are cells of the group. -/
theorem halved (h : Tiled rules (forest db))
    (g : Option String × Option String × Option GmvBucketCode) : Halved (cells (forest db) g) := by
  intro i a ha hdivided
  obtain ⟨n, hn, hgroup, rfl⟩ := cells_eq_some.1 ha
  have hn' : (forest db).node i = some ⟨n.identity, true⟩ := by
    rw [hn]
    exact congrArg some (congrArg (Node.mk n.identity) hdivided)
  obtain ⟨lo, hi, hsplit, ⟨j, b, hj⟩, k, c, hk⟩ := h.halves i _ hn'
  exact ⟨lo, hi, hsplit.span, hsplit.lt, ⟨j, _, cells_eq_some.2 ⟨_, hj, hgroup, rfl⟩, rfl⟩,
    k, _, cells_eq_some.2 ⟨_, hk, hgroup, rfl⟩, rfl⟩

theorem combinations_tile (h : Tiled rules (forest db)) (hfull : Full (forest db)) :
    CombinationsTile db := by
  intro i seed hseed _ n hn
  obtain ⟨bucket, hbucket, hin⟩ := exists_bucket hn
  obtain ⟨j, m, hm, _, hgroup, hspan⟩ := hfull i _ (node_of_get hseed) bucket hbucket
  have hcell : cells (forest db) (group (identity seed)) j = some ⟨span m.identity, m.split⟩ :=
    cells_eq_some.2 ⟨m, hm, hgroup, rfl⟩
  obtain ⟨k, c, hc, hundivided, hhas⟩ :=
    exists_undivided (halved h (group (identity seed))) hcell (hspan ▸ hin)
  obtain ⟨q, hq, hqgroup, rfl⟩ := cells_eq_some.1 hc
  obtain ⟨p, hp, rfl⟩ := forest_node.1 hq
  refine ⟨k, ⟨p, hp, sameCombination_iff.2 hqgroup, hundivided, (covers_iff h hp).2 hhas⟩, ?_⟩
  rintro l ⟨p', hp', hsame, hunsplit, hcovers⟩
  have hcell' : cells (forest db) (group (identity seed)) l =
      some ⟨span (identity p'), p'.followerSplitExplored⟩ :=
    cells_eq_some.2 ⟨_, node_of_get hp', sameCombination_iff.1 hsame, rfl⟩
  exact undivided_unique (h.nested _) hcell' hc hunsplit hundivided ((covers_iff h hp').1 hcovers)
    hhas

end Rows

/-- In every run of the crawler's commands the follower ranges tile. -/
theorem follower_ranges_tile {env : Environment} {config : Config} {ls : List (Command × Ambient)}
    {db : Db} (hrun : CommandRun env config Db.initial ls db) :
    SplitsTile config.followerWidthRules db ∧ CombinationsTile db := by
  obtain ⟨htiled, hfull⟩ := run_grown hrun
  exact ⟨splits_tile htiled, combinations_tile htiled hfull⟩

/-- A catalog of one root category with one child. -/
def smallCatalog : List CatalogNode :=
  [⟨"1", none, true, true, 0⟩, ⟨"2", some "1", false, true, 1⟩]

theorem decimal_smallCatalog : ∀ node ∈ smallCatalog, Decimal node.categoryId := by
  intro node hnode
  unfold smallCatalog at hnode
  simp only [List.mem_cons, List.not_mem_nil, or_false] at hnode
  rcases hnode with rfl | rfl
  · exact ⟨by simp, by simp⟩
  · exact ⟨by simp, by simp⟩

/-- The run that plants the hundred seeds of the small catalog. -/
theorem follower_ranges_tile_smallCatalog : ∃ db,
    CommandRun ⟨fun _ => 0, fun _ => 1⟩ Config.defaults Db.initial
      [(.initializePartitions smallCatalog, ⟨0, 0⟩)] db ∧
    (v2BasePartitionRows smallCatalog).length = 100 ∧
    SplitsTile Config.defaults.followerWidthRules db ∧ CombinationsTile db := by
  obtain ⟨db, hok⟩ := initializePartitions_ok ⟨fun _ => 0, fun _ => 1⟩ smallCatalog Db.initial
  have hdecimal : DecimalCatalog (.initializePartitions smallCatalog) := by
    rintro catalog h
    cases h
    exact decimal_smallCatalog
  have hrun : CommandRun ⟨fun _ => 0, fun _ => 1⟩ Config.defaults Db.initial
      [(.initializePartitions smallCatalog, ⟨0, 0⟩)] db :=
    Run.cons ⟨⟨_, hok⟩, hdecimal⟩ (Run.nil db)
  exact ⟨db, hrun, by decide +kernel, follower_ranges_tile hrun⟩

end tiktok_outreach.follower_tiling
