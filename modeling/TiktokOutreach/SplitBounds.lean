-- Splitting comes to an end. The descendants of a range are counted along the
-- widths of the two halves, and each split takes one unit off what all ranges
-- that are not split have left.
import TiktokOutreach.FollowerTiling

open tables transactions runs separated divisions tiktok_outreach.creator_schema
  tiktok_outreach.marketplace_partitions tiktok_outreach.creator_scheduler
  tiktok_outreach.adaptive_queue tiktok_outreach.creator_commands tiktok_outreach.partition_forest
  tiktok_outreach.queue_growth tiktok_outreach.forest_runs tiktok_outreach.follower_tiling Relation

namespace tiktok_outreach.split_bounds

/-! ## Descendants -/

def ChildOf (db : Db) (parentId id : Nat) : Prop :=
  ∃ p, db.partitions.get id = some p ∧ p.parentPartitionId = some parentId

/-- The partitions below a partition, at any depth. -/
def descendants (db : Db) (id : Nat) : Set Nat := { j | TransGen (ChildOf db) id j }

/-- The smallest of the configured minimum widths. -/
def smallestWidth (rules : FollowerWidthRules) : Nat :=
  min rules.from600 (min rules.from1000 (min rules.from10000
    (min rules.from100000 rules.from1000000)))

theorem smallestWidth_le (rules : FollowerWidthRules) (lo : Nat) :
    smallestWidth rules ≤ minimumFollowerWidth lo rules := by
  unfold smallestWidth minimumFollowerWidth
  split_ifs <;> omega

theorem one_le_smallestWidth (rules : FollowerWidthRules) : 1 ≤ smallestWidth rules := by
  obtain ⟨h1, h2, h3, h4, h5⟩ := rules.admitted
  unfold smallestWidth
  omega

section Descendants

variable {rules : FollowerWidthRules} {db : Db} {i : Nat} {n : Identity} {b : Bool}

theorem descendants_of_no_child (h : ∀ j, ¬ ChildOf db i j) : descendants db i = ∅ := by
  rw [Set.eq_empty_iff_forall_notMem]
  intro j hj
  obtain ⟨k, hk, _⟩ := TransGen.head'_iff.1 hj
  exact h k hk

/-- What is below a partition with two children is these and what is below them. -/
theorem descendants_of_two {j k : Nat} (h : ∀ l, ChildOf db i l ↔ l = j ∨ l = k) :
    descendants db i = insert j (descendants db j) ∪ insert k (descendants db k) := by
  ext l
  have hbelow : ∀ a, ReflTransGen (ChildOf db) a l ↔ l ∈ insert a (descendants db a) := by
    intro a
    rw [reflTransGen_iff_eq_or_transGen, Set.mem_insert_iff]
    rfl
  rw [Set.mem_union, ← hbelow, ← hbelow]
  constructor
  · intro hl
    obtain ⟨a, ha, hrest⟩ := TransGen.head'_iff.1 hl
    rcases (h a).1 ha with rfl | rfl
    · exact Or.inl hrest
    · exact Or.inr hrest
  · rintro (hrest | hrest)
    · exact TransGen.head'_iff.2 ⟨j, (h j).2 (Or.inl rfl), hrest⟩
    · exact TransGen.head'_iff.2 ⟨k, (h k).2 (Or.inr rfl), hrest⟩

/-- Only a split partition has children. -/
theorem split_of_childOf (h : Tiled rules (forest db)) {j : Nat} (hchild : ChildOf db i j) :
    ∃ m, (forest db).node i = some ⟨m, true⟩ := by
  obtain ⟨p, hp, hparent⟩ := hchild
  rcases h.origin j _ (node_of_get hp) with ⟨pair, bucket, gmv, position, _, _, _, _, heq⟩ |
    ⟨k, m, lo, hi, hm, _, heq⟩
  · have hnone : p.parentPartitionId = none := congrArg Identity.parentPartitionId heq
    rw [hnone] at hparent
    cases hparent
  · have hk : p.parentPartitionId = some k := by
      rcases heq with heq | heq <;> exact congrArg Identity.parentPartitionId heq
    rw [hparent, Option.some.injEq] at hk
    subst hk
    exact ⟨m, hm⟩

/-- The children of a split partition are its two halves. -/
theorem children_of_split (h : Tiled rules (forest db))
    (hn : (forest db).node i = some ⟨n, true⟩) :
    ∃ lo hi j k, Splittable rules n lo hi ∧
      (∃ c, (forest db).node j = some ⟨lowerChild i n lo hi, c⟩) ∧
      (∃ c, (forest db).node k = some ⟨upperChild i n lo hi, c⟩) ∧
      ∀ l, ChildOf db i l ↔ l = j ∨ l = k := by
  obtain ⟨p, hp, hnode⟩ := forest_node.1 hn
  have hexplored : p.followerSplitExplored = true := congrArg Node.split hnode
  obtain ⟨lo, hi, hsplit, ⟨j, c, hj⟩, k, d, hk⟩ := h.halves i n hn
  refine ⟨lo, hi, j, k, hsplit, ⟨c, hj⟩, ⟨d, hk⟩, ?_⟩
  intro l
  constructor
  · rintro ⟨child, hchild, hparent⟩
    rcases half_of_child h hn hchild hparent hsplit with heq | heq
    · exact Or.inl (h.keys l j _ _ (node_of_get hchild) hj (congrArg Identity.partitionKey heq))
    · exact Or.inr (h.keys l k _ _ (node_of_get hchild) hk (congrArg Identity.partitionKey heq))
  · rintro (rfl | rfl)
    · obtain ⟨q, hq, hqnode⟩ := forest_node.1 hj
      exact ⟨q, hq, congrArg (fun m => m.identity.parentPartitionId) hqnode⟩
    · obtain ⟨q, hq, hqnode⟩ := forest_node.1 hk
      exact ⟨q, hq, congrArg (fun m => m.identity.parentPartitionId) hqnode⟩

/-- Two less than twice the number of smallest widths, added up over the halves. -/
theorem halves_bound {m a b : Nat} (hm : 1 ≤ m) (ha : m ≤ a) (hb : m ≤ b) :
    1 + (2 * (a / m) - 2) + (1 + (2 * (b / m) - 2)) ≤ 2 * ((a + b) / m) - 2 := by
  have ha' : 1 ≤ a / m := (Nat.one_le_div_iff hm).2 ha
  have hb' : 1 ≤ b / m := (Nat.one_le_div_iff hm).2 hb
  have hsum : a / m + b / m ≤ (a + b) / m := Nat.div_add_div_le_add_div
  omega

/-- The induction is on a bound of the width. -/
theorem descendants_bounded (h : Tiled rules (forest db)) (w : Nat) {lo hi : Nat}
    (hn : (forest db).node i = some ⟨n, b⟩) (hmin : n.followersMin = some lo)
    (hmax : n.followersMax = some hi) (hw : hi + 1 - lo ≤ w)
    (hwidth : smallestWidth rules ≤ hi + 1 - lo) :
    (descendants db i).Finite ∧
      (descendants db i).ncard ≤ 2 * ((hi + 1 - lo) / smallestWidth rules) - 2 := by
  have hone := one_le_smallestWidth rules
  induction w generalizing i n b lo hi with
  | zero => omega
  | succ w ih =>
    cases b with
    | false =>
      have hempty : descendants db i = ∅ := by
        apply descendants_of_no_child
        intro j hj
        obtain ⟨m, hm⟩ := split_of_childOf h hj
        rw [hn] at hm
        cases hm
      rw [hempty]
      exact ⟨Set.finite_empty, by simp⟩
    | true =>
      obtain ⟨lo', hi', j, k, hsplit, ⟨c, hj⟩, ⟨d, hk⟩, hchildren⟩ := children_of_split h hn
      have hlo := hmin.symm.trans hsplit.min
      have hhi := hmax.symm.trans hsplit.max
      rw [Option.some.injEq] at hlo hhi
      subst hlo hhi
      have hlt := hsplit.lt
      have hwide := hsplit.wide
      have hsmall := smallestWidth_le rules lo
      obtain ⟨hfinl, hcardl⟩ := ih hj rfl rfl
        (by simp only [lowerHalfBounds]; omega) (by simp only [lowerHalfBounds]; omega)
      obtain ⟨hfinu, hcardu⟩ := ih hk rfl rfl
        (by simp only [upperHalfBounds]; omega) (by simp only [upperHalfBounds]; omega)
      rw [descendants_of_two hchildren]
      refine ⟨(hfinl.insert j).union (hfinu.insert k), ?_⟩
      have hlower := Set.ncard_insert_le j (descendants db j)
      have hupper := Set.ncard_insert_le k (descendants db k)
      have hunion := Set.ncard_union_le (insert j (descendants db j))
        (insert k (descendants db k))
      simp only [lowerHalfBounds, upperHalfBounds] at hcardl hcardu
      have hwl : smallestWidth rules ≤ (lo + hi) / 2 + 1 - lo := by omega
      have hwu : smallestWidth rules ≤ hi + 1 - ((lo + hi) / 2 + 1) := by omega
      have hbound := halves_bound hone hwl hwu
      have hwidths : (lo + hi) / 2 + 1 - lo + (hi + 1 - ((lo + hi) / 2 + 1)) = hi + 1 - lo := by
        omega
      rw [hwidths] at hbound
      omega

theorem unbounded_not_split (h : Tiled rules (forest db)) {p : CreatorSearchPartition}
    (hp : db.partitions.get i = some p) (hmax : p.followersMax = none) :
    p.followerSplitExplored = false ∧ descendants db i = ∅ := by
  have hunsplit : p.followerSplitExplored = false := by
    by_contra hsplit
    rw [Bool.not_eq_false] at hsplit
    have hn : (forest db).node i = some ⟨identity p, true⟩ := by
      rw [node_of_get hp, node, hsplit]
    obtain ⟨lo, hi, hsplittable, _⟩ := h.halves i _ hn
    have hsome : p.followersMax = some hi := hsplittable.max
    rw [hmax] at hsome
    cases hsome
  refine ⟨hunsplit, descendants_of_no_child ?_⟩
  intro j hj
  obtain ⟨m, hm⟩ := split_of_childOf h hj
  rw [node_of_get hp, node, hunsplit] at hm
  cases hm

end Descendants

/-! ## What is left to split -/

/-- How often the range of a node can still be divided at most. -/
def slack : Option Node → Nat
  | some ⟨n, false⟩ => (span n).width - 1
  | _ => 0

def totalSlack (F : Forest) : Nat := ∑ i ∈ Finset.range F.next, slack (F.node i)

section Slack

variable {rules : FollowerWidthRules} {F F' : Forest}

/-- A division takes one unit of slack and makes two nodes. -/
theorem slack_divides (h : Tiled rules F) (hdivides : Divides rules F F') :
    F'.next = F.next + 2 ∧ totalSlack F' + 1 = totalSlack F := by
  cases hdivides with
  | divide i n lo hi hnode hsplit =>
    refine ⟨rfl, ?_⟩
    have hi' : i < F.next := h.fresh i _ hnode
    have hlt := hsplit.lt
    have hlower : slack ((F.divide i n lo hi).node F.next) = (lo + hi) / 2 - lo := by
      simp [Forest.divide, hi'.ne', slack, lowerHalf, Span.width]
      omega
    have hupper : slack ((F.divide i n lo hi).node (F.next + 1)) =
        hi - ((lo + hi) / 2 + 1) := by
      have hne : F.next + 1 ≠ i := by omega
      simp [Forest.divide, hne, slack, upperHalf, Span.width]
      omega
    have hold : slack (F.node i) = hi - lo := by
      rw [hnode]
      simp [slack, hsplit.span, Span.width]
      omega
    have hself : slack ((F.divide i n lo hi).node i) = 0 := by
      simp [Forest.divide, slack]
    -- the other nodes are as before
    have hothers : ∑ j ∈ (Finset.range F.next).erase i, slack ((F.divide i n lo hi).node j) =
        ∑ j ∈ (Finset.range F.next).erase i, slack (F.node j) := by
      apply Finset.sum_congr rfl
      intro j hj
      rw [Finset.mem_erase, Finset.mem_range] at hj
      have h2 : j ≠ F.next := by omega
      have h3 : j ≠ F.next + 1 := by omega
      simp [Forest.divide, hj.1, h2, h3]
    have hmem : i ∈ Finset.range F.next := Finset.mem_range.2 hi'
    have hnew : totalSlack (F.divide i n lo hi) =
        ∑ j ∈ Finset.range F.next, slack ((F.divide i n lo hi).node j) +
          ((lo + hi) / 2 - lo) + (hi - ((lo + hi) / 2 + 1)) := by
      unfold totalSlack
      have hnext : (F.divide i n lo hi).next = F.next + 1 + 1 := rfl
      rw [hnext, Finset.sum_range_succ, Finset.sum_range_succ, hlower, hupper]
    rw [hnew]
    unfold totalSlack
    rw [← Finset.add_sum_erase _ _ hmem, ← Finset.add_sum_erase _ (fun j => slack (F.node j)) hmem,
      hothers, hself, hold]
    omega

theorem slack_divisions (h : Tiled rules F) (hdivides : ReflTransGen (Divides rules) F F') :
    F.next ≤ F'.next ∧ F'.next + 2 * totalSlack F' = F.next + 2 * totalSlack F := by
  induction hdivides with
  | refl => exact ⟨le_refl _, rfl⟩
  | tail hmany hstep ih =>
    obtain ⟨hnext, hslack⟩ :=
      slack_divides (tiled_growth h (growth_of_divisions hmany)) hstep
    obtain ⟨hle, heq⟩ := ih
    constructor
    · omega
    · omega

end Slack

/-- A bounded sequence that never falls is constant in the end. -/
theorem eventually_constant {f : Nat → Nat} (bound : Nat) (hmono : ∀ k, f k ≤ f (k + 1))
    (hbound : ∀ k, f k ≤ bound) : ∃ N, ∀ k, N ≤ k → f k = f N := by
  obtain ⟨N, hN⟩ := WellFoundedGT.monotone_chain_condition
    (⟨fun k => (⟨f k, Nat.lt_succ_of_le (hbound k)⟩ : Fin (bound + 1)),
      monotone_nat_of_le_succ hmono⟩ : Nat →o Fin (bound + 1))
  refine ⟨N, fun k hk => ?_⟩
  have heq := hN k hk
  exact (congrArg Fin.val heq).symm

section Runs

variable {env : Environment} {config : Config} {ls : List (Command × Ambient)} {db : Db}

/-- An endless run of commands that plants no more seeds. -/
def EndlessRun (env : Environment) (config : Config) (f : Nat → Db) : Prop :=
  ∃ l : Nat → Command × Ambient, ∀ k, CommandStep env config (f k) (l k) (f (k + 1)) ∧
    ∀ catalog, (l k).1 ≠ .initializePartitions catalog

theorem creates_nothing_more {f : Nat → Db}
    (h : Tiled config.followerWidthRules (forest (f 0))) (hf : EndlessRun env config f) :
    ∃ N, ∀ k, N ≤ k → (f k).nextPartitionId = (f N).nextPartitionId := by
  obtain ⟨l, hsteps⟩ := hf
  have hgrown : ∀ k, ReflTransGen (Divides config.followerWidthRules) (forest (f 0))
      (forest (f k)) := by
    intro k
    induction k with
    | zero => exact ReflTransGen.refl
    | succ k ih =>
      exact ih.trans (command_divides (hsteps k).2 (tiled_growth h (growth_of_divisions ih))
        (hsteps k).1)
  apply eventually_constant ((f 0).nextPartitionId + 2 * totalSlack (forest (f 0)))
  · intro k
    have htiled := tiled_growth h (growth_of_divisions (hgrown k))
    exact (slack_divisions htiled (command_divides (hsteps k).2 htiled (hsteps k).1)).1
  · intro k
    have heq := (slack_divisions h (hgrown k)).2
    have hnext : (forest (f k)).next = (f k).nextPartitionId := rfl
    have hnext0 : (forest (f 0)).next = (f 0).nextPartitionId := rfl
    omega

end Runs

/-- In every run of the crawler's commands, the descendants of a bounded seed are few, unbounded
ranges are not split, and without new seeds the splits come to an end. -/
theorem adaptive_splitting_bounded {env : Environment} {config : Config}
    {ls : List (Command × Ambient)} {db : Db} (hrun : CommandRun env config Db.initial ls db) :
    (∀ i seed lo hi, db.partitions.get i = some seed → seed.partitionType = .V2_SEED →
      seed.followersMin = some lo → seed.followersMax = some hi →
      smallestWidth config.followerWidthRules ≤ hi + 1 - lo →
      (descendants db i).Finite ∧ (descendants db i).ncard ≤
        2 * ((hi + 1 - lo) / smallestWidth config.followerWidthRules) - 2) ∧
    (∀ i p, db.partitions.get i = some p → p.followersMax = none →
      p.followerSplitExplored = false ∧ descendants db i = ∅) ∧
    ∀ f, f 0 = db → EndlessRun env config f →
      ∃ N, ∀ k, N ≤ k → (f k).nextPartitionId = (f N).nextPartitionId := by
  obtain ⟨htiled, _⟩ := run_grown hrun
  refine ⟨?_, ?_, ?_⟩
  · intro i seed lo hi hseed _ hmin hmax hwidth
    exact descendants_bounded htiled _ (node_of_get hseed) hmin hmax (le_refl _) hwidth
  · intro i p hp hmax
    exact unbounded_not_split htiled hp hmax
  · rintro f rfl hf
    exact creates_nothing_more htiled hf

theorem seed_columns {n : Identity} (h : IsSeed n) :
    n.partitionType = .V2_SEED ∧ n.followersMin = some (span n).lo := by
  obtain ⟨pair, bucket, gmv, position, _, _, _, _, rfl⟩ := h
  exact ⟨rfl, rfl⟩

/-- With the default widths, a seed of 600 to 799 followers never has more than six descendants. -/
theorem adaptive_splitting_bounded_smallCatalog : ∃ db,
    CommandRun ⟨fun _ => 0, fun _ => 1⟩ Config.defaults Db.initial
      [(.initializePartitions smallCatalog, ⟨0, 0⟩)] db ∧
    (∃ i seed, db.partitions.get i = some seed ∧ seed.partitionType = .V2_SEED ∧
      seed.followersMin = some 600 ∧ seed.followersMax = some 799) ∧
    ∀ i seed, db.partitions.get i = some seed → seed.partitionType = .V2_SEED →
      seed.followersMin = some 600 → seed.followersMax = some 799 →
      (descendants db i).ncard ≤ 6 := by
  obtain ⟨db, hok⟩ := initializePartitions_ok ⟨fun _ => 0, fun _ => 1⟩ smallCatalog Db.initial
  have hdecimal : DecimalCatalog (.initializePartitions smallCatalog) := by
    rintro catalog h
    cases h
    exact decimal_smallCatalog
  have hrun : CommandRun ⟨fun _ => 0, fun _ => 1⟩ Config.defaults Db.initial
      [(.initializePartitions smallCatalog, ⟨0, 0⟩)] db :=
    Run.cons ⟨⟨_, hok⟩, hdecimal⟩ (Run.nil db)
  have htiled : Tiled Config.defaults.followerWidthRules (forest (disabled Db.initial)) := by
    have hsame : forest (disabled Db.initial) = forest Db.initial :=
      forest_updateMany Db.initial _ (fun _ => rfl)
    rw [hsame, forest_initial]
    exact tiled_empty
  refine ⟨db, hrun, ?_, ?_⟩
  · have hpair : (("1", "2") : String × String) ∈ crawlPairs smallCatalog := by decide +kernel
    have hbucket : (⟨"F01", 600, some 799⟩ : FollowerBucket) ∈ FOLLOWER_BUCKETS := by decide
    have hgmv : (⟨.G1, "GMV_RANGE_0_100"⟩ : GmvBucket) ∈ GMV_BUCKETS := by decide
    have hpresent : ∃ j m, (forest (insertPartitions (disabled Db.initial)
        (missingSeeds ⟨fun _ => 0, fun _ => 1⟩ smallCatalog (disabled Db.initial)))).node j =
          some m ∧ IsSeed m.identity ∧ group m.identity = (some "1", some "2", some .G1) ∧
        span m.identity = bucketSpan ⟨"F01", 600, some 799⟩ :=
      seed_present htiled decimal_smallCatalog hpair hbucket hgmv
    obtain ⟨j, m, hm, hseed, _, hspan⟩ := hpresent
    rw [← run_initializePartitions hok] at hm
    obtain ⟨p, hp, rfl⟩ := forest_node.1 hm
    obtain ⟨htype, hmin⟩ := seed_columns hseed
    rw [hspan] at hmin
    exact ⟨j, p, hp, htype, hmin, congrArg Span.hi hspan⟩
  · intro i seed hseed htype hmin hmax
    have hbound := (adaptive_splitting_bounded hrun).1 i seed 600 799 hseed htype hmin hmax
      (by decide)
    exact hbound.2

end tiktok_outreach.split_bounds
