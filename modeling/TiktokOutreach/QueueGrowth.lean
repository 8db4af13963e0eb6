-- The transactions of the queue make the forest of partitions grow: a split
-- divides one node, `initializePartitions` plants the seeds that are missing,
-- and nothing else touches the forest.
import TiktokOutreach.PartitionForest

open tables transactions separated divisions tiktok_outreach.creator_schema
  tiktok_outreach.marketplace_partitions tiktok_outreach.creator_scheduler
  tiktok_outreach.adaptive_queue tiktok_outreach.partition_forest Relation

namespace tiktok_outreach.queue_growth

/-! ## The forest of a database -/

def node (p : CreatorSearchPartition) : Node := ⟨identity p, p.followerSplitExplored⟩

def forest (db : Db) : Forest := ⟨fun i => (db.partitions.get i).map node, db.nextPartitionId⟩

theorem forest_node {db : Db} {i : Nat} {n : Node} :
    (forest db).node i = some n ↔ ∃ p, db.partitions.get i = some p ∧ node p = n :=
  Option.map_eq_some_iff

theorem node_of_get {db : Db} {i : Nat} {p : CreatorSearchPartition}
    (h : db.partitions.get i = some p) : (forest db).node i = some (node p) :=
  forest_node.2 ⟨p, h, rfl⟩

theorem forest_initial : forest Db.initial = Forest.empty := by
  unfold forest Db.initial Forest.empty
  simp

/-- A write of columns that the forest does not have. -/
theorem forest_updateMany (db : Db) (c : Nat → CreatorSearchPartition → Bool)
    {f : CreatorSearchPartition → CreatorSearchPartition} (hf : ∀ p, node (f p) = node p) :
    forest (table.partitions.put db (db.partitions.updateMany c f)) = forest db := by
  unfold forest
  congr 1
  funext i
  simp only [table.partitions, Table.get_updateMany, Option.map_map]
  congr 1
  funext p
  simp only [Function.comp]
  split
  · exact hf p
  · rfl

/-- The write that marks a partition as split. -/
def markExplored (db : Db) (i : Nat) : Db :=
  table.partitions.put db (db.partitions.updateMany (fun k _ => k = i)
    (fun p => { p with followerSplitExplored := true }))

theorem forest_markExplored {db : Db} {i : Nat} {n : Identity} {b : Bool}
    (hn : (forest db).node i = some ⟨n, b⟩) :
    forest (markExplored db i) =
      ⟨fun j => if j = i then some ⟨n, true⟩ else (forest db).node j, (forest db).next⟩ := by
  obtain ⟨p, hp, hnode⟩ := forest_node.1 hn
  have hidentity : identity p = n := congrArg Node.identity hnode
  unfold forest markExplored
  congr 1
  funext j
  simp only [table.partitions, Table.get_updateMany]
  by_cases hj : j = i
  · subst hj
    simpa [hp, node, identity] using hidentity
  · simp [hj]

theorem forest_insertPartition {db : Db} {p : CreatorSearchPartition}
    (hnew : (forest db).KeyNew p.partitionKey) :
    forest (insertPartition db p) =
      ⟨fun i => if i = db.nextPartitionId then some (node p) else (forest db).node i,
        db.nextPartitionId + 1⟩ := by
  have hany : db.partitions.any (fun _ q => q.partitionKey = p.partitionKey) = false := by
    rw [Table.any_eq_false_iff]
    intro i q hq
    exact decide_eq_false (hnew i _ (node_of_get hq))
  unfold insertPartition forest
  rw [if_neg (by simp [hany])]
  congr 1
  funext i
  simp only [Table.get_set]
  split <;> rfl

theorem insertPartition_taken {db : Db} {p : CreatorSearchPartition}
    (h : ¬ (forest db).KeyNew p.partitionKey) : insertPartition db p = db := by
  have hany : db.partitions.any (fun _ q => q.partitionKey = p.partitionKey) = true := by
    unfold Forest.KeyNew at h
    push Not at h
    obtain ⟨i, n, hn, hkey⟩ := h
    obtain ⟨q, hq, rfl⟩ := forest_node.1 hn
    rw [Table.any_iff]
    exact ⟨i, q, hq, decide_eq_true hkey⟩
  unfold insertPartition
  rw [if_pos hany]

/-! ## A split -/

section Split

variable {config : Config} {rules : FollowerWidthRules} {db db' : Db} {i : Nat}
  {p : CreatorSearchPartition} {lo hi : Nat}

/-- What is split has a range that the rules divide. -/
theorem splittable_of_expansion {bounds : Bounds × Bounds} {reason : String}
    (h : expansionFor config p = .FOLLOWER bounds reason) :
    ∃ lo hi, Splittable config.followerWidthRules (identity p) lo hi ∧
      bounds = (lowerHalfBounds lo hi, upperHalfBounds lo hi) := by
  unfold expansionFor at h
  cases hmin : p.followersMin with
  | none => simp [hmin] at h
  | some lo =>
    simp only [hmin] at h
    split at h
    · cases h
    · obtain ⟨hbounds, _, _⟩ := follower_of_adaptiveExpansion h
      obtain ⟨hi, hmax, hfloor, hlt, hwide, hb⟩ := splitFollowerRange_eq_some.1 hbounds
      exact ⟨lo, hi, ⟨hmin, hmax, hfloor, hlt, hwide⟩, hb⟩

theorem mem_existingHalves {q : CreatorSearchPartition} :
    q ∈ existingHalves db p (lowerHalfBounds lo hi, upperHalfBounds lo hi) ↔
      ∃ j, db.partitions.get j = some q ∧ group (identity q) = group (identity p) ∧
      (q.followersMin = some (lowerHalfBounds lo hi).min ∨
        q.followersMin = some (upperHalfBounds lo hi).min) ∧
      (q.followersMax = some (lowerHalfBounds lo hi).max ∨
        q.followersMax = some (upperHalfBounds lo hi).max) := by
  unfold existingHalves
  simp only [List.mem_map, Prod.exists, Table.mem_findMany, Bool.and_eq_true, Bool.or_eq_true,
    decide_eq_true_eq, group, identity, Prod.mk.injEq, and_assoc]
  constructor
  · rintro ⟨j, q', hget, h1, h2, h3, h4, h5, rfl⟩
    exact ⟨j, hget, h1, h2, h3, h4, h5⟩
  · rintro ⟨j, hget, h1, h2, h3, h4, h5⟩
    exact ⟨j, q, hget, h1, h2, h3, h4, h5, rfl⟩

/-- The halves of an undivided range are not there. -/
theorem halves_missing (h : Tiled rules (forest db)) (hp : (forest db).node i = some ⟨identity p, false⟩)
    (hsplit : Splittable rules (identity p) lo hi) {bound : Bounds}
    (hbound : bound = lowerHalfBounds lo hi ∨
      bound = upperHalfBounds lo hi) (index : Nat) :
    specificGmvCombinationKeyOf (followerChild i p bound index) ∉
      (existingHalves db p (lowerHalfBounds lo hi,
        upperHalfBounds lo hi)).map specificGmvCombinationKeyOf := by
  intro hmem
  obtain ⟨q, hq, hkey⟩ := List.mem_map.1 hmem
  obtain ⟨j, hget, hgroup, hmins, hmaxs⟩ := mem_existingHalves.1 hq
  obtain ⟨k, s, b, hs, hseed, hsgroup, _⟩ := h.rooted i _ hp
  obtain ⟨parent, child, gmv, hparent, hchild, hids⟩ := hseed.group_ne_none
  have hpids : p.categoryId = some parent ∧ p.categoryChildId = some child ∧
      p.gmvBucket = some gmv := by
    have := hsgroup.symm.trans hids
    simpa [group, identity] using this
  have hqids : q.categoryId = some parent ∧ q.categoryChildId = some child ∧
      q.gmvBucket = some gmv := by
    have := hgroup.trans (hsgroup.symm.trans hids)
    simpa [group, identity] using this
  have hranges : ∃ lo', q.followersMin = some lo' ∧ lo' = bound.min ∧
      q.followersMax = some bound.max := by
    unfold specificGmvCombinationKeyOf followerChild at hkey
    dsimp only at hkey
    rw [hpids.1, hpids.2.1, hpids.2.2, hqids.1, hqids.2.1, hqids.2.2] at hkey
    rcases hmins with hmin | hmin <;>
      · rw [hmin] at hkey
        obtain ⟨_, _, h3, h4, _⟩ := combinationKey_inj hparent hparent hchild hchild hkey
        exact ⟨_, hmin, h3, h4⟩
  obtain ⟨lo', hmin, rfl, hmax⟩ := hranges
  have hspan : span (identity q) = ⟨bound.min, some bound.max⟩ := by
    simp [span, identity, hmin, hmax]
  have hcell : cells (forest db) (group (identity p)) i = some ⟨span (identity p), false⟩ :=
    cells_eq_some.2 ⟨_, hp, rfl, rfl⟩
  have hcellq : cells (forest db) (group (identity p)) j =
      some ⟨span (identity q), q.followerSplitExplored⟩ :=
    cells_eq_some.2 ⟨_, node_of_get hget, hgroup, rfl⟩
  have hlt := hsplit.lt
  -- the half is inside the range, so it is the range itself, which has other bounds
  have hji : j = i := by
    refine eq_of_inside_undivided (h.nested (group (identity p))) hcell hcellq ?_ ?_ ?_
    · rw [hspan, hsplit.span]
      rcases hbound with rfl | rfl
      · exact lowerHalf_inside hlt
      · exact upperHalf_inside hlt
    · refine ⟨bound.min, ?_⟩
      rw [hspan, Span.has_some]
      rcases hbound with rfl | rfl
      · simp only [lowerHalfBounds]
        omega
      · simp only [upperHalfBounds]
        omega
    · rw [hspan, hsplit.span]
      rcases hbound with rfl | rfl
      · exact not_inside_lowerHalf hlt
      · exact not_inside_upperHalf hlt
  subst hji
  rw [node_of_get hget, Option.some.injEq] at hp
  have hidentity : identity q = identity p := congrArg Node.identity hp
  have hmin' := hsplit.min
  have hmax' := hsplit.max
  rw [← hidentity] at hmin' hmax'
  have h1 : some bound.min = some lo := hmin.symm.trans hmin'
  have h2 : some bound.max = some hi := hmax.symm.trans hmax'
  rcases hbound with rfl | rfl
  · simp only [lowerHalfBounds, Option.some.injEq] at h2
    omega
  · simp only [upperHalfBounds, Option.some.injEq] at h1
    omega

/-- The halves of a divided range are there. -/
theorem halves_existing (h : Tiled rules (forest db)) (hp : (forest db).node i = some ⟨identity p, true⟩)
    (hsplit : Splittable rules (identity p) lo hi) {bound : Bounds}
    (hbound : bound = lowerHalfBounds lo hi ∨
      bound = upperHalfBounds lo hi) (index : Nat) :
    specificGmvCombinationKeyOf (followerChild i p bound index) ∈
      (existingHalves db p (lowerHalfBounds lo hi,
        upperHalfBounds lo hi)).map specificGmvCombinationKeyOf := by
  obtain ⟨lo', hi', hsplit', ⟨j, b, hlower⟩, k, c, hupper⟩ := h.halves i _ hp
  have hlo := hsplit.min.symm.trans hsplit'.min
  have hhi := hsplit.max.symm.trans hsplit'.max
  rw [Option.some.injEq] at hlo hhi
  subst hlo hhi
  have hexists : ∃ j q index', db.partitions.get j = some q ∧
      identity q = childIdentity i (identity p) bound index' := by
    rcases hbound with rfl | rfl
    · obtain ⟨q, hq, hnode⟩ := forest_node.1 hlower
      exact ⟨j, q, 0, hq, congrArg Node.identity hnode⟩
    · obtain ⟨q, hq, hnode⟩ := forest_node.1 hupper
      exact ⟨k, q, 1, hq, congrArg Node.identity hnode⟩
  obtain ⟨l, q, index', hq, hidentity⟩ := hexists
  have hcolumns : q.categoryId = p.categoryId ∧ q.categoryChildId = p.categoryChildId ∧
      q.followersMin = some bound.min ∧ q.followersMax = some bound.max ∧
      q.gmvBucket = p.gmvBucket := by
    refine ⟨congrArg Identity.categoryId hidentity, congrArg Identity.categoryChildId hidentity,
      congrArg Identity.followersMin hidentity, congrArg Identity.followersMax hidentity,
      congrArg Identity.gmvBucket hidentity⟩
  obtain ⟨h1, h2, h3, h4, h5⟩ := hcolumns
  refine List.mem_map.2 ⟨q, mem_existingHalves.2 ⟨l, hq, ?_, ?_, ?_⟩, ?_⟩
  · simp [group, identity, h1, h2, h5]
  · rcases hbound with rfl | rfl
    · exact Or.inl h3
    · exact Or.inr h3
  · rcases hbound with rfl | rfl
    · exact Or.inl h4
    · exact Or.inr h4
  · unfold specificGmvCombinationKeyOf followerChild
    dsimp only
    rw [h1, h2, h3, h4, h5]

/-- The children that a split inserts. -/
def missingHalves (db : Db) (i : Nat) (p : CreatorSearchPartition) (bounds : Bounds × Bounds) :
    List CreatorSearchPartition :=
  (followerChildren i p bounds).filter (fun child =>
    !((existingHalves db p bounds).map specificGmvCombinationKeyOf).contains
      (specificGmvCombinationKeyOf child))

theorem run_createFollowerChildren {bounds : Bounds × Bounds} {r : Nat}
    (hrun : (createFollowerChildren i p bounds).run db = .ok (r, db')) :
    db' = markExplored (insertPartitions db (missingHalves db i p bounds)) i := by
  unfold createFollowerChildren at hrun
  split at hrun
  · cases hrun
  simp only [Tx.run_bind, Tx.run_read, createMany, Tx.run_stmt, Tx.run_ret, Tx.run_update,
    Tx.bind_eq_ok, Except.ok.injEq, Tx.ite_error_eq_ok, Tx.run_pure, exists_eq_left',
    Prod.mk.injEq, Prod.exists] at hrun
  obtain ⟨_, _, ⟨_, _, rfl⟩, _, rfl⟩ := hrun
  rfl

theorem missingHalves_of_undivided (h : Tiled rules (forest db))
    (hp : (forest db).node i = some ⟨identity p, false⟩)
    (hsplit : Splittable rules (identity p) lo hi) :
    missingHalves db i p (lowerHalfBounds lo hi, upperHalfBounds lo hi) =
      [followerChild i p (lowerHalfBounds lo hi) 0, followerChild i p (upperHalfBounds lo hi) 1] := by
  have hlower := halves_missing h hp hsplit (Or.inl rfl) 0
  have hupper := halves_missing h hp hsplit (Or.inr rfl) 1
  unfold missingHalves followerChildren
  rw [List.filter_eq_self]
  intro child hchild
  rcases List.mem_pair.1 hchild with rfl | rfl
  · simpa using hlower
  · simpa using hupper

theorem missingHalves_of_divided (h : Tiled rules (forest db))
    (hp : (forest db).node i = some ⟨identity p, true⟩)
    (hsplit : Splittable rules (identity p) lo hi) :
    missingHalves db i p (lowerHalfBounds lo hi, upperHalfBounds lo hi) = [] := by
  have hlower := halves_existing h hp hsplit (Or.inl rfl) 0
  have hupper := halves_existing h hp hsplit (Or.inr rfl) 1
  unfold missingHalves followerChildren
  rw [List.filter_eq_nil_iff]
  intro child hchild
  rcases List.mem_pair.1 hchild with rfl | rfl
  · simpa using hlower
  · simpa using hupper

/-- A split divides one node, unless that node is divided already. -/
theorem createFollowerChildren_divides (h : Tiled rules (forest db)) {b : Bool}
    (hp : (forest db).node i = some ⟨identity p, b⟩) (hsplit : Splittable rules (identity p) lo hi)
    {r : Nat} (hrun : (createFollowerChildren i p
      (lowerHalfBounds lo hi, upperHalfBounds lo hi)).run db = .ok (r, db')) :
    ReflTransGen (Divides rules) (forest db) (forest db') := by
  obtain rfl := run_createFollowerChildren hrun
  have hfresh : i < (forest db).next := h.fresh i _ hp
  cases b with
  | true =>
    rw [missingHalves_of_divided h hp hsplit]
    have hsame : forest (markExplored db i) = forest db := by
      rw [forest_markExplored hp]
      ext1
      · funext j
        by_cases hj : j = i
        · simp only [hj, if_true, hp]
        · simp only [hj, if_false]
      · rfl
    unfold insertPartitions
    rw [List.foldl_nil, hsame]
  | false =>
    rw [missingHalves_of_undivided h hp hsplit]
    have hlower : (forest db).KeyNew (followerChild i p (lowerHalfBounds lo hi) 0).partitionKey :=
      keyNew_children h hp _ _
    have hupper : (forest (insertPartition db (followerChild i p (lowerHalfBounds lo hi) 0))).KeyNew
        (followerChild i p (upperHalfBounds lo hi) 1).partitionKey := by
      rw [forest_insertPartition hlower]
      intro j n hn heq
      dsimp only at hn
      by_cases hj : j = db.nextPartitionId
      · rw [if_pos hj, Option.some.injEq] at hn
        subst hn
        have hmin := (adaptiveFollowerPartitionKey_inj heq).2.1
        have hlt := hsplit.lt
        simp only [lowerHalfBounds, upperHalfBounds] at hmin
        omega
      · rw [if_neg hj] at hn
        exact keyNew_children h hp _ _ j n hn heq
    -- both halves are new nodes behind the others
    have hinserted : forest (insertPartitions db
        [followerChild i p (lowerHalfBounds lo hi) 0, followerChild i p (upperHalfBounds lo hi) 1]) =
        ⟨fun j => if j = (forest db).next + 1 then some ⟨upperChild i (identity p) lo hi, false⟩
          else if j = (forest db).next then some ⟨lowerChild i (identity p) lo hi, false⟩
          else (forest db).node j, (forest db).next + 2⟩ := by
      unfold insertPartitions
      rw [List.foldl_cons, List.foldl_cons, List.foldl_nil, forest_insertPartition hupper]
      have hnext : (insertPartition db (followerChild i p (lowerHalfBounds lo hi) 0)).nextPartitionId =
          (forest db).next + 1 := congrArg Forest.next (forest_insertPartition hlower)
      rw [hnext, forest_insertPartition hlower]
      rfl
    have hstill : (forest (insertPartitions db [followerChild i p (lowerHalfBounds lo hi) 0,
        followerChild i p (upperHalfBounds lo hi) 1])).node i = some ⟨identity p, false⟩ := by
      rw [hinserted]
      dsimp only
      rw [if_neg (by omega), if_neg (by omega), hp]
    have hdivide : forest (markExplored (insertPartitions db
        [followerChild i p (lowerHalfBounds lo hi) 0, followerChild i p (upperHalfBounds lo hi) 1])
          i) = (forest db).divide i (identity p) lo hi := by
      rw [forest_markExplored hstill, hinserted]
      unfold Forest.divide
      ext1
      · funext j
        dsimp only
        split_ifs <;> first
          | rfl
          | omega
      · rfl
    rw [hdivide]
    exact ReflTransGen.single (Divides.divide _ i (identity p) lo hi hp hsplit)

end Split

/-! ## The expansion of all branches -/

section Expansion

variable {config : Config} {db db' : Db}

/-- An update of one partition that writes no column of the forest. -/
theorem keeps_forest_update (i : Nat) {f : CreatorSearchPartition → CreatorSearchPartition}
    (hf : ∀ p, node (f p) = node p) :
    (Tx.update table.partitions .notFound i f : Transaction Unit).Keeps forest := by
  rw [Tx.keeps_update]
  intro db
  exact forest_updateMany db _ hf

theorem expandBranch_divides (h : Tiled config.followerWidthRules (forest db))
    {row : Nat × CreatorSearchPartition} {b : Bool}
    (hrow : (forest db).node row.1 = some ⟨identity row.2, b⟩)
    (hrun : (expandBranch config row).run db = .ok ((), db')) :
    ReflTransGen (Divides config.followerWidthRules) (forest db) (forest db') := by
  unfold expandBranch at hrun
  split at hrun
  · rename_i bounds reason hexpansion
    obtain ⟨lo, hi, hsplit, rfl⟩ := splittable_of_expansion hexpansion
    simp only [Tx.run_bind, Tx.bind_eq_ok, Tx.run_pure, Except.ok.injEq, Prod.mk.injEq,
      Prod.exists, true_and] at hrun
    obtain ⟨r, db1, hcreate, rfl⟩ := hrun
    exact createFollowerChildren_divides h hrow hsplit hcreate
  · have hsame : forest db' = forest db :=
      Tx.run_of_keeps (keeps_forest_update row.1 (fun _ => by rfl)) hrun
    rw [hsame]

/-- The expansion of rows that were read before. -/
theorem traverse_expandBranch_divides (h : Tiled config.followerWidthRules (forest db))
    {rows : List (Nat × CreatorSearchPartition)}
    (hrows : ∀ row ∈ rows, ∃ b, (forest db).node row.1 = some ⟨identity row.2, b⟩) {us : List Unit}
    (hrun : (Tx.traverse (expandBranch config) rows).run db = .ok (us, db')) :
    ReflTransGen (Divides config.followerWidthRules) (forest db) (forest db') := by
  refine Tx.traverse_invariant
    (fun s => ReflTransGen (Divides config.followerWidthRules) (forest db) (forest s)) ?_ hrun
    ReflTransGen.refl
  intro row hrow u s s' hstep hgrown
  obtain ⟨b0, hread⟩ := hrows row hrow
  obtain ⟨b, hnode, _⟩ := stays_growth h (growth_of_divisions hgrown) hread
  exact hgrown.trans (expandBranch_divides (tiled_growth h (growth_of_divisions hgrown)) hnode hstep)

theorem get_of_mem_siblingsOf {parentId : Nat} {row : Nat × CreatorSearchPartition}
    (h : row ∈ siblingsOf db parentId) : db.partitions.get row.1 = some row.2 := by
  unfold siblingsOf at h
  rw [List.mem_insertionSort] at h
  exact ((Table.mem_findMany _ _ _ _).1 h).1

theorem expandSiblings_divides (h : Tiled config.followerWidthRules (forest db)) {parentId : Nat}
    (hrun : (expandSiblings config parentId).run db = .ok ((), db')) :
    ReflTransGen (Divides config.followerWidthRules) (forest db) (forest db') := by
  have hread : ∀ row ∈ siblingsOf db parentId,
      ∃ b, (forest db).node row.1 = some ⟨identity row.2, b⟩ := by
    intro row hrow
    exact ⟨_, node_of_get (get_of_mem_siblingsOf hrow)⟩
  unfold expandSiblings at hrun
  rw [Tx.run_bind, Tx.bind_eq_ok] at hrun
  obtain ⟨⟨siblings, s⟩, hsiblings, hrun⟩ := hrun
  rw [Tx.run_read, Except.ok.injEq, Prod.mk.injEq] at hsiblings
  obtain ⟨rfl, rfl⟩ := hsiblings
  dsimp only at hrun
  split at hrun
  · cases hrun
    exact ReflTransGen.refl
  rw [Tx.run_bind, Tx.bind_eq_ok] at hrun
  obtain ⟨⟨u, db1⟩, hparent, hrest⟩ := hrun
  have hsame : forest db1 = forest db :=
    Tx.run_of_keeps (keeps_forest_update parentId (fun _ => by rfl)) hparent
  dsimp only at hrest
  split at hrest
  · have hflags : forest db' = forest db1 := by
      refine Tx.run_of_keeps (Tx.keeps_bind ?_ (fun _ => Tx.keeps_pure ())) hrest
      rw [Tx.keeps_updateMany]
      intro s
      exact forest_updateMany s _ (fun _ => rfl)
    rw [hflags, hsame]
  · simp only [Tx.run_bind, Tx.bind_eq_ok, Except.ok.injEq, Tx.run_pure, Prod.mk.injEq,
      Prod.exists, true_and] at hrest
    obtain ⟨us, db2, htraverse, rfl⟩ := hrest
    rw [← hsame] at h hread ⊢
    exact traverse_expandBranch_divides h hread htraverse

theorem expandReadyBranches_divides (h : Tiled config.followerWidthRules (forest db))
    (hrun : (expandReadyBranches config).run db = .ok ((), db')) :
    ReflTransGen (Divides config.followerWidthRules) (forest db) (forest db') := by
  unfold expandReadyBranches at hrun
  simp only [Tx.run_bind, Tx.run_read, Tx.bind_eq_ok, Except.ok.injEq, Tx.run_pure,
    exists_eq_left', Prod.mk.injEq, Prod.exists, true_and] at hrun
  obtain ⟨us, db1, hseeds, vs, db2, hsiblings, rfl⟩ := hrun
  have hgrown : ReflTransGen (Divides config.followerWidthRules) (forest db) (forest db1) := by
    refine traverse_expandBranch_divides h ?_ hseeds
    intro row hrow
    exact ⟨_, node_of_get ((Table.mem_findMany _ _ _ _).1 hrow).1⟩
  refine Tx.traverse_invariant
    (fun s => ReflTransGen (Divides config.followerWidthRules) (forest db) (forest s)) ?_ hsiblings
    hgrown
  intro parentId _ u s s' hstep hs
  exact hs.trans (expandSiblings_divides (tiled_growth h (growth_of_divisions hs)) hstep)

theorem prepareAdaptiveQueue_divides (h : Tiled config.followerWidthRules (forest db))
    (hrun : (prepareAdaptiveQueue config).run db = .ok ((), db')) :
    ReflTransGen (Divides config.followerWidthRules) (forest db) (forest db') :=
  expandReadyBranches_divides h hrun

end Expansion

/-! ## Seeds -/

section Seeds

variable {rules : FollowerWidthRules} {env : Environment} {catalog : List CatalogNode} {db db' : Db}

theorem decimal_of_mem_crawlPairs (hdecimal : ∀ c ∈ catalog, Decimal c.categoryId)
    {pair : String × String} (h : pair ∈ crawlPairs catalog) : Decimal pair.1 ∧ Decimal pair.2 := by
  unfold crawlPairs crawlParents crawlChildren at h
  simp only [List.mem_flatMap, List.mem_map, List.mem_insertionSort, List.mem_filter] at h
  obtain ⟨parent, ⟨hparent, _⟩, child, ⟨hchild, _⟩, rfl⟩ := h
  exact ⟨hdecimal parent hparent, hdecimal child hchild⟩

/-- The rows of a catalog are those of all its pairs and buckets. -/
theorem mem_v2BasePartitionRows {row : BasePartitionRow} (h : row ∈ v2BasePartitionRows catalog) :
    ∃ pair bucket gmv position, pair ∈ crawlPairs catalog ∧ bucket ∈ FOLLOWER_BUCKETS ∧
      gmv ∈ GMV_BUCKETS ∧ row = basePartitionRow pair bucket gmv position := by
  unfold v2BasePartitionRows at h
  obtain ⟨⟨⟨pair, bucket, gmv⟩, position⟩, hmem, rfl⟩ := List.mem_map.1 h
  have hcombination := (List.mem_zipIdx hmem).2.2
  have hin : (pair, bucket, gmv) ∈ combinations catalog := by
    rw [hcombination]
    exact List.getElem_mem _
  unfold combinations bucketPairs at hin
  simp only [List.mem_flatMap, List.mem_map, Prod.mk.injEq, Prod.exists] at hin
  obtain ⟨p, c, hpair, b, g, ⟨b', hb', g', hg', rfl, rfl⟩, rfl, rfl, rfl⟩ := hin
  exact ⟨(p, c), _, _, position, hpair, hb', hg', rfl⟩

theorem exists_row {pair : String × String} {bucket : FollowerBucket} {gmv : GmvBucket}
    (hpair : pair ∈ crawlPairs catalog) (hbucket : bucket ∈ FOLLOWER_BUCKETS)
    (hgmv : gmv ∈ GMV_BUCKETS) :
    ∃ position, basePartitionRow pair bucket gmv position ∈ v2BasePartitionRows catalog := by
  have hin : (pair, bucket, gmv) ∈ combinations catalog := by
    unfold combinations bucketPairs
    simp only [List.mem_flatMap, List.mem_map, Prod.mk.injEq, Prod.exists]
    exact ⟨pair.1, pair.2, hpair, bucket, gmv, ⟨bucket, hbucket, gmv, hgmv, rfl, rfl⟩, rfl, rfl, rfl⟩
  obtain ⟨position, hlt, hget⟩ := List.mem_iff_getElem.1 hin
  refine ⟨position, List.mem_map.2 ⟨((pair, bucket, gmv), position), ?_, rfl⟩⟩
  rw [List.mem_zipIdx_iff_getElem?]
  exact List.getElem?_eq_some_iff.2 ⟨hlt, hget⟩

/-- Every partition has a GMV bucket, so that there are no historical roots. -/
theorem rootByKey_eq_none (h : Tiled rules (forest db)) : rootByKey db = fun _ => none := by
  funext key
  unfold rootByKey
  rw [Option.map_eq_none_iff, List.find?_eq_none]
  rintro ⟨i, p⟩ hmem
  rw [List.mem_reverse, Table.mem_findMany] at hmem
  obtain ⟨hp, hcond⟩ := hmem
  obtain ⟨j, s, b, _, hseed, hgroup, _⟩ := h.rooted i _ (node_of_get hp)
  obtain ⟨parent, child, gmv, _, _, hids⟩ := hseed.group_ne_none
  have hbucket : p.gmvBucket = some gmv := congrArg (fun g => g.2.2) (hgroup.symm.trans hids)
  simp [hbucket] at hcond

theorem insertPartition_grows {p : CreatorSearchPartition} (hseed : IsSeed (identity p))
    (hsplit : p.followerSplitExplored = false) :
    ReflTransGen (Grows rules) (forest db) (forest (insertPartition db p)) := by
  by_cases hnew : (forest db).KeyNew p.partitionKey
  · have hplant : forest (insertPartition db p) = (forest db).plant (identity p) := by
      rw [forest_insertPartition hnew]
      unfold Forest.plant node
      rw [hsplit]
      rfl
    rw [hplant]
    exact ReflTransGen.single (Grows.plant _ _ hseed hnew)
  · rw [insertPartition_taken hnew]

/-- What is inserted as seeds. -/
def SeedRows (ps : List CreatorSearchPartition) : Prop :=
  ∀ p ∈ ps, IsSeed (identity p) ∧ p.followerSplitExplored = false

theorem insertPartitions_grows {ps : List CreatorSearchPartition} (hps : SeedRows ps) :
    ReflTransGen (Grows rules) (forest db) (forest (insertPartitions db ps)) := by
  unfold insertPartitions
  induction ps generalizing db with
  | nil => exact ReflTransGen.refl
  | cons p ps ih =>
    obtain ⟨hseed, hsplit⟩ := hps p List.mem_cons_self
    have hrest : ReflTransGen (Grows rules) (forest (insertPartition db p))
        (forest (ps.foldl insertPartition (insertPartition db p))) :=
      ih (fun q hq => hps q (List.mem_cons_of_mem _ hq))
    exact (insertPartition_grows hseed hsplit).trans hrest

/-- The keys of all rows are there after the insert. -/
theorem not_keyNew_insertPartitions (h : Tiled rules (forest db))
    {ps : List CreatorSearchPartition} (hps : SeedRows ps) {p : CreatorSearchPartition}
    (hp : p ∈ ps) : ¬ (forest (insertPartitions db ps)).KeyNew p.partitionKey := by
  unfold insertPartitions
  induction ps generalizing db with
  | nil => cases hp
  | cons q ps ih =>
    obtain ⟨hseed, hsplit⟩ := hps q List.mem_cons_self
    have hrest : SeedRows ps := fun r hr => hps r (List.mem_cons_of_mem _ hr)
    have hgrows : ReflTransGen (Grows rules) (forest db) (forest (insertPartition db q)) :=
      insertPartition_grows hseed hsplit
    rcases List.mem_cons.1 hp with rfl | hp
    · intro hnew
      -- the row was inserted, or its key was taken, and nodes stay
      have htaken : ¬ (forest (insertPartition db p)).KeyNew p.partitionKey := by
        by_cases hfree : (forest db).KeyNew p.partitionKey
        · rw [forest_insertPartition hfree]
          intro hall
          exact hall db.nextPartitionId (node p) (if_pos rfl) rfl
        · rwa [insertPartition_taken hfree]
      apply htaken
      intro i n hn hkey
      obtain ⟨b, hb, _⟩ := stays_growth (tiled_growth h hgrows) (insertPartitions_grows hrest) hn
      exact hnew i _ hb hkey
    · exact ih (tiled_growth h hgrows) hrest hp

/-- What is there after the insert was there before or is one of the rows. -/
theorem node_insertPartitions {ps : List CreatorSearchPartition} {i : Nat} {n : Node}
    (hn : (forest (insertPartitions db ps)).node i = some n) :
    (forest db).node i = some n ∨ ∃ p ∈ ps, n = node p := by
  unfold insertPartitions at hn
  induction ps generalizing db with
  | nil => exact Or.inl hn
  | cons p ps ih =>
    rcases ih hn with hold | ⟨q, hq, rfl⟩
    · by_cases hnew : (forest db).KeyNew p.partitionKey
      · rw [forest_insertPartition hnew] at hold
        dsimp only at hold
        by_cases hi : i = db.nextPartitionId
        · rw [if_pos hi, Option.some.injEq] at hold
          exact Or.inr ⟨p, List.mem_cons_self, hold.symm⟩
        · rw [if_neg hi] at hold
          exact Or.inl hold
      · rw [insertPartition_taken hnew] at hold
        exact Or.inl hold
    · exact Or.inr ⟨q, List.mem_cons_of_mem _ hq, rfl⟩

/-- The seeds that a catalog misses. -/
def missingSeeds (env : Environment) (catalog : List CatalogNode) (db : Db) :
    List CreatorSearchPartition :=
  ((v2BasePartitionRows catalog).filter (fun row =>
    !(existingCombinations db).contains (combinationKeyOf row))).map
      (seedPartition env (rootByKey db))

/-- The database after the historical partitions are disabled. -/
def disabled (db : Db) : Db :=
  table.partitions.put db (db.partitions.updateMany (fun _ p => disabledByStrategy p)
    (fun p => { p with status := .DISABLED_BY_STRATEGY }))

/-- The transaction does not throw. -/
theorem initializePartitions_ok (env : Environment) (catalog : List CatalogNode) (db : Db) :
    ∃ db', (initializePartitions env catalog).run db =
      .ok ((v2BasePartitionRows catalog).length, db') := by
  unfold initializePartitions ensureSpecificGmvPartitions createMany
  simp only [Tx.run_lock, Tx.run_bind, Tx.run_updateMany, Tx.run_read, Tx.run_stmt, Tx.run_ret,
    run_updateJob, Tx.run_pure, Except.bind]
  exact ⟨_, rfl⟩

theorem run_initializePartitions {r : Nat}
    (hrun : (initializePartitions env catalog).run db = .ok (r, db')) :
    forest db' = forest (insertPartitions (disabled db)
      (missingSeeds env catalog (disabled db))) := by
  unfold initializePartitions ensureSpecificGmvPartitions createMany at hrun
  simp only [Tx.run_lock, Tx.run_bind, Tx.run_updateMany, Tx.run_read, Tx.run_stmt, Tx.run_ret,
    run_updateJob, Tx.run_pure, Tx.bind_eq_ok, Except.ok.injEq, exists_eq_left',
    Prod.mk.injEq] at hrun
  rw [← hrun.2]
  rfl

theorem seedRows_missingSeeds (h : Tiled rules (forest db))
    (hdecimal : ∀ c ∈ catalog, Decimal c.categoryId) : SeedRows (missingSeeds env catalog db) := by
  intro p hp
  unfold missingSeeds at hp
  obtain ⟨row, hrow, rfl⟩ := List.mem_map.1 hp
  obtain ⟨pair, bucket, gmv, position, hpair, hbucket, hgmv, rfl⟩ :=
    mem_v2BasePartitionRows (List.mem_filter.1 hrow).1
  obtain ⟨hparent, hchild⟩ := decimal_of_mem_crawlPairs hdecimal hpair
  rw [rootByKey_eq_none h]
  exact ⟨⟨pair, bucket, gmv, position, hparent, hchild, hbucket, hgmv, rfl⟩, rfl⟩

theorem initializePartitions_grows (h : Tiled rules (forest db))
    (hdecimal : ∀ c ∈ catalog, Decimal c.categoryId) {r : Nat}
    (hrun : (initializePartitions env catalog).run db = .ok (r, db')) :
    ReflTransGen (Grows rules) (forest db) (forest db') := by
  have hsame : forest (disabled db) = forest db := forest_updateMany db _ (fun _ => rfl)
  have htiled : Tiled rules (forest (disabled db)) := by rwa [hsame]
  rw [run_initializePartitions hrun, ← hsame]
  exact insertPartitions_grows (seedRows_missingSeeds htiled hdecimal)

/-- The seed of every combination of the catalog is there afterwards. -/
theorem seed_present (h : Tiled rules (forest db)) (hdecimal : ∀ c ∈ catalog, Decimal c.categoryId)
    {pair : String × String} {bucket : FollowerBucket} {gmv : GmvBucket}
    (hpair : pair ∈ crawlPairs catalog) (hbucket : bucket ∈ FOLLOWER_BUCKETS)
    (hgmv : gmv ∈ GMV_BUCKETS) :
    ∃ j m, (forest (insertPartitions db (missingSeeds env catalog db))).node j = some m ∧
      IsSeed m.identity ∧ group m.identity = (some pair.1, some pair.2, some gmv.code) ∧
      span m.identity = bucketSpan bucket := by
  obtain ⟨hparent, hchild⟩ := decimal_of_mem_crawlPairs hdecimal hpair
  obtain ⟨position, hrow⟩ := exists_row hpair hbucket hgmv
  have hseeds : SeedRows (missingSeeds env catalog db) := seedRows_missingSeeds h hdecimal
  have hgrows : ReflTransGen (Grows rules) (forest db)
      (forest (insertPartitions db (missingSeeds env catalog db))) :=
    insertPartitions_grows hseeds
  by_cases hmem : combinationKeyOf (basePartitionRow pair bucket gmv position) ∈
      existingCombinations db
  · -- the combination exists: the seed above its partition is the one of the bucket
    unfold existingCombinations at hmem
    obtain ⟨⟨i, q⟩, hq, hkey⟩ := List.mem_map.1 hmem
    obtain ⟨hget, _⟩ := (Table.mem_findMany _ _ _ _).1 hq
    obtain ⟨j, s, b, hs, hseed, hgroup, hinside⟩ := h.rooted i _ (node_of_get hget)
    obtain ⟨parent, child, code, hp, hc, hids⟩ := hseed.group_ne_none
    have hqids : group (identity q) = (some parent, some child, some code) := hgroup.symm.trans hids
    simp only [group, identity, Prod.mk.injEq] at hqids
    obtain ⟨h1, h2, h3⟩ := hqids
    have hqmin : ∃ min, q.followersMin = some min := by
      cases hmin : q.followersMin with
      | some min => exact ⟨min, rfl⟩
      | none =>
        have hnone : specificGmvCombinationKeyOf q = none := by
          simp [specificGmvCombinationKeyOf, specificGmvCombinationKey, hmin]
        have hsome := combinationKey_eq hparent hchild bucket.min bucket.max gmv.code
        exact absurd (hnone.symm.trans (hkey.trans hsome)) (by simp)
    obtain ⟨min, hmin⟩ := hqmin
    unfold specificGmvCombinationKeyOf combinationKeyOf basePartitionRow at hkey
    dsimp only at hkey
    rw [h1, h2, h3, hmin] at hkey
    obtain ⟨rfl, rfl, rfl, hmax, rfl⟩ := combinationKey_inj hp hparent hc hchild hkey
    have hqspan : span (identity q) = bucketSpan bucket := by
      simp [span, identity, hmin, hmax, bucketSpan]
    have hmeets : (span s).Meets (bucketSpan bucket) := by
      have hbmin := bucket_has_min bucket hbucket
      rw [← hqspan] at hbmin
      exact ⟨bucket.min, hinside _ hbmin, hqspan ▸ hbmin⟩
    obtain ⟨c, hc', _⟩ := stays_growth h hgrows hs
    exact ⟨j, _, hc', hseed, hids, span_of_seed_meets hseed hbucket hmeets⟩
  · have hin : seedPartition env (rootByKey db) (basePartitionRow pair bucket gmv position) ∈
        missingSeeds env catalog db := by
      refine List.mem_map.2 ⟨_, List.mem_filter.2 ⟨hrow, ?_⟩, rfl⟩
      simpa using hmem
    have htaken := not_keyNew_insertPartitions h hseeds hin
    unfold Forest.KeyNew at htaken
    push Not at htaken
    obtain ⟨j, m, hm, hkey⟩ := htaken
    have hkey' : m.identity.partitionKey =
        partitionKeyV2 pair.1 pair.2 bucket.min bucket.max (some gmv.code) := hkey
    -- no child has the key of a seed
    rcases (tiled_growth h hgrows).origin j m hm with hseed | ⟨k, parent, lo, hi, _, _, hhalf⟩
    · refine ⟨j, m, hm, hseed, ?_⟩
      obtain ⟨pair', bucket', gmv', position', hp, hc, hb, _, heq⟩ := hseed
      rw [heq] at hkey' ⊢
      obtain ⟨h1, h2, h3, h4, h5⟩ := partitionKeyV2_inj hp hparent hc hchild hkey'
      simp [group, seedIdentity, span, bucketSpan, h1, h2, h3, h4, h5]
    · rcases hhalf with hhalf | hhalf
      · rw [hhalf] at hkey'
        exact absurd hkey' adaptiveKey_ne_partitionKeyV2
      · rw [hhalf] at hkey'
        exact absurd hkey' adaptiveKey_ne_partitionKeyV2

theorem initializePartitions_full (h : Tiled rules (forest db)) (hfull : Full (forest db))
    (hdecimal : ∀ c ∈ catalog, Decimal c.categoryId) {r : Nat}
    (hrun : (initializePartitions env catalog).run db = .ok (r, db')) : Full (forest db') := by
  have hgrows : ReflTransGen (Grows rules) (forest db) (forest db') :=
    initializePartitions_grows h hdecimal hrun
  have hsame : forest (disabled db) = forest db := forest_updateMany db _ (fun _ => rfl)
  have htiled : Tiled rules (forest (disabled db)) := by rwa [hsame]
  intro i n hn bucket hbucket
  rw [run_initializePartitions hrun] at hn
  rcases node_insertPartitions hn with hold | ⟨p, hp, rfl⟩
  · rw [hsame] at hold
    obtain ⟨j, m, hm, hseed, hgroup, hspan⟩ := hfull i n hold bucket hbucket
    obtain ⟨b, hb, _⟩ := stays_growth h hgrows hm
    exact ⟨j, _, hb, hseed, hgroup, hspan⟩
  · -- a new seed brings those of the other buckets of its pair
    obtain ⟨row, hrow, rfl⟩ := List.mem_map.1 hp
    obtain ⟨pair, bucket', gmv, position, hpair, _, hgmv, rfl⟩ :=
      mem_v2BasePartitionRows (List.mem_filter.1 hrow).1
    rw [run_initializePartitions hrun]
    exact seed_present htiled hdecimal hpair hbucket hgmv

end Seeds

end tiktok_outreach.queue_growth
