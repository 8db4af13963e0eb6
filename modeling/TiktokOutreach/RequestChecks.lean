-- The checks before a request, against those of a claim: a partition that goes on
-- is requested when its categories are still in the catalog. A claim looks this up
-- for the seeds of the first two buckets only.
import TiktokOutreach.SiblingGating
import TiktokOutreach.SchedulerSelection

open separated tables transactions runs tiktok_outreach.creator_schema
  tiktok_outreach.marketplace_partitions tiktok_outreach.creator_scheduler
  tiktok_outreach.adaptive_queue tiktok_outreach.partition_claims tiktok_outreach.creator_sync
  tiktok_outreach.creator_commands tiktok_outreach.creator_worker tiktok_outreach.partition_forest
  tiktok_outreach.queue_growth tiktok_outreach.forest_runs tiktok_outreach.creator_effects
  tiktok_outreach.command_effects tiktok_outreach.claim_candidates tiktok_outreach.seed_rows
  tiktok_outreach.seed_families tiktok_outreach.rare_probes
  tiktok_outreach.scheduler_selection tiktok_outreach.sibling_gating
  tiktok_outreach.command_frames

namespace tiktok_outreach.request_checks

/-! ## Categories in the catalog -/

/-- The parent is a root that is crawled, and the child is right below it and can be searched. -/
def Listed (db : Db) (parent child : String) : Prop :=
  (∃ c, db.categories.get parent = some c ∧ c.parentCategoryId = none ∧
    c.enabledForCreatorCrawl = true) ∧
  ∃ c, db.categories.get child = some c ∧ c.parentCategoryId = some parent ∧
    c.availableForCreatorFilter = true

/-- The categories of the partition are in the catalog. -/
def Current (db : Db) (p : CreatorSearchPartition) : Prop :=
  ∃ parent child, parent ≠ "" ∧ Listed db parent child ∧ p.categoryId = some parent ∧
    p.categoryChildId = some child

/-- The partition asks for one child of one category, as each one that is inserted does. -/
structure Searches (S : String → String → Prop) (p : CreatorSearchPartition) : Prop where
  specific : isSpecificGmvPartition p.gmvBucket p.gmvRange = true
  production : PRODUCTION_PARTITION_TYPES.contains p.partitionType = true
  followers : p.followersMin.isSome = true
  pair : ∃ parent child, S parent child ∧ p.categoryId = some parent ∧
    p.categoryChildId = some child ∧ p.categoryChildIds = [child]

/-- The partition that goes on may be requested as far as its bucket is concerned. -/
def Probed (p : CreatorSearchPartition) : Prop :=
  p.gmvBucket = some .G4 → p.schedulerIsG4Probe = true

section Checks

variable {S : String → String → Prop} {db : Db} {p : CreatorSearchPartition}

theorem byId_catalogOf (db : Db) (id : String) : byId (catalogOf db) id =
    (db.categories.get id).map (fun c => ⟨id, c.parentCategoryId, c.enabledForCreatorCrawl,
      c.availableForCreatorFilter, c.sortOrder⟩) := by
  have hids : ((catalogOf db).map CatalogNode.categoryId).Nodup := by
    unfold catalogOf
    rw [List.map_map]
    exact db.categories.nodup
  cases hget : db.categories.get id with
  | some c =>
    have hmem : (⟨id, c.parentCategoryId, c.enabledForCreatorCrawl, c.availableForCreatorFilter,
        c.sortOrder⟩ : CatalogNode) ∈ catalogOf db :=
      List.mem_map.2 ⟨(id, c), (Table.mem_rows_iff _ _ _).2 hget, rfl⟩
    exact byId_of_mem hids hmem
  | none =>
    unfold byId
    rw [Option.map_none, List.find?_eq_none]
    intro node hnode hid
    obtain ⟨⟨k, c⟩, hrow, rfl⟩ := List.mem_map.1 (List.mem_reverse.1 hnode)
    have hk : k = id := of_decide_eq_true hid
    rw [Table.mem_rows_iff, hk, hget] at hrow
    cases hrow

theorem validateV2_iff {parent child : String} :
    validateV2CategorySelection parent [child] (catalogOf db) = .ok () ↔
      Listed db parent child := by
  unfold validateV2CategorySelection validateMarketplaceCategorySelection validateChild Listed
  simp only [byId_catalogOf, List.length_singleton, ne_eq, not_true_eq_false, if_false]
  cases hparent : db.categories.get parent with
  | none => simp
  | some c =>
    cases hchild : db.categories.get child with
    | none =>
      simp only [Option.map_some]
      split_ifs <;> simp_all
    | some d =>
      simp only [Option.map_some]
      split_ifs <;> simp_all

/-- The text and the bucket of a request are there. -/
theorem partitionFilters_ok (hp : Searches S p) {parent : String}
    (hparent : p.categoryId = some parent) (hne : parent ≠ "") :
    ∃ filters, partitionFilters p = .ok filters := by
  obtain ⟨min, hmin⟩ := Option.isSome_iff_exists.1 hp.followers
  have hspecific := hp.specific
  unfold isSpecificGmvPartition at hspecific
  unfold partitionFilters
  simp only [hparent, hmin, if_neg hne]
  cases hgmv : gmvBucketDefinition p.gmvBucket with
  | none => simp [hgmv] at hspecific
  | some gmv =>
    simp only [hgmv, decide_eq_true_eq] at hspecific
    exact ⟨_, if_pos hspecific⟩

/-- The checks before a request say whether the categories are in the catalog, and nothing else. -/
theorem requestFilters_iff (hp : Searches S p) (hprobe : Probed p) :
    (∃ filters, requestFilters p (catalogOf db) = .ok filters) ↔ Current db p := by
  obtain ⟨parent, child, -, hparent, hchild, hchildren⟩ := hp.pair
  have hbucket : (p.gmvBucket = some .G4 && !p.schedulerIsG4Probe) = false := by
    by_cases hg4 : p.gmvBucket = some .G4
    · simp [hprobe hg4]
    · simp [hg4]
  have hvalid : validatePartition p (catalogOf db) = .ok () ↔ Listed db parent child := by
    unfold validatePartition
    rw [if_neg (by simp [hp.specific]), if_pos hp.production, hparent, hchildren, Option.getD_some,
      ← validateV2_iff]
    cases validateV2CategorySelection parent [child] (catalogOf db) with
    | error message => simp
    | ok u => simp [hchild]
  have hcurrent : Current db p ↔ parent ≠ "" ∧ Listed db parent child := by
    constructor
    · rintro ⟨parent', child', hne, hlisted, h1, h2⟩
      rw [hparent, Option.some.injEq] at h1
      rw [hchild, Option.some.injEq] at h2
      subst h1 h2
      exact ⟨hne, hlisted⟩
    · rintro ⟨hne, hlisted⟩
      exact ⟨parent, child, hne, hlisted, hparent, hchild⟩
  rw [hcurrent, ← hvalid]
  unfold requestFilters
  rw [hbucket, if_neg Bool.false_ne_true]
  constructor
  · rintro ⟨filters, h⟩
    cases hcheck : validatePartition p (catalogOf db) with
    | error message => simp [hcheck] at h
    | ok u =>
      refine ⟨?_, rfl⟩
      rintro rfl
      obtain ⟨min, hmin⟩ := Option.isSome_iff_exists.1 hp.followers
      simp [hcheck, partitionFilters, hparent, hmin] at h
  · rintro ⟨hne, hcheck⟩
    obtain ⟨filters, hfilters⟩ := partitionFilters_ok hp hparent hne
    exact ⟨filters, by simp [hcheck, hfilters]⟩

end Checks

/-! ## What an expansion adds -/

def Everywhere (K : CreatorSearchPartition → Prop) (db : Db) : Prop :=
  ∀ id p, db.partitions.get id = some p → K p

/-- A property that a partition keeps when an expansion marks it, and that the children of a
finished one inherit. -/
structure Inherited (K : CreatorSearchPartition → Prop) : Prop where
  congr : ∀ p q, identity q = identity p → q.status = p.status →
    (p.followerSplitExplored = true → q.followerSplitExplored = true) → K p → K q
  child : ∀ parentId p bound index, finished p.status = true → p.followerSplitExplored = false →
    K p → K (followerChild parentId p bound index)

section Expansion

variable {K : CreatorSearchPartition → Prop} {config : Config} {db db' : Db}
  {row : Nat × CreatorSearchPartition}

theorem everywhere_updateMany (hK : Inherited K) (hdb : Everywhere K db)
    {c : Nat → CreatorSearchPartition → Bool} {f : CreatorSearchPartition → CreatorSearchPartition}
    (hidentity : ∀ p, identity (f p) = identity p) (hstatus : ∀ p, (f p).status = p.status)
    (hsplit : ∀ p, p.followerSplitExplored = true → (f p).followerSplitExplored = true) :
    Everywhere K (table.partitions.put db (db.partitions.updateMany c f)) := by
  intro id q hq
  rw [table.partitions, Table.get_updateMany, Option.map_eq_some_iff] at hq
  obtain ⟨p, hp, rfl⟩ := hq
  split
  · exact hK.congr p (f p) (hidentity p) (hstatus p) (hsplit p) (hdb id p hp)
  · exact hdb id p hp

/-- A branch that is split was not split before. -/
theorem unsplit_of_follower {p : CreatorSearchPartition} {bounds : Bounds × Bounds}
    {reason : String} (h : expansionFor config p = .FOLLOWER bounds reason) :
    p.followerSplitExplored = false := by
  by_contra hsplit
  have hexplored : p.followerSplitExplored = true := by simpa using hsplit
  unfold expansionFor adaptiveExpansion at h
  simp only [hexplored, Bool.or_true, if_true] at h
  split at h
  · cases h
  · split_ifs at h

theorem everywhere_expandBranch (hK : Inherited K) (hids : FreshIds db) (hdb : Everywhere K db)
    (hrow : K row.2) (hfinished : finished row.2.status = true) {u : Unit}
    (hrun : (expandBranch config row).run db = .ok (u, db')) : Everywhere K db' := by
  unfold expandBranch at hrun
  split at hrun
  · rename_i bounds reason hfollower
    have hchild : ∀ bound index, K (followerChild row.1 row.2 bound index) := fun bound index =>
      hK.child row.1 row.2 bound index hfinished (unsplit_of_follower hfollower) hrow
    simp only [Tx.run_bind, Tx.bind_eq_ok, Tx.run_pure, Except.ok.injEq, Prod.mk.injEq,
      Prod.exists, true_and] at hrun
    obtain ⟨r, db1, hcreate, rfl⟩ := hrun
    rw [run_createFollowerChildren hcreate]
    have hinserted : Everywhere K (insertPartitions db (missingHalves db row.1 row.2 bounds)) := by
      intro id q hq
      rcases of_get_insertPartitions hids hq with hold | ⟨_, hfind⟩
      · exact hdb id q hold
      · have hmissing := (List.mem_filter.1 (List.mem_of_find?_eq_some hfind)).1
        rcases List.mem_pair.1 hmissing with rfl | rfl
        · exact hchild bounds.1 0
        · exact hchild bounds.2 1
    exact everywhere_updateMany hK hinserted (fun _ => rfl) (fun _ => rfl) (fun _ _ => rfl)
  · rw [run_setPartition hrun]
    exact everywhere_updateMany hK hdb (fun _ => rfl) (fun _ => rfl) (fun _ h => h)

theorem freshIds_expandBranch (hids : FreshIds db) {u : Unit}
    (hrun : (expandBranch config row).run db = .ok (u, db')) : FreshIds db' :=
  (Tx.run_of_within Expanded.refl (fun _ _ _ h h' => h.trans h')
    (within_expandBranch expanded_ofExpansion row) hrun).ids hids

theorem freshIds_updateMany (hids : FreshIds db) {c : Nat → CreatorSearchPartition → Bool}
    {f : CreatorSearchPartition → CreatorSearchPartition} :
    FreshIds (table.partitions.put db (db.partitions.updateMany c f)) := by
  intro id q hq
  rw [table.partitions, Table.get_updateMany, Option.map_eq_some_iff] at hq
  obtain ⟨p, hp, -⟩ := hq
  exact hids id p hp

theorem everywhere_expandSiblings (hK : Inherited K) {parentId : Nat} (hids : FreshIds db)
    (hdb : Everywhere K db) {u : Unit}
    (hrun : (expandSiblings config parentId).run db = .ok (u, db')) : Everywhere K db' := by
  unfold expandSiblings at hrun
  rw [Tx.run_bind, Tx.run_read, Tx.bind_eq_ok] at hrun
  obtain ⟨⟨siblings, s⟩, hsiblings, hrun⟩ := hrun
  cases hsiblings
  dsimp only at hrun
  split at hrun
  · cases hrun
    exact hdb
  rename_i hall
  rw [Tx.run_bind, Tx.bind_eq_ok] at hrun
  obtain ⟨⟨v, db1⟩, hparent, hrest⟩ := hrun
  rw [run_setPartition hparent] at hrest
  have hmarked : Everywhere K (setPartition db parentId (fun p => { p with
      combinedChildIncrementalYield := some (decimal8
        (combinedIncrementalYield ((siblingsOf db parentId).map Prod.snd)))
      branchClassification := classifyIncrementalYield
        (some (combinedIncrementalYield ((siblingsOf db parentId).map Prod.snd)))
      followerRecursionTerminal := lowValue config ((siblingsOf db parentId).map Prod.snd) })) :=
    everywhere_updateMany hK hdb (fun _ => rfl) (fun _ => rfl) (fun _ h => h)
  dsimp only at hrest
  split at hrest
  · simp only [Tx.run_bind, Tx.run_updateMany, Tx.bind_eq_ok, Except.ok.injEq, exists_eq_left',
      Tx.run_pure, Prod.mk.injEq] at hrest
    obtain ⟨-, rfl⟩ := hrest
    exact everywhere_updateMany hK hmarked (fun _ => rfl) (fun _ => rfl) (fun _ h => h)
  · simp only [Tx.run_bind, Tx.bind_eq_ok, Tx.run_pure, Except.ok.injEq, Prod.mk.injEq,
      Prod.exists] at hrest
    obtain ⟨us, db2, htraverse, -, rfl⟩ := hrest
    refine (Tx.traverse_invariant (fun s => FreshIds s ∧ Everywhere K s) ?_ htraverse
      ⟨?_, hmarked⟩).2
    · rintro row hrow w s s' hstep ⟨hs, hKs⟩
      have hdone : finished row.2.status = true := by
        by_contra hnot
        exact hall (by simpa using .inr ⟨row.1, row.2, hrow, by simpa using hnot⟩)
      exact ⟨freshIds_expandBranch hs hstep, everywhere_expandBranch hK hs hKs
        (hdb row.1 row.2 (get_of_mem_siblingsOf hrow)) hdone hstep⟩
    · exact freshIds_updateMany hids

/-- What is inherited holds everywhere behind an expansion. -/
theorem everywhere_expand (hK : Inherited K) (hids : FreshIds db) (hdb : Everywhere K db) {u : Unit}
    (hrun : (expandReadyBranches config).run db = .ok (u, db')) : Everywhere K db' := by
  unfold expandReadyBranches at hrun
  simp only [Tx.run_bind, Tx.run_read, Tx.bind_eq_ok, Except.ok.injEq, Tx.run_pure,
    exists_eq_left', Prod.mk.injEq, Prod.exists] at hrun
  obtain ⟨us, db1, hseeds, vs, db2, hsiblings, -, rfl⟩ := hrun
  have hdb1 : FreshIds db1 ∧ Everywhere K db1 := by
    refine Tx.traverse_invariant (fun s => FreshIds s ∧ Everywhere K s) ?_ hseeds ⟨hids, hdb⟩
    rintro row hrow w s s' hstep ⟨hs, hKs⟩
    obtain ⟨hget, hkind⟩ := (Table.mem_findMany _ _ _ _).1 hrow
    have hdone : finished row.2.status = true := by
      simp only [Bool.and_eq_true, Bool.or_eq_true, decide_eq_true_eq] at hkind
      rcases hkind.1.2 with h | h
      · simp [finished, h]
      · simp [finished, h]
    exact ⟨freshIds_expandBranch hs hstep,
      everywhere_expandBranch hK hs hKs (hdb row.1 row.2 hget) hdone hstep⟩
  refine (Tx.traverse_invariant (fun s => FreshIds s ∧ Everywhere K s) ?_ hsiblings hdb1).2
  rintro parentId _ w s s' hstep ⟨hs, hKs⟩
  refine ⟨?_, everywhere_expandSiblings hK hs hKs hstep⟩
  exact (Tx.run_of_within Expanded.refl (fun _ _ _ h h' => h.trans h')
    (within_expandSiblings expanded_ofExpansion parentId) hstep).ids hs

end Expansion

/-! ## What the partitions search -/

/-- All partitions search pairs in `S`. -/
abbrev Searching (S : String → String → Prop) (db : Db) : Prop := Everywhere (Searches S) db

section Searching

variable {S S' : String → String → Prop} {env : Environment} {config : Config} {db db' : Db}
  {p q : CreatorSearchPartition}

theorem Searches.of_identity (h : identity q = identity p) (hp : Searches S p) : Searches S q := by
  have hcolumn : ∀ {β : Type} (f : Identity → β), f (identity q) = f (identity p) :=
    fun f => congrArg f h
  obtain ⟨parent, child, hpair, hparent, hchild, hchildren⟩ := hp.pair
  constructor
  · have hbucket : q.gmvBucket = p.gmvBucket := hcolumn Identity.gmvBucket
    have hrange : q.gmvRange = p.gmvRange := hcolumn Identity.gmvRange
    rw [hbucket, hrange]
    exact hp.specific
  · have htype : q.partitionType = p.partitionType := hcolumn Identity.partitionType
    rw [htype]
    exact hp.production
  · have hmin : q.followersMin = p.followersMin := hcolumn Identity.followersMin
    rw [hmin]
    exact hp.followers
  · exact ⟨parent, child, hpair, (hcolumn Identity.categoryId).trans hparent,
      (hcolumn Identity.categoryChildId).trans hchild,
      (hcolumn Identity.categoryChildIds).trans hchildren⟩

theorem Searches.mono (h : ∀ parent child, S parent child → S' parent child) (hp : Searches S p) :
    Searches S' p := by
  obtain ⟨parent, child, hpair, hcolumns⟩ := hp.pair
  exact ⟨hp.specific, hp.production, hp.followers, parent, child, h parent child hpair, hcolumns⟩

theorem inherited_searches (S : String → String → Prop) : Inherited (Searches S) where
  congr _ _ hidentity _ _ hp := hp.of_identity hidentity
  child _ _ _ _ _ _ hp :=
    ⟨hp.specific, by simp [followerChild, PRODUCTION_PARTITION_TYPES], rfl, hp.pair⟩

theorem searching_of_marks (h : marks db' = marks db) (hdb : Searching S db) : Searching S db' := by
  intro id q hq
  have hnode : (forest db').node id = some (node q) := node_of_get hq
  rw [forest_of_marks h] at hnode
  obtain ⟨p, hp, heq⟩ := forest_node.1 hnode
  exact (hdb id p hp).of_identity (congrArg Node.identity heq).symm

theorem searching_updateMany (hdb : Searching S db) {c : Nat → CreatorSearchPartition → Bool}
    {f : CreatorSearchPartition → CreatorSearchPartition} (hf : ∀ p, identity (f p) = identity p) :
    Searching S (table.partitions.put db (db.partitions.updateMany c f)) := by
  intro id q hq
  rw [table.partitions, Table.get_updateMany, Option.map_eq_some_iff] at hq
  obtain ⟨p, hp, rfl⟩ := hq
  split
  · exact (hdb id p hp).of_identity (hf p)
  · exact hdb id p hp

theorem searching_same (hdb : Searching S db) (hrows : db'.partitions = db.partitions) :
    Searching S db' := by
  intro id p hp
  rw [hrows] at hp
  exact hdb id p hp

theorem searching_expand (hids : FreshIds db) (hdb : Searching S db) {u : Unit}
    (hrun : (expandReadyBranches config).run db = .ok (u, db')) : Searching S db' :=
  everywhere_expand (inherited_searches S) hids hdb hrun

/-- The commands besides `initializePartitions` search nothing new. -/
theorem searching_of_command {c : Command} {a : c.Result} {ambient : Ambient}
    (hplant : ∀ catalog, c ≠ .initializePartitions catalog) (hids : FreshIds db)
    (hdb : Searching S db)
    (hrun : (c.body env config ambient).run db = .ok (a, db')) : Searching S db' := by
  by_cases htouches : touchesForest c = false
  · exact searching_of_marks (Tx.run_of_keeps (keeps_marks env config ambient htouches) hrun) hdb
  · have heffect := effect_of_run hrun
    cases c with
    | claimPartition leaseId =>
      cases heffect with
      | current db1 hexpand => exact searching_expand hids hdb hexpand
      | exhausted db1 hexpand => exact searching_same (searching_expand hids hdb hexpand) rfl
      | started db1 hexpand =>
        exact searching_updateMany (searching_expand hids hdb hexpand) (fun _ => rfl)
    | commitPage leaseId pageId page partition =>
      cases heffect with
      | more => exact searching_updateMany hdb (fun _ => rfl)
      | last hlease hpage hpartition hlast db1 hexpand =>
        have hcounted : Searching S (pageCommitted pageId page db
            (lastRow config page partition ambient.now)) :=
          searching_updateMany hdb (fun _ => rfl)
        have hfresh : FreshIds (pageCommitted pageId page db
            (lastRow config page partition ambient.now)) := freshIds_updateMany hids
        rcases hexpand with ⟨-, rfl⟩ | ⟨-, hexpand⟩
        · exact searching_same hcounted rfl
        · exact searching_same (searching_expand hfresh hcounted hexpand) rfl
    | prepareAdaptiveQueue => exact searching_expand hids hdb heffect
    | initializePartitions catalog => exact absurd rfl (hplant catalog)
    | _ => exact absurd rfl htouches

/-- The seeds of a catalog search the pairs of the catalog. -/
theorem searches_missingSeeds {catalog : List CatalogNode}
    (hp : p ∈ missingSeeds env catalog db) :
    Searches (fun parent child => (parent, child) ∈ crawlPairs catalog) p := by
  obtain ⟨row, hrow, rfl⟩ := List.mem_map.1 hp
  obtain ⟨pair, bucket, gmv, position, hpair, -, hgmv, rfl⟩ :=
    mem_v2BasePartitionRows (List.mem_filter.1 hrow).1
  refine ⟨?_, rfl, rfl, pair.1, pair.2, hpair, rfl, rfl, rfl⟩
  simp [isSpecificGmvPartition, seedPartition, basePartitionRow, gmvBucketDefinition_code gmv hgmv]

end Searching

/-! ## What is claimed -/

/-- The worker goes on with a partition: the current one, or the one of a claim. -/
inductive Takes (env : Environment) (config : Config) (db : Db) : CreatorSearchPartition → Db → Prop
  | resumed {id : Nat} {p : CreatorSearchPartition} (hid : db.job.currentPartitionId = some id)
      (hp : db.partitions.get id = some p) (hresumes : resumes p = true) : Takes env config db p db
  | claimed {leaseId : Nat} {now : Int} {claim : Claim} {db' : Db}
      (hrun : (claimPartition env config leaseId now).run db = .ok (some claim, db')) :
      Takes env config db claim.row.2 db'

/-- A claim does not look at the categories of the partition. -/
def Unchecked (p : CreatorSearchPartition) : Prop :=
  p.status = claimableStatus p ∧ ¬ (p.partitionType = .V2_SEED ∧ isG1G2 p = true)

/-- The categories are in the catalog for the current partition, for those that wait without a
check, and for those that may still be split. -/
structure Catalogued (db : Db) : Prop where
  current : ∀ id p, db.job.currentPartitionId = some id → db.partitions.get id = some p →
    resumes p = true → Current db p
  waiting : ∀ id p, db.partitions.get id = some p → Unchecked p → Current db p
  unsplit : ∀ id p, db.partitions.get id = some p → finished p.status = true →
    p.followerSplitExplored = false → Current db p

section Claims

variable {S : String → String → Prop} {env : Environment} {config : Config} {db db' : Db}
  {p q : CreatorSearchPartition}

theorem current_of_identity (h : identity q = identity p) (hp : Current db p) : Current db q := by
  obtain ⟨parent, child, hne, hlisted, hparent, hchild⟩ := hp
  exact ⟨parent, child, hne, hlisted, (congrArg Identity.categoryId h).trans hparent,
    (congrArg Identity.categoryChildId h).trans hchild⟩

theorem claimableStatus_of_identity (h : identity q = identity p) :
    claimableStatus q = claimableStatus p := by
  have hbucket : q.gmvBucket = p.gmvBucket := congrArg Identity.gmvBucket h
  unfold claimableStatus
  rw [hbucket]

theorem unchecked_of_identity (h : identity q = identity p) (hstatus : q.status = p.status)
    (hq : Unchecked q) : Unchecked p := by
  have hbucket : q.gmvBucket = p.gmvBucket := congrArg Identity.gmvBucket h
  have htype : q.partitionType = p.partitionType := congrArg Identity.partitionType h
  obtain ⟨hclaimable, hkind⟩ := hq
  rw [hstatus, claimableStatus_of_identity h] at hclaimable
  rw [htype, isG1G2, hbucket] at hkind
  exact ⟨hclaimable, hkind⟩

/-- What an expansion keeps of the catalogued partitions. -/
theorem inherited_current (db : Db) : Inherited (fun p => (Unchecked p → Current db p) ∧
    (finished p.status = true → p.followerSplitExplored = false → Current db p)) where
  congr p q hidentity hstatus hsplit hp := by
    refine ⟨fun hq => ?_, fun hfinished hunsplit => ?_⟩
    · exact current_of_identity hidentity (hp.1 (unchecked_of_identity hidentity hstatus hq))
    · refine current_of_identity hidentity (hp.2 (hstatus ▸ hfinished) ?_)
      by_contra hnot
      rw [hsplit (by simpa using hnot)] at hunsplit
      cases hunsplit
  child parentId p bound index hfinished hunsplit hp :=
    ⟨fun _ => hp.2 hfinished hunsplit, fun _ _ => hp.2 hfinished hunsplit⟩

/-- The seed that a claim looks up is in the catalog. -/
theorem current_of_validSeedSnapshot (h : validSeedSnapshot db p = true) : Current db p := by
  unfold validSeedSnapshot at h
  split at h
  · rename_i parent child hparent hchild
    simp only [Bool.and_eq_true, decide_eq_true_eq, Option.isSome_iff_exists,
      Option.any_eq_true] at h
    obtain ⟨⟨⟨⟨⟨hne, -⟩, c, hc⟩, d, hd, hunder⟩, -⟩, -⟩ := h
    unfold validParents at hc
    unfold validChildren at hd
    rw [Option.filter_eq_some_iff] at hc hd
    simp only [Bool.and_eq_true, Option.isNone_iff_eq_none] at hc hd
    exact ⟨parent, child, hne, ⟨⟨c, hc.1, hc.2.1.1, hc.2.1.2⟩, d, hd.1, hunder, hd.2.2⟩,
      hparent, hchild⟩
  · cases h

/-- The columns of a category that the checks read. -/
def entry (c : MarketplaceCategory) : Option String × Bool × Bool :=
  (c.parentCategoryId, c.enabledForCreatorCrawl, c.availableForCreatorFilter)

theorem current_of_entries
    (h : ∀ id, (db'.categories.get id).map entry = (db.categories.get id).map entry)
    (hp : Current db p) : Current db' p := by
  obtain ⟨parent, child, hne, ⟨⟨c, hc, hroot, henabled⟩, d, hd, hunder, havailable⟩, hpair⟩ := hp
  have hparent := h parent
  have hchild := h child
  rw [hc, Option.map_some, Option.map_eq_some_iff] at hparent
  rw [hd, Option.map_some, Option.map_eq_some_iff] at hchild
  obtain ⟨c', hc', hsame⟩ := hparent
  obtain ⟨d', hd', hsame'⟩ := hchild
  simp only [entry, Prod.mk.injEq] at hsame hsame'
  exact ⟨parent, child, hne, ⟨⟨c', hc', hsame.1.trans hroot, hsame.2.1.trans henabled⟩,
    d', hd', hsame'.1.trans hunder, hsame'.2.2.trans havailable⟩, hpair⟩

/-- Going on with a partition leaves the catalog as it is. -/
theorem entries_of_takes (htakes : Takes env config db p db') (id : String) :
    (db'.categories.get id).map entry = (db.categories.get id).map entry := by
  cases htakes with
  | resumed => rfl
  | claimed hrun =>
    have hclaims := claimPartition_claims hrun
    generalize some _ = r at hclaims
    cases hclaims with
    | current _ hexpand => rw [(expandReadyBranches_expands hexpand).categories]
    | exhausted _ hexpand => simp only [(expandReadyBranches_expands hexpand).categories]
    | started _ hexpand =>
      simp only [(expandReadyBranches_expands hexpand).categories, Table.get_updateMany,
        Option.map_map]
      congr 1
      funext c
      simp only [Function.comp]
      split
      · rfl
      · rfl

theorem probed_of_resumes (h : resumes p = true) : Probed p := by
  intro hg4
  simp only [resumes, hg4, Bool.and_eq_true, Bool.or_eq_true, ne_eq, not_true_eq_false,
    decide_false, Bool.false_eq_true, false_or] at h
  exact h.2

/-- The partition asks for what a stored one asks for, and is a probe where it has to be. -/
theorem searches_of_takes (hids : FreshIds db) (hdb : Searching S db)
    (htakes : Takes env config db p db') : Searches S p ∧ Probed p := by
  cases htakes with
  | resumed _ hp hresumes => exact ⟨hdb _ _ hp, probed_of_resumes hresumes⟩
  | @claimed leaseId now claim _ hrun =>
    have hclaims := claimPartition_claims hrun
    generalize hr : some claim = r at hclaims
    cases hclaims with
    | current db1 hexpand _ id q _ hq hresumes =>
      cases hr
      exact ⟨searching_expand hids hdb hexpand id q hq, probed_of_resumes hresumes⟩
    | exhausted => cases hr
    | started db1 hexpand _ _ selection hselection next hnext =>
      cases hr
      obtain ⟨hstored, -, hprobe⟩ := of_selectPartition hselection hnext
      have hidentity : identity (claimedRow selection.slot now (next.id, next.candidate)).2 =
        identity next.candidate := rfl
      refine ⟨(searching_expand hids hdb hexpand _ _ hstored).of_identity hidentity, fun hg4 => ?_⟩
      have hbucket : next.candidate.gmvBucket = some .G4 := hg4
      simp [Claim.row, claimedRow, hbucket, hprobe hbucket]

/-- A partition that goes on is requested when its categories are in the catalog. -/
theorem requestable_iff (hids : FreshIds db) (hdb : Searching S db)
    (htakes : Takes env config db p db') :
    (∃ filters, requestFilters p (catalogOf db') = .ok filters) ↔ Current db p := by
  obtain ⟨hsearches, hprobed⟩ := searches_of_takes hids hdb htakes
  rw [requestFilters_iff hsearches hprobed]
  exact ⟨current_of_entries (fun id => (entries_of_takes htakes id).symm),
    current_of_entries (entries_of_takes htakes)⟩

/-- The current partition behind an expansion is one that was stored before. -/
theorem resumed_before {db1 : Db} {id : Nat} (hids : FreshIds db)
    (hexpanded : Expanded db db1) (hq : db1.partitions.get id = some q)
    (hresumes : resumes q = true) :
    ∃ p, db.partitions.get id = some p ∧ resumes p = true ∧ identity q = identity p := by
  rcases hexpanded.new hids id q hq with ⟨p, hp⟩ | hnew
  · obtain ⟨q', hq', hsame⟩ := hexpanded.old hids id p hp
    rw [hq, Option.some.injEq] at hq'
    subst hq'
    have hidentity : identity (unbranched q) = identity (unbranched p) := congrArg identity hsame
    have hcolumns : resumes (unbranched q) = resumes (unbranched p) := congrArg resumes hsame
    refine ⟨p, hp, ?_, hidentity⟩
    exact hcolumns.symm.trans hresumes
  · -- a new partition waits
    have hmidway : midway q.status = false := by
      rw [hnew.status, claimableStatus]
      split
      · rfl
      · rfl
    simp [resumes, resumable, hmidway] at hresumes

theorem current_of_takes (hids : FreshIds db) (hcatalogued : Catalogued db)
    (htakes : Takes env config db p db') : Current db p := by
  cases htakes with
  | resumed hid hp hresumes => exact hcatalogued.current _ _ hid hp hresumes
  | @claimed leaseId now claim _ hrun =>
    have hclaims := claimPartition_claims hrun
    generalize hr : some claim = r at hclaims
    cases hclaims with
    | current db1 hexpand _ id q hid hq hresumes =>
      cases hr
      obtain ⟨p, hp, hbefore, hidentity⟩ :=
        resumed_before hids (expandReadyBranches_expands hexpand) hq hresumes
      exact current_of_identity hidentity (hcatalogued.current id p hid hp hbefore)
    | exhausted => cases hr
    | started db1 hexpand _ _ selection hselection next hnext =>
      cases hr
      obtain ⟨hstored, hcandidate, -⟩ := of_selectPartition hselection hnext
      have hcategories := (expandReadyBranches_expands hexpand).categories
      have hkept := everywhere_expand (inherited_current db) hids
        (fun id p hp => ⟨hcatalogued.waiting id p hp, hcatalogued.unsplit id p hp⟩) hexpand
      have hunchecked : ¬ (next.candidate.partitionType = .V2_SEED ∧
          isG1G2 next.candidate = true) → Current db next.candidate := fun hkind =>
        (hkept _ _ hstored).1 ⟨hcandidate.claimable, hkind⟩
      refine current_of_identity (p := next.candidate) rfl ?_
      cases hcandidate with
      | adaptive htype =>
        refine hunchecked (fun hkind => ?_)
        simp [isAdaptive, hkind.1] at htype
      | seed _ _ _ hvalid =>
        refine current_of_entries (fun id => ?_) (current_of_validSeedSnapshot hvalid)
        rw [hcategories]
      | g3Seed _ hbucket =>
        refine hunchecked (fun hkind => ?_)
        simp [isG1G2, hbucket] at hkind
      | g4 _ hbucket =>
        refine hunchecked (fun hkind => ?_)
        simp [isG1G2, hbucket] at hkind

end Claims

/-! ## Runs -/

section Runs

variable {S : String → String → Prop} {env : Environment} {config : Config} {db db' : Db}
  {p : CreatorSearchPartition} {ambient : Ambient}

theorem freshIds_of_effect {c : Command} {a : c.Result} (hids : FreshIds db)
    (h : Effect env config ambient db c a db') : FreshIds db' :=
  (probes_of_effect h).ids hids

theorem searching_disabled (hdb : Searching S db) : Searching S (disabled db) :=
  searching_updateMany hdb (fun _ => rfl)

/-- The seeds of a catalog with pairs in `S` only. -/
theorem searching_planting {catalog : List CatalogNode} (hids : FreshIds db) (hdb : Searching S db)
    (hpairs : ∀ parent child, (parent, child) ∈ crawlPairs catalog → S parent child) :
    Searching S (insertPartitions (disabled db) (missingSeeds env catalog (disabled db))) := by
  intro id q hq
  rcases of_get_insertPartitions (freshIds_updateMany hids) hq with hold | ⟨-, hfind⟩
  · exact searching_disabled hdb id q hold
  · exact (searches_missingSeeds (List.mem_of_find?_eq_some hfind)).mono hpairs

theorem searching_of_run {ls : List (Command × Ambient)}
    (hrun : Run (CommandStep env config) Db.initial ls db) :
    FreshIds db ∧ Searching (fun _ _ => True) db := by
  refine hrun.invariant (fun s => FreshIds s ∧ Searching (fun _ _ => True) s) ?_ ?_
  · rintro s ⟨c, ambient⟩ t _ ⟨r, hstep⟩ ⟨hids, hs⟩
    refine ⟨freshIds_of_effect hids (effect_of_run hstep), ?_⟩
    by_cases hplant : ∃ catalog, c = .initializePartitions catalog
    · obtain ⟨catalog, rfl⟩ := hplant
      refine searching_same ?_ (congrArg Db.partitions (initializePartitions_effect hstep))
      exact searching_planting hids hs (fun _ _ _ => trivial)
    · push Not at hplant
      exact searching_of_command hplant hids hs hstep
  · refine ⟨fun id p hp => ?_, fun id p hp => ?_⟩
    · cases hp
    · cases hp

/-- In every state of every run, what the worker goes on with is requested when its categories are
in the catalog, and it always is when the partitions that are taken without a look at the catalog
are in it. -/
theorem claims_are_requestable {ls : List (Command × Ambient)}
    (hrun : Run (CommandStep env config) Db.initial ls db) (htakes : Takes env config db p db') :
    ((∃ filters, requestFilters p (catalogOf db') = .ok filters) ↔ Current db p) ∧
      (Catalogued db → ∃ filters, requestFilters p (catalogOf db') = .ok filters) := by
  obtain ⟨hids, hdb⟩ := searching_of_run hrun
  have hiff := requestable_iff hids hdb htakes
  exact ⟨hiff, fun hcatalogued => hiff.2 (current_of_takes hids hcatalogued htakes)⟩

end Runs

/-! ## A claim that finds work -/

section Work

variable {env : Environment} {config : Config} {db : Db} {leaseId : Nat} {now : Int}

theorem startPartition_ok {sequence : Nat} (selection : Selection) {next : Row}
    (hstored : db.partitions.get next.1 = some next.2)
    (hstatus : next.2.status = claimableStatus next.2) :
    ∃ claim db', (startPartition env leaseId sequence now selection next).run db =
      .ok (some claim, db') := by
  have hcount : db.partitions.count
      (fun id p => id = next.1 && p.status = claimableStatus next.2) = 1 :=
    Table.count_key hstored (p := fun p => p.status = claimableStatus next.2)
      (decide_eq_true hstatus)
  unfold startPartition
  simp only [Tx.run_bind, Tx.run_updateMany, table.partitions, hcount, ne_eq, not_true_eq_false,
    if_false, run_updateJobWhere, Except.bind]
  cases selection.isCategoryExploration with
  | false => exact ⟨_, _, rfl⟩
  | true =>
    unfold recordExploration
    cases next.2.categoryId with
    | none => exact ⟨_, _, rfl⟩
    | some parent => cases next.2.categoryChildId with
      | none => exact ⟨_, _, rfl⟩
      | some child => exact ⟨_, _, rfl⟩

/-- Nothing is expanded before a partition is finished. -/
theorem expandReadyBranches_idle
    (h : ∀ id p, db.partitions.get id = some p → finished p.status = false) :
    (expandReadyBranches config).run db = .ok ((), db) := by
  have hseeds : completedSeeds db = [] := by
    unfold completedSeeds
    rw [List.eq_nil_iff_forall_not_mem]
    intro row hrow
    obtain ⟨hget, hkind⟩ := (Table.mem_findMany _ _ _ _).1 hrow
    have hnot := h _ _ hget
    simp only [Bool.and_eq_true, Bool.or_eq_true, decide_eq_true_eq] at hkind
    simp only [finished, Bool.or_eq_false_iff, decide_eq_false_iff_not] at hnot
    rcases hkind.1.2 with hdone | hdone
    · exact hnot.1.1 hdone
    · exact hnot.1.2 hdone
  have hparents : completedFollowerParents db = [] := by
    unfold completedFollowerParents
    rw [List.dedup_eq_nil, List.filterMap_eq_nil_iff]
    intro row hrow
    obtain ⟨hget, hkind⟩ := (Table.mem_findMany _ _ _ _).1 hrow
    simp [h _ _ hget] at hkind
  unfold expandReadyBranches
  simp only [Tx.run_bind, Tx.run_read, hseeds, hparents, Tx.traverse, Tx.run_ret, Tx.run_pure,
    Except.bind]

/-- A claim under the lease takes a partition when one of the third bucket waits. -/
theorem claimPartition_ok (hlease : db.job.leaseId = some leaseId)
    (hcurrent : db.job.currentPartitionId = none)
    (hidle : ∀ id p, db.partitions.get id = some p → finished p.status = false)
    {slot : SchedulerSlot} (hslot : schedulerSlot (db.job.partitionClaimSequence + 1)
      (coverageMode env db) config.g4ProbeCadence config.schedulerPrimaryCycle = .ok slot)
    {id : Nat} {p : CreatorSearchPartition} (hp : db.partitions.get id = some p)
    (htype : p.partitionType = .V2_SEED) (hbucket : p.gmvBucket = some .G3)
    (hstatus : p.status = .QUEUED) :
    ∃ claim db', (claimPartition env config leaseId now).run db = .ok (some claim, db') := by
  have hmem : (id, p) ∈ inQueueOrder (db.partitions.findMany (fun _ p =>
      p.partitionType = .V2_SEED && p.gmvBucket = some .G3 && p.status = .QUEUED)) :=
    mem_inQueueOrder.2 ((Table.mem_findMany _ _ _ _).2 ⟨hp, by simp [htype, hbucket, hstatus]⟩)
  obtain ⟨row, hrow⟩ : ∃ row, g3Seed db = some row :=
    Option.ne_none_iff_exists'.1 (fun hnone =>
      List.ne_nil_of_mem hmem (List.head?_eq_none_iff.1 hnone))
  have hrowbucket : row.2.gmvBucket = some .G3 := by
    have hkind := ((Table.mem_findMany _ _ _ _).1 (mem_of_head_inQueueOrder hrow)).2
    simp only [Bool.and_eq_true, decide_eq_true_eq] at hkind
    exact hkind.1.2
  have hscored : scoreCandidate env db now row ∈ scoredCandidates env db now := by
    refine List.mem_map.2 ⟨row, ?_, rfl⟩
    unfold candidateRows
    simp [hrow]
  have hselected := (the_scheduler_conserves_work (fun c hc => scored_of_mem hc) slot).1
    ⟨_, hscored, .inr (.inr (.inl hrowbucket))⟩
  obtain ⟨selection, hselection, next, hnext⟩ : ∃ selection,
      selectPartition env config db (db.job.partitionClaimSequence + 1) now = .ok selection ∧
      ∃ next, selection.selected = some next := by
    unfold selectPartition
    simp only [hslot]
    refine ⟨_, rfl, Option.isSome_iff_exists.1 ?_⟩
    rw [Option.isSome_or, hselected, Bool.or_true]
  obtain ⟨hstored, hcandidate, -⟩ := of_selectPartition hselection hnext
  have hjob : (jobUnderLease leaseId).run db = .ok (db.job, db) :=
    run_jobUnderLease_eq_ok.2 ⟨hlease, rfl⟩
  obtain ⟨claim, db', hstart⟩ : ∃ claim db',
      (startPartition env leaseId (db.job.partitionClaimSequence + 1) now selection
        (next.id, next.candidate)).run db = .ok (some claim, db') :=
    startPartition_ok selection hstored hcandidate.claimable
  refine ⟨claim, db', ?_⟩
  unfold partition_claims.claimPartition
  simp only [Tx.run_lock, Tx.run_bind, expandReadyBranches_idle hidle, hjob, hcurrent, Except.bind]
  unfold claimNext
  simp only [Tx.run_bind, Tx.run_read, hselection, hnext, Except.bind]
  exact hstart

end Work

/-! ## A category that is dropped -/

/-- The one child that a partition of the sample searches. -/
def ofSample (parent child : String) : Prop := parent = "1" ∧ child = "2"

/-- The partitions are planted for the sample, and none of them has been claimed. -/
structure Poised (db : Db) : Prop where
  ids : FreshIds db
  searching : Searching ofSample db
  untouched : ∀ id p, db.partitions.get id = some p → Untouched p
  waits : ∃ id p, db.partitions.get id = some p ∧ p.partitionType = .V2_SEED ∧
    p.gmvBucket = some .G3
  job : db.job = initializedJob {}

section Samples

variable {config : Config} {db db' : Db} {n : Nat}

theorem Poised.congr (h : Poised db) (hrows : db'.partitions = db.partitions)
    (hnext : db'.nextPartitionId = db.nextPartitionId) (hjob : db'.job = db.job) : Poised db' where
  ids id p hp := by
    rw [hnext]
    exact h.ids id p (hrows ▸ hp)
  searching id p hp := h.searching id p (hrows ▸ hp)
  untouched id p hp := h.untouched id p (hrows ▸ hp)
  waits := by
    rw [hrows]
    exact h.waits
  job := hjob.trans h.job

/-- The seeds of the sample are planted in an empty table. -/
theorem poised_planted (hids : FreshIds db) (hempty : ∀ id, db.partitions.get id = none)
    (hjob : initializedJob db.job = initializedJob {}) (hcategories : db.categories = oneChild)
    (hrun : (initializePartitions sampleEnvironment (catalogOf db)).run db = .ok (n, db')) :
    Poised db' := by
  have hcatalog : catalogOf db = [⟨"1", none, true, true, 0⟩, ⟨"2", some "1", false, true, 1⟩] := by
    unfold catalogOf
    rw [hcategories]
    rfl
  have hpairs : ∀ parent child, (parent, child) ∈ crawlPairs (catalogOf db) →
      ofSample parent child := by
    rw [hcatalog]
    intro parent child hpair
    have hone : crawlPairs [⟨"1", none, true, true, 0⟩, ⟨"2", some "1", false, true, 1⟩] =
      [("1", "2")] := by decide
    rw [hone, List.mem_singleton, Prod.mk.injEq] at hpair
    exact hpair
  have hroot : Crawled (catalogOf db) ⟨"1", none, true, true, 0⟩ := by
    rw [hcatalog]
    exact ⟨by decide, rfl, rfl, rfl⟩
  have hchild : Searched (catalogOf db) ⟨"1", none, true, true, 0⟩
      ⟨"2", some "1", false, true, 1⟩ := by
    rw [hcatalog]
    exact ⟨by decide, rfl, rfl⟩
  obtain ⟨row, hrow, hmatch⟩ := exists_match hroot hchild .G3 (Nat.le_refl _)
  have hdecimal : ∀ node ∈ catalogOf db, Decimal node.categoryId := by
    rw [hcatalog]
    intro node hnode
    rcases List.mem_pair.1 hnode with rfl | rfl
    · exact ⟨by simp, by simp⟩
    · exact ⟨by simp, by simp⟩
  obtain ⟨id, roots, hid⟩ := exists_planted hrun hempty (by rw [hcatalog]; decide) hdecimal hrow
  have heffect := initializePartitions_effect hrun
  have hnone : Searching ofSample db := by
    intro id p hp
    rw [hempty id] at hp
    cases hp
  constructor
  · have hplanted : Effect sampleEnvironment Config.defaults ⟨0, 0⟩ db
        (.initializePartitions (catalogOf db)) n db' := heffect
    exact freshIds_of_effect hids hplanted
  · rw [heffect]
    exact searching_same (searching_planting hids hnone hpairs) rfl
  · intro id p hp
    rw [heffect] at hp
    have hexpanded := expanded_missingSeeds sampleEnvironment (catalogOf db) (disabled db)
    rcases hexpanded.new (freshIds_updateMany hids) id p hp with ⟨q, hold⟩ | hnew
    · simp [disabled, table.partitions, Table.get_updateMany, hempty] at hold
    · exact hnew
  · exact ⟨id, _, hid, rfl, congrArg some hmatch.bucket⟩
  · have hkept := (expanded_missingSeeds sampleEnvironment (catalogOf db) (disabled db)).job
    rw [heffect]
    exact (congrArg initializedJob hkept).trans hjob

/-- The job resumes, and a worker takes the lease. -/
def workerTakesOver : List (Command × Ambient) :=
  [(.resume (initializedJob {}) false, ⟨0, 0⟩), (.claimLease 0, ⟨0, 0⟩)]

/-- The job under the lease of the worker. -/
def leasedJob : CreatorSyncJob :=
  { initializedJob {} with
    state := .RUNNING
    currentStage := .CLAIMING_PARTITION
    leaseId := some 0
    leaseExpiresAt := some LEASE_MS }

theorem run_workerTakesOver (hjob : db.job = initializedJob {}) :
    Run (CommandStep sampleEnvironment Config.defaults) db workerTakesOver
      { db with job := leasedJob } := by
  obtain ⟨job, partitions, nextPartitionId, pages, nextPageId, creators, categories⟩ := db
  cases hjob
  exact .cons ⟨(), rfl⟩ (.cons ⟨(1 : Nat), rfl⟩ (.nil _))

/-- A claim of the worker takes one of the partitions. -/
theorem exists_takes (h : Poised db) : ∃ p db', Takes sampleEnvironment Config.defaults
    { db with job := leasedJob } p db' := by
  obtain ⟨id, p, hp, htype, hbucket⟩ := h.waits
  have hqueued : p.status = .QUEUED := by
    rw [(h.untouched id p hp).status, claimableStatus, hbucket]
    rfl
  have hidle : ∀ id p, db.partitions.get id = some p → finished p.status = false := by
    intro id p hp
    rw [(h.untouched id p hp).status, claimableStatus]
    split
    · rfl
    · rfl
  have hslot : ∀ mode, schedulerSlot 1 mode Config.defaults.g4ProbeCadence
      Config.defaults.schedulerPrimaryCycle = .ok .PRIMARY_PRODUCTIVE := by
    intro mode
    cases mode
    · rfl
    · rfl
  obtain ⟨claim, db', hclaim⟩ : ∃ claim db',
      (partition_claims.claimPartition sampleEnvironment Config.defaults 0 0).run
        { db with job := leasedJob } = .ok (some claim, db') :=
    claimPartition_ok rfl rfl hidle (hslot _) hp htype hbucket hqueued
  exact ⟨_, _, .claimed hclaim⟩

/-- The provider has a root with one child. -/
def planting : List (Command × Ambient) :=
  [(.refreshCategories [⟨"1", "0"⟩, ⟨"2", "1"⟩], ⟨0, 0⟩),
    (.initializePartitions (catalogOf { Db.initial with categories := oneChild }), ⟨0, 0⟩)]

theorem run_to_poised : ∃ db,
    Run (CommandStep sampleEnvironment Config.defaults) Db.initial planting db ∧ Poised db ∧
      db.categories = oneChild := by
  obtain ⟨db, hplant⟩ := initializePartitions_ok sampleEnvironment
    (catalogOf { Db.initial with categories := oneChild })
    { Db.initial with categories := oneChild }
  have hnone : ∀ id, Db.initial.partitions.get id = none := fun _ => rfl
  have hids : FreshIds { Db.initial with categories := oneChild } := by
    intro id p hp
    rw [hnone id] at hp
    cases hp
  refine ⟨db, .cons ⟨(), rfl⟩ (.cons ⟨_, hplant⟩ (.nil _)),
    poised_planted hids hnone rfl rfl hplant, ?_⟩
  exact categories_initializePartitions hplant

end Samples

/-- The categories when the provider has dropped the child. -/
def withoutChild : Table String MarketplaceCategory :=
  ⟨[("1", ⟨none, true, true, 0, none, none, none⟩),
    ("2", ⟨some "1", false, false, 1, none, none, none⟩)], by decide⟩

/-- The provider drops the child behind the partitions that search it. No seeds are planted then. -/
def dropped : List (Command × Ambient) := [(.refreshCategories [⟨"1", "0"⟩], ⟨0, 0⟩)]

theorem run_dropped {planted : Db} (hcategories : planted.categories = oneChild) :
    Run (CommandStep sampleEnvironment Config.defaults) planted dropped
      { planted with categories := withoutChild } := by
  obtain ⟨job, partitions, nextPartitionId, pages, nextPageId, creators, categories⟩ := planted
  cases hcategories
  exact .cons ⟨(), rfl⟩ (.nil _)

/-- After the only child of the catalog was dropped, a claim takes a partition of it, whose checks
fail. -/
theorem a_claim_is_not_requestable : ∃ db p db',
    Run (CommandStep sampleEnvironment Config.defaults) Db.initial
      (planting ++ dropped ++ workerTakesOver) db ∧
    Takes sampleEnvironment Config.defaults db p db' ∧
    ¬ ∃ filters, requestFilters p (catalogOf db') = .ok filters := by
  obtain ⟨planted, hplanted, hpoised, hcategories⟩ := run_to_poised
  have hkept : Poised { planted with categories := withoutChild } := hpoised.congr rfl rfl rfl
  obtain ⟨p, db', htakes⟩ := exists_takes hkept
  refine ⟨_, p, db', (hplanted.append (run_dropped hcategories)).append
    (run_workerTakesOver hkept.job), htakes, ?_⟩
  have hids : FreshIds { planted with categories := withoutChild, job := leasedJob } := hkept.ids
  have hsearching : Searching ofSample
      { planted with categories := withoutChild, job := leasedJob } := hkept.searching
  rw [requestable_iff hids hsearching htakes]
  rintro ⟨parent, child, -, ⟨-, c, hc, -, havailable⟩, -, hchild⟩
  obtain ⟨_, _, ⟨-, rfl⟩, -, hsearched, -⟩ := (searches_of_takes hids hsearching htakes).1.pair
  rw [hsearched, Option.some.injEq] at hchild
  have hgone : withoutChild.get "2" = some ⟨some "1", false, false, 1, none, none, none⟩ := rfl
  rw [← hchild, hgone, Option.some.injEq] at hc
  rw [← hc] at havailable
  cases havailable

/-- In the catalog that the partitions were planted for, what is claimed is requested. -/
theorem claims_are_requestable_at_first : ∃ db p db' filters,
    Run (CommandStep sampleEnvironment Config.defaults) Db.initial (planting ++ workerTakesOver)
      db ∧
    Takes sampleEnvironment Config.defaults db p db' ∧ Catalogued db ∧
    requestFilters p (catalogOf db') = .ok filters := by
  obtain ⟨planted, hplanted, hpoised, hcategories⟩ := run_to_poised
  obtain ⟨p, db', htakes⟩ := exists_takes hpoised
  have hrun := hplanted.append (run_workerTakesOver hpoised.job)
  have hcurrent : ∀ id p, planted.partitions.get id = some p →
      Current { planted with job := leasedJob } p := by
    intro id p hp
    obtain ⟨_, _, ⟨rfl, rfl⟩, hparent, hchild, -⟩ := (hpoised.searching id p hp).pair
    refine ⟨"1", "2", by decide, ?_, hparent, hchild⟩
    unfold Listed
    rw [hcategories]
    exact ⟨⟨_, rfl, rfl, rfl⟩, _, rfl, rfl, rfl⟩
  have hcatalogued : Catalogued { planted with job := leasedJob } :=
    ⟨fun id p _ hp _ => hcurrent id p hp, fun id p hp _ => hcurrent id p hp,
      fun id p hp _ _ => hcurrent id p hp⟩
  obtain ⟨filters, hfilters⟩ := (claims_are_requestable hrun htakes).2 hcatalogued
  exact ⟨_, p, db', filters, hrun, htakes, hcatalogued, hfilters⟩

end tiktok_outreach.request_checks
