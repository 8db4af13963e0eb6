-- The seeds that `v2BasePartitionRows` generates: each is one that the
-- validators accept, no two share a key or a position, and they cover the
-- children of the crawled roots in all buckets.
import TiktokOutreach.QueueGrowth
import TiktokOutreach.QueuePositions

open separated divisions tiktok_outreach.creator_schema tiktok_outreach.marketplace_partitions
  tiktok_outreach.adaptive_queue tiktok_outreach.partition_forest tiktok_outreach.queue_growth

namespace tiktok_outreach.seed_rows

/-- Whether a root is crawled. -/
structure Crawled (catalog : List CatalogNode) (root : CatalogNode) : Prop where
  mem : root ∈ catalog
  isRoot : root.parentCategoryId = none
  enabled : root.enabledForCreatorCrawl = true
  available : root.availableForCreatorFilter = true

/-- Whether a child of a root is searched. -/
structure Searched (catalog : List CatalogNode) (root child : CatalogNode) : Prop where
  mem : child ∈ catalog
  isChild : child.parentCategoryId = some root.categoryId
  available : child.availableForCreatorFilter = true

/-- Whether a row is the one of a child, a bucket of GMV and a number of followers. -/
structure Matches (row : BasePartitionRow) (root child : CatalogNode) (gmv : GmvBucketCode)
    (followers : Nat) : Prop where
  parent : row.parentCategoryId = root.categoryId
  child : row.childCategoryId = child.categoryId
  bucket : row.gmvBucket = gmv
  min_le : row.followersMin ≤ followers
  le_max : ∀ max, row.followersMax = some max → followers ≤ max

section Rows

variable {catalog : List CatalogNode}

theorem mem_crawlParents {root : CatalogNode} : root ∈ crawlParents catalog ↔ Crawled catalog root := by
  unfold crawlParents
  rw [List.mem_insertionSort, List.mem_filter]
  simp only [Bool.and_eq_true, decide_eq_true_eq]
  constructor
  · rintro ⟨hmem, ⟨hroot, henabled⟩, havailable⟩
    exact ⟨hmem, hroot, henabled, havailable⟩
  · rintro ⟨hmem, hroot, henabled, havailable⟩
    exact ⟨hmem, ⟨hroot, henabled⟩, havailable⟩

theorem mem_crawlChildren {root child : CatalogNode} :
    child ∈ crawlChildren catalog root ↔ Searched catalog root child := by
  unfold crawlChildren
  rw [List.mem_insertionSort, List.mem_filter]
  simp only [Bool.and_eq_true, decide_eq_true_eq]
  constructor
  · rintro ⟨hmem, hchild, havailable⟩
    exact ⟨hmem, hchild, havailable⟩
  · rintro ⟨hmem, hchild, havailable⟩
    exact ⟨hmem, hchild, havailable⟩

theorem mem_crawlPairs {pair : String × String} : pair ∈ crawlPairs catalog ↔
    ∃ root child, Crawled catalog root ∧ Searched catalog root child ∧
      pair = (root.categoryId, child.categoryId) := by
  unfold crawlPairs
  simp only [List.mem_flatMap, List.mem_map, mem_crawlParents, mem_crawlChildren]
  constructor
  · rintro ⟨root, hroot, child, hchild, rfl⟩
    exact ⟨root, child, hroot, hchild, rfl⟩
  · rintro ⟨root, child, hroot, hchild, rfl⟩
    exact ⟨root, hroot, child, hchild, rfl⟩

/-! ## No combination twice -/

theorem nodup_bucketPairs : bucketPairs.Nodup := by
  decide +kernel

variable (hids : (catalog.map CatalogNode.categoryId).Nodup)
include hids

theorem eq_of_categoryId {a b : CatalogNode} (ha : a ∈ catalog) (hb : b ∈ catalog)
    (h : a.categoryId = b.categoryId) : a = b :=
  List.inj_on_of_nodup_map hids ha hb h

theorem nodup_crawlPairs : (crawlPairs catalog).Nodup := by
  have hcatalog : catalog.Nodup := hids.of_map _
  unfold crawlPairs
  rw [List.nodup_flatMap]
  constructor
  · intro root _
    have hchildren : (crawlChildren catalog root).Nodup :=
      (List.perm_insertionSort _ _).nodup_iff.2 (hcatalog.filter _)
    apply hchildren.map_on
    intro a ha b hb hab
    exact eq_of_categoryId hids (mem_crawlChildren.1 ha).mem (mem_crawlChildren.1 hb).mem
      (Prod.mk.inj hab).2
  · have hparents : (crawlParents catalog).Nodup :=
      (List.perm_insertionSort _ _).nodup_iff.2 (hcatalog.filter _)
    refine hparents.imp_of_mem ?_
    intro a b ha hb hne pair hpair hpair'
    obtain ⟨_, _, rfl⟩ := List.mem_map.1 hpair
    obtain ⟨_, _, hsame⟩ := List.mem_map.1 hpair'
    exact hne (eq_of_categoryId hids (mem_crawlParents.1 ha).mem (mem_crawlParents.1 hb).mem
      (Prod.mk.inj hsame).1.symm)

theorem nodup_combinations : (combinations catalog).Nodup := by
  unfold combinations
  rw [List.nodup_flatMap]
  constructor
  · intro pair _
    exact nodup_bucketPairs.map (fun a b hab => (Prod.mk.inj hab).2)
  · refine (nodup_crawlPairs hids).imp ?_
    intro a b hne combination ha hb
    obtain ⟨_, _, rfl⟩ := List.mem_map.1 ha
    obtain ⟨_, _, hsame⟩ := List.mem_map.1 hb
    exact hne (Prod.mk.inj hsame).1.symm

end Rows

/-! ## No key twice -/

section Keys

variable {catalog : List CatalogNode}

theorem mem_combinations {c : (String × String) × FollowerBucket × GmvBucket}
    (h : c ∈ combinations catalog) :
    c.1 ∈ crawlPairs catalog ∧ c.2.1 ∈ FOLLOWER_BUCKETS ∧ c.2.2 ∈ GMV_BUCKETS := by
  unfold combinations bucketPairs at h
  simp only [List.mem_flatMap, List.mem_map] at h
  obtain ⟨pair, hpair, both, ⟨bucket, hbucket, gmv, hgmv, rfl⟩, rfl⟩ := h
  exact ⟨hpair, hbucket, hgmv⟩

/-- What a row takes from its combination, without its position. -/
theorem map_rows {α : Type} {f : BasePartitionRow → α}
    {g : (String × String) × FollowerBucket × GmvBucket → α}
    (h : ∀ c position, f (basePartitionRow c.1 c.2.1 c.2.2 position) = g c) :
    (v2BasePartitionRows catalog).map f = (combinations catalog).map g := by
  unfold v2BasePartitionRows
  rw [List.map_map]
  have hfst : (combinations catalog).map g =
      ((combinations catalog).zipIdx.map Prod.fst).map g := by
    rw [List.zipIdx_map_fst]
  rw [hfst, List.map_map]
  apply List.map_congr_left
  intro c _
  exact h c.1 c.2

theorem eq_of_min : ∀ b ∈ FOLLOWER_BUCKETS, ∀ b' ∈ FOLLOWER_BUCKETS, b.min = b'.min → b = b' := by
  intro b hb b' hb' h
  apply eq_of_buckets_meet hb hb'
  refine ⟨b.min, bucket_has_min b hb, ?_⟩
  rw [h]
  exact bucket_has_min b' hb'

theorem eq_of_code : ∀ g ∈ GMV_BUCKETS, ∀ g' ∈ GMV_BUCKETS, g.code = g'.code → g = g' := by
  decide

theorem gmvBucketDefinition_code : ∀ g ∈ GMV_BUCKETS, gmvBucketDefinition (some g.code) = some g := by
  decide

theorem exists_code (code : GmvBucketCode) : ∃ g ∈ GMV_BUCKETS, g.code = code := by
  cases code <;> decide

theorem combination_ext {c c' : (String × String) × FollowerBucket × GmvBucket}
    (hc : c ∈ combinations catalog) (hc' : c' ∈ combinations catalog) (hpair : c.1 = c'.1)
    (hmin : c.2.1.min = c'.2.1.min) (hcode : c.2.2.code = c'.2.2.code) : c = c' := by
  obtain ⟨-, hbucket, hgmv⟩ := mem_combinations hc
  obtain ⟨-, hbucket', hgmv'⟩ := mem_combinations hc'
  exact Prod.ext hpair (Prod.ext (eq_of_min _ hbucket _ hbucket' hmin)
    (eq_of_code _ hgmv _ hgmv' hcode))

theorem nodup_queuePositions :
    ((v2BasePartitionRows catalog).map BasePartitionRow.queuePosition).Nodup := by
  have hpositions : (v2BasePartitionRows catalog).map BasePartitionRow.queuePosition =
      (List.range (combinations catalog).length).map (fun i => (i + 1) * BASE_QUEUE_GAP) := by
    unfold v2BasePartitionRows
    rw [List.map_map, List.range_eq_range', ← List.zipIdx_map_snd 0 (combinations catalog),
      List.map_map]
    rfl
  rw [hpositions]
  apply List.nodup_range.map
  intro i j hij
  unfold BASE_QUEUE_GAP at hij
  dsimp only at hij
  omega

variable (hids : (catalog.map CatalogNode.categoryId).Nodup)
include hids

/-! ## What the validators say -/

theorem byId_of_mem {node : CatalogNode} (hnode : node ∈ catalog) :
    byId catalog node.categoryId = some node := by
  have hfound : (byId catalog node.categoryId).isSome := by
    unfold byId
    rw [List.find?_isSome]
    exact ⟨node, List.mem_reverse.2 hnode, by simp⟩
  obtain ⟨other, hother⟩ := Option.isSome_iff_exists.1 hfound
  have hid : other.categoryId = node.categoryId := by
    unfold byId at hother
    simpa using List.find?_some hother
  have hmem : other ∈ catalog := by
    unfold byId at hother
    exact List.mem_reverse.1 (List.mem_of_find?_eq_some hother)
  rw [hother, eq_of_categoryId hids hmem hnode hid]

theorem validate_row {row : BasePartitionRow} (h : row ∈ v2BasePartitionRows catalog) :
    validateV2CategorySelection row.parentCategoryId [row.childCategoryId] catalog = .ok () := by
  obtain ⟨pair, bucket, gmv, position, hpair, -, -, rfl⟩ := mem_v2BasePartitionRows h
  obtain ⟨root, child, hroot, hchild, rfl⟩ := mem_crawlPairs.1 hpair
  have hgetRoot := byId_of_mem hids hroot.mem
  have hgetChild := byId_of_mem hids hchild.mem
  simp [validateV2CategorySelection, validateMarketplaceCategorySelection, basePartitionRow,
    hgetRoot, hroot.isRoot, hroot.enabled, validateChild, hgetChild, hchild.isChild,
    hchild.available]

/-! ## What the keys say -/

variable (hdecimal : ∀ node ∈ catalog, Decimal node.categoryId)
include hdecimal

theorem nodup_partitionKeys :
    ((v2BasePartitionRows catalog).map BasePartitionRow.partitionKey).Nodup := by
  rw [map_rows (g := fun c => partitionKeyV2 c.1.1 c.1.2 c.2.1.min c.2.1.max (some c.2.2.code))
    (fun _ _ => rfl)]
  apply (nodup_combinations hids).map_on
  intro c hc c' hc' h
  obtain ⟨hparent, hchild⟩ := decimal_of_mem_crawlPairs hdecimal (mem_combinations hc).1
  obtain ⟨hparent', hchild'⟩ := decimal_of_mem_crawlPairs hdecimal (mem_combinations hc').1
  obtain ⟨h1, h2, hmin, -, hcode⟩ := partitionKeyV2_inj hparent hparent' hchild hchild' h
  exact combination_ext hc hc' (Prod.ext h1 h2) hmin hcode

theorem nodup_combinationKeys : ((v2BasePartitionRows catalog).map combinationKeyOf).Nodup := by
  rw [map_rows (g := fun c => specificGmvCombinationKey (some c.1.1) (some c.1.2) (some c.2.1.min)
    c.2.1.max (some c.2.2.code)) (fun _ _ => rfl)]
  apply (nodup_combinations hids).map_on
  intro c hc c' hc' h
  obtain ⟨hparent, hchild⟩ := decimal_of_mem_crawlPairs hdecimal (mem_combinations hc).1
  obtain ⟨hparent', hchild'⟩ := decimal_of_mem_crawlPairs hdecimal (mem_combinations hc').1
  obtain ⟨h1, h2, hmin, -, hcode⟩ := combinationKey_inj hparent hparent' hchild hchild' h
  exact combination_ext hc hc' (Prod.ext h1 h2) hmin hcode

end Keys

/-! ## Requests and coverage -/

section Coverage

variable {catalog : List CatalogNode}

/-- The filters of a seed are those of its row. -/
theorem partitionFilters_row (hdecimal : ∀ node ∈ catalog, Decimal node.categoryId)
    {row : BasePartitionRow} (h : row ∈ v2BasePartitionRows catalog)
    (env : creator_scheduler.Environment) (roots : String → Option Nat) :
    partitionFilters (seedPartition env roots row) =
      .ok ⟨row.parentCategoryId, [row.childCategoryId], row.followersMin, row.followersMax,
        [row.gmvRange]⟩ := by
  obtain ⟨pair, bucket, gmv, position, hpair, -, hgmv, rfl⟩ := mem_v2BasePartitionRows h
  have hparent : pair.1 ≠ "" := (decimal_of_mem_crawlPairs hdecimal hpair).1.1
  simp [partitionFilters, seedPartition, basePartitionRow, hparent,
    gmvBucketDefinition_code gmv hgmv]

/-- Two rows that match the same are of one bucket, and have one key. -/
theorem key_of_matches {row row' : BasePartitionRow} (h : row ∈ v2BasePartitionRows catalog)
    (h' : row' ∈ v2BasePartitionRows catalog) {root child : CatalogNode} {gmv : GmvBucketCode}
    {followers : Nat} (hmatches : Matches row root child gmv followers)
    (hmatches' : Matches row' root child gmv followers) : row.partitionKey = row'.partitionKey := by
  obtain ⟨pair, bucket, code, position, -, hbucket, -, rfl⟩ := mem_v2BasePartitionRows h
  obtain ⟨pair', bucket', code', position', -, hbucket', -, rfl⟩ := mem_v2BasePartitionRows h'
  have hmeet : (bucketSpan bucket).Meets (bucketSpan bucket') :=
    ⟨followers, ⟨hmatches.min_le, hmatches.le_max⟩, ⟨hmatches'.min_le, hmatches'.le_max⟩⟩
  have hparent : pair.1 = pair'.1 := hmatches.parent.trans hmatches'.parent.symm
  have hchild : pair.2 = pair'.2 := hmatches.child.trans hmatches'.child.symm
  have hcode : code.code = code'.code := hmatches.bucket.trans hmatches'.bucket.symm
  unfold basePartitionRow
  rw [hparent, hchild, hcode, eq_of_buckets_meet hbucket hbucket' hmeet]

theorem exists_match {root child : CatalogNode} (hroot : Crawled catalog root)
    (hchild : Searched catalog root child) (gmv : GmvBucketCode) {followers : Nat}
    (hfloor : CREATOR_FOLLOWER_HARD_FLOOR ≤ followers) :
    ∃ row ∈ v2BasePartitionRows catalog, Matches row root child gmv followers := by
  obtain ⟨bucket, hbucket, hhas⟩ := exists_bucket hfloor
  obtain ⟨definition, hdefinition, hcode⟩ := exists_code gmv
  have hpair : (root.categoryId, child.categoryId) ∈ crawlPairs catalog :=
    mem_crawlPairs.2 ⟨root, child, hroot, hchild, rfl⟩
  obtain ⟨position, hrow⟩ := exists_row hpair hbucket hdefinition
  exact ⟨_, hrow, rfl, rfl, hcode, hhas.1, hhas.2⟩

/-- The seeds of a catalog pass its validators and make requests, share no key and no position, and
each searched child of a crawled root has one for each bucket of GMV and number of followers. -/
theorem seeds_are_valid_distinct_and_complete
    (hids : (catalog.map CatalogNode.categoryId).Nodup)
    (hdecimal : ∀ node ∈ catalog, Decimal node.categoryId) :
    (∀ row ∈ v2BasePartitionRows catalog,
      validateV2CategorySelection row.parentCategoryId [row.childCategoryId] catalog = .ok () ∧
      ∀ env roots, partitionFilters (seedPartition env roots row) =
        .ok ⟨row.parentCategoryId, [row.childCategoryId], row.followersMin, row.followersMax,
          [row.gmvRange]⟩) ∧
    ((v2BasePartitionRows catalog).map BasePartitionRow.partitionKey).Nodup ∧
    ((v2BasePartitionRows catalog).map combinationKeyOf).Nodup ∧
    ((v2BasePartitionRows catalog).map BasePartitionRow.queuePosition).Nodup ∧
    ∀ root child, Crawled catalog root → Searched catalog root child → ∀ gmv followers,
      CREATOR_FOLLOWER_HARD_FLOOR ≤ followers →
        ∃! row, row ∈ v2BasePartitionRows catalog ∧ Matches row root child gmv followers := by
  have hkeys := nodup_partitionKeys hids hdecimal
  refine ⟨?_, hkeys, nodup_combinationKeys hids hdecimal, nodup_queuePositions, ?_⟩
  · intro row hrow
    exact ⟨validate_row hids hrow, partitionFilters_row hdecimal hrow⟩
  · intro root child hroot hchild gmv followers hfloor
    obtain ⟨row, hrow, hmatches⟩ := exists_match hroot hchild gmv hfloor
    refine ⟨row, ⟨hrow, hmatches⟩, ?_⟩
    rintro other ⟨hother, hmatches'⟩
    exact List.inj_on_of_nodup_map hkeys hother hrow (key_of_matches hother hrow hmatches' hmatches)

/-- A catalog of a root with a child, a disabled root with a child, and a category below the child. -/
def mixedCatalog : List CatalogNode :=
  [⟨"1", none, true, true, 0⟩, ⟨"2", some "1", false, true, 1⟩, ⟨"3", none, false, true, 2⟩,
    ⟨"4", some "3", false, true, 3⟩, ⟨"5", some "2", false, true, 4⟩]

theorem a_child_has_one_seed_for_a_count : ∃! row, row ∈ v2BasePartitionRows mixedCatalog ∧
    Matches row ⟨"1", none, true, true, 0⟩ ⟨"2", some "1", false, true, 1⟩ .G2 12345 := by
  have hids : (mixedCatalog.map CatalogNode.categoryId).Nodup := by decide
  have hdecimal : ∀ node ∈ mixedCatalog, Decimal node.categoryId := by
    intro node hnode
    unfold mixedCatalog at hnode
    simp only [List.mem_cons, List.not_mem_nil, or_false] at hnode
    rcases hnode with rfl | rfl | rfl | rfl | rfl <;> exact ⟨by simp, by simp⟩
  have hseeds := seeds_are_valid_distinct_and_complete hids hdecimal
  exact hseeds.2.2.2.2 _ _ ⟨by simp [mixedCatalog], rfl, rfl, rfl⟩ ⟨by simp [mixedCatalog], rfl, rfl⟩
    .G2 12345 (by decide)

end Coverage

end tiktok_outreach.seed_rows
