-- The families of the seeds of the first two buckets: `initializePartitions`
-- plants a seed only for the first pair with its key, so that a family key
-- stands for one pair and one range, and one of its queued seeds is eligible.
import TiktokOutreach.ClaimCandidates
import TiktokOutreach.CommandEffects
import TiktokOutreach.SeedRows

open separated tables transactions tiktok_outreach.creator_schema
  tiktok_outreach.marketplace_partitions tiktok_outreach.creator_scheduler
  tiktok_outreach.adaptive_queue tiktok_outreach.partition_claims
  tiktok_outreach.partition_forest tiktok_outreach.queue_growth
  tiktok_outreach.creator_effects tiktok_outreach.claim_candidates
  tiktok_outreach.command_effects tiktok_outreach.seed_rows

namespace tiktok_outreach.seed_families

/-! ## Inserts under a key -/

def UniqueKeys (db : Db) : Prop :=
  ∀ i j p q, db.partitions.get i = some p → db.partitions.get j = some q →
    p.partitionKey = q.partitionKey → i = j

/-- No partition has the key. -/
def KeyFree (db : Db) (key : String) : Prop :=
  ∀ id p, db.partitions.get id = some p → p.partitionKey ≠ key

section Inserts

variable {db : Db} {ps : List CreatorSearchPartition} {p q : CreatorSearchPartition} {id : Nat}

theorem insertPartition_cases (db : Db) (p : CreatorSearchPartition) :
    (¬ KeyFree db p.partitionKey ∧ insertPartition db p = db) ∨
      KeyFree db p.partitionKey ∧ insertPartition db p = { db with
        partitions := db.partitions.set db.nextPartitionId p
        nextPartitionId := db.nextPartitionId + 1 } := by
  unfold insertPartition KeyFree
  by_cases hany : db.partitions.any (fun _ q => q.partitionKey = p.partitionKey) = true
  · obtain ⟨id, q, hq, hkey⟩ := (Table.any_iff _ _).1 hany
    rw [if_pos hany]
    exact .inl ⟨fun hfree => hfree id q hq (of_decide_eq_true hkey), rfl⟩
  · rw [if_neg hany]
    rw [Bool.not_eq_true, Table.any_eq_false_iff] at hany
    exact .inr ⟨fun id q hq => of_decide_eq_false (hany id q hq), rfl⟩

theorem not_keyFree_insertPartition (db : Db) (p : CreatorSearchPartition) :
    ¬ KeyFree (insertPartition db p) p.partitionKey := by
  rcases insertPartition_cases db p with ⟨htaken, hsame⟩ | ⟨_, hnew⟩
  · rw [hsame]
    exact htaken
  · rw [hnew]
    intro hfree
    exact hfree db.nextPartitionId p (by simp) rfl

theorem of_get_insertPartition (h : (insertPartition db p).partitions.get id = some q) :
    db.partitions.get id = some q ∨ q = p ∧ KeyFree db p.partitionKey := by
  rcases insertPartition_cases db p with ⟨_, hsame⟩ | ⟨hfree, hnew⟩
  · exact .inl (hsame ▸ h)
  · rw [hnew] at h
    simp only [Table.get_set] at h
    split at h
    · exact .inr ⟨(Option.some.inj h).symm, hfree⟩
    · exact .inl h

theorem get_insertPartition (hids : FreshIds db) (hq : db.partitions.get id = some q) :
    (insertPartition db p).partitions.get id = some q := by
  rcases insertPartition_cases db p with ⟨_, hsame⟩ | ⟨_, hnew⟩
  · rw [hsame]
    exact hq
  · have hid := hids id q hq
    rw [hnew, Table.get_set, if_neg (by omega), hq]

theorem freshIds_insertPartition (hids : FreshIds db) : FreshIds (insertPartition db p) := by
  rcases insertPartition_cases db p with ⟨_, hsame⟩ | ⟨_, hnew⟩
  · rw [hsame]
    exact hids
  · rw [hnew]
    intro id q hq
    simp only [Table.get_set] at hq
    dsimp only
    split at hq
    · omega
    · have hid := hids id q hq
      omega

theorem uniqueKeys_insertPartition (hkeys : UniqueKeys db) : UniqueKeys (insertPartition db p) := by
  rcases insertPartition_cases db p with ⟨_, hsame⟩ | ⟨hfree, hnew⟩
  · rw [hsame]
    exact hkeys
  · rw [hnew]
    intro i j q r hq hr hkey
    simp only [Table.get_set] at hq hr
    split at hq
    · obtain rfl := Option.some.inj hq
      split at hr
      · omega
      · exact absurd hkey.symm (hfree j r hr)
    · split at hr
      · obtain rfl := Option.some.inj hr
        exact absurd hkey (hfree i q hq)
      · exact hkeys i j q r hq hr hkey

theorem insertPartitions_cons : insertPartitions db (p :: ps) =
    insertPartitions (insertPartition db p) ps := rfl

theorem freshIds_insertPartitions (hids : FreshIds db) : FreshIds (insertPartitions db ps) := by
  induction ps generalizing db with
  | nil => exact hids
  | cons p ps ih => exact ih (freshIds_insertPartition hids)

theorem uniqueKeys_insertPartitions (hkeys : UniqueKeys db) :
    UniqueKeys (insertPartitions db ps) := by
  induction ps generalizing db with
  | nil => exact hkeys
  | cons p ps ih => exact ih (uniqueKeys_insertPartition hkeys)

theorem get_insertPartitions (hids : FreshIds db) (hq : db.partitions.get id = some q) :
    (insertPartitions db ps).partitions.get id = some q := by
  induction ps generalizing db with
  | nil => exact hq
  | cons p ps ih => exact ih (freshIds_insertPartition hids) (get_insertPartition hids hq)

/-- Of the partitions with one key the first one is inserted, if any. -/
theorem of_get_insertPartitions (hids : FreshIds db)
    (h : (insertPartitions db ps).partitions.get id = some q) :
    db.partitions.get id = some q ∨ KeyFree db q.partitionKey ∧
      ps.find? (fun p => p.partitionKey = q.partitionKey) = some q := by
  induction ps generalizing db with
  | nil => exact .inl h
  | cons p ps ih =>
    rw [insertPartitions_cons] at h
    rcases ih (freshIds_insertPartition hids) h with hold | ⟨hfree, hfind⟩
    · rcases of_get_insertPartition hold with hold | ⟨rfl, hfree⟩
      · exact .inl hold
      · exact .inr ⟨hfree, by simp⟩
    · -- the key of `p` is taken by then
      have hne : p.partitionKey ≠ q.partitionKey := by
        intro hkey
        rw [← hkey] at hfree
        exact not_keyFree_insertPartition db p hfree
      refine .inr ⟨fun i r hr => hfree i r (get_insertPartition hids hr), ?_⟩
      rw [List.find?_cons_of_neg (by simpa using hne)]
      exact hfind

/-- The key of what was to be inserted is taken. -/
theorem not_keyFree_insertPartitions (hids : FreshIds db) (hp : p ∈ ps) :
    ¬ KeyFree (insertPartitions db ps) p.partitionKey := by
  induction ps generalizing db with
  | nil => cases hp
  | cons q ps ih =>
    rw [insertPartitions_cons]
    rcases List.mem_cons.1 hp with rfl | hp
    · intro hfree
      refine not_keyFree_insertPartition db p (fun i r hr => hfree i r ?_)
      exact get_insertPartitions (freshIds_insertPartition hids) hr
    · exact ih (freshIds_insertPartition hids) hp

theorem insertPartitions_of_taken (h : ∀ p ∈ ps, ¬ KeyFree db p.partitionKey) :
    insertPartitions db ps = db := by
  induction ps with
  | nil => rfl
  | cons p ps ih =>
    rcases insertPartition_cases db p with ⟨_, hsame⟩ | ⟨hfree, _⟩
    · rw [insertPartitions_cons, hsame]
      exact ih (fun q hq => h q (List.mem_cons_of_mem _ hq))
    · exact absurd hfree (h p List.mem_cons_self)

end Inserts

/-! ## The pairs that are planted -/

/-- The ids of a pair as the keys of its seeds have them. -/
def pairKey (pair : String × String) : String := pair.1.toLower ++ ":" ++ pair.2.toLower

/-- The pair is the first one with its key. -/
def Represents (catalog : List CatalogNode) (pair : String × String) : Prop :=
  (crawlPairs catalog).find? (fun other => pairKey other = pairKey pair) = some pair

/-- A seed of a pair and two buckets, in the columns that nothing writes. -/
structure SeedOf (pair : String × String) (bucket : FollowerBucket) (gmv : GmvBucket)
    (p : CreatorSearchPartition) : Prop where
  key : p.partitionKey = partitionKeyV2 pair.1 pair.2 bucket.min bucket.max (some gmv.code)
  category : p.categoryId = some pair.1
  child : p.categoryChildId = some pair.2
  children : p.categoryChildIds = [pair.2]
  min : p.followersMin = some bucket.min
  max : p.followersMax = bucket.max
  code : p.gmvBucket = some gmv.code

/-- A seed of the first pair with its key, which is the key of a row of the catalog. -/
def FirstSeed (catalog : List CatalogNode) (p : CreatorSearchPartition) : Prop :=
  (∃ row ∈ v2BasePartitionRows catalog, p.partitionKey = row.partitionKey) ∧
    ∃ pair bucket gmv, Represents catalog pair ∧ SeedOf pair bucket gmv p

section Pairs

variable {catalog : List CatalogNode} {pair pair' : String × String} {bucket : FollowerBucket}
  {gmv : GmvBucket}

theorem Represents.eq (h : Represents catalog pair) (h' : Represents catalog pair')
    (hkey : pairKey pair = pairKey pair') : pair = pair' := by
  unfold Represents at h h'
  rw [hkey, h'] at h
  exact (Option.some.inj h).symm

theorem partitionKeyV2_of_pairKey (hkey : pairKey pair = pairKey pair') (min : Nat)
    (max : Option Nat) (code : Option GmvBucketCode) :
    partitionKeyV2 pair.1 pair.2 min max code = partitionKeyV2 pair'.1 pair'.2 min max code := by
  have hstart : "v2:" ++ pair.1.toLower ++ ":" ++ pair.2.toLower =
      "v2:" ++ pair'.1.toLower ++ ":" ++ pair'.2.toLower := by
    simpa only [pairKey, String.append_assoc] using congrArg ("v2:" ++ ·) hkey
  unfold partitionKeyV2
  rw [hstart]

/-- A combination that is the first one with its key has the first pair. -/
theorem represents_of_find? {c : (String × String) × FollowerBucket × GmvBucket}
    (h : (combinations catalog).find? (fun other => partitionKeyV2 other.1.1 other.1.2 other.2.1.min
      other.2.1.max (some other.2.2.code) = partitionKeyV2 c.1.1 c.1.2 c.2.1.min c.2.1.max
        (some c.2.2.code)) = some c) : Represents catalog c.1 := by
  unfold combinations at h
  rw [List.find?_flatMap, List.findSome?_eq_some_iff] at h
  obtain ⟨before, pair, after, hpairs, hfind, hbefore⟩ := h
  obtain ⟨both, hboth, hpair⟩ := List.mem_map.1 (List.mem_of_find?_eq_some hfind)
  have hfst : pair = c.1 := congrArg Prod.fst hpair
  have hsnd : both = c.2 := congrArg Prod.snd hpair
  subst hfst hsnd
  unfold Represents
  rw [List.find?_eq_some_iff_append]
  refine ⟨by simp, before, after, hpairs, ?_⟩
  intro other hother
  have hnone := List.find?_eq_none.1 (hbefore other hother) (other, c.2)
    (List.mem_map.2 ⟨c.2, hboth, rfl⟩)
  rw [Bool.not_eq_true', decide_eq_false_iff_not]
  intro hkey
  exact hnone (decide_eq_true (partitionKeyV2_of_pairKey hkey _ _ _))

/-- The seed that is inserted for a key is one of the first pair with the key. -/
theorem firstSeed_of_find? {env : Environment} {roots : String → Option Nat}
    {p : CreatorSearchPartition}
    (h : ((v2BasePartitionRows catalog).map (seedPartition env roots)).find?
      (fun q => q.partitionKey = p.partitionKey) = some p) :
    FirstSeed catalog p ∧ ∃ row, p = seedPartition env roots row := by
  obtain ⟨mem, hmem, hkey⟩ := List.mem_map.1 (List.mem_of_find?_eq_some h)
  have hrow : ∃ row ∈ v2BasePartitionRows catalog, p.partitionKey = row.partitionKey :=
    ⟨mem, hmem, by rw [← hkey]; rfl⟩
  unfold v2BasePartitionRows at h
  rw [List.find?_map, List.find?_map] at h
  obtain ⟨row, hfound, rfl⟩ := Option.map_eq_some_iff.1 h
  obtain ⟨⟨c, position⟩, hfind, rfl⟩ := Option.map_eq_some_iff.1 hfound
  have hcombination : (combinations catalog).find? (fun other => partitionKeyV2 other.1.1 other.1.2
      other.2.1.min other.2.1.max (some other.2.2.code) = partitionKeyV2 c.1.1 c.1.2 c.2.1.min
        c.2.1.max (some c.2.2.code)) = some c := by
    rw [← List.zipIdx_map_fst 0 (combinations catalog), List.find?_map, Option.map_eq_some_iff]
    exact ⟨(c, position), hfind, rfl⟩
  refine ⟨⟨hrow, c.1, c.2.1, c.2.2, represents_of_find? hcombination, ?_⟩, _, rfl⟩
  constructor <;> rfl

end Pairs

/-! ## What is planted -/

/-- The stored family of a seed and its first bucket are those that would be computed. -/
structure Designated (env : Environment) (p : CreatorSearchPartition) : Prop where
  family : p.schedulerFamilyKey = none ∨ p.schedulerFamilyKey =
    g1G2FamilyKey p.categoryId p.categoryChildId p.followersMin p.followersMax
  first : ∀ bucket, p.schedulerG1G2FirstBucket = some bucket →
    ∃ key, g1G2FamilyKey p.categoryId p.categoryChildId p.followersMin p.followersMax = some key ∧
      bucket = designatedFirstG1G2Bucket env key

/-- The seeds of a catalog are planted: none of them, or all that have a free key. -/
structure Planted (env : Environment) (catalog : List CatalogNode) (db : Db) : Prop where
  ids : FreshIds db
  keys : UniqueKeys db
  seeds : ∀ id p, db.partitions.get id = some p → p.partitionType = .V2_SEED → FirstSeed catalog p
  designated : ∀ id p, db.partitions.get id = some p → p.partitionType = .V2_SEED →
    Designated env p
  complete : (∀ id, db.partitions.get id = none) ∨
    ∀ row ∈ v2BasePartitionRows catalog, ¬ KeyFree db row.partitionKey

/-- Whether two partitions are of one family: a category, a child and a range of followers. -/
structure SameFamily (p q : CreatorSearchPartition) : Prop where
  category : p.categoryId = q.categoryId
  child : p.categoryChildId = q.categoryChildId
  min : p.followersMin = q.followersMin
  max : p.followersMax = q.followersMax

section Families

variable {env : Environment} {catalog : List CatalogNode} {db : Db} {p q : CreatorSearchPartition}
  {id id' : Nat} {key : String} {row : Row}

theorem SameFamily.symm (h : SameFamily p q) : SameFamily q p :=
  ⟨h.category.symm, h.child.symm, h.min.symm, h.max.symm⟩

theorem familyKey_of_designated (h : Designated env p) : familyKey p =
    g1G2FamilyKey p.categoryId p.categoryChildId p.followersMin p.followersMax := by
  unfold familyKey
  rcases h.family with hnone | hsome
  · rw [hnone, Option.none_or]
  · rw [hsome, Option.or_self]

theorem familyKey_of_sameFamily (hp : Designated env p) (hq : Designated env q)
    (h : SameFamily p q) : familyKey p = familyKey q := by
  rw [familyKey_of_designated hp, familyKey_of_designated hq, h.category, h.child, h.min, h.max]

theorem firstBucket_of_designated (h : Designated env p) (hkey : familyKey p = some key) :
    p.schedulerG1G2FirstBucket.getD (designatedFirstG1G2Bucket env key) =
      designatedFirstG1G2Bucket env key := by
  rw [familyKey_of_designated h] at hkey
  cases hfirst : p.schedulerG1G2FirstBucket with
  | none => rfl
  | some bucket =>
    obtain ⟨key', hkey', rfl⟩ := h.first bucket hfirst
    rw [hkey, Option.some.injEq] at hkey'
    rw [hkey', Option.getD_some]

/-- The family key of a seed, which says the key of its pair and its range. -/
theorem familyKey_of_seedOf {pair : String × String} {bucket : FollowerBucket} {gmv : GmvBucket}
    (h : SeedOf pair bucket gmv p) (hp : Designated env p) (hkey : familyKey p = some key) :
    key = pairKey pair ++ ":" ++ bucket.min.repr ++ ":" ++ maxLabel bucket.max := by
  rw [familyKey_of_designated hp, h.category, h.child, h.min, h.max] at hkey
  unfold g1G2FamilyKey at hkey
  dsimp only at hkey
  split at hkey
  · cases hkey
  · rw [← Option.some.inj hkey]
    rfl

theorem familyKey_inj {k k' : String} {min min' : Nat} {max max' : Option Nat}
    (h : k ++ ":" ++ min.repr ++ ":" ++ maxLabel max = k' ++ ":" ++ min'.repr ++ ":" ++ maxLabel max') :
    k = k' ∧ min = min' ∧ max = max' := by
  have hcolon : ':'.isDigit = false := by decide
  have hparts : ∀ a b : String, (a ++ ":" ++ b).toList = a.toList ++ ':' :: b.toList := by
    intro a b
    simp [String.toList_append]
  have hlist := congrArg String.toList h
  rw [hparts (k ++ ":" ++ min.repr), hparts (k' ++ ":" ++ min'.repr)] at hlist
  obtain ⟨hfront, hmax⟩ := cut_last (free_maxLabel hcolon (by decide) max)
    (free_maxLabel hcolon (by decide) max') hlist
  rw [hparts, hparts] at hfront
  obtain ⟨hk, hmin⟩ := cut_last (free_repr hcolon min) (free_repr hcolon min') hfront
  exact ⟨String.toList_inj.1 hk, Nat.repr_inj.1 (String.toList_inj.1 hmin),
    maxLabel_inj (String.toList_inj.1 hmax)⟩

/-- Seeds with one family key are of one pair and one range. -/
theorem sameFamily_of_familyKey (h : Planted env catalog db) (hp : db.partitions.get id = some p)
    (hq : db.partitions.get id' = some q) (hptype : p.partitionType = .V2_SEED)
    (hqtype : q.partitionType = .V2_SEED) (hpkey : familyKey p = some key)
    (hqkey : familyKey q = some key) :
    SameFamily p q ∧ p.categoryChildIds = q.categoryChildIds ∧
      (p.gmvBucket = q.gmvBucket → id = id') := by
  obtain ⟨_, pair, bucket, gmv, hpair, hseed⟩ := h.seeds id p hp hptype
  obtain ⟨_, pair', bucket', gmv', hpair', hseed'⟩ := h.seeds id' q hq hqtype
  have hk := familyKey_of_seedOf hseed (h.designated id p hp hptype) hpkey
  have hk' := familyKey_of_seedOf hseed' (h.designated id' q hq hqtype) hqkey
  obtain ⟨hpairs, hmin, hmax⟩ := familyKey_inj (hk.symm.trans hk')
  obtain rfl := hpair.eq hpair' hpairs
  refine ⟨⟨?_, ?_, ?_, ?_⟩, ?_, ?_⟩
  · rw [hseed.category, hseed'.category]
  · rw [hseed.child, hseed'.child]
  · rw [hseed.min, hseed'.min, hmin]
  · rw [hseed.max, hseed'.max, hmax]
  · rw [hseed.children, hseed'.children]
  · intro hcode
    rw [hseed.code, hseed'.code] at hcode
    apply h.keys id id' p q hp hq
    rw [hseed.key, hseed'.key, hmin, hmax, hcode]

/-! ## Planting -/

theorem designated_seedPartition (roots : String → Option Nat) (row : BasePartitionRow) :
    Designated env (seedPartition env roots row) := by
  by_cases hbucket : row.gmvBucket = .G1 ∨ row.gmvBucket = .G2
  · have hfamily : (seedPartition env roots row).schedulerFamilyKey =
        g1G2FamilyKey (some row.parentCategoryId) (some row.childCategoryId)
          (some row.followersMin) row.followersMax := by
      simp [seedPartition, hbucket]
    refine ⟨.inr hfamily, fun bucket hfirst => ?_⟩
    have hmap : (seedPartition env roots row).schedulerG1G2FirstBucket =
        (seedPartition env roots row).schedulerFamilyKey.map (designatedFirstG1G2Bucket env) := rfl
    rw [hmap, hfamily] at hfirst
    obtain ⟨key, hkey, rfl⟩ := Option.map_eq_some_iff.1 hfirst
    exact ⟨key, hkey, rfl⟩
  · have hnone : (seedPartition env roots row).schedulerFamilyKey = none := by
      simp [seedPartition, hbucket]
    refine ⟨.inl hnone, fun bucket hfirst => ?_⟩
    simp [seedPartition, hbucket] at hfirst

theorem findMany_of_empty (hempty : ∀ id, db.partitions.get id = none)
    (c : Nat → CreatorSearchPartition → Bool) : db.partitions.findMany c = [] := by
  rw [List.eq_nil_iff_forall_not_mem]
  rintro ⟨id, p⟩ hmem
  have hget := ((Table.mem_findMany _ _ _ _).1 hmem).1
  rw [hempty] at hget
  cases hget

theorem missingSeeds_of_empty (hempty : ∀ id, db.partitions.get id = none) :
    missingSeeds env catalog db =
      (v2BasePartitionRows catalog).map (seedPartition env (rootByKey db)) := by
  simp [missingSeeds, existingCombinations, findMany_of_empty hempty]

/-- The seeds are planted once: at the first time all, and later on none. -/
theorem planted_missingSeeds (h : Planted env catalog db) :
    Planted env catalog (insertPartitions db (missingSeeds env catalog db)) := by
  rcases h.complete with hempty | hcomplete
  · have hnew : ∀ id p, (insertPartitions db (missingSeeds env catalog db)).partitions.get id =
        some p → FirstSeed catalog p ∧ ∃ row, p = seedPartition env (rootByKey db) row := by
      intro id p hp
      rcases of_get_insertPartitions h.ids hp with hold | ⟨_, hfind⟩
      · rw [hempty] at hold
        cases hold
      · rw [missingSeeds_of_empty hempty] at hfind
        exact firstSeed_of_find? hfind
    constructor
    · exact freshIds_insertPartitions h.ids
    · exact uniqueKeys_insertPartitions h.keys
    · exact fun id p hp _ => (hnew id p hp).1
    · intro id p hp _
      obtain ⟨row, rfl⟩ := (hnew id p hp).2
      exact designated_seedPartition _ row
    · refine .inr (fun row hrow => ?_)
      have hmem : seedPartition env (rootByKey db) row ∈ missingSeeds env catalog db := by
        rw [missingSeeds_of_empty hempty]
        exact List.mem_map_of_mem hrow
      exact not_keyFree_insertPartitions h.ids hmem
  · have hsame : insertPartitions db (missingSeeds env catalog db) = db := by
      apply insertPartitions_of_taken
      intro p hp
      obtain ⟨row, hrow, rfl⟩ := List.mem_map.1 hp
      exact hcomplete row (List.mem_filter.1 hrow).1
    rw [hsame]
    exact h

theorem exists_insert {db : Db} (hempty : ∀ id, db.partitions.get id = none)
    (hids : (catalog.map CatalogNode.categoryId).Nodup)
    (hdecimal : ∀ node ∈ catalog, Decimal node.categoryId) {row : BasePartitionRow}
    (hrow : row ∈ v2BasePartitionRows catalog) :
    ∃ id, (insertPartitions db (missingSeeds env catalog db)).partitions.get id =
      some (seedPartition env (rootByKey db) row) := by
  have hfresh : FreshIds db := by
    intro id p hp
    rw [hempty] at hp
    cases hp
  have hmem : seedPartition env (rootByKey db) row ∈ missingSeeds env catalog db := by
    rw [missingSeeds_of_empty hempty]
    exact List.mem_map_of_mem hrow
  have htaken := not_keyFree_insertPartitions hfresh hmem
  unfold KeyFree at htaken
  push Not at htaken
  obtain ⟨id, p, hp, hkey⟩ := htaken
  rcases of_get_insertPartitions hfresh hp with hold | ⟨_, hfind⟩
  · rw [hempty] at hold
    cases hold
  · have hplanted := List.mem_of_find?_eq_some hfind
    rw [missingSeeds_of_empty hempty] at hplanted
    obtain ⟨row', hrow', rfl⟩ := List.mem_map.1 hplanted
    obtain rfl := List.inj_on_of_nodup_map (nodup_partitionKeys hids hdecimal) hrow' hrow hkey
    exact ⟨id, hp⟩

/-- In a table without partitions each row of the catalog is planted. -/
theorem exists_planted {db db' : Db} {n : Nat}
    (hrun : (initializePartitions env catalog).run db = .ok (n, db'))
    (hempty : ∀ id, db.partitions.get id = none)
    (hids : (catalog.map CatalogNode.categoryId).Nodup)
    (hdecimal : ∀ node ∈ catalog, Decimal node.categoryId) {row : BasePartitionRow}
    (hrow : row ∈ v2BasePartitionRows catalog) :
    ∃ id roots, db'.partitions.get id = some (seedPartition env roots row) := by
  rw [initializePartitions_effect hrun]
  have hdisabled : ∀ id, (disabled db).partitions.get id = none := by
    intro id
    simp [disabled, table.partitions, Table.get_updateMany, hempty]
  obtain ⟨id, hid⟩ := exists_insert hdisabled hids hdecimal hrow
  exact ⟨id, _, hid⟩

end Families

/-! ## Eligible seeds -/

section Eligibility

variable {env : Environment} {config : Config} {catalog : List CatalogNode} {db : Db}
  {p q : CreatorSearchPartition} {id id' : Nat} {key : String} {row : Row}

theorem mem_primaryFamilyRows : row ∈ primaryFamilyRows db ↔
    db.partitions.get row.1 = some row.2 ∧ row.2.partitionType = .V2_SEED ∧
      isG1G2 row.2 = true := by
  unfold primaryFamilyRows
  rw [mem_inQueueOrder, Table.mem_findMany]
  simp

theorem mem_familyRows (hkey : key ≠ "") : row ∈ familyRows (primaryFamilyRows db) key ↔
    row ∈ primaryFamilyRows db ∧ familyKey row.2 = some key := by
  unfold familyRows
  rw [List.mem_filter]
  simp [hkey]

theorem bucket_of_isG1G2 (h : isG1G2 p = true) :
    p.gmvBucket = some .G1 ∨ p.gmvBucket = some .G2 := by
  simpa [isG1G2] using h

/-- The two buckets of a family with both. -/
theorem bucket_of_family (hp : isG1G2 p = true) (hq : isG1G2 q = true)
    (hother : q.gmvBucket ≠ p.gmvBucket) {bucket : Option GmvBucketCode}
    (h : bucket = some .G1 ∨ bucket = some .G2) :
    bucket = p.gmvBucket ∨ bucket = q.gmvBucket := by
  rcases bucket_of_isG1G2 hp with hp | hp
  · rcases bucket_of_isG1G2 hq with hq | hq
    · exact absurd (hq.trans hp.symm) hother
    · rwa [hp, hq]
  · rcases bucket_of_isG1G2 hq with hq | hq
    · rw [hp, hq]
      exact h.symm
    · exact absurd (hq.trans hp.symm) hother

theorem familyTouched_iff (hkey : key ≠ "") : familyTouched (primaryFamilyRows db) key = true ↔
    ∃ row ∈ primaryFamilyRows db, familyKey row.2 = some key ∧
      (row.2.startedAt.isSome = true ∨ row.2.status ≠ .QUEUED) := by
  unfold familyTouched
  rw [List.any_eq_true]
  simp only [mem_familyRows hkey, Bool.or_eq_true, decide_eq_true_eq, and_assoc]

/-- A family has both buckets when seeds of both are there. -/
theorem familyBuckets_iff (hkey : key ≠ "") : familyBuckets (primaryFamilyRows db) key = 2 ↔
    ∀ bucket ∈ [some GmvBucketCode.G1, some .G2], ∃ row ∈ primaryFamilyRows db,
      familyKey row.2 = some key ∧ row.2.gmvBucket = bucket := by
  have hmem : ∀ bucket, bucket ∈ ((familyRows (primaryFamilyRows db) key).map
      (fun row => row.2.gmvBucket)).dedup ↔ ∃ row ∈ primaryFamilyRows db,
        familyKey row.2 = some key ∧ row.2.gmvBucket = bucket := by
    intro bucket
    simp only [List.mem_dedup, List.mem_map, mem_familyRows hkey, and_assoc]
  have hnodup := List.nodup_dedup ((familyRows (primaryFamilyRows db) key).map
    (fun row => row.2.gmvBucket))
  unfold familyBuckets
  generalize ((familyRows (primaryFamilyRows db) key).map
    (fun row => row.2.gmvBucket)).dedup = buckets at hmem hnodup ⊢
  have hbuckets : buckets ⊆ [some GmvBucketCode.G1, some .G2] := by
    intro bucket hbucket
    obtain ⟨row, hrow, _, rfl⟩ := (hmem bucket).1 hbucket
    simpa using bucket_of_isG1G2 (mem_primaryFamilyRows.1 hrow).2.2
  constructor
  · intro hlength bucket hbucket
    rw [← hmem]
    have hperm : buckets.Perm [some GmvBucketCode.G1, some .G2] :=
      (hnodup.subperm hbuckets).perm_of_length_le (by simp [hlength])
    exact hperm.mem_iff.2 hbucket
  · intro hall
    have hperm : [some GmvBucketCode.G1, some .G2].Perm buckets := by
      refine ((by decide : [some GmvBucketCode.G1, some .G2].Nodup).subperm ?_).perm_of_length_le
        (hnodup.subperm hbuckets).length_le
      exact fun bucket hbucket => (hmem bucket).2 (hall bucket hbucket)
    exact hperm.length_eq.symm

theorem eligibleSeed_iff (hp : Designated env p) (hkey : familyKey p = some key) (hne : key ≠ "")
    (rows : List Row) : eligibleSeed env db rows p = true ↔
      p.status = .QUEUED ∧ validSeedSnapshot db p = true ∧ (familyTouched rows key = true ∨
        familyBuckets rows key ≠ 2 ∨
          p.gmvBucket = some (designatedFirstG1G2Bucket env key)) := by
  unfold eligibleSeed
  rw [hkey, Option.filter_some, if_pos (by simpa using hne)]
  simp only [firstBucket_of_designated hp hkey, Bool.and_eq_true, Bool.or_eq_true,
    decide_eq_true_eq, and_assoc, or_assoc]

/-- A valid seed has a family key. -/
theorem familyKey_of_valid (hp : Designated env p) (h : validSeedSnapshot db p = true) :
    ∃ key, familyKey p = some key ∧ key ≠ "" := by
  unfold validSeedSnapshot at h
  cases hcategory : p.categoryId with
  | none => simp [hcategory] at h
  | some parent =>
    cases hchild : p.categoryChildId with
    | none => simp [hcategory, hchild] at h
    | some child =>
      simp only [hcategory, hchild, Bool.and_eq_true, decide_eq_true_eq] at h
      obtain ⟨⟨⟨⟨⟨hparent, hchildNe⟩, _⟩, _⟩, _⟩, hrange⟩ := h
      cases hmin : p.followersMin with
      | none => simp [hmin] at hrange
      | some min =>
        have hkey : familyKey p = some (parent.toLower ++ ":" ++ child.toLower ++ ":" ++
            min.repr ++ ":" ++ maxLabel p.followersMax) := by
          rw [familyKey_of_designated hp, hcategory, hchild, hmin]
          simp [g1G2FamilyKey, hparent, hchildNe]
        refine ⟨_, hkey, fun hempty => ?_⟩
        have hlist := congrArg String.toList hempty
        simp [String.toList_append] at hlist

/-- The snapshot of a seed depends on its family alone. -/
theorem validSeedSnapshot_of_sameFamily (h : SameFamily p q)
    (hchildren : p.categoryChildIds = q.categoryChildIds) :
    validSeedSnapshot db p = validSeedSnapshot db q := by
  unfold validSeedSnapshot
  rw [h.category, h.child, h.min, h.max, hchildren]

/-- A queued seed is eligible itself, or the seed of the other bucket is. -/
theorem exists_eligible (h : Planted env catalog db) (hp : db.partitions.get id = some p)
    (htype : p.partitionType = .V2_SEED) (hbucket : isG1G2 p = true) (hqueued : p.status = .QUEUED)
    (hvalid : validSeedSnapshot db p = true) :
    ∃ row ∈ eligibleSeeds env db, SameFamily row.2 p := by
  have hdesignated := h.designated id p hp htype
  obtain ⟨key, hkey, hne⟩ := familyKey_of_valid hdesignated hvalid
  have hprimary : (id, p) ∈ primaryFamilyRows db := mem_primaryFamilyRows.2 ⟨hp, htype, hbucket⟩
  by_cases hgate : familyTouched (primaryFamilyRows db) key = true ∨
      familyBuckets (primaryFamilyRows db) key ≠ 2
  · refine ⟨(id, p), List.mem_filter.2 ⟨hprimary, ?_⟩, ⟨rfl, rfl, rfl, rfl⟩⟩
    rw [eligibleSeed_iff hdesignated hkey hne]
    exact ⟨hqueued, hvalid, hgate.elim .inl (fun hgate => .inr (.inl hgate))⟩
  · -- both seeds are there and untouched, and one of them is that of the first bucket
    push Not at hgate
    obtain ⟨huntouched, htwo⟩ := hgate
    have hfirst : some (designatedFirstG1G2Bucket env key) ∈ [some GmvBucketCode.G1, some .G2] := by
      unfold designatedFirstG1G2Bucket
      split <;> simp
    obtain ⟨row, hrow, hrowkey, hrowbucket⟩ := (familyBuckets_iff hne).1 htwo _ hfirst
    obtain ⟨hget, hrowtype, _⟩ := mem_primaryFamilyRows.1 hrow
    obtain ⟨hfamily, hchildren, _⟩ :=
      sameFamily_of_familyKey h hget hp hrowtype htype hrowkey hkey
    refine ⟨row, List.mem_filter.2 ⟨hrow, ?_⟩, hfamily⟩
    rw [eligibleSeed_iff (h.designated _ _ hget hrowtype) hrowkey hne]
    refine ⟨?_, ?_, .inr (.inr hrowbucket)⟩
    · by_contra hstatus
      exact huntouched ((familyTouched_iff hne).2 ⟨row, hrow, hrowkey, .inr hstatus⟩)
    · rw [validSeedSnapshot_of_sameFamily hfamily hchildren, hvalid]

/-- A queued seed is eligible once a seed of its family was started. -/
theorem eligible_of_started (h : Planted env catalog db) (hp : db.partitions.get id = some p)
    (htype : p.partitionType = .V2_SEED) (hbucket : isG1G2 p = true) (hqueued : p.status = .QUEUED)
    (hvalid : validSeedSnapshot db p = true) (hq : db.partitions.get id' = some q)
    (hqtype : q.partitionType = .V2_SEED) (hqbucket : isG1G2 q = true) (hfamily : SameFamily q p)
    (hstarted : q.startedAt.isSome = true) : (id, p) ∈ eligibleSeeds env db := by
  have hdesignated := h.designated id p hp htype
  obtain ⟨key, hkey, hne⟩ := familyKey_of_valid hdesignated hvalid
  refine List.mem_filter.2 ⟨mem_primaryFamilyRows.2 ⟨hp, htype, hbucket⟩, ?_⟩
  rw [eligibleSeed_iff hdesignated hkey hne]
  refine ⟨hqueued, hvalid, .inl ((familyTouched_iff hne).2 ⟨(id', q), ?_, ?_, .inl hstarted⟩)⟩
  · exact mem_primaryFamilyRows.2 ⟨hq, hqtype, hqbucket⟩
  · rw [← hkey]
    exact familyKey_of_sameFamily (h.designated id' q hq hqtype) hdesignated hfamily

/-- Of two seeds of a family that are not started, only that of the first bucket is eligible. -/
theorem designated_of_eligible (h : Planted env catalog db) (hp : db.partitions.get id = some p)
    (heligible : (id, p) ∈ eligibleSeeds env db) (hq : db.partitions.get id' = some q)
    (hqtype : q.partitionType = .V2_SEED) (hqbucket : isG1G2 q = true) (hfamily : SameFamily q p)
    (hother : q.gmvBucket ≠ p.gmvBucket)
    (huntouched : ∀ r, (r = p ∨ r = q) → r.startedAt = none ∧ r.status = .QUEUED) :
    ∃ key, familyKey p = some key ∧ p.gmvBucket = some (designatedFirstG1G2Bucket env key) := by
  obtain ⟨hprimary, hseed⟩ := List.mem_filter.1 heligible
  obtain ⟨_, htype, hbucket⟩ := mem_primaryFamilyRows.1 hprimary
  have hdesignated := h.designated id p hp htype
  have hvalid : validSeedSnapshot db p = true := by
    unfold eligibleSeed at hseed
    rw [Bool.and_eq_true, Bool.and_eq_true] at hseed
    exact hseed.1.2
  obtain ⟨key, hkey, hne⟩ := familyKey_of_valid hdesignated hvalid
  have hqkey : familyKey q = some key := by
    rw [← hkey]
    exact familyKey_of_sameFamily (h.designated id' q hq hqtype) hdesignated hfamily
  have hqprimary : (id', q) ∈ primaryFamilyRows db :=
    mem_primaryFamilyRows.2 ⟨hq, hqtype, hqbucket⟩
  rw [eligibleSeed_iff hdesignated hkey hne] at hseed
  refine ⟨key, hkey, hseed.2.2.resolve_left ?_ |>.resolve_left ?_⟩
  · rw [familyTouched_iff hne]
    rintro ⟨row, hrow, hrowkey, htouched⟩
    obtain ⟨hget, hrowtype, hrowbucket⟩ := mem_primaryFamilyRows.1 hrow
    -- a seed of the family is one of the two
    have hone : row.2 = p ∨ row.2 = q := by
      rcases bucket_of_family hbucket hqbucket hother (bucket_of_isG1G2 hrowbucket)
        with hsame | hsame
      · have hid := (sameFamily_of_familyKey h hget hp hrowtype htype hrowkey hkey).2.2 hsame
        rw [hid, hp] at hget
        exact .inl (Option.some.inj hget).symm
      · have hid := (sameFamily_of_familyKey h hget hq hrowtype hqtype hrowkey hqkey).2.2 hsame
        rw [hid, hq] at hget
        exact .inr (Option.some.inj hget).symm
    obtain ⟨hstarted, hstatus⟩ := huntouched _ hone
    rcases htouched with h | h
    · rw [hstarted] at h
      cases h
    · exact h hstatus
  · rw [not_not, familyBuckets_iff hne]
    intro bucket hmem
    simp only [List.mem_cons, List.not_mem_nil, or_false] at hmem
    rcases bucket_of_family hbucket hqbucket hother hmem with rfl | rfl
    · exact ⟨(id, p), hprimary, hkey, rfl⟩
    · exact ⟨(id', q), hqprimary, hqkey, rfl⟩

/-- A seed of the first two buckets is selected from the eligible ones. -/
theorem eligible_of_selectPartition {now : Int} {sequence : Nat} {selection : Selection}
    {next : ScoredCandidate} (h : selectPartition env config db sequence now = .ok selection)
    (hselected : selection.selected = some next) (htype : next.candidate.partitionType = .V2_SEED)
    (hbucket : isG1G2 next.candidate = true) :
    (next.id, next.candidate) ∈ eligibleSeeds env db := by
  have hmem := mem_of_selectPartition h hselected
  unfold candidateRows at hmem
  simp only [List.mem_append, Option.mem_toList] at hmem
  have hnotG3 : next.candidate.gmvBucket ≠ some .G3 := by
    intro hg3
    simp [isG1G2, hg3] at hbucket
  have hnotG4 : next.candidate.gmvBucket ≠ some .G4 := by
    intro hg4
    simp [isG1G2, hg4] at hbucket
  rcases hmem with (((hmem | hmem) | hmem) | hmem) | hmem
  · have hkind := ((Table.mem_findMany _ _ _ _).1 hmem).2
    simp [isAdaptive, htype] at hkind
  · exact List.mem_of_mem_head? hmem
  · exact of_coverageSeed (Option.mem_filter_iff.1 hmem).1
  · have hkind := ((Table.mem_findMany _ _ _ _).1 (mem_of_head_inQueueOrder hmem)).2
    simp only [Bool.and_eq_true, decide_eq_true_eq] at hkind
    exact absurd hkind.1.2 hnotG3
  · unfold g4Probe at hmem
    rcases Option.or_eq_some_iff.1 hmem with hadaptive | ⟨_, hseed⟩
    · have hkind := ((Table.mem_findMany _ _ _ _).1
        (mem_inQueueOrder.1 (List.mem_of_find?_eq_some hadaptive))).2
      simp only [Bool.and_eq_true, decide_eq_true_eq] at hkind
      exact absurd hkind.1.1 hnotG4
    · have hkind := ((Table.mem_findMany _ _ _ _).1 (mem_of_head_inQueueOrder hseed)).2
      simp only [Bool.and_eq_true, decide_eq_true_eq] at hkind
      exact absurd hkind.1.2 hnotG4

end Eligibility

end tiktok_outreach.seed_families
