-- The coverage of the categories: explorations sample each child that was not
-- sampled yet once, and those of the parent with the fewest samples first.
import TiktokOutreach.CreatorSync
import TiktokOutreach.ClaimCandidates
import TiktokOutreach.Lib.Choices

open tables transactions choices tiktok_outreach.creator_schema
  tiktok_outreach.marketplace_partitions tiktok_outreach.creator_scheduler
  tiktok_outreach.adaptive_queue tiktok_outreach.partition_claims
  tiktok_outreach.claim_candidates tiktok_outreach.creator_sync

namespace tiktok_outreach.category_coverage

/-! ## Untouched and sampled children -/

/-- The children that the crawler may search and has not sampled yet. -/
def untouched (db : Db) : List String :=
  (db.categories.findMany (fun id category => (validChildren db id).isSome &&
    category.creatorFirstSampledAt.isNone)).map Prod.fst

/-- The sampled children of a parent, which `sampledByParent` counts. -/
def sampledChildren (db : Db) (parent : String) : List String :=
  (db.categories.findMany (fun id category => (validChildren db id).isSome &&
    category.creatorFirstSampledAt.isSome && category.parentCategoryId = some parent)).map Prod.fst

/-- Whether a parent has an untouched child. -/
def UntouchedChild (db : Db) (parent child : String) : Prop :=
  ∃ category, validChildren db child = some category ∧
    category.creatorFirstSampledAt = none ∧ category.parentCategoryId = some parent

/-- Each untouched child has a seed that a claim may take. -/
def Claimable (env : Environment) (db : Db) : Prop :=
  ∀ child ∈ untouched db, ∃ row ∈ eligibleSeeds env db, row.2.categoryChildId = some child

section Children

variable {env : Environment} {db : Db} {parent child id : String} {category : MarketplaceCategory}

theorem sampledByParent_eq : sampledByParent db parent = (sampledChildren db parent).length := by
  simp [sampledByParent, sampledChildren, Table.count]

theorem get_of_validChildren (h : validChildren db id = some category) :
    db.categories.get id = some category := by
  unfold validChildren at h
  exact (Option.filter_eq_some_iff.1 h).1

theorem parent_of_validChildren (h : validChildren db id = some category) :
    ∃ parent, category.parentCategoryId = some parent := by
  unfold validChildren at h
  have hvalid := (Option.filter_eq_some_iff.1 h).2
  simp only [Bool.and_eq_true, Option.any_eq_true] at hvalid
  obtain ⟨⟨parent, hparent, -⟩, -⟩ := hvalid
  exact ⟨parent, hparent⟩

theorem mem_untouched : id ∈ untouched db ↔
    ∃ category, validChildren db id = some category ∧ category.creatorFirstSampledAt = none := by
  unfold untouched
  rw [Table.mem_keys_findMany, Option.any_eq_true]
  constructor
  · rintro ⟨category, hget, h⟩
    simp only [Bool.and_eq_true, Option.isNone_iff_eq_none] at h
    obtain ⟨other, hvalid⟩ := Option.isSome_iff_exists.1 h.1
    have hsame := get_of_validChildren hvalid
    rw [hget, Option.some.injEq] at hsame
    exact ⟨category, hsame ▸ hvalid, h.2⟩
  · rintro ⟨category, hvalid, hfirst⟩
    refine ⟨category, get_of_validChildren hvalid, ?_⟩
    simp [hvalid, hfirst]

theorem mem_untouched_iff : id ∈ untouched db ↔ ∃ parent, UntouchedChild db parent id := by
  rw [mem_untouched]
  constructor
  · rintro ⟨category, hvalid, hfirst⟩
    obtain ⟨parent, hparent⟩ := parent_of_validChildren hvalid
    exact ⟨parent, category, hvalid, hfirst, hparent⟩
  · rintro ⟨parent, category, hvalid, hfirst, -⟩
    exact ⟨category, hvalid, hfirst⟩

theorem mem_sampledChildren : id ∈ sampledChildren db parent ↔
    ∃ category, validChildren db id = some category ∧ category.creatorFirstSampledAt.isSome ∧
      category.parentCategoryId = some parent := by
  unfold sampledChildren
  rw [Table.mem_keys_findMany, Option.any_eq_true]
  constructor
  · rintro ⟨category, hget, h⟩
    simp only [Bool.and_eq_true, decide_eq_true_eq] at h
    obtain ⟨other, hvalid⟩ := Option.isSome_iff_exists.1 h.1.1
    have hsame := get_of_validChildren hvalid
    rw [hget, Option.some.injEq] at hsame
    exact ⟨category, hsame ▸ hvalid, h.1.2, h.2⟩
  · rintro ⟨category, hvalid, hfirst, hparent⟩
    refine ⟨category, get_of_validChildren hvalid, ?_⟩
    simp [hvalid, hfirst, hparent]

theorem nodup_untouched : (untouched db).Nodup :=
  db.categories.nodup.sublist (List.filter_sublist.map _)

theorem nodup_sampledChildren : (sampledChildren db parent).Nodup :=
  db.categories.nodup.sublist (List.filter_sublist.map _)

end Children

/-! ## What an exploration selects -/

section Selects

variable {env : Environment} {db : Db} {row : Row} {parent child : String}

/-- A seed with its valid categories, as a candidate has them. -/
structure Covers (db : Db) (row : Row) (value : CategoryExplorationCandidate)
    (parent child : String) (category : MarketplaceCategory) : Prop where
  row_eq : (value.id, value.candidate) = row
  parent_eq : row.2.categoryId = some parent
  child_eq : row.2.categoryChildId = some child
  valid : validChildren db child = some category
  child_of : category.parentCategoryId = some parent
  count_eq : value.parentSampledChildren = sampledByParent db parent
  first_eq : value.childFirstSampledAt = category.creatorFirstSampledAt

/-- An eligible seed is a candidate, by its valid categories. -/
theorem covers_of_seed (h : row ∈ eligibleSeeds env db) :
    ∃ value parent child category, coverageCandidate db row = some value ∧
      Covers db row value parent child category := by
  unfold eligibleSeeds at h
  have heligible := (List.mem_filter.1 h).2
  simp only [eligibleSeed, Bool.and_eq_true] at heligible
  have hvalid := heligible.1.2
  unfold validSeedSnapshot at hvalid
  split at hvalid
  · next parent child hparent hchild =>
    simp only [Bool.and_eq_true, Option.any_eq_true, decide_eq_true_eq] at hvalid
    obtain ⟨⟨⟨⟨-, hparents⟩, category, hcategory, hof⟩, -⟩, -⟩ := hvalid
    obtain ⟨parentCategory, hparentCategory⟩ := Option.isSome_iff_exists.1 hparents
    obtain ⟨value, hvalue⟩ : ∃ value, coverageCandidate db row = some value := by
      simp [coverageCandidate, hparent, hchild, hcategory, hparentCategory]
    have hfields := hvalue
    simp only [coverageCandidate, hparent, hchild, hcategory, hparentCategory, Option.bind_eq_bind,
      Option.bind_some, Option.pure_def, Option.some.injEq] at hfields
    refine ⟨value, parent, child, category, hvalue, ?_⟩
    rw [← hfields]
    exact ⟨rfl, hparent, hchild, hcategory, hof, rfl, rfl⟩
  · cases hvalid

theorem covers_of_mem {value : CategoryExplorationCandidate}
    (h : value ∈ coverageCandidates env db) :
    ∃ row parent child category, row ∈ eligibleSeeds env db ∧
      Covers db row value parent child category := by
  obtain ⟨row, hrow, hvalue⟩ := List.mem_filterMap.1 h
  obtain ⟨value', parent, child, category, hvalue', hcovers⟩ := covers_of_seed hrow
  rw [hvalue, Option.some.injEq] at hvalue'
  rw [← hvalue'] at hcovers
  exact ⟨row, parent, child, category, hrow, hcovers⟩

/-- While the seeds last, a claim covers as long as there is an untouched child. -/
theorem coverageMode_iff (hclaimable : Claimable env db) :
    coverageMode env db = .COVERAGE ↔ untouched db ≠ [] := by
  have hmode : coverageMode env db = .COVERAGE ↔
      (coverageCandidates env db).any (fun value => value.childFirstSampledAt.isNone) = true := by
    unfold coverageMode
    split
    · next h => simp [h]
    · next h => simp [h]
  rw [hmode, List.any_eq_true]
  constructor
  · rintro ⟨value, hvalue, hfirst⟩
    obtain ⟨row, parent, child, category, -, hcovers⟩ := covers_of_mem hvalue
    rw [hcovers.first_eq, Option.isNone_iff_eq_none] at hfirst
    exact List.ne_nil_of_mem (mem_untouched.2 ⟨category, hcovers.valid, hfirst⟩)
  · intro hne
    obtain ⟨child, hchild⟩ := List.exists_mem_of_ne_nil _ hne
    obtain ⟨row, hrow, hrowChild⟩ := hclaimable child hchild
    obtain ⟨value, parent, child', category, hvalue, hcovers⟩ := covers_of_seed hrow
    refine ⟨value, List.mem_filterMap.2 ⟨row, hrow, hvalue⟩, ?_⟩
    obtain ⟨other, hother, hfirst⟩ := mem_untouched.1 hchild
    rw [hcovers.child_eq, Option.some.injEq] at hrowChild
    rw [← hrowChild, hcovers.valid, Option.some.injEq] at hother
    rw [hcovers.first_eq, hother, hfirst]
    rfl

theorem count_le_of_order {a b : CategoryExplorationCandidate}
    (h : explorationOrder a ≤ explorationOrder b) :
    a.parentSampledChildren ≤ b.parentSampledChildren := by
  have hhead : ((a.parentSampledChildren : Int) : WithBot Int) ≤
      ((b.parentSampledChildren : Int) : WithBot Int) := head_le_of_le h
  exact_mod_cast hhead

/-- In the mode of coverage an untouched candidate with the fewest samples is selected. -/
theorem of_selectExploration {candidates : List CategoryExplorationCandidate}
    {value : CategoryExplorationCandidate}
    (hany : candidates.any (fun value => value.childFirstSampledAt.isNone) = true)
    (h : selectCategoryExplorationCandidate candidates .COVERAGE = some value) :
    Least explorationOrder (candidates.filter (fun value => value.childFirstSampledAt.isNone))
      value := by
  unfold selectCategoryExplorationCandidate at h
  dsimp only at h
  have hne : (candidates.filter (fun value => value.childFirstSampledAt.isNone)).isEmpty = false := by
    rw [List.isEmpty_eq_false_iff]
    intro hnil
    rw [List.filter_eq_nil_iff] at hnil
    obtain ⟨other, hother, hfirst⟩ := List.any_eq_true.1 hany
    exact hnil other hother hfirst
  rw [hne] at h
  simp only [decide_true, Bool.not_false, Bool.and_self, if_true] at h
  exact least_of_head? (fun _ _ => Iff.rfl) h

/-- The seed that a covering claim selects is that of an untouched child, and no parent with an
untouched child has fewer samples than its parent. -/
theorem of_coverageSeed_covering (hclaimable : Claimable env db)
    (hmode : coverageMode env db = .COVERAGE) (hseed : coverageSeed env db = some row)
    (hparent : row.2.categoryId = some parent) (hchild : row.2.categoryChildId = some child) :
    UntouchedChild db parent child ∧ ∀ other otherChild, UntouchedChild db other otherChild →
      sampledByParent db parent ≤ sampledByParent db other := by
  unfold coverageSeed at hseed
  obtain ⟨value, hvalue, hrow⟩ := Option.map_eq_some_iff.1 hseed
  have hany : (coverageCandidates env db).any (fun value => value.childFirstSampledAt.isNone) =
      true := by
    by_contra h
    unfold coverageMode at hmode
    rw [if_neg h] at hmode
    cases hmode
  rw [hmode] at hvalue
  have hleast := of_selectExploration hany hvalue
  obtain ⟨hmem, hfirst⟩ := List.mem_filter.1 hleast.mem
  obtain ⟨row', parent', child', category, -, hcovers⟩ := covers_of_mem hmem
  have hsame : row' = row := hcovers.row_eq.symm.trans hrow
  subst hsame
  rw [hcovers.parent_eq, Option.some.injEq] at hparent
  rw [hcovers.child_eq, Option.some.injEq] at hchild
  subst hparent hchild
  rw [Option.isNone_iff_eq_none] at hfirst
  refine ⟨⟨category, hcovers.valid, hcovers.first_eq.symm.trans hfirst, hcovers.child_of⟩, ?_⟩
  intro other otherChild hother
  obtain ⟨otherRow, hotherRow, hotherChild⟩ :=
    hclaimable otherChild (mem_untouched_iff.2 ⟨other, hother⟩)
  obtain ⟨value', parent'', child'', category', hvalue', hcovers'⟩ := covers_of_seed hotherRow
  obtain ⟨otherCategory, hvalid, hnone, hof⟩ := hother
  rw [hcovers'.child_eq, Option.some.injEq] at hotherChild
  have hcategory := hcovers'.valid
  rw [hotherChild, hvalid, Option.some.injEq] at hcategory
  have hparents := hcovers'.child_of
  rw [← hcategory, hof, Option.some.injEq] at hparents
  have hin : value' ∈ (coverageCandidates env db).filter
      (fun value => value.childFirstSampledAt.isNone) := by
    refine List.mem_filter.2 ⟨List.mem_filterMap.2 ⟨otherRow, hotherRow, hvalue'⟩, ?_⟩
    rw [hcovers'.first_eq, ← hcategory, hnone]
    rfl
  have hle := count_le_of_order (hleast.le value' hin)
  rwa [hcovers.count_eq, hcovers'.count_eq, ← hparents] at hle

theorem isSome_coverageSeed (hclaimable : Claimable env db) (hne : untouched db ≠ []) :
    ∃ row, coverageSeed env db = some row := by
  have hmode := (coverageMode_iff hclaimable).2 hne
  obtain ⟨child, hchild⟩ := List.exists_mem_of_ne_nil _ hne
  obtain ⟨row, hrow, -⟩ := hclaimable child hchild
  obtain ⟨value, _, _, _, hvalue, -⟩ := covers_of_seed hrow
  have hmem : value ∈ coverageCandidates env db := List.mem_filterMap.2 ⟨row, hrow, hvalue⟩
  rw [← Option.isSome_iff_exists]
  unfold coverageSeed selectCategoryExplorationCandidate
  rw [Option.isSome_map, List.isSome_head?, ne_eq, ← List.length_eq_zero_iff,
    List.length_insertionSort, List.length_eq_zero_iff]
  intro hnil
  split at hnil
  · next h => simp [hnil] at h
  · rw [hnil] at hmem
    cases hmem

end Selects

/-! ## What an exploration writes -/

/-- What the catalog is after a sampling of a child: its dates may differ, and only the child has
been sampled for the first time. -/
def SampledOnce (before after : Table String MarketplaceCategory) (child : String) : Prop :=
  ∀ id, ∃ f : MarketplaceCategory → MarketplaceCategory,
    after.get id = (before.get id).map f ∧ ∀ category,
      (f category).parentCategoryId = category.parentCategoryId ∧
      (f category).enabledForCreatorCrawl = category.enabledForCreatorCrawl ∧
      (f category).availableForCreatorFilter = category.availableForCreatorFilter ∧
      (f category).creatorFirstSampledAt.isSome =
        (decide (id = child) || category.creatorFirstSampledAt.isSome)

/-- A category after the claim of an exploration and the page that it read. -/
def writtenCategory (parent child : String) (claimedAt respondedAt : Int) (id : String)
    (category : MarketplaceCategory) : MarketplaceCategory :=
  let claimed := if id = parent || id = child then
    { category with creatorLastExplorationClaimAt := some claimedAt } else category
  let first := if id = child && claimed.creatorFirstSampledAt.isNone then
    { claimed with creatorFirstSampledAt := some respondedAt } else claimed
  if decide (id = child) then { first with creatorLastSampledAt := some respondedAt } else first

theorem writtenCategory_keeps {parent child : String} {claimedAt respondedAt : Int} {id : String}
    (category : MarketplaceCategory) :
    let written := writtenCategory parent child claimedAt respondedAt id category
    written.parentCategoryId = category.parentCategoryId ∧
      written.enabledForCreatorCrawl = category.enabledForCreatorCrawl ∧
      written.availableForCreatorFilter = category.availableForCreatorFilter ∧
      written.creatorFirstSampledAt.isSome =
        (decide (id = child) || category.creatorFirstSampledAt.isSome) := by
  unfold writtenCategory
  by_cases hchild : id = child
  · cases hfirst : category.creatorFirstSampledAt <;> simp [hchild]
  · by_cases hparent : id = parent
    · subst hparent
      simp [hchild]
    · simp [hchild, hparent]

section SampledOnce

variable {db db' : Db} {child id parent : String}

theorem sampledOnce_of_writes {db1 db2 db3 : Db} {p : CreatorSearchPartition} {parent : String}
    {claimedAt respondedAt : Int} {page : CreatorSyncPage} {receipt : Nat}
    (hparent : p.categoryId = some parent) (hchild : p.categoryChildId = some child)
    (hrecord : (recordExploration claimedAt p).run db = .ok ((), db1))
    (hkept : db2.categories = db1.categories)
    (hstage : (stagePage page p.categoryChildId respondedAt).run db2 = .ok (receipt, db3)) :
    SampledOnce db.categories db3.categories child := by
  unfold recordExploration at hrecord
  simp only [hparent, hchild, Tx.run_bind, Tx.run_updateMany, Tx.bind_eq_ok, Except.ok.injEq,
    exists_eq_left', Tx.run_pure, Prod.mk.injEq, true_and] at hrecord
  rw [hchild] at hstage
  unfold stagePage at hstage
  simp only [Tx.run_bind, Tx.run_updateMany, Tx.bind_eq_ok, Except.ok.injEq, exists_eq_left',
    Tx.run_pure, Prod.mk.injEq] at hstage
  obtain ⟨⟨receipt', db'⟩, hreceipt, -, rfl⟩ := hstage
  have hcategories : db'.categories = db2.categories := by
    simp only [Tx.run_stmt, Tx.run_ret, Except.ok.injEq, Prod.mk.injEq] at hreceipt
    rw [← hreceipt.2]
    split <;> rfl
  intro id
  refine ⟨writtenCategory parent child claimedAt respondedAt id, ?_, ?_⟩
  · simp only [table.categories, Table.get_updateMany, hcategories, hkept, ← hrecord,
      Option.map_map]
    rfl
  · intro category
    exact writtenCategory_keeps category

variable (hsampled : SampledOnce db.categories db'.categories child)
include hsampled

theorem validParents_isSome (id : String) :
    (validParents db' id).isSome = (validParents db id).isSome := by
  obtain ⟨f, hget, hf⟩ := hsampled id
  unfold validParents
  rw [hget]
  cases db.categories.get id with
  | none => rfl
  | some category =>
    obtain ⟨hparent, henabled, havailable, -⟩ := hf category
    simp [Option.filter, hparent, henabled, havailable]
    split <;> rfl

/-- The children are the same, with what the sampling writes. -/
theorem validChildren_eq (id : String) : ∃ f : MarketplaceCategory → MarketplaceCategory,
    validChildren db' id = (validChildren db id).map f ∧ ∀ category,
      (f category).parentCategoryId = category.parentCategoryId ∧
      (f category).creatorFirstSampledAt.isSome =
        (decide (id = child) || category.creatorFirstSampledAt.isSome) := by
  obtain ⟨f, hget, hf⟩ := hsampled id
  refine ⟨f, ?_, fun category => ⟨(hf category).1, (hf category).2.2.2⟩⟩
  unfold validChildren
  rw [hget]
  cases db.categories.get id with
  | none => rfl
  | some category =>
    obtain ⟨hparent, -, havailable, -⟩ := hf category
    simp only [Option.map_some, Option.filter, hparent, havailable,
      validParents_isSome hsampled]
    split <;> rfl

/-- The child is no longer untouched, and all other children are what they were. -/
theorem untouchedChild_iff : UntouchedChild db' parent id ↔ id ≠ child ∧ UntouchedChild db parent id := by
  obtain ⟨f, hvalid, hf⟩ := validChildren_eq hsampled id
  unfold UntouchedChild
  rw [hvalid]
  constructor
  · rintro ⟨category', hcategory', hfirst, hparent⟩
    obtain ⟨category, hcategory, rfl⟩ := Option.map_eq_some_iff.1 hcategory'
    obtain ⟨hparents, hsome⟩ := hf category
    rw [hfirst, Option.isSome_none, eq_comm, Bool.or_eq_false_iff, decide_eq_false_iff_not,
      Option.isSome_eq_false_iff, Option.isNone_iff_eq_none] at hsome
    exact ⟨hsome.1, category, hcategory, hsome.2, hparents.symm.trans hparent⟩
  · rintro ⟨hne, category, hcategory, hfirst, hparent⟩
    obtain ⟨hparents, hsome⟩ := hf category
    refine ⟨f category, by rw [hcategory]; rfl, ?_, hparents.trans hparent⟩
    rw [hfirst, decide_eq_false hne] at hsome
    simpa using hsome

theorem mem_sampledChildren_iff : id ∈ sampledChildren db' parent ↔
    id ∈ sampledChildren db parent ∨ (id = child ∧ UntouchedChild db parent id) := by
  obtain ⟨f, hvalid, hf⟩ := validChildren_eq hsampled id
  rw [mem_sampledChildren, mem_sampledChildren, hvalid]
  unfold UntouchedChild
  constructor
  · rintro ⟨category', hcategory', hfirst, hparent⟩
    obtain ⟨category, hcategory, rfl⟩ := Option.map_eq_some_iff.1 hcategory'
    obtain ⟨hparents, hsome⟩ := hf category
    rw [hparents] at hparent
    rw [hfirst, eq_comm, Bool.or_eq_true, decide_eq_true_eq] at hsome
    cases hbefore : category.creatorFirstSampledAt with
    | some at' => exact Or.inl ⟨category, hcategory, by rw [hbefore]; rfl, hparent⟩
    | none =>
      rw [hbefore] at hsome
      rcases hsome with rfl | hsome
      · exact Or.inr ⟨rfl, category, hcategory, hbefore, hparent⟩
      · cases hsome
  · have hback : ∀ category, validChildren db id = some category →
        (id = child ∨ category.creatorFirstSampledAt.isSome) →
        category.parentCategoryId = some parent →
        ∃ category', (validChildren db id).map f = some category' ∧
          category'.creatorFirstSampledAt.isSome ∧ category'.parentCategoryId = some parent := by
      intro category hcategory hsome hparent
      obtain ⟨hparents, hfirst⟩ := hf category
      refine ⟨f category, by rw [hcategory]; rfl, ?_, hparents.trans hparent⟩
      rw [hfirst, Bool.or_eq_true, decide_eq_true_eq]
      exact hsome
    rintro (⟨category, hcategory, hfirst, hparent⟩ | ⟨hchild, category, hcategory, hfirst, hparent⟩)
    · exact hback category hcategory (Or.inr hfirst) hparent
    · exact hback category hcategory (Or.inl hchild) hparent

end SampledOnce

/-! ## Runs -/

/-- A claim explores a child: it selects the seed, writes its dates, and the page that is read for
it is staged. All other tables are free to change. -/
inductive Explores (env : Environment) (db : Db) : String → String → Db → Prop
  | intro (row : Row) {parent child : String} {claimedAt respondedAt : Int} {page : CreatorSyncPage}
      {receipt : Nat} {db1 db2 db3 db' : Db} (hmode : coverageMode env db = .COVERAGE)
      (hseed : coverageSeed env db = some row) (hparent : row.2.categoryId = some parent)
      (hchild : row.2.categoryChildId = some child)
      (hrecord : (recordExploration claimedAt row.2).run db = .ok ((), db1))
      (hclaimed : db2.categories = db1.categories)
      (hstage : (stagePage page row.2.categoryChildId respondedAt).run db2 = .ok (receipt, db3))
      (hstaged : db'.categories = db3.categories) : Explores env db parent child db'

/-- Explorations one after another, with the children that they sampled, while each untouched
child keeps a seed. -/
inductive Explored (env : Environment) (db : Db) : List String → Db → Prop
  | refl (hclaimable : Claimable env db) : Explored env db [] db
  | step {children : List String} {parent child : String} {db1 db2 : Db}
      (hbefore : Explored env db children db1) (hstep : Explores env db1 parent child db2)
      (hclaimable : Claimable env db2) : Explored env db (children ++ [child]) db2

section Runs

variable {env : Environment} {db db' : Db} {parent child : String} {children : List String}

theorem claimable_of_explored (h : Explored env db children db') : Claimable env db' := by
  cases h with
  | refl hclaimable => exact hclaimable
  | step _ _ hclaimable => exact hclaimable

/-- The choice of an exploration: an untouched child of a parent with the fewest samples. -/
def Fair (db : Db) (parent child : String) : Prop :=
  UntouchedChild db parent child ∧ ∀ other otherChild, UntouchedChild db other otherChild →
    sampledByParent db parent ≤ sampledByParent db other

theorem fair_of_explores (hclaimable : Claimable env db) (h : Explores env db parent child db') :
    Fair db parent child := by
  cases h with
  | intro row hmode hseed hparent hchild _ _ _ _ =>
    exact of_coverageSeed_covering hclaimable hmode hseed hparent hchild

theorem sampledOnce_of_explores (h : Explores env db parent child db') :
    SampledOnce db.categories db'.categories child := by
  cases h with
  | intro row _ _ hparent hchild hrecord hclaimed hstage hstaged =>
    rw [hstaged]
    exact sampledOnce_of_writes hparent hchild hrecord hclaimed hstage

/-- An exploration takes its child from those that are untouched. -/
theorem untouched_of_explores (hclaimable : Claimable env db)
    (h : Explores env db parent child db') :
    (child :: untouched db').Perm (untouched db) := by
  have hsampled := sampledOnce_of_explores h
  have hchild : child ∈ untouched db := mem_untouched_iff.2 ⟨parent, (fair_of_explores hclaimable h).1⟩
  have hiff : ∀ id, id ∈ untouched db' ↔ id ≠ child ∧ id ∈ untouched db := by
    intro id
    rw [mem_untouched_iff, mem_untouched_iff]
    simp only [untouchedChild_iff hsampled, exists_and_left]
  have hnodup : (child :: untouched db').Nodup := by
    rw [List.nodup_cons]
    exact ⟨fun hmem => ((hiff child).1 hmem).1 rfl, nodup_untouched⟩
  rw [List.perm_ext_iff_of_nodup hnodup nodup_untouched]
  intro id
  rw [List.mem_cons, hiff]
  constructor
  · rintro (rfl | ⟨-, hid⟩)
    · exact hchild
    · exact hid
  · intro hid
    by_cases hsame : id = child
    · exact Or.inl hsame
    · exact Or.inr ⟨hsame, hid⟩

/-- It adds one to the count of its parent, and none to the others. -/
theorem sampledByParent_of_explores (hclaimable : Claimable env db)
    (h : Explores env db parent child db') (other : String) :
    sampledByParent db' other = sampledByParent db other + if other = parent then 1 else 0 := by
  have hsampled := sampledOnce_of_explores h
  obtain ⟨category, hvalid, hfirst, hof⟩ := (fair_of_explores hclaimable h).1
  rw [sampledByParent_eq, sampledByParent_eq]
  by_cases hother : other = parent
  · subst hother
    have hnew : child ∉ sampledChildren db other := by
      rw [mem_sampledChildren]
      rintro ⟨category', hvalid', hsome, -⟩
      rw [hvalid, Option.some.injEq] at hvalid'
      rw [← hvalid', hfirst] at hsome
      cases hsome
    have hperm : (sampledChildren db' other).Perm (child :: sampledChildren db other) := by
      rw [List.perm_ext_iff_of_nodup nodup_sampledChildren
        (List.nodup_cons.2 ⟨hnew, nodup_sampledChildren⟩)]
      intro id
      rw [mem_sampledChildren_iff hsampled, List.mem_cons]
      constructor
      · rintro (hid | ⟨hid, -⟩)
        · exact Or.inr hid
        · exact Or.inl hid
      · rintro (rfl | hid)
        · exact Or.inr ⟨rfl, category, hvalid, hfirst, hof⟩
        · exact Or.inl hid
    simp [hperm.length_eq]
  · have hperm : (sampledChildren db' other).Perm (sampledChildren db other) := by
      rw [List.perm_ext_iff_of_nodup nodup_sampledChildren nodup_sampledChildren]
      intro id
      rw [mem_sampledChildren_iff hsampled]
      constructor
      · rintro (hid | ⟨rfl, category', hvalid', -, hof'⟩)
        · exact hid
        · rw [hvalid, Option.some.injEq] at hvalid'
          rw [← hvalid', hof, Option.some.injEq] at hof'
          exact absurd hof'.symm hother
      · exact Or.inl
    simp [hperm.length_eq, hother]

theorem untouched_of_explored (h : Explored env db children db') :
    (children ++ untouched db').Perm (untouched db) := by
  induction h with
  | refl _ => exact List.Perm.refl _
  | @step children parent child db1 db2 hbefore hstep _ ih =>
    have hperm := untouched_of_explores (claimable_of_explored hbefore) hstep
    rw [List.append_assoc, List.singleton_append]
    exact (hperm.append_left children).trans ih

/-- The counts of the parents with untouched children are two numbers in a row at most. -/
def Level (db : Db) : Prop :=
  ∃ least, ∀ parent child, UntouchedChild db parent child →
    least ≤ sampledByParent db parent ∧ sampledByParent db parent ≤ least + 1

theorem level_of_explores (hclaimable : Claimable env db) (h : Explores env db parent child db')
    (hlevel : Level db) : Level db' := by
  obtain ⟨least, hleast⟩ := hlevel
  have hsampled := sampledOnce_of_explores h
  obtain ⟨huntouched, hfewest⟩ := fair_of_explores hclaimable h
  have hparent := hleast parent child huntouched
  -- when the fewest are `least + 1`, they are all so
  refine ⟨sampledByParent db parent, ?_⟩
  intro other otherChild hother
  have hbefore := ((untouchedChild_iff hsampled).1 hother).2
  have hle := hfewest other otherChild hbefore
  have hbounds := hleast other otherChild hbefore
  rw [sampledByParent_of_explores hclaimable h]
  split <;> rename_i hsame
  · subst hsame
    omega
  · omega

theorem level_of_explored (h : Explored env db children db') (hlevel : Level db) : Level db' := by
  induction h with
  | refl _ => exact hlevel
  | step hbefore hstep _ ih => exact level_of_explores (claimable_of_explored hbefore) hstep ih

/-- A page without creators, the last one of its partition. -/
def emptyPage (partitionId : Nat) : CreatorSyncPage where
  creatorSearchPartitionId := partitionId
  pageNumber := 1
  privateRequestToken := receiptRequestKey partitionId "FIRST"
  privateNextToken := none
  privateSearchKey := "key"
  providerHasMore := false
  creatorsReturned := 0
  newUniqueCreators := 0
  duplicateRows := 0
  newCreatorOpenIds := []
  payload := []

/-- As long as a child is untouched, a claim explores one. -/
theorem exists_explores (hclaimable : Claimable env db) (hne : untouched db ≠ []) :
    ∃ parent child db', Explores env db parent child db' := by
  have hmode := (coverageMode_iff hclaimable).2 hne
  obtain ⟨row, hseed⟩ := isSome_coverageSeed hclaimable hne
  obtain ⟨value, parent, child, category, -, hcovers⟩ :=
    covers_of_seed (of_coverageSeed hseed)
  obtain ⟨db1, hrecord⟩ : ∃ db1, (recordExploration 0 row.2).run db = .ok ((), db1) := by
    simp [recordExploration, hcovers.parent_eq, hcovers.child_eq]
  obtain ⟨⟨receipt, db2⟩, hstage⟩ : ∃ result,
      (stagePage (emptyPage row.1) row.2.categoryChildId 0).run db1 = .ok result := by
    simp [stagePage, hcovers.child_eq]
  exact ⟨parent, child, db2, Explores.intro row hmode hseed hcovers.parent_eq hcovers.child_eq
    hrecord rfl hstage rfl⟩

/-- After any explorations the next one is fair, there is one as long as a child is untouched, each
untouched child was or will be sampled once, and parents that start level stay so. -/
theorem category_coverage_is_fair (h : Explored env db children db') :
    (∀ parent child next, Explores env db' parent child next → Fair db' parent child) ∧
    (untouched db' ≠ [] → ∃ parent child next, Explores env db' parent child next) ∧
    children.Nodup ∧ (children ++ untouched db').Perm (untouched db) ∧
    (untouched db' = [] ↔ children.length = (untouched db).length) ∧
    ((∀ p c q d, UntouchedChild db p c → UntouchedChild db q d →
        sampledByParent db p = sampledByParent db q) →
      ∀ p c q d, UntouchedChild db' p c → UntouchedChild db' q d →
        sampledByParent db' p ≤ sampledByParent db' q + 1) := by
  have hclaimable := claimable_of_explored h
  have hperm := untouched_of_explored h
  refine ⟨?_, ?_, ?_, hperm, ?_, ?_⟩
  · intro parent child next hnext
    exact fair_of_explores hclaimable hnext
  · intro hne
    exact exists_explores hclaimable hne
  · exact (List.nodup_append.1 (hperm.nodup_iff.2 nodup_untouched)).1
  · have hlength := hperm.length_eq
    rw [List.length_append] at hlength
    rw [← List.length_eq_zero_iff]
    omega
  · intro hequal p c q d hp hq
    have hlevel : Level db := by
      by_cases hany : ∃ p c, UntouchedChild db p c
      · obtain ⟨p, c, hp⟩ := hany
        refine ⟨sampledByParent db p, ?_⟩
        intro q d hq
        have heq := hequal p c q d hp hq
        omega
      · exact ⟨0, fun p c hp => absurd ⟨p, c, hp⟩ hany⟩
    obtain ⟨least, hleast⟩ := level_of_explored h hlevel
    have hp' := hleast p c hp
    have hq' := hleast q d hq
    omega

end Runs

/-- A root with one child, and a seed of it. -/
def lampSeed : CreatorSearchPartition where
  partitionKey := "v2:1:2:f600-799:g1"
  partitionType := .V2_SEED
  categoryId := some "1"
  categoryChildId := some "2"
  categoryChildIds := ["2"]
  followersMin := some 600
  followersMax := some 799
  gmvBucket := some .G1
  gmvRange := some "GMV_RANGE_0_100"
  queuePosition := BASE_QUEUE_GAP
  schedulerFamilyKey := some "1:2:600:799"

def lampShop : Db :=
  { Db.initial with
    partitions := Table.empty.set 0 lampSeed
    nextPartitionId := 1
    categories := (Table.empty.set "1" ⟨none, true, true, 0, none, none, none⟩).set "2"
      ⟨some "1", false, true, 0, none, none, none⟩ }

theorem one_exploration_covers_one_child : ∃ db', Explored ⟨fun _ => 0, fun _ => 0⟩ lampShop ["2"] db' ∧
    untouched db' = [] := by
  have hclaimable : Claimable ⟨fun _ => 0, fun _ => 0⟩ lampShop := by
    unfold Claimable
    decide
  have huntouched : untouched lampShop = ["2"] := by decide
  obtain ⟨parent, child, db', hexplores⟩ := exists_explores hclaimable (by simp [huntouched])
  have hperm := untouched_of_explores hclaimable hexplores
  rw [huntouched, List.perm_singleton, List.cons.injEq] at hperm
  obtain ⟨rfl, hnil⟩ := hperm
  have hlast : Claimable ⟨fun _ => 0, fun _ => 0⟩ db' := by
    unfold Claimable
    simp [hnil]
  have hrun := (Explored.refl hclaimable).step hexplores hlast
  refine ⟨db', hrun, ?_⟩
  rw [(category_coverage_is_fair hrun).2.2.2.2.1, huntouched]
  rfl

/-! ## The claims that explore -/

/-- A claim in the slot of exploration takes the seed of the coverage, when there is one. -/
theorem selected_of_coverageSeed {env : Environment} {config : Config} {db : Db} {sequence : Nat}
    {now : Int} {selection : Selection} {row : Row}
    (h : selectPartition env config db sequence now = .ok selection)
    (hslot : selection.slot = .PRIMARY_EXPLORATION) (hseed : coverageSeed env db = some row) :
    selection.isCategoryExploration = true ∧
      ∃ next, selection.selected = some next ∧ (next.id, next.candidate) = row := by
  have hcandidate : ∃ other, other ∈ candidateRows env db ∧ other.1 = row.1 := by
    unfold candidateRows
    by_cases hsame : some row.1 = (eligibleSeeds env db).head?.map Prod.fst
    · obtain ⟨other, hother, hid⟩ := Option.map_eq_some_iff.1 hsame.symm
      exact ⟨other, by simp [hother], hid⟩
    · refine ⟨row, ?_, rfl⟩
      simp [hseed, Option.filter, hsame]
  obtain ⟨other, hother, hid⟩ := hcandidate
  have hscored : ∃ candidate ∈ scoredCandidates env db now, decide (candidate.id = row.1) = true := by
    refine ⟨scoreCandidate env db now other, List.mem_map_of_mem hother, ?_⟩
    rw [decide_eq_true_eq]
    exact hid
  obtain ⟨next, hfind⟩ := Option.isSome_iff_exists.1 (List.find?_isSome.2 hscored)
  have hnext : next.id = row.1 := by simpa using List.find?_some hfind
  have hstored := (of_mem_candidateRows (of_mem_scoredCandidates (List.mem_of_find?_eq_some hfind))).1
  have hrow := (of_mem_eligibleSeeds (of_coverageSeed hseed)).1
  dsimp only at hstored
  rw [hnext, hrow, Option.some.injEq] at hstored
  unfold selectPartition at h
  dsimp only at h
  split at h
  · cases h
  · cases h
    dsimp only at hslot ⊢
    rw [if_pos hslot, hseed]
    simp only [Option.bind_some, hfind, Option.isSome_some, Option.some_or, Option.some.injEq,
      exists_eq_left', true_and]
    rw [hnext, ← hstored]

end tiktok_outreach.category_coverage
