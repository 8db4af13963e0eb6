-- The checks of `refreshCategories` on a list of categories, loop by loop
-- (apps/api/src/creator-database/creator-database.service.ts): they accept the
-- lists whose parents lead to a root, and give each category its depth there.
import TiktokOutreach.CreatorWorker

open tiktok_outreach.creator_schema tiktok_outreach.creator_sync tiktok_outreach.creator_worker

namespace tiktok_outreach.category_hierarchy

/-! ## The loops -/

/-- `byId.get(id)`, where the last category of an id counts. -/
def byId (categories : List TikTokShopCategory) (id : String) : Option TikTokShopCategory :=
  categories.reverse.find? (fun category => category.id = id)

/-- How many categories have not been seen. -/
def unseen (categories : List TikTokShopCategory) (seen : List String) : Nat :=
  (categories.filter (fun category => !seen.contains category.id)).length

section Unseen

variable {categories : List TikTokShopCategory} {id : String} {category : TikTokShopCategory}

theorem mem_of_byId (h : byId categories id = some category) :
    category ∈ categories ∧ category.id = id := by
  unfold byId at h
  refine ⟨List.mem_reverse.1 (List.mem_of_find?_eq_some h), ?_⟩
  simpa using List.find?_some h

/-- Each turn of a loop sees one more category. -/
theorem unseen_lt {seen : List String} (h : byId categories id = some category)
    (hseen : id ∉ seen) : unseen categories (id :: seen) < unseen categories seen := by
  obtain ⟨hmem, hid⟩ := mem_of_byId h
  unfold unseen
  have hfilter : categories.filter (fun c => !(id :: seen).contains c.id) =
      (categories.filter (fun c => !seen.contains c.id)).filter (fun c => !decide (c.id = id)) := by
    rw [List.filter_filter]
    apply List.filter_congr
    intro c _
    simp
  rw [hfilter, List.length_filter_lt_length_iff_exists]
  refine ⟨category, List.mem_filter.2 ⟨hmem, ?_⟩, ?_⟩
  · simpa [hid] using hseen
  · simp [hid]

end Unseen

/-- The walk up from a category, with the ids that it has come by. -/
def walk (categories : List TikTokShopCategory) (seen : List String)
    (current : TikTokShopCategory) : Except Failure Unit :=
  if current.parentId = "0" then .ok ()
  else if _hseen : current.parentId ∈ seen then
    .error (.badRequest "TikTok returned a cyclic category hierarchy")
  else match _hparent : byId categories current.parentId with
    | some parent => walk categories (current.parentId :: seen) parent
    | none => .error (.other "Cannot read properties of undefined (reading 'parentId')")
termination_by unseen categories seen
decreasing_by exact unseen_lt _hparent _hseen

/-- The loop of `levelOf` from a category. -/
def climb (categories : List TikTokShopCategory) (seen : List String) (level : Nat)
    (current : TikTokShopCategory) : Nat :=
  match _hparent : byId categories current.parentId with
  | some parent =>
    if _hstop : current.parentId = "0" ∨ current.parentId ∈ seen then level
    else climb categories (current.parentId :: seen) (level + 1) parent
  | none => level
termination_by unseen categories seen
decreasing_by exact unseen_lt _hparent (fun hseen => _hstop (Or.inr hseen))

def levelOf (categories : List TikTokShopCategory) (id : String) : Nat :=
  match byId categories id with
  | some current => climb categories [] 1 current
  | none => 1

/-- A category whose parent is not the root and not in the list. -/
def orphan (categories : List TikTokShopCategory) (category : TikTokShopCategory) : Bool :=
  category.parentId ≠ "0" && (byId categories category.parentId).isNone

/-- The checks, in the order of the source. -/
def checkHierarchy (categories : List TikTokShopCategory) : Except Failure Unit :=
  if categories = [] then
    .error (.badRequest "TikTok returned no Marketplace-compatible categories")
  else if (categories.map (·.id)).dedup.length ≠ categories.length then
    .error (.badRequest "TikTok returned duplicate category IDs")
  else if categories.any (orphan categories) then
    .error (.badRequest "TikTok returned an incomplete category hierarchy")
  else categories.forM (fun category => walk categories [category.id] category)

/-! ## Chains -/

/-- The parents of a category lead to a root, which is the last of so many categories. -/
inductive Chain (categories : List TikTokShopCategory) : TikTokShopCategory → Nat → Prop
  | root {category : TikTokShopCategory} (hmem : category ∈ categories)
      (hroot : category.parentId = "0") : Chain categories category 1
  | child {category parent : TikTokShopCategory} {length : Nat} (hmem : category ∈ categories)
      (hchild : category.parentId ≠ "0") (hparent : parent.id = category.parentId)
      (hchain : Chain categories parent length) : Chain categories category (length + 1)

section Chains

variable {categories : List TikTokShopCategory} {category parent : TikTokShopCategory}
  {n m : Nat}

theorem Chain.mem (h : Chain categories category n) : category ∈ categories := by
  cases h with
  | root hmem _ => exact hmem
  | child hmem _ _ _ => exact hmem

theorem eq_of_id (hids : (categories.map (·.id)).Nodup) (hcategory : category ∈ categories)
    (hparent : parent ∈ categories) (h : category.id = parent.id) : category = parent :=
  List.inj_on_of_nodup_map hids hcategory hparent h

theorem byId_of_mem (hids : (categories.map (·.id)).Nodup) (h : category ∈ categories) :
    byId categories category.id = some category := by
  have hfound : (byId categories category.id).isSome := by
    unfold byId
    rw [List.find?_isSome]
    exact ⟨category, List.mem_reverse.2 h, by simp⟩
  obtain ⟨other, hother⟩ := Option.isSome_iff_exists.1 hfound
  obtain ⟨hmem, hid⟩ := mem_of_byId hother
  rw [hother, eq_of_id hids hmem h hid]

/-- A category has one chain at most. -/
theorem Chain.length_eq (hids : (categories.map (·.id)).Nodup) (h : Chain categories category n)
    (h' : Chain categories category m) : n = m := by
  induction h generalizing m with
  | root _ hroot =>
    cases h' with
    | root _ _ => rfl
    | child _ hchild _ _ => exact absurd hroot hchild
  | child _ hchild hparent hchain ih =>
    cases h' with
    | root _ hroot => exact absurd hroot hchild
    | child _ _ hparent' hchain' =>
      have hsame := eq_of_id hids hchain.mem hchain'.mem (hparent.trans hparent'.symm)
      rw [← hsame] at hchain'
      rw [ih hchain']

/-- What a walk has come by is as far from the root, or farther. -/
def Above (categories : List TikTokShopCategory) (seen : List String) (n : Nat) : Prop :=
  ∀ category m, category.id ∈ seen → Chain categories category m → n ≤ m

theorem Above.not_mem {seen : List String} (h : Above categories seen (n + 1))
    (hchain : Chain categories category n) : category.id ∉ seen := by
  intro hmem
  have hle := h category n hmem hchain
  omega

theorem Above.cons (hids : (categories.map (·.id)).Nodup) {seen : List String}
    (h : Above categories seen (n + 1)) (hchain : Chain categories category n) :
    Above categories (category.id :: seen) n := by
  intro other m hmem hother
  rcases List.mem_cons.1 hmem with hid | hmem
  · have hsame := eq_of_id hids hother.mem hchain.mem hid
    rw [hsame] at hother
    exact (hchain.length_eq hids hother).le
  · have hle := h other m hmem hother
    omega

/-! ## The walk -/

/-- A walk up a chain comes to its end. -/
theorem walk_of_chain (hids : (categories.map (·.id)).Nodup) (h : Chain categories category n) :
    ∀ seen, Above categories seen n → walk categories seen category = .ok () := by
  induction h with
  | root _ hroot =>
    intro seen _
    rw [walk, if_pos hroot]
  | @child category parent length _ hchild hparent hchain ih =>
    intro seen hseen
    have hnot := hseen.not_mem hchain
    have hfound := byId_of_mem hids hchain.mem
    have hnext := ih _ (hseen.cons hids hchain)
    rw [hparent] at hnot hfound hnext
    rw [walk, if_neg hchild, dif_neg hnot]
    split
    · next found hget =>
      rw [hfound, Option.some.injEq] at hget
      rw [← hget]
      exact hnext
    · next hget =>
      rw [hfound] at hget
      cases hget

/-- A walk that comes to its end went up a chain. -/
theorem chain_of_walk (seen : List String) (hmem : category ∈ categories)
    (h : walk categories seen category = .ok ()) : ∃ n, Chain categories category n := by
  induction seen, category using walk.induct categories with
  | case1 seen current hroot => exact ⟨1, Chain.root hmem hroot⟩
  | case2 seen current hchild hseen =>
    rw [walk, if_neg hchild, dif_pos hseen] at h
    cases h
  | case3 seen current hchild hseen parent hparent ih =>
    rw [walk, if_neg hchild, dif_neg hseen] at h
    split at h
    · next found hget =>
      rw [hparent, Option.some.injEq] at hget
      rw [← hget] at h
      obtain ⟨hparentMem, hid⟩ := mem_of_byId hparent
      obtain ⟨n, hchain⟩ := ih hparentMem h
      exact ⟨n + 1, Chain.child hmem hchild hid hchain⟩
    · cases h
  | case4 seen current hchild hseen hparent =>
    rw [walk, if_neg hchild, dif_neg hseen] at h
    split at h
    · next found hget =>
      rw [hparent] at hget
      cases hget
    · cases h

/-! ## Levels -/

theorem climb_of_chain (hids : (categories.map (·.id)).Nodup) (h : Chain categories category n) :
    ∀ seen level, Above categories seen n → climb categories seen level category = level + (n - 1) := by
  induction h with
  | root _ hroot =>
    intro seen level _
    rw [climb]
    split
    · rw [dif_pos (Or.inl hroot)]
      omega
    · omega
  | @child category parent length _ hchild hparent hchain ih =>
    intro seen level hseen
    have hnot := hseen.not_mem hchain
    have hfound := byId_of_mem hids hchain.mem
    have hnext := ih _ (level + 1) (hseen.cons hids hchain)
    rw [hparent] at hnot hfound hnext
    have hpositive : 1 ≤ length := by cases hchain <;> omega
    rw [climb]
    split
    · next found hget =>
      rw [hfound, Option.some.injEq] at hget
      rw [dif_neg (by simp [hchild, hnot]), ← hget, hnext]
      omega
    · next hget =>
      rw [hfound] at hget
      cases hget

/-- The level of a category is the length of its chain. -/
theorem levelOf_of_chain (hids : (categories.map (·.id)).Nodup) (h : Chain categories category n) :
    levelOf categories category.id = n := by
  have hpositive : 1 ≤ n := by cases h <;> omega
  have hseen : Above categories [] n := by
    intro other m hmem
    cases hmem
  unfold levelOf
  rw [byId_of_mem hids h.mem]
  dsimp only
  rw [climb_of_chain hids h [] 1 hseen]
  omega

end Chains

/-! ## The checks -/

section Checks

variable {categories : List TikTokShopCategory}

theorem forM_ok_iff {α : Type} {f : α → Except Failure Unit} {l : List α} :
    l.forM f = .ok () ↔ ∀ a ∈ l, f a = .ok () := by
  induction l with
  | nil =>
    constructor
    · intro _ a ha
      cases ha
    · intro _
      rfl
  | cons a l ih =>
    have hcons : (a :: l).forM f = (f a).bind (fun _ => l.forM f) := rfl
    rw [hcons, List.forall_mem_cons, ← ih]
    cases f a with
    | error e => simp [Except.bind]
    | ok u => simp [Except.bind]

theorem nodup_iff_length : (categories.map (·.id)).dedup.length = categories.length ↔
    (categories.map (·.id)).Nodup := by
  rw [← List.dedup_eq_self, ← List.length_map (f := fun category : TikTokShopCategory => category.id)]
  constructor
  · intro h
    exact (List.dedup_sublist _).eq_of_length h
  · intro h
    rw [h]

theorem not_orphan_of_chain (hids : (categories.map (·.id)).Nodup) {category : TikTokShopCategory}
    {n : Nat} (h : Chain categories category n) : orphan categories category = false := by
  unfold orphan
  cases h with
  | root _ hroot => simp [hroot]
  | child _ hchild hparent hchain =>
    rw [← hparent, byId_of_mem hids hchain.mem]
    simp

/-- Whether each category has a chain to a root. -/
def Rooted (categories : List TikTokShopCategory) : Prop :=
  ∀ category ∈ categories, ∃ n, Chain categories category n

theorem walks_iff (hids : (categories.map (·.id)).Nodup) :
    categories.forM (fun category => walk categories [category.id] category) = .ok () ↔
      Rooted categories := by
  rw [forM_ok_iff]
  constructor
  · intro h category hmem
    exact chain_of_walk _ hmem (h category hmem)
  · intro h category hmem
    obtain ⟨n, hchain⟩ := h category hmem
    apply walk_of_chain hids hchain
    intro other m hother hchain'
    rw [List.mem_singleton] at hother
    have hsame := eq_of_id hids hchain'.mem hmem hother
    rw [hsame] at hchain'
    exact (hchain.length_eq hids hchain').le

theorem checkHierarchy_ok_iff : checkHierarchy categories = .ok () ↔
    categories ≠ [] ∧ (categories.map (·.id)).Nodup ∧ Rooted categories := by
  unfold checkHierarchy
  simp only [ne_eq, nodup_iff_length]
  by_cases hempty : categories = []
  · simp [hempty]
  by_cases hids : (categories.map (·.id)).Nodup
  · rw [if_neg hempty, if_neg (not_not.2 hids)]
    cases horphan : categories.any (orphan categories) with
    | false =>
      rw [if_neg (by simp), walks_iff hids]
      simp [hempty, hids]
    | true =>
      obtain ⟨category, hmem, hcategory⟩ := List.any_eq_true.1 horphan
      have hnot : ¬ Rooted categories := by
        intro hrooted
        obtain ⟨n, hchain⟩ := hrooted category hmem
        rw [not_orphan_of_chain hids hchain] at hcategory
        cases hcategory
      simp [hnot]
  · simp [hempty, hids]

/-! ## The checks of the crawler's programs -/

/-- Without orphans a walk comes to its end or to a cycle. -/
theorem walk_or_cyclic (horphan : ∀ category ∈ categories, orphan categories category = false)
    {category : TikTokShopCategory} (seen : List String) (hmem : category ∈ categories) :
    walk categories seen category = .ok () ∨ walk categories seen category =
      .error (.badRequest "TikTok returned a cyclic category hierarchy") := by
  induction seen, category using walk.induct categories with
  | case1 seen current hroot => simp [walk, hroot]
  | case2 seen current hchild hseen => simp [walk, hchild, hseen]
  | case3 seen current hchild hseen parent hparent ih =>
    rw [walk, if_neg hchild, dif_neg hseen]
    split
    · next found hget =>
      rw [hparent, Option.some.injEq] at hget
      rw [← hget]
      exact ih (mem_of_byId hparent).1
    · next hget =>
      rw [hparent] at hget
      cases hget
  | case4 seen current hchild hseen hparent =>
    have hnot := horphan current hmem
    simp [orphan, hchild, hparent] at hnot

theorem forM_or_error {α : Type} {f : α → Except Failure Unit} {e : Failure} {l : List α}
    (h : ∀ a ∈ l, f a = .ok () ∨ f a = .error e) : l.forM f = .ok () ∨ l.forM f = .error e := by
  induction l with
  | nil => exact Or.inl rfl
  | cons a l ih =>
    have hcons : (a :: l).forM f = (f a).bind (fun _ => l.forM f) := rfl
    rw [hcons]
    rcases h a List.mem_cons_self with ha | ha
    · rw [ha]
      exact ih (fun b hb => h b (List.mem_cons_of_mem a hb))
    · rw [ha]
      exact Or.inr rfl

theorem find?_id (hids : (categories.map (·.id)).Nodup) {category : TikTokShopCategory}
    (h : category ∈ categories) : categories.find? (fun c => c.id = category.id) = some category := by
  have hfound : (categories.find? (fun c => c.id = category.id)).isSome := by
    rw [List.find?_isSome]
    exact ⟨category, h, by simp⟩
  obtain ⟨other, hother⟩ := Option.isSome_iff_exists.1 hfound
  have hid : other.id = category.id := by simpa using List.find?_some hother
  rw [hother, eq_of_id hids (List.mem_of_find?_eq_some hother) h hid]

theorem ancestors_zero_id (fuel : Nat) : ancestors categories fuel "0" = [] := by
  cases fuel <;> simp [ancestors]

theorem ancestors_of_mem (hids : (categories.map (·.id)).Nodup) {category : TikTokShopCategory}
    (h : category ∈ categories) (hid : category.id ≠ "0") (fuel : Nat) :
    ancestors categories (fuel + 1) category.id =
      category.id :: ancestors categories fuel category.parentId := by
  rw [ancestors, if_neg hid, find?_id hids h]
  rfl

/-- The ancestors of a category with a chain are on it, at different distances from the root. -/
theorem nodup_ancestors (hids : (categories.map (·.id)).Nodup) {category : TikTokShopCategory}
    {n : Nat} (h : Chain categories category n) : ∀ fuel,
      (ancestors categories fuel category.id).Nodup ∧
        ∀ id ∈ ancestors categories fuel category.id, ∃ other m, other.id = id ∧
          Chain categories other m ∧ m ≤ n := by
  induction h with
  | @root category hmem hroot =>
    intro fuel
    cases fuel with
    | zero => simp [ancestors]
    | succ fuel =>
      by_cases hid : category.id = "0"
      · simp [hid, ancestors_zero_id]
      · rw [ancestors_of_mem hids hmem hid, hroot, ancestors_zero_id]
        refine ⟨List.nodup_singleton _, ?_⟩
        intro id hmem'
        rw [List.mem_singleton] at hmem'
        exact ⟨category, 1, hmem'.symm, Chain.root hmem hroot, le_rfl⟩
  | @child category parent length hmem hchild hparent hchain ih =>
    intro fuel
    cases fuel with
    | zero => simp [ancestors]
    | succ fuel =>
      by_cases hid : category.id = "0"
      · simp [hid, ancestors_zero_id]
      · obtain ⟨hnodup, habove⟩ := ih fuel
        have hself := Chain.child hmem hchild hparent hchain
        rw [ancestors_of_mem hids hmem hid, ← hparent]
        constructor
        · rw [List.nodup_cons]
          refine ⟨?_, hnodup⟩
          intro hin
          obtain ⟨other, m, hother, hotherChain, hle⟩ := habove _ hin
          rw [eq_of_id hids hotherChain.mem hmem hother] at hotherChain
          have hlength := hotherChain.length_eq hids hself
          omega
        · intro id hin
          rcases List.mem_cons.1 hin with rfl | hin
          · exact ⟨category, length + 1, rfl, hself, le_rfl⟩
          · obtain ⟨other, m, hother, hotherChain, hle⟩ := habove id hin
            exact ⟨other, m, hother, hotherChain, by omega⟩

/-- The ancestors of a category without a chain go on as far as they are asked for. -/
theorem ancestors_of_unrooted (hids : (categories.map (·.id)).Nodup)
    (horphan : ∀ category ∈ categories, orphan categories category = false)
    {category : TikTokShopCategory} (hmem : category ∈ categories)
    (h : ¬ ∃ n, Chain categories category n) (hid : category.id ≠ "0") : ∀ fuel,
      (ancestors categories fuel category.id).length = fuel ∧
        ∀ id ∈ ancestors categories fuel category.id, id ∈ categories.map (·.id) := by
  intro fuel
  induction fuel generalizing category with
  | zero => simp [ancestors]
  | succ fuel ih =>
    have hchild : category.parentId ≠ "0" := by
      intro hroot
      exact h ⟨1, Chain.root hmem hroot⟩
    have hparent := horphan category hmem
    simp only [orphan, ne_eq, hchild, not_false_eq_true, decide_true, Bool.true_and,
      Option.isNone_eq_false_iff] at hparent
    obtain ⟨parent, hget⟩ := Option.isSome_iff_exists.1 hparent
    obtain ⟨hparentMem, hparentId⟩ := mem_of_byId hget
    have hunrooted : ¬ ∃ n, Chain categories parent n := by
      rintro ⟨n, hchain⟩
      exact h ⟨n + 1, Chain.child hmem hchild hparentId hchain⟩
    obtain ⟨hlength, hin⟩ := ih hparentMem hunrooted (by rwa [hparentId])
    rw [ancestors_of_mem hids hmem hid, ← hparentId]
    refine ⟨by rw [List.length_cons, hlength], ?_⟩
    intro id hmem'
    rcases List.mem_cons.1 hmem' with rfl | hmem'
    · exact List.mem_map_of_mem hmem
    · exact hin id hmem'

theorem any_repeats_iff (hids : (categories.map (·.id)).Nodup)
    (horphan : ∀ category ∈ categories, orphan categories category = false) :
    categories.any (fun c => !(ancestors categories (categories.length + 1) c.id).Nodup) = false ↔
      Rooted categories := by
  rw [List.any_eq_false]
  constructor
  · intro h
    by_contra hnot
    unfold Rooted at hnot
    simp only [not_forall] at hnot
    -- of a category without a chain the parent has none either, and it is not the root marker
    obtain ⟨category, hmem, hcategory⟩ := hnot
    have hchild : category.parentId ≠ "0" := by
      intro hroot
      exact hcategory ⟨1, Chain.root hmem hroot⟩
    have hparent := horphan category hmem
    simp only [orphan, ne_eq, hchild, not_false_eq_true, decide_true, Bool.true_and,
      Option.isNone_eq_false_iff] at hparent
    obtain ⟨parent, hget⟩ := Option.isSome_iff_exists.1 hparent
    obtain ⟨hparentMem, hparentId⟩ := mem_of_byId hget
    have hunrooted : ¬ ∃ n, Chain categories parent n := by
      rintro ⟨n, hchain⟩
      exact hcategory ⟨n + 1, Chain.child hmem hchild hparentId hchain⟩
    obtain ⟨hlength, hin⟩ := ancestors_of_unrooted hids horphan hparentMem hunrooted
      (by rwa [hparentId]) (categories.length + 1)
    have hnodup : (ancestors categories (categories.length + 1) parent.id).Nodup := by
      simpa using h parent hparentMem
    have hle := (hnodup.subperm hin).length_le
    rw [hlength, List.length_map] at hle
    omega
  · intro h category hmem
    obtain ⟨n, hchain⟩ := h category hmem
    simp [(nodup_ancestors hids hchain (categories.length + 1)).1]

theorem isNone_byId (id : String) :
    (byId categories id).isNone = !(categories.map (·.id)).contains id := by
  unfold byId
  rw [Bool.eq_iff_iff, Option.isNone_iff_eq_none, List.find?_eq_none, Bool.not_eq_true',
    ← Bool.not_eq_true, List.contains_iff_mem, List.mem_map]
  simp only [List.mem_reverse, decide_eq_true_eq, not_exists, not_and]

/-- The checks of the programs give what the loops give, with the same errors. -/
theorem validateCategories_eq (categories : List TikTokShopCategory) :
    validateCategories categories = checkHierarchy categories := by
  unfold validateCategories checkHierarchy
  simp only [ne_eq, nodup_iff_length]
  by_cases hempty : categories = []
  · rw [if_pos hempty, if_pos hempty]
  rw [if_neg hempty, if_neg hempty]
  by_cases hids : (categories.map (·.id)).Nodup
  · rw [if_neg (not_not.2 hids), if_neg (not_not.2 hids)]
    have hsame : categories.any (fun c => decide (c.parentId ≠ "0") &&
        !(categories.map (·.id)).contains c.parentId) = categories.any (orphan categories) := by
      unfold orphan
      simp only [isNone_byId]
    rw [hsame]
    cases horphan : categories.any (orphan categories) with
    | true => rw [if_pos rfl, if_pos rfl]
    | false =>
      simp only [Bool.false_eq_true, if_false]
      have hnone : ∀ category ∈ categories, orphan categories category = false := by
        simpa using horphan
      have hwalks := forM_or_error (fun category hmem =>
        walk_or_cyclic hnone [category.id] hmem)
      have hiff := (any_repeats_iff hids hnone).trans (walks_iff hids).symm
      rcases hwalks with hok | herror
      · rw [hok, hiff.2 hok, if_neg (by simp)]
      · have hrepeats : categories.any
            (fun c => !(ancestors categories (categories.length + 1) c.id).Nodup) = true := by
          rw [← Bool.not_eq_false, hiff, herror]
          simp
        rw [herror, if_pos hrepeats]
  · rw [if_pos hids, if_pos hids]

/-! ## What the checks accept -/

/-- The checks accept what is a hierarchy and not empty, and give each category its depth there. -/
theorem the_checks_accept_hierarchies (categories : List TikTokShopCategory) :
    (checkHierarchy categories = .ok () ↔
      categories ≠ [] ∧ (categories.map (·.id)).Nodup ∧ Rooted categories) ∧
    (checkHierarchy categories = .ok () →
      (∀ category n, Chain categories category n → levelOf categories category.id = n) ∧
      ∀ child ∈ categories, child.parentId ≠ "0" → ∃ parent ∈ categories,
        parent.id = child.parentId ∧
          levelOf categories child.id = levelOf categories parent.id + 1) := by
  refine ⟨checkHierarchy_ok_iff, ?_⟩
  intro hok
  obtain ⟨-, hids, hrooted⟩ := checkHierarchy_ok_iff.1 hok
  refine ⟨fun category n hchain => levelOf_of_chain hids hchain, ?_⟩
  intro child hmem hchild
  obtain ⟨n, hchain⟩ := hrooted child hmem
  have hlevel := levelOf_of_chain hids hchain
  cases hchain with
  | root _ hroot => exact absurd hroot hchild
  | @child _ parent length _ _ hparent hchain =>
    refine ⟨parent, hchain.mem, hparent, ?_⟩
    rw [hlevel, levelOf_of_chain hids hchain]

/-- The empty list has neither a repeated id nor a category without a chain, and is refused. -/
theorem the_empty_list_is_refused :
    ¬ (checkHierarchy [] = .ok () ↔
      (([] : List TikTokShopCategory).map (·.id)).Nodup ∧ Rooted []) := by
  intro h
  have hok : checkHierarchy [] = .ok () := by
    apply h.2
    refine ⟨List.nodup_nil, ?_⟩
    intro category hmem
    cases hmem
  cases hok

end Checks

end tiktok_outreach.category_hierarchy
