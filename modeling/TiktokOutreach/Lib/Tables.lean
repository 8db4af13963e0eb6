-- Keyed tables, as a relational store keeps them: a list of rows under a
-- primary key that no two rows share. Every write is described by what `get`
-- gives after it, so a proof about stored rows never looks at the list.
import Mathlib.Tactic

namespace tables

structure Table (κ α : Type) where
  rows : List (κ × α)
  nodup : (rows.map Prod.fst).Nodup

namespace Table

variable {κ α : Type}

def empty : Table κ α := ⟨[], List.nodup_nil⟩

/-- The rows under a condition, in the order of their creation. -/
def findMany (t : Table κ α) (p : κ → α → Bool) : List (κ × α) :=
  t.rows.filter (fun r => p r.1 r.2)

def any (t : Table κ α) (p : κ → α → Bool) : Bool := t.rows.any (fun r => p r.1 r.2)

def count (t : Table κ α) (p : κ → α → Bool) : Nat := (t.findMany p).length

def updateMany (t : Table κ α) (p : κ → α → Bool) (f : α → α) : Table κ α where
  rows := t.rows.map (fun r => (r.1, if p r.1 r.2 then f r.2 else r.2))
  nodup := by
    rw [List.map_map]
    exact t.nodup

def deleteMany (t : Table κ α) (p : κ → α → Bool) : Table κ α where
  rows := t.rows.filter (fun r => ¬ p r.1 r.2)
  nodup := t.nodup.sublist (List.filter_sublist.map _)

/-- The sum of a column over the rows whose keys meet `p`. -/
def sum (t : Table κ α) (p : κ → Bool) (f : α → Int) : Int :=
  (t.rows.map (fun r => if p r.1 then f r.2 else 0)).sum

@[simp] theorem sum_empty (p : κ → Bool) (f : α → Int) : (empty : Table κ α).sum p f = 0 := rfl

/-- An update that keeps the column keeps its sums. -/
theorem sum_updateMany (t : Table κ α) (q : κ → α → Bool) {g : α → α} (p : κ → Bool) {f : α → Int}
    (hg : ∀ a, f (g a) = f a) : (t.updateMany q g).sum p f = t.sum p f := by
  unfold sum updateMany
  rw [List.map_map]
  congr 1
  apply List.map_congr_left
  intro r _
  have hf : f (if q r.1 r.2 then g r.2 else r.2) = f r.2 := by
    split
    · exact hg r.2
    · rfl
  simp [hf]

/-- A column of the rows that are found, after an update that keeps it and the condition. -/
theorem map_findMany_updateMany {β : Type} (t : Table κ α) (q : κ → α → Bool) {g : α → α}
    {p : κ → α → Bool} {f : α → β} (hp : ∀ k a, p k (g a) = p k a) (hf : ∀ a, f (g a) = f a) :
    ((t.updateMany q g).findMany p).map (fun r => f r.2) =
      (t.findMany p).map (fun r => f r.2) := by
  unfold findMany updateMany
  dsimp only
  induction t.rows with
  | nil => rfl
  | cons r rows ih =>
    have hkeep : p r.1 (if q r.1 r.2 then g r.2 else r.2) = p r.1 r.2 := by
      split
      · exact hp r.1 r.2
      · rfl
    have hcolumn : f (if q r.1 r.2 then g r.2 else r.2) = f r.2 := by
      split
      · exact hf r.2
      · rfl
    by_cases hfound : p r.1 r.2 = true
    · simp [hkeep, hfound, hcolumn, ih]
    · simp [hkeep, hfound, ih]

section Keys

variable [DecidableEq κ]

def get (t : Table κ α) (k : κ) : Option α :=
  (t.rows.find? (fun r => r.1 = k)).map Prod.snd

/-- The row of a key is written over, or added when there is none. -/
def set (t : Table κ α) (k : κ) (a : α) : Table κ α :=
  if h : k ∈ t.rows.map Prod.fst then t.updateMany (fun k' _ => k' = k) (fun _ => a)
  else ⟨t.rows ++ [(k, a)], by
    rw [List.map_append, List.nodup_append]
    refine ⟨t.nodup, by simp, ?_⟩
    intro x hx y hy hxy
    simp only [List.map_cons, List.map_nil, List.mem_singleton] at hy
    rw [← hy, ← hxy] at h
    exact h hx⟩

/-! ## What the list holds and what `get` gives -/

theorem mem_rows_iff (t : Table κ α) (k : κ) (a : α) : (k, a) ∈ t.rows ↔ t.get k = some a := by
  constructor
  · intro h
    unfold get
    cases hf : t.rows.find? (fun r => r.1 = k) with
    | none =>
      have := List.find?_eq_none.1 hf (k, a) h
      simp at this
    | some r =>
      have hk : r.1 = k := by simpa using List.find?_some hf
      have hr : r ∈ t.rows := List.mem_of_find?_eq_some hf
      have : r = (k, a) := List.inj_on_of_nodup_map t.nodup hr h hk
      simp [this]
  · intro h
    unfold get at h
    obtain ⟨r, hf, rfl⟩ := Option.map_eq_some_iff.1 h
    have hk : r.1 = k := by simpa using List.find?_some hf
    rw [← hk]
    exact List.mem_of_find?_eq_some hf

theorem mem_keys_iff (t : Table κ α) (k : κ) :
    k ∈ t.rows.map Prod.fst ↔ ∃ a, t.get k = some a := by
  constructor
  · intro h
    obtain ⟨⟨k', a⟩, hr, rfl⟩ := List.mem_map.1 h
    exact ⟨a, (t.mem_rows_iff k' a).1 hr⟩
  · rintro ⟨a, ha⟩
    exact List.mem_map.2 ⟨(k, a), (t.mem_rows_iff k a).2 ha, rfl⟩

theorem get_ext {t : Table κ α} {k : κ} {o : Option α}
    (h : ∀ a, (k, a) ∈ t.rows ↔ o = some a) : t.get k = o := by
  apply Option.ext
  intro a
  rw [← mem_rows_iff, h]

/-! ## What each write does -/

@[simp] theorem get_empty (k : κ) : (empty : Table κ α).get k = none := rfl

@[simp] theorem get_updateMany (t : Table κ α) (p : κ → α → Bool) (f : α → α) (k : κ) :
    (t.updateMany p f).get k = (t.get k).map (fun a => if p k a then f a else a) := by
  apply get_ext
  intro b
  unfold updateMany
  simp only [List.mem_map, Prod.mk.injEq, Prod.exists, Option.map_eq_some_iff]
  constructor
  · rintro ⟨k', a, hr, rfl, rfl⟩
    exact ⟨a, (mem_rows_iff t k' a).1 hr, rfl⟩
  · rintro ⟨a, ha, rfl⟩
    exact ⟨k, a, (mem_rows_iff t k a).2 ha, rfl, rfl⟩

/-- A column `g` after an update. -/
theorem map_get_updateMany {β : Type} (t : Table κ α) (p : κ → α → Bool) (f : α → α) (g : α → β)
    (k : κ) : ((t.updateMany p f).get k).map g =
      (t.get k).map (fun a => if p k a then g (f a) else g a) := by
  rw [get_updateMany, Option.map_map]
  congr 1
  funext a
  exact apply_ite g _ _ _

/-- A column `g` after the update of the row of one key. -/
theorem map_get_updateOne {β : Type} (t : Table κ α) (k : κ) (f : α → α) (g : α → β) (k' : κ) :
    ((t.updateMany (fun i _ => i = k) f).get k').map g =
      if k' = k then (t.get k').map (fun a => g (f a)) else (t.get k').map g := by
  rw [get_updateMany, Option.map_map]
  by_cases hk : k' = k
  · simp [hk, Function.comp_def]
  · simp [hk, Function.comp_def]

@[simp] theorem get_deleteMany (t : Table κ α) (p : κ → α → Bool) (k : κ) :
    (t.deleteMany p).get k = (t.get k).filter (fun a => ¬ p k a) := by
  apply get_ext
  intro a
  unfold deleteMany
  rw [List.mem_filter, mem_rows_iff, Option.filter_eq_some_iff]

/-- The delete of the rows of some keys. -/
theorem get_deleteKeys (t : Table κ α) (p : κ → Bool) (k : κ) :
    (t.deleteMany (fun k' _ => p k')).get k = if p k then none else t.get k := by
  rw [get_deleteMany]
  cases t.get k with
  | none => simp
  | some a => cases p k <;> simp

@[simp] theorem get_set (t : Table κ α) (k : κ) (a : α) (k' : κ) :
    (t.set k a).get k' = if k' = k then some a else t.get k' := by
  unfold set
  split
  · rename_i h
    obtain ⟨b, hb⟩ := (mem_keys_iff t k).1 h
    rw [get_updateMany]
    by_cases hk : k' = k
    · subst hk
      simp [hb]
    · simp [hk]
  · rename_i h
    apply get_ext
    intro b
    have hmem : (k', b) ∈ t.rows ++ [(k, a)] ↔ t.get k' = some b ∨ (k' = k ∧ b = a) := by
      simp [mem_rows_iff]
    rw [hmem]
    by_cases hk : k' = k
    · subst hk
      have hnone : t.get k' = none := by
        cases hg : t.get k' with
        | none => rfl
        | some c => exact absurd ((mem_keys_iff t k').2 ⟨c, hg⟩) h
      simp [hnone, eq_comm]
    · simp [hk]

/-! ## Tables of lists -/

/-- The table that the entries of a list make when they are written one after another. -/
def ofList (l : List (κ × α)) : Table κ α := l.foldl (fun t r => t.set r.1 r.2) empty

theorem get_foldl_set (l : List (κ × α)) (t : Table κ α) (k : κ) :
    (l.foldl (fun t r => t.set r.1 r.2) t).get k = ((ofList l).get k).or (t.get k) := by
  unfold ofList
  induction l using List.reverseRecOn with
  | nil => rfl
  | append_singleton l r ih =>
    simp only [List.foldl_append, List.foldl_cons, List.foldl_nil, get_set]
    by_cases hk : k = r.1
    · simp [hk]
    · simp [hk, ih]

theorem get_ofList_append (l l' : List (κ × α)) (k : κ) :
    (ofList (l ++ l')).get k = ((ofList l').get k).or ((ofList l).get k) := by
  have happend : ofList (l ++ l') = l'.foldl (fun t r => t.set r.1 r.2) (ofList l) :=
    List.foldl_append
  rw [happend, get_foldl_set]

theorem get_ofList_cons (r : κ × α) (l : List (κ × α)) (k : κ) :
    (ofList (r :: l)).get k = ((ofList l).get k).or (if k = r.1 then some r.2 else none) := by
  rw [← List.singleton_append, get_ofList_append]
  simp [ofList]

theorem mem_of_get_ofList {l : List (κ × α)} {k : κ} {a : α} (h : (ofList l).get k = some a) :
    (k, a) ∈ l := by
  induction l with
  | nil => cases h
  | cons r l ih =>
    rw [get_ofList_cons, Option.or_eq_some_iff] at h
    rcases h with h | ⟨_, h⟩
    · exact List.mem_cons_of_mem _ (ih h)
    · by_cases hk : k = r.1
      · rw [if_pos hk, Option.some.injEq] at h
        rw [hk, ← h]
        exact List.mem_cons_self
      · rw [if_neg hk] at h
        cases h

theorem get_ofList_of_nodup {l : List (κ × α)} (hl : (l.map Prod.fst).Nodup) {k : κ} {a : α} :
    (ofList l).get k = some a ↔ (k, a) ∈ l := by
  refine ⟨mem_of_get_ofList, ?_⟩
  induction l with
  | nil => simp
  | cons r l ih =>
    rw [List.map_cons, List.nodup_cons] at hl
    intro h
    rw [get_ofList_cons]
    rcases List.mem_cons.1 h with rfl | hmem
    · have hnone : (ofList l).get k = none := by
        by_contra hsome
        obtain ⟨b, hb⟩ := Option.ne_none_iff_exists'.1 hsome
        exact hl.1 (List.mem_map.2 ⟨_, mem_of_get_ofList hb, rfl⟩)
      simp [hnone]
    · rw [ih hl.2 hmem]
      rfl

theorem mem_keys_ofList (l : List (κ × α)) (k : κ) :
    k ∈ (ofList l).rows.map Prod.fst ↔ k ∈ l.map Prod.fst := by
  rw [mem_keys_iff]
  constructor
  · rintro ⟨a, ha⟩
    exact List.mem_map.2 ⟨(k, a), mem_of_get_ofList ha, rfl⟩
  · intro h
    induction l with
    | nil => cases h
    | cons r l ih =>
      rw [get_ofList_cons]
      cases hget : (ofList l).get k with
      | some a => exact ⟨a, rfl⟩
      | none =>
        rcases List.mem_cons.1 h with hk | hrest
        · exact ⟨r.2, by simp [hk]⟩
        · obtain ⟨a, ha⟩ := ih hrest
          rw [hget] at ha
          cases ha

/-- Of the entries with one key the last one counts. -/
theorem get_ofList_eq_find? (l : List (κ × α)) (k : κ) :
    (ofList l).get k = (l.reverse.find? (fun r => r.1 = k)).map Prod.snd := by
  induction l with
  | nil => rfl
  | cons r l ih =>
    rw [get_ofList_cons, ih, List.reverse_cons, List.find?_append]
    cases l.reverse.find? (fun r => r.1 = k) with
    | some found => simp
    | none =>
      by_cases hk : r.1 = k
      · simp [hk]
      · have hk' : ¬ k = r.1 := fun h => hk h.symm
        simp [hk, hk']

/-- A delete that finds nothing. -/
theorem deleteMany_of_none {t : Table κ α} {p : κ → α → Bool}
    (h : ∀ k a, t.get k = some a → p k a = false) : t.deleteMany p = t := by
  have hrows : (t.deleteMany p).rows = t.rows := by
    unfold deleteMany
    apply List.filter_eq_self.2
    intro r hr
    simp [h r.1 r.2 ((mem_rows_iff t r.1 r.2).1 hr)]
  cases t
  simp only [deleteMany, Table.mk.injEq] at hrows ⊢
  exact hrows

/-- The row of one key, found by a search. -/
theorem findMany_key (t : Table κ α) (k : κ) :
    t.findMany (fun k' _ => k' = k) = (t.get k).toList.map (fun a => (k, a)) := by
  have hnodup := t.nodup
  unfold findMany get
  generalize t.rows = rows at hnodup
  induction rows with
  | nil => rfl
  | cons r rows ih =>
    rw [List.map_cons, List.nodup_cons] at hnodup
    by_cases hk : r.1 = k
    · -- no other row has the key
      subst hk
      have hothers : rows.filter (fun r' => decide (r'.1 = r.1)) = [] := by
        rw [List.filter_eq_nil_iff]
        intro r' hr' hkey
        rw [decide_eq_true_eq] at hkey
        exact hnodup.1 (List.mem_map.2 ⟨r', hr', hkey⟩)
      simp [hothers]
    · simpa [hk] using ih hnodup.2

/-! ## Sums over a column -/

theorem sum_eq_zero {t : Table κ α} {f : α → Int} (h : ∀ k a, t.get k = some a → f a = 0)
    (p : κ → Bool) : t.sum p f = 0 := by
  unfold sum
  apply List.sum_eq_zero
  intro n hn
  obtain ⟨⟨k, a⟩, hr, rfl⟩ := List.mem_map.1 hn
  simp [h k a ((mem_rows_iff t k a).1 hr)]

/-- The update of one row adds what the row gains. -/
theorem sum_updateOne {t : Table κ α} {k : κ} {a : α} (h : t.get k = some a) (g : α → α)
    (p : κ → Bool) (f : α → Int) :
    (t.updateMany (fun k' _ => k' = k) g).sum p f = t.sum p f + if p k then f (g a) - f a else 0 := by
  have hmem : (k, a) ∈ t.rows := (mem_rows_iff t k a).2 h
  have hnodup := t.nodup
  unfold sum updateMany
  rw [List.map_map]
  generalize t.rows = rows at hmem hnodup
  induction rows with
  | nil => cases hmem
  | cons r rows ih =>
    rw [List.map_cons, List.nodup_cons] at hnodup
    rcases List.mem_cons.1 hmem with hr | hrest
    · -- the row is the first one, and no other has its key
      have hothers : rows.map ((fun r => if p r.1 then f r.2 else 0) ∘
          (fun r => (r.1, if decide (r.1 = k) = true then g r.2 else r.2))) =
          rows.map (fun r => if p r.1 then f r.2 else 0) := by
        apply List.map_congr_left
        intro r' hr'
        have hne : r'.1 ≠ k := by
          rintro rfl
          exact hnodup.1 (List.mem_map.2 ⟨r', hr', by rw [← hr]⟩)
        simp [hne]
      rw [List.map_cons, List.sum_cons, List.map_cons, List.sum_cons, hothers, ← hr]
      by_cases hp : p k = true
      · simp [hp]
        omega
      · simp [hp]
    · have hne : r.1 ≠ k := by
        rintro rfl
        exact hnodup.1 (List.mem_map.2 ⟨_, hrest, rfl⟩)
      have := ih hrest hnodup.2
      rw [List.map_cons, List.sum_cons, List.map_cons, List.sum_cons, this]
      simp [hne]
      omega

/-- A new row adds its own value. -/
theorem sum_set_new {t : Table κ α} {k : κ} (h : t.get k = none) (a : α) (p : κ → Bool)
    (f : α → Int) : (t.set k a).sum p f = t.sum p f + if p k then f a else 0 := by
  have hk : k ∉ t.rows.map Prod.fst := by
    rw [mem_keys_iff]
    rintro ⟨b, hb⟩
    rw [h] at hb
    cases hb
  unfold sum set
  rw [dif_neg hk]
  simp

/-- A new row is counted when it meets the condition. -/
theorem count_set_new {t : Table κ α} {k : κ} (h : t.get k = none) (a : α) (p : κ → α → Bool) :
    (t.set k a).count p = t.count p + if p k a then 1 else 0 := by
  have hk : k ∉ t.rows.map Prod.fst := by
    rw [mem_keys_iff]
    rintro ⟨b, hb⟩
    rw [h] at hb
    cases hb
  unfold count findMany set
  rw [dif_neg hk]
  by_cases hp : p k a = true <;> simp [hp]

/-! ## What a read finds -/

/-- A new row is found behind the others. -/
theorem findMany_set_new {t : Table κ α} {k : κ} (h : t.get k = none) (a : α) (p : κ → α → Bool) :
    (t.set k a).findMany p = t.findMany p ++ if p k a then [(k, a)] else [] := by
  have hk : k ∉ t.rows.map Prod.fst := by
    rw [mem_keys_iff]
    rintro ⟨b, hb⟩
    rw [h] at hb
    cases hb
  unfold findMany set
  rw [dif_neg hk, List.filter_append]
  by_cases hp : p k a = true
  · simp [hp]
  · simp [hp]

theorem mem_findMany (t : Table κ α) (p : κ → α → Bool) (k : κ) (a : α) :
    (k, a) ∈ t.findMany p ↔ t.get k = some a ∧ p k a = true := by
  unfold findMany
  rw [List.mem_filter, mem_rows_iff]

theorem mem_keys_findMany (t : Table κ α) (p : κ → α → Bool) (k : κ) :
    k ∈ (t.findMany p).map Prod.fst ↔ (t.get k).any (p k) = true := by
  rw [List.mem_map, Option.any_eq_true]
  constructor
  · rintro ⟨⟨k', a⟩, h, rfl⟩
    exact ⟨a, (mem_findMany t p k' a).1 h⟩
  · rintro ⟨a, h⟩
    exact ⟨(k, a), (mem_findMany t p k a).2 h, rfl⟩

/-- A condition on one key counts the row of the key. -/
theorem count_key {t : Table κ α} {k : κ} {a : α} (ha : t.get k = some a)
    {p : α → Bool} (hp : p a = true) : t.count (fun k' b => k' = k && p b) = 1 := by
  have hone : (t.findMany (fun k' b => k' = k && p b)).Perm [(k, a)] := by
    refine (List.perm_ext_iff_of_nodup ?_ (List.nodup_singleton _)).2 (fun r => ?_)
    · exact t.nodup.of_map.filter _
    · rw [mem_findMany, List.mem_singleton, Bool.and_eq_true, decide_eq_true_eq]
      constructor
      · rintro ⟨hr, rfl, -⟩
        rw [ha, Option.some.injEq] at hr
        exact Prod.ext rfl hr.symm
      · rintro rfl
        exact ⟨ha, rfl, hp⟩
  exact hone.length_eq

theorem mem_of_count_ne_zero {t : Table κ α} {p : κ → α → Bool} (h : t.count p ≠ 0) :
    ∃ k a, t.get k = some a ∧ p k a = true := by
  unfold count at h
  obtain ⟨⟨k, a⟩, hr⟩ := List.exists_mem_of_length_pos (Nat.pos_of_ne_zero h)
  exact ⟨k, a, (mem_findMany t p k a).1 hr⟩

theorem of_count_eq_zero {t : Table κ α} {p : κ → α → Bool} (h : t.count p = 0) {k : κ} {a : α}
    (ha : t.get k = some a) : p k a = false := by
  cases hp : p k a with
  | false => rfl
  | true =>
    have hmem := (mem_findMany t p k a).2 ⟨ha, hp⟩
    rw [List.eq_nil_of_length_eq_zero h] at hmem
    cases hmem

theorem any_iff (t : Table κ α) (p : κ → α → Bool) :
    t.any p = true ↔ ∃ k a, t.get k = some a ∧ p k a = true := by
  unfold any
  rw [List.any_eq_true]
  constructor
  · rintro ⟨⟨k, a⟩, hr, hp⟩
    exact ⟨k, a, (mem_rows_iff t k a).1 hr, hp⟩
  · rintro ⟨k, a, ha, hp⟩
    exact ⟨(k, a), (mem_rows_iff t k a).2 ha, hp⟩

theorem any_eq_false_iff (t : Table κ α) (p : κ → α → Bool) :
    t.any p = false ↔ ∀ k a, t.get k = some a → p k a = false := by
  rw [← Bool.not_eq_true, any_iff]
  constructor
  · intro h k a ha
    cases hp : p k a with
    | false => rfl
    | true => exact absurd ⟨k, a, ha, hp⟩ h
  · rintro h ⟨k, a, ha, hp⟩
    rw [h k a ha] at hp
    cases hp

end Keys

end Table

end tables
