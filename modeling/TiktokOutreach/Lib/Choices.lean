-- The choice of a least element: the first of a list that is sorted by a key.
import Mathlib.Data.List.Sort
import Mathlib.Data.List.Lex

namespace choices

variable {α β : Type} [LinearOrder β]

/-- Whether `chosen` is an element with the least key. -/
structure Least (key : α → β) (l : List α) (chosen : α) : Prop where
  mem : chosen ∈ l
  le : ∀ other ∈ l, key chosen ≤ key other

section Sorted

variable {key : α → β} {r : α → α → Prop} [DecidableRel r] (hr : ∀ a b, r a b ↔ key a ≤ key b)
include hr

/-- The first of a list that is sorted by a key is a least one. -/
theorem least_of_head? {l : List α} {chosen : α} (h : (l.insertionSort r).head? = some chosen) :
    Least key l chosen := by
  have htotal : Std.Total r := by
    constructor
    intro a b
    rw [hr, hr]
    exact le_total _ _
  have htrans : IsTrans α r := by
    constructor
    intro a b c hab hbc
    rw [hr] at hab hbc ⊢
    exact hab.trans hbc
  have hsorted := List.pairwise_insertionSort r l
  obtain ⟨rest, hrest⟩ := List.head?_eq_some_iff.1 h
  rw [hrest, List.pairwise_cons] at hsorted
  refine ⟨(List.mem_insertionSort r).1 (List.mem_of_mem_head? h), ?_⟩
  intro other hother
  rw [← List.mem_insertionSort r, hrest, List.mem_cons] at hother
  rcases hother with rfl | hother
  · exact le_rfl
  · exact (hr _ _).1 (hsorted.1 other hother)

end Sorted

variable {key : α → β} {l m : List α} {a b : α}

/-- Two least elements of the same elements have one key. -/
theorem Least.key_eq (ha : Least key l a) (hb : Least key m b) (hlm : ∀ x, x ∈ l ↔ x ∈ m) :
    key a = key b :=
  le_antisymm (ha.le b ((hlm b).2 hb.mem)) (hb.le a ((hlm a).1 ha.mem))

/-- Of two lists in lexicographic order, the first elements are in order. -/
theorem head_le_of_le {x y : β} {xs ys : List β} (h : x :: xs ≤ y :: ys) : x ≤ y := by
  rcases h.lt_or_eq with hlt | heq
  · exact List.head_le_of_lt hlt
  · rw [(List.cons.inj heq).1]

/-- The first element of the first list that has one. -/
def firstOf (pools : List (List α)) : Option α :=
  (pools.find? (fun pool => !pool.isEmpty)).bind List.head?

@[simp] theorem firstOf_nil : firstOf ([] : List (List α)) = none := rfl

@[simp] theorem firstOf_nil_cons (pools : List (List α)) : firstOf ([] :: pools) = firstOf pools := by
  simp [firstOf]

@[simp] theorem firstOf_cons_cons (a : α) (pool : List α) (pools : List (List α)) :
    firstOf ((a :: pool) :: pools) = some a := by
  simp [firstOf]

theorem isSome_firstOf {pools : List (List α)} {pool : List α} (hpool : pool ∈ pools)
    (ha : a ∈ pool) : (firstOf pools).isSome := by
  induction pools with
  | nil => cases hpool
  | cons first rest ih =>
    cases first with
    | cons b others => simp
    | nil =>
      rw [firstOf_nil_cons]
      apply ih
      rcases List.mem_cons.1 hpool with rfl | hrest
      · cases ha
      · exact hrest

theorem mem_of_firstOf {pools : List (List α)} (h : firstOf pools = some a) :
    ∃ pool ∈ pools, a ∈ pool := by
  obtain ⟨pool, hpool, hhead⟩ := Option.bind_eq_some_iff.1 h
  exact ⟨pool, List.mem_of_find?_eq_some hpool, List.mem_of_mem_head? hhead⟩

end choices
