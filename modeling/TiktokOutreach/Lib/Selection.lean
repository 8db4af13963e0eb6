-- The choice of the first elements of a list in an order. The list is ranked,
-- and the choice is a prefix of the ranking.
import Mathlib.Tactic

namespace selection

variable {α : Type*}

/-! ## The elements of a prefix -/

section Prefix

variable [BEq α] [LawfulBEq α]

/-- Without repetitions, the elements of a prefix single it out. -/
theorem filter_mem_take {l : List α} (h : l.Nodup) (k : Nat) :
    l.filter (fun a => a ∈ l.take k) = l.take k := by
  have hparts : l.take k ++ l.drop k = l := List.take_append_drop k l
  have hnodup : (l.take k ++ l.drop k).Nodup := by
    rw [hparts]
    exact h
  have hfirst : (l.take k).filter (fun a => a ∈ l.take k) = l.take k := by
    rw [List.filter_eq_self]
    intro a ha
    simpa using ha
  have hrest : (l.drop k).filter (fun a => a ∈ l.take k) = [] := by
    rw [List.filter_eq_nil_iff]
    intro a ha hfirst
    have hmem : a ∈ l.take k := by simpa using hfirst
    exact (List.nodup_append.1 hnodup).2.2 a hmem a ha rfl
  have hsplit : l.filter (fun a => a ∈ l.take k) =
      (l.take k ++ l.drop k).filter (fun a => a ∈ l.take k) := by rw [hparts]
  rw [hsplit, List.filter_append, hfirst, hrest, List.append_nil]

end Prefix

/-! ## The ranking -/

section Ranking

variable (r : α → α → Prop) [DecidableRel r]

def ranking (l : List α) : List α := l.insertionSort r

theorem ranking_perm (l : List α) : (ranking r l).Perm l := List.perm_insertionSort r l

theorem mem_ranking {l : List α} {a : α} : a ∈ ranking r l ↔ a ∈ l := (ranking_perm r l).mem_iff

variable [Std.Total r] [IsTrans α r]

theorem ranking_pairwise (l : List α) : (ranking r l).Pairwise r := List.pairwise_insertionSort r l

end Ranking

end selection
