-- The first element of each key in a list, in the order of the list, and what is kept of them when
-- there is room for a number of them only.
import Mathlib.Tactic

namespace first_keys

variable {α κ : Type} [DecidableEq κ] (key : α → κ)

/-- The element is kept when its key is new. -/
def add (kept : List α) (a : α) : List α :=
  if kept.any (fun k => key k = key a) then kept else kept ++ [a]

def firsts (l : List α) : List α := l.foldl (add key) []

/-- The element is kept when its key is new and there is room. -/
def addWithin (bound : Nat) (kept : List α) (a : α) : List α :=
  if !kept.any (fun k => key k = key a) && kept.length < bound then kept ++ [a] else kept

section Room

variable {key}

theorem add_known {kept : List α} {a : α} (h : ∃ k ∈ kept, key k = key a) : add key kept a = kept := by
  unfold add
  rw [if_pos (List.any_eq_true.2 ?_)]
  obtain ⟨k, hk, hkey⟩ := h
  exact ⟨k, hk, decide_eq_true hkey⟩

theorem add_new {kept : List α} {a : α} (h : ¬ ∃ k ∈ kept, key k = key a) :
    add key kept a = kept ++ [a] := by
  unfold add
  rw [if_neg (fun hany => h ?_)]
  obtain ⟨k, hk, hkey⟩ := List.any_eq_true.1 hany
  exact ⟨k, hk, of_decide_eq_true hkey⟩

/-- What is kept within a bound is what is kept without one, up to the bound. -/
theorem addWithin_take (bound : Nat) (kept : List α) (a : α) :
    addWithin key bound (kept.take bound) a = (add key kept a).take bound := by
  by_cases hroom : kept.length < bound
  · rw [List.take_of_length_le hroom.le]
    unfold addWithin
    by_cases hknown : ∃ k ∈ kept, key k = key a
    · have hany : kept.any (fun k => key k = key a) = true := by simpa using hknown
      rw [add_known hknown, if_neg (by simp [hany]), List.take_of_length_le hroom.le]
    · have hany : kept.any (fun k => key k = key a) = false := by simpa using hknown
      rw [add_new hknown, if_pos (by simp [hany, hroom]), List.take_of_length_le]
      rw [List.length_append, List.length_singleton]
      exact hroom
  · rw [not_lt] at hroom
    have hfull : (kept.take bound).length = bound := List.length_take_of_le hroom
    unfold addWithin
    rw [if_neg (by simp [hfull])]
    by_cases hknown : ∃ k ∈ kept, key k = key a
    · rw [add_known hknown]
    · rw [add_new hknown, List.take_append_of_le_length hroom]

theorem foldl_addWithin_take (bound : Nat) (l kept : List α) :
    l.foldl (addWithin key bound) (kept.take bound) = (l.foldl (add key) kept).take bound := by
  induction l generalizing kept with
  | nil => rfl
  | cons a l ih => rw [List.foldl_cons, List.foldl_cons, addWithin_take, ih]

/-- Every key that was kept is kept on. -/
theorem mem_foldl_add {l kept : List α} {a : α} (h : a ∈ kept) : a ∈ l.foldl (add key) kept := by
  induction l generalizing kept with
  | nil => exact h
  | cons b l ih =>
    apply ih
    by_cases hknown : ∃ k ∈ kept, key k = key b
    · rw [add_known hknown]
      exact h
    · rw [add_new hknown]
      exact List.mem_append_left _ h

/-- Every key of the list is kept. -/
theorem exists_mem_foldl_add {l kept : List α} {a : α} (h : a ∈ l) :
    ∃ k ∈ l.foldl (add key) kept, key k = key a := by
  induction l generalizing kept with
  | nil => cases h
  | cons b l ih =>
    rw [List.foldl_cons]
    rcases List.mem_cons.1 h with rfl | hrest
    · by_cases hknown : ∃ k ∈ kept, key k = key a
      · obtain ⟨k, hk, hkey⟩ := hknown
        have hadd : k ∈ add key kept a := by
          rw [add_known ⟨k, hk, hkey⟩]
          exact hk
        exact ⟨k, mem_foldl_add hadd, hkey⟩
      · have hadd : a ∈ add key kept a := by
          rw [add_new hknown]
          exact List.mem_append_right _ List.mem_cons_self
        exact ⟨a, mem_foldl_add hadd, rfl⟩
    · exact ih hrest

theorem nodup_foldl_add {l kept : List α} (h : (kept.map key).Nodup) :
    ((l.foldl (add key) kept).map key).Nodup := by
  induction l generalizing kept with
  | nil => exact h
  | cons a l ih =>
    apply ih
    by_cases hknown : ∃ k ∈ kept, key k = key a
    · rw [add_known hknown]
      exact h
    · rw [add_new hknown, List.map_append, List.map_cons, List.map_nil]
      refine List.nodup_append.2 ⟨h, List.nodup_singleton _, ?_⟩
      rintro k hk k' hk' rfl
      rw [List.mem_singleton] at hk'
      obtain ⟨b, hb, hkey⟩ := List.mem_map.1 hk
      exact hknown ⟨b, hb, hkey.trans hk'⟩

theorem mem_of_mem_foldl_add {l kept : List α} {a : α} (h : a ∈ l.foldl (add key) kept) :
    a ∈ kept ∨ a ∈ l := by
  induction l generalizing kept with
  | nil => exact .inl h
  | cons b l ih =>
    rcases ih h with hadd | hrest
    · by_cases hknown : ∃ k ∈ kept, key k = key b
      · rw [add_known hknown] at hadd
        exact .inl hadd
      · rw [add_new hknown, List.mem_append, List.mem_singleton] at hadd
        rcases hadd with hkept | rfl
        · exact .inl hkept
        · exact .inr List.mem_cons_self
    · exact .inr (List.mem_cons_of_mem _ hrest)

theorem exists_mem_firsts {l : List α} {a : α} (h : a ∈ l) : ∃ k ∈ firsts key l, key k = key a :=
  exists_mem_foldl_add h

theorem nodup_firsts (l : List α) : ((firsts key l).map key).Nodup :=
  nodup_foldl_add List.nodup_nil

theorem mem_of_mem_firsts {l : List α} {a : α} (h : a ∈ firsts key l) : a ∈ l :=
  (mem_of_mem_foldl_add h).resolve_left List.not_mem_nil

theorem firsts_append (l l' : List α) : firsts key (l ++ l') = l'.foldl (add key) (firsts key l) :=
  List.foldl_append

end Room

end first_keys
