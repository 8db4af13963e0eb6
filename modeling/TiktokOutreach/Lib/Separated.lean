-- Texts that are put together from parts with a separator between them. Where
-- the separator is not in the part before it, or not in the part behind it,
-- the parts can be read back.
import Mathlib

namespace separated

section Lists

variable {α : Type*} {c : α} {a a' b b' : List α}

/-- The first separator is where the first part ends. -/
theorem cut_first (ha : c ∉ a) (ha' : c ∉ a') (h : a ++ c :: b = a' ++ c :: b') :
    a = a' ∧ b = b' := by
  induction a generalizing a' with
  | nil =>
    cases a' with
    | nil => exact ⟨rfl, by simpa using h⟩
    | cons x a' =>
      rw [List.nil_append, List.cons_append, List.cons.injEq] at h
      exact absurd (by simp [h.1]) ha'
  | cons x a ih =>
    cases a' with
    | nil =>
      rw [List.nil_append, List.cons_append, List.cons.injEq] at h
      exact absurd (by simp [h.1]) ha
    | cons y a' =>
      rw [List.cons_append, List.cons_append, List.cons.injEq] at h
      obtain ⟨hxy, hrest⟩ := h
      obtain ⟨hparts, hb⟩ := ih (by simp_all) (by simp_all) hrest
      exact ⟨by rw [hxy, hparts], hb⟩

/-- The last separator is where the last part starts. -/
theorem cut_last (hb : c ∉ b) (hb' : c ∉ b') (h : a ++ c :: b = a' ++ c :: b') :
    a = a' ∧ b = b' := by
  have hrev : b.reverse ++ c :: a.reverse = b'.reverse ++ c :: a'.reverse := by
    have := congrArg List.reverse h
    simpa using this
  obtain ⟨h1, h2⟩ := cut_first (by simpa using hb) (by simpa using hb') hrev
  exact ⟨List.reverse_injective h2, List.reverse_injective h1⟩

end Lists

/-- The text does not have the character. -/
def Free (c : Char) (s : String) : Prop := c ∉ s.toList

instance (c : Char) (s : String) : Decidable (Free c s) :=
  inferInstanceAs (Decidable (c ∉ s.toList))

theorem free_repr {c : Char} (h : c.isDigit = false) (n : Nat) : Free c n.repr := by
  unfold Free
  rw [Nat.toList_repr]
  intro hc
  have hdigit := Nat.isDigit_of_mem_toDigits (by decide) (by decide) hc
  rw [h] at hdigit
  cases hdigit

theorem free_append {c : Char} {s t : String} (hs : Free c s) (ht : Free c t) :
    Free c (s ++ t) := by
  unfold Free at *
  simp [hs, ht]

/-- A text of decimal digits. -/
def Decimal (s : String) : Prop := s ≠ "" ∧ ∀ c ∈ s.toList, c.isDigit = true

theorem Decimal.free {s : String} (h : Decimal s) {c : Char} (hc : c.isDigit = false) :
    Free c s := by
  intro hmem
  rw [h.2 c hmem] at hc
  cases hc

/-- Decimal digits have no case. -/
theorem Decimal.toLower {s : String} (h : Decimal s) : s.toLower = s := by
  rw [← String.toList_inj]
  unfold String.toLower
  rw [String.toList_map]
  have hmap : ∀ c ∈ s.toList, c.toLower = id c := by
    intro c hc
    have hdigit := h.2 c hc
    unfold Char.isDigit at hdigit
    unfold Char.toLower
    simp only [Bool.and_eq_true, decide_eq_true_eq] at hdigit
    rw [dif_neg]
    · rfl
    · rintro ⟨h65, _⟩
      have h57 := hdigit.2
      exact absurd (UInt32.le_trans h65 h57) (by decide)
  rw [List.map_congr_left hmap, List.map_id]

end separated
