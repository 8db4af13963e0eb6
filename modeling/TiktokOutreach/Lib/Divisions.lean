-- Families of ranges that are divided further and further. A range is halved,
-- its two halves join the family and it stays as a divided one. As long as
-- ranges that meet are nested with the outer one divided, the ranges that are
-- not divided cover no number twice.
import Mathlib.Tactic

namespace divisions

/-- The numbers from `lo` on, up to `hi` when there is one. -/
structure Span where
  lo : Nat
  hi : Option Nat
  deriving DecidableEq, Repr

namespace Span

def Has (s : Span) (n : Nat) : Prop := s.lo ≤ n ∧ ∀ m, s.hi = some m → n ≤ m

def Meets (s t : Span) : Prop := ∃ n, s.Has n ∧ t.Has n

def Inside (s t : Span) : Prop := ∀ n, s.Has n → t.Has n

/-- How many numbers a bounded range has. An unbounded one counts as empty. -/
def width (s : Span) : Nat :=
  match s.hi with
  | some m => m + 1 - s.lo
  | none => 0

theorem has_some {lo hi n : Nat} : (Span.mk lo (some hi)).Has n ↔ lo ≤ n ∧ n ≤ hi := by
  simp [Has]

theorem has_none {lo n : Nat} : (Span.mk lo none).Has n ↔ lo ≤ n := by
  simp [Has]

theorem Meets.symm {s t : Span} (h : s.Meets t) : t.Meets s := by
  obtain ⟨n, hs, ht⟩ := h
  exact ⟨n, ht, hs⟩

theorem Inside.trans {s t u : Span} (h : s.Inside t) (h' : t.Inside u) : s.Inside u :=
  fun n hn => h' n (h n hn)

theorem Meets.of_inside {s t u : Span} (h : s.Meets u) (hin : s.Inside t) : t.Meets u := by
  obtain ⟨n, hs, hu⟩ := h
  exact ⟨n, hin n hs, hu⟩

end Span

/-! ## Halves -/

def lowerHalf (lo hi : Nat) : Span := ⟨lo, some ((lo + hi) / 2)⟩

def upperHalf (lo hi : Nat) : Span := ⟨(lo + hi) / 2 + 1, some hi⟩

section Halves

variable {lo hi : Nat}

/-- The halves of a range of two numbers or more have all its numbers, and each number once. -/
theorem halves_cover (n : Nat) (h : lo < hi) :
    (Span.mk lo (some hi)).Has n ↔ (lowerHalf lo hi).Has n ∨ (upperHalf lo hi).Has n := by
  unfold lowerHalf upperHalf
  rw [Span.has_some, Span.has_some, Span.has_some]
  omega

theorem halves_disjoint : ¬ (lowerHalf lo hi).Meets (upperHalf lo hi) := by
  rintro ⟨n, hl, hu⟩
  unfold lowerHalf at hl
  unfold upperHalf at hu
  rw [Span.has_some] at hl hu
  omega

theorem lowerHalf_inside (h : lo < hi) : (lowerHalf lo hi).Inside ⟨lo, some hi⟩ :=
  fun n hn => (halves_cover n h).2 (Or.inl hn)

theorem upperHalf_inside (h : lo < hi) : (upperHalf lo hi).Inside ⟨lo, some hi⟩ :=
  fun n hn => (halves_cover n h).2 (Or.inr hn)

theorem not_inside_lowerHalf (h : lo < hi) : ¬ (Span.mk lo (some hi)).Inside (lowerHalf lo hi) := by
  intro hin
  have hhi := hin hi (Span.has_some.2 ⟨h.le, le_refl _⟩)
  unfold lowerHalf at hhi
  rw [Span.has_some] at hhi
  omega

theorem not_inside_upperHalf (h : lo < hi) : ¬ (Span.mk lo (some hi)).Inside (upperHalf lo hi) := by
  intro hin
  have hlo := hin lo (Span.has_some.2 ⟨le_refl _, h.le⟩)
  unfold upperHalf at hlo
  rw [Span.has_some] at hlo
  omega

end Halves

/-! ## Families -/

structure Cell where
  span : Span
  divided : Bool
  deriving DecidableEq, Repr

variable {ι : Type*}

/-- Ranges that meet are nested, and the outer one is divided. -/
def Nested (D : ι → Option Cell) : Prop :=
  ∀ i j a b, D i = some a → D j = some b → i ≠ j → a.span.Meets b.span →
    (a.span.Inside b.span ∧ b.divided = true) ∨ (b.span.Inside a.span ∧ a.divided = true)

/-- Both halves of every divided range are in the family. -/
def Halved (D : ι → Option Cell) : Prop :=
  ∀ i a, D i = some a → a.divided = true → ∃ lo hi, a.span = ⟨lo, some hi⟩ ∧ lo < hi ∧
    (∃ j b, D j = some b ∧ b.span = lowerHalf lo hi) ∧
    ∃ j b, D j = some b ∧ b.span = upperHalf lo hi

section Families

variable {D : ι → Option Cell}

/-- No number is in two ranges that are not divided. -/
theorem undivided_unique (h : Nested D) {i j : ι} {a b : Cell} {n : Nat} (hi : D i = some a)
    (hj : D j = some b) (hadiv : a.divided = false) (hbdiv : b.divided = false)
    (ha : a.span.Has n) (hb : b.span.Has n) : i = j := by
  by_contra hne
  rcases h i j a b hi hj hne ⟨n, ha, hb⟩ with ⟨_, hdiv⟩ | ⟨_, hdiv⟩
  · rw [hbdiv] at hdiv
    cases hdiv
  · rw [hadiv] at hdiv
    cases hdiv

/-- A number of a bounded range is in a range that is not divided: its own, or one in the half
that has the number. The induction is on the width. -/
theorem undivided_of_bounded (h : Halved D) {n : Nat} (w : Nat) {i : ι} {a : Cell} {lo hi : Nat}
    (ha : D i = some a) (hspan : a.span = ⟨lo, some hi⟩) (hw : hi + 1 - lo ≤ w)
    (hn : a.span.Has n) : ∃ j b, D j = some b ∧ b.divided = false ∧ b.span.Has n := by
  induction w generalizing i a lo hi with
  | zero =>
    rw [hspan, Span.has_some] at hn
    omega
  | succ w ih =>
    by_cases hdiv : a.divided = true
    · obtain ⟨lo', hi', hspan', hlt, ⟨j, b, hb, hbspan⟩, k, c, hc, hcspan⟩ := h i a ha hdiv
      rw [hspan', Span.mk.injEq, Option.some.injEq] at hspan
      obtain ⟨rfl, rfl⟩ := hspan
      rw [hspan', halves_cover n hlt] at hn
      rcases hn with hn | hn
      · exact ih hb hbspan (by omega) (hbspan ▸ hn)
      · exact ih hc hcspan (by omega) (hcspan ▸ hn)
    · exact ⟨i, a, ha, by simpa using hdiv, hn⟩

theorem exists_undivided (h : Halved D) {n : Nat} {i : ι} {a : Cell} (ha : D i = some a)
    (hn : a.span.Has n) : ∃ j b, D j = some b ∧ b.divided = false ∧ b.span.Has n := by
  by_cases hdiv : a.divided = true
  · obtain ⟨lo, hi, hspan, _⟩ := h i a ha hdiv
    exact undivided_of_bounded h _ ha hspan (le_refl _) hn
  · exact ⟨i, a, ha, by simpa using hdiv, hn⟩

/-- What meets a part of an undivided range is around that range. -/
theorem around_of_meets (h : Nested D) {i l : ι} {s part : Span} {b : Cell}
    (hcell : D i = some ⟨s, false⟩) (hpart : part.Inside s) (hl : D l = some b) (hne : l ≠ i)
    (hmeets : part.Meets b.span) : s.Inside b.span ∧ b.divided = true := by
  rcases h l i b _ hl hcell hne (hmeets.of_inside hpart).symm with ⟨_, hdiv⟩ | hin
  · cases hdiv
  · exact hin

/-- What is inside an undivided range is that range. -/
theorem eq_of_inside_undivided (h : Nested D) {i l : ι} {s : Span} {b : Cell}
    (hcell : D i = some ⟨s, false⟩) (hl : D l = some b) (hin : b.span.Inside s)
    (hsome : ∃ n, b.span.Has n) (hout : ¬ s.Inside b.span) : l = i := by
  by_contra hne
  obtain ⟨n, hn⟩ := hsome
  exact hout (around_of_meets h hcell hin hl hne ⟨n, hn, hn⟩).1

end Families

/-! ## What changes a family -/

section Changes

variable [DecidableEq ι] {D : ι → Option Cell}

/-- The family with a new range that is not divided. -/
def add (D : ι → Option Cell) (j : ι) (s : Span) : ι → Option Cell :=
  fun k => if k = j then some ⟨s, false⟩ else D k

/-- The family after the division of the range `i`. -/
def divide (D : ι → Option Cell) (i j k : ι) (lo hi : Nat) : ι → Option Cell :=
  fun l =>
    if l = i then some ⟨⟨lo, some hi⟩, true⟩
    else if l = j then some ⟨lowerHalf lo hi, false⟩
    else if l = k then some ⟨upperHalf lo hi, false⟩
    else D l

/-- A range that meets no other one may be added. -/
theorem nested_add (h : Nested D) {j : ι} {s : Span}
    (hs : ∀ i a, D i = some a → ¬ a.span.Meets s) : Nested (add D j s) := by
  intro i k a b hi hk hne hmeets
  unfold add at hi hk
  by_cases hij : i = j
  · rw [if_pos hij, Option.some.injEq] at hi
    rw [if_neg (by rintro rfl; exact hne hij)] at hk
    subst hi
    exact absurd hmeets.symm (hs k b hk)
  · rw [if_neg hij] at hi
    by_cases hkj : k = j
    · rw [if_pos hkj, Option.some.injEq] at hk
      subst hk
      exact absurd hmeets (hs i a hi)
    · rw [if_neg hkj] at hk
      exact h i k a b hi hk hne hmeets

theorem nested_divide (h : Nested D) {i j k : ι} {lo hi : Nat}
    (hcell : D i = some ⟨⟨lo, some hi⟩, false⟩) (hlt : lo < hi) :
    Nested (divide D i j k lo hi) := by
  -- the three ranges of the division, and any other one
  have hcases : ∀ l b, divide D i j k lo hi l = some b →
      (l = i ∧ b = ⟨⟨lo, some hi⟩, true⟩) ∨ (l = j ∧ b = ⟨lowerHalf lo hi, false⟩) ∨
      (l = k ∧ b = ⟨upperHalf lo hi, false⟩) ∨ (l ≠ i ∧ D l = some b) := by
    intro l b hl
    unfold divide at hl
    by_cases h1 : l = i
    · rw [if_pos h1, Option.some.injEq] at hl
      exact Or.inl ⟨h1, hl.symm⟩
    · rw [if_neg h1] at hl
      by_cases h2 : l = j
      · rw [if_pos h2, Option.some.injEq] at hl
        exact Or.inr (Or.inl ⟨h2, hl.symm⟩)
      · rw [if_neg h2] at hl
        by_cases h3 : l = k
        · rw [if_pos h3, Option.some.injEq] at hl
          exact Or.inr (Or.inr (Or.inl ⟨h3, hl.symm⟩))
        · rw [if_neg h3] at hl
          exact Or.inr (Or.inr (Or.inr ⟨h1, hl⟩))
  have hlow := lowerHalf_inside hlt
  have hup := upperHalf_inside hlt
  have houter : ∀ l b (part : Span), l ≠ i → D l = some b → part.Inside ⟨lo, some hi⟩ →
      part.Meets b.span → part.Inside b.span ∧ b.divided = true := by
    intro l b part hne hl hpart hmeets
    obtain ⟨hin, hdiv⟩ := around_of_meets h hcell hpart hl hne hmeets
    exact ⟨hpart.trans hin, hdiv⟩
  intro l m a b hl hm hne hmeets
  rcases hcases l a hl with ⟨rfl, rfl⟩ | ⟨rfl, rfl⟩ | ⟨rfl, rfl⟩ | ⟨hli, hDl⟩ <;>
    rcases hcases m b hm with ⟨rfl, rfl⟩ | ⟨rfl, rfl⟩ | ⟨rfl, rfl⟩ | ⟨hmi, hDm⟩
  · exact absurd rfl hne
  · exact Or.inr ⟨hlow, rfl⟩
  · exact Or.inr ⟨hup, rfl⟩
  · exact Or.inl (houter m b _ hmi hDm (fun _ hn => hn) hmeets)
  · exact Or.inl ⟨hlow, rfl⟩
  · exact absurd rfl hne
  · exact absurd hmeets halves_disjoint
  · exact Or.inl (houter m b _ hmi hDm hlow hmeets)
  · exact Or.inl ⟨hup, rfl⟩
  · exact absurd hmeets.symm halves_disjoint
  · exact absurd rfl hne
  · exact Or.inl (houter m b _ hmi hDm hup hmeets)
  · exact Or.inr (houter l a _ hli hDl (fun _ hn => hn) hmeets.symm)
  · exact Or.inr (houter l a _ hli hDl hlow hmeets.symm)
  · exact Or.inr (houter l a _ hli hDl hup hmeets.symm)
  · exact h l m a b hDl hDm hne hmeets

end Changes

end divisions
