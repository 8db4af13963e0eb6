-- Listings that are read page by page. Each page says whether there is another
-- one and under which cursor. What was read of a listing is the chain of the
-- pages that were got, and a listing that was read to its end, and whose pages
-- do not change, was read as a whole.
import Mathlib.Logic.Relation

open Relation

namespace listings

/-- The pages `π` of a listing under the cursors `κ`. -/
structure Paging (κ π : Type*) where
  start : κ
  more : π → Bool
  next : π → κ

namespace Paging

variable {κ π : Type*} (P : Paging κ π) (Got Got' : κ → π → Prop)

/-- From one cursor to the next one, by a page that was got. -/
def Step (a b : κ) : Prop := ∃ p, Got a p ∧ P.more p = true ∧ P.next p = b

/-- The pages before the cursor were all got. -/
def ReadTo (k : κ) : Prop := ReflTransGen (P.Step Got) P.start k

/-- The pages were got up to one that is the last one. -/
def ReadOut : Prop := ∃ k p, P.ReadTo Got k ∧ Got k p ∧ P.more p = false

/-- The cursor is one of the listing whose pages are `page`. -/
def Within (page : κ → π) (k : κ) : Prop := P.ReadTo (fun k p => p = page k) k

variable {P Got Got'}

theorem readTo_start : P.ReadTo Got P.start := ReflTransGen.refl

theorem readTo_next {k : κ} {p : π} (h : P.ReadTo Got k) (hp : Got k p) (hmore : P.more p = true) :
    P.ReadTo Got (P.next p) :=
  h.tail ⟨p, hp, hmore, rfl⟩

theorem readOut_last {k : κ} {p : π} (h : P.ReadTo Got k) (hp : Got k p)
    (hlast : P.more p = false) : P.ReadOut Got :=
  ⟨k, p, h, hp, hlast⟩

theorem readTo_mono (hle : ∀ k p, Got k p → Got' k p) {k : κ} (h : P.ReadTo Got k) :
    P.ReadTo Got' k := by
  have hstep : P.Step Got ≤ P.Step Got' := by
    rintro a b ⟨p, hp, hmore, hnext⟩
    exact ⟨p, hle _ _ hp, hmore, hnext⟩
  exact ReflTransGen.mono hstep _ _ h

theorem readOut_mono (hle : ∀ k p, Got k p → Got' k p) (h : P.ReadOut Got) : P.ReadOut Got' := by
  obtain ⟨k, p, hk, hp, hlast⟩ := h
  exact ⟨k, p, readTo_mono hle hk, hle k p hp, hlast⟩

variable {page : κ → π}

/-- A cursor of a fixed listing is one whose page was got, or lies behind what was read. -/
theorem got_or_behind (hfixed : ∀ k p, Got k p → p = page k) {k k' : κ} (h : P.ReadTo Got k)
    (hk' : P.Within page k') :
    Got k' (page k') ∨ ReflTransGen (P.Step (fun k p => p = page k)) k k' := by
  induction h with
  | refl => exact .inr hk'
  | tail _ hstep ih =>
    obtain ⟨p, hp, hmore, hnext⟩ := hstep
    rcases ih with hgot | hbehind
    · exact .inl hgot
    · rcases hbehind.cases_head with rfl | ⟨c, ⟨q, rfl, _, hq⟩, hrest⟩
      · exact .inl (hfixed _ _ hp ▸ hp)
      · rw [hfixed _ _ hp] at hnext
        rw [← hnext, hq]
        exact .inr hrest

/-- A listing that does not change and was read to its end was read as a whole. -/
theorem got_of_readOut (hfixed : ∀ k p, Got k p → p = page k) (h : P.ReadOut Got) {k : κ}
    (hk : P.Within page k) : Got k (page k) := by
  obtain ⟨last, p, hlast, hp, hend⟩ := h
  rcases got_or_behind hfixed hlast hk with hgot | hbehind
  · exact hgot
  · rcases hbehind.cases_head with rfl | ⟨c, ⟨q, rfl, hmore, _⟩, _⟩
    · exact hfixed _ _ hp ▸ hp
    · rw [hfixed _ _ hp] at hend
      rw [hmore] at hend
      cases hend

end Paging

end listings
