-- Runs of a labelled step relation, and the rules to reason about them. A
-- law of a system is an invariant of its steps; the rules here turn it into
-- a law of every run, whole or cut at any place.
import Mathlib.Tactic

namespace runs

variable {σ ℓ : Type*}

/-- The steps with the labels `ls` lead from the first state to the last one. -/
inductive Run (step : σ → ℓ → σ → Prop) : σ → List ℓ → σ → Prop
  | nil (s : σ) : Run step s [] s
  | cons {s t u : σ} {l : ℓ} {ls : List ℓ} (hstep : step s l t) (hrest : Run step t ls u) :
      Run step s (l :: ls) u

/-- The step relation of a total function. -/
def stepOf (f : ℓ → σ → σ) (s : σ) (l : ℓ) (t : σ) : Prop := t = f l s

/-- The steps of `step` whose label and state before meet `guard`. -/
def Guarded (step : σ → ℓ → σ → Prop) (guard : σ → ℓ → Prop) (s : σ) (l : ℓ) (t : σ) : Prop :=
  step s l t ∧ guard s l

namespace Run

variable {step : σ → ℓ → σ → Prop} {s t u : σ} {ls ms : List ℓ} {l : ℓ}

theorem append (h : Run step s ls t) (h' : Run step t ms u) : Run step s (ls ++ ms) u := by
  induction h with
  | nil => exact h'
  | cons hstep _ ih => exact cons hstep (ih h')

theorem snoc (h : Run step s ls t) (hstep : step t l u) : Run step s (ls ++ [l]) u :=
  h.append (cons hstep (nil u))

/-- A run cuts at any place into two runs. -/
theorem split (h : Run step s (ls ++ ms) u) : ∃ t, Run step s ls t ∧ Run step t ms u := by
  induction ls generalizing s with
  | nil => exact ⟨s, nil s, h⟩
  | cons l ls ih =>
    cases h with
    | cons hstep hrest =>
      obtain ⟨t, h1, h2⟩ := ih hrest
      exact ⟨t, cons hstep h1, h2⟩

theorem mono {step' : σ → ℓ → σ → Prop} (hle : ∀ s l t, step s l t → step' s l t)
    (h : Run step s ls u) : Run step' s ls u := by
  induction h with
  | nil => exact nil _
  | cons hstep _ ih => exact cons (hle _ _ _ hstep) ih

/-- What each step with a label of the run keeps, the run keeps. -/
theorem invariant (I : σ → Prop)
    (hkeep : ∀ s l t, l ∈ ls → step s l t → I s → I t)
    (h : Run step s ls u) (h0 : I s) : I u := by
  induction h with
  | nil => exact h0
  | cons hstep _ ih =>
    apply ih
    · intro s' l' t' hl'
      exact hkeep s' l' t' (List.mem_cons_of_mem _ hl')
    · exact hkeep _ _ _ List.mem_cons_self hstep h0

/-- What each step keeps of the labels so far and the state, a run keeps. -/
theorem invariant_history (I : List ℓ → σ → Prop)
    (hkeep : ∀ ls s l t, I ls s → step s l t → I (ls ++ [l]) t)
    (h : Run step s ls u) (h0 : I [] s) : I ls u := by
  have hgo : ∀ before, I before s → I (before ++ ls) u := by
    clear h0
    induction h with
    | nil s =>
      intro before hbefore
      simpa using hbefore
    | cons hstep _ ih =>
      intro before hbefore
      have hrest := ih _ (hkeep before _ _ _ hbefore hstep)
      simpa using hrest
  exact hgo [] h0

end Run

/-! ## Runs of a total function -/

section Total

variable (f : ℓ → σ → σ)

theorem run_foldl (ls : List ℓ) (s : σ) :
    Run (stepOf f) s ls (ls.foldl (fun s l => f l s) s) := by
  induction ls generalizing s with
  | nil => exact Run.nil s
  | cons l ls ih => exact Run.cons rfl (ih (f l s))

end Total

end runs
