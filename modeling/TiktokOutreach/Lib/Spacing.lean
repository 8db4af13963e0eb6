-- Instants that lie at least one interval apart, and how many of them a
-- window of time can hold.
import Mathlib.Tactic

namespace spacing

/-- Each instant of the list lies at least `interval` after the one before it. -/
def Spaced (interval : Int) (ts : List Int) : Prop :=
  ts.IsChain (fun a b => a + interval ≤ b)

/-- The instants of the list from `start` to `start + length`, both included. -/
def inWindow (start length : Int) (ts : List Int) : List Int :=
  ts.filter (fun t => start ≤ t ∧ t ≤ start + length)

variable {interval : Int} {ts : List Int}

theorem spaced_pairwise (hi : 0 ≤ interval) (h : Spaced interval ts) :
    ts.Pairwise (fun a b => a + interval ≤ b) := by
  have htrans : Trans (fun a b : Int => a + interval ≤ b) (fun a b => a + interval ≤ b)
      (fun a b => a + interval ≤ b) := ⟨fun hab hbc => by omega⟩
  exact List.isChain_iff_pairwise.1 h

/-- The instants of a spaced list that are at least `start` reach past `start` by one
interval for each further instant. -/
theorem length_le_of_spaced (start : Int) (k : Nat)
    (h : ts.Pairwise (fun a b => a + interval ≤ b)) (hpos : 0 < interval)
    (hwin : ∀ t ∈ ts, start ≤ t ∧ t ≤ start + k * interval) : ts.length ≤ k + 1 := by
  induction k generalizing start ts with
  | zero =>
    match ts, h, hwin with
    | [], _, _ => simp
    | [_], _, _ => simp
    | a :: b :: rest, h, hwin =>
      have hab : a + interval ≤ b := (List.pairwise_cons.1 h).1 b (by simp)
      have ha := hwin a (by simp)
      have hb := hwin b (by simp)
      simp at ha hb
      omega
  | succ k ih =>
    match ts, h, hwin with
    | [], _, _ => simp
    | a :: rest, h, hwin =>
      obtain ⟨hhead, htail⟩ := List.pairwise_cons.1 h
      have ha := hwin a (by simp)
      have hrest : rest.length ≤ k + 1 := by
        apply ih (start + interval) htail
        intro t ht
        have h1 := hhead t ht
        have h2 := (hwin t (by simp [ht])).2
        push_cast at h2
        refine ⟨by omega, ?_⟩
        calc t ≤ start + (k + 1) * interval := h2
          _ = start + interval + k * interval := by ring
      simpa using hrest

/-- A window of `k` intervals holds at most `k + 1` of the instants. -/
theorem window_holds_at_most (hpos : 0 < interval) (h : Spaced interval ts) (start : Int)
    (k : Nat) : (inWindow start (k * interval) ts).length ≤ k + 1 := by
  apply length_le_of_spaced start k _ hpos
  · intro t ht
    simpa [inWindow] using (List.mem_filter.1 ht).2
  · exact (spaced_pairwise hpos.le h).sublist List.filter_sublist

end spacing
