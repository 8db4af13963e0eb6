-- Reading a list in pages: each page has the first elements behind a cursor, in
-- the order of their keys, and the last one of them is the next cursor. A page
-- that is not full is the last one.
import Mathlib.Tactic

namespace pages

variable {α κ : Type*} [LinearOrder κ]

section Pages

variable (key : α → κ) (size : Nat) (rows : List α)

/-- The elements behind the cursor. -/
def behind (cursor : Option κ) : List α := rows.filter (fun a => cursor.all (· < key a))

def page (cursor : Option κ) : List α :=
  ((behind key rows cursor).insertionSort (fun a b => key a ≤ key b)).take size

/-- The loop over the pages, with fuel. -/
def readPages : Nat → Option κ → List α
  | 0, _ => []
  | fuel + 1, cursor =>
    let read := page key size rows cursor
    if read.length < size then read
    else read ++ readPages fuel (read.getLast?.map key)

end Pages

section Laws

variable {key : α → κ} {size : Nat} {rows : List α}

theorem pairwise_lt_sorted (hkeys : (rows.map key).Nodup) :
    (rows.insertionSort (fun a b => key a ≤ key b)).Pairwise (fun a b => key a < key b) := by
  have hsorted : (rows.insertionSort (fun a b => key a ≤ key b)).Pairwise
      (fun a b => key a ≤ key b) := by
    have : Std.Total (fun a b : α => key a ≤ key b) := ⟨fun a b => le_total (key a) (key b)⟩
    have : IsTrans α (fun a b : α => key a ≤ key b) := ⟨fun _ _ _ hab hbc => hab.trans hbc⟩
    exact List.pairwise_insertionSort _ rows
  have hdistinct : (rows.insertionSort (fun a b => key a ≤ key b)).Pairwise
      (fun a b => key a ≠ key b) := by
    rw [← List.pairwise_map (R := (· ≠ ·))]
    exact ((List.perm_insertionSort _ rows).map key).nodup_iff.2 hkeys
  exact (hsorted.and hdistinct).imp (fun h => lt_of_le_of_ne h.1 h.2)

/-- Behind the last element of a prefix are the elements that follow it. -/
theorem filter_behind_last {sorted : List α} (hsorted : sorted.Pairwise (fun a b => key a < key b))
    {n : Nat} {last : α} (hlast : (sorted.take n).getLast? = some last) :
    sorted.filter (fun a => key last < key a) = sorted.drop n := by
  have hparts : sorted.take n ++ sorted.drop n = sorted := List.take_append_drop n sorted
  have hmem : last ∈ sorted.take n := List.mem_of_getLast? hlast
  obtain ⟨init, hinit⟩ := List.getLast?_eq_some_iff.1 hlast
  rw [← hparts] at hsorted
  have hbefore : (sorted.take n).filter (fun a => key last < key a) = [] := by
    rw [List.filter_eq_nil_iff]
    intro a ha
    rw [hinit, List.mem_append, List.mem_singleton] at ha
    rcases ha with ha | rfl
    · have hfirst := (List.pairwise_append.1 hsorted).1
      rw [hinit] at hfirst
      have hlt : key a < key last :=
        (List.pairwise_append.1 hfirst).2.2 a ha last (List.mem_singleton_self last)
      simpa using hlt.le
    · simp
  have hafter : (sorted.drop n).filter (fun a => key last < key a) = sorted.drop n := by
    rw [List.filter_eq_self]
    intro a ha
    simpa using (List.pairwise_append.1 hsorted).2.2 last hmem a ha
  have hsplit : sorted.filter (fun a => key last < key a) =
      (sorted.take n ++ sorted.drop n).filter (fun a => key last < key a) := by rw [hparts]
  rw [hsplit, List.filter_append, hbefore, hafter, List.nil_append]

/-- With enough fuel, the pages have every element behind the cursor once. -/
theorem readPages_perm (hsize : 0 < size) (hkeys : (rows.map key).Nodup) {fuel : Nat}
    {cursor : Option κ} (hfuel : (behind key rows cursor).length < fuel) :
    (readPages key size rows fuel cursor).Perm (behind key rows cursor) := by
  induction fuel generalizing cursor with
  | zero => exact absurd hfuel (Nat.not_lt_zero _)
  | succ fuel ih =>
    generalize hsorted : (behind key rows cursor).insertionSort (fun a b => key a ≤ key b) = sorted
    have hperm : sorted.Perm (behind key rows cursor) := hsorted ▸ List.perm_insertionSort _ _
    have hbehind : ((behind key rows cursor).map key).Nodup :=
      hkeys.sublist (List.filter_sublist.map key)
    have hlt : sorted.Pairwise (fun a b => key a < key b) := hsorted ▸ pairwise_lt_sorted hbehind
    have hpage : page key size rows cursor = sorted.take size := by
      unfold page
      rw [hsorted]
    unfold readPages
    dsimp only
    rw [hpage]
    by_cases hfull : (sorted.take size).length < size
    · have hall : sorted.take size = sorted := by
        rw [List.length_take] at hfull
        exact List.take_of_length_le (by omega)
      rw [if_pos hfull, hall]
      exact hperm
    · rw [if_neg hfull]
      have hne : sorted.take size ≠ [] := by
        intro hnil
        rw [hnil, List.length_nil] at hfull
        exact hfull hsize
      obtain ⟨last, hlast⟩ : ∃ last, (sorted.take size).getLast? = some last :=
        ⟨_, List.getLast?_eq_some_getLast hne⟩
      rw [hlast, Option.map_some]
      -- what is behind the new cursor is the rest
      have hcursor : cursor.all (· < key last) = true := by
        have hmem : last ∈ behind key rows cursor :=
          hperm.mem_iff.1 (List.mem_of_mem_take (List.mem_of_getLast? hlast))
        exact (List.mem_filter.1 hmem).2
      have hnext : behind key rows (some (key last)) =
          (behind key rows cursor).filter (fun a => key last < key a) := by
        unfold behind
        rw [List.filter_filter]
        apply List.filter_congr
        intro a _
        rw [Bool.eq_iff_iff]
        cases cursor with
        | none => simp
        | some c =>
          have hc : c < key last := by simpa using hcursor
          simp only [Option.all_some, decide_eq_true_eq, Bool.and_eq_true]
          exact ⟨fun h => ⟨h, hc.trans h⟩, fun h => h.1⟩
      have hrest : (behind key rows (some (key last))).Perm (sorted.drop size) := by
        rw [hnext, ← filter_behind_last hlt hlast]
        exact hperm.symm.filter _
      have hlength := hrest.length_eq
      rw [List.length_drop, hperm.length_eq] at hlength
      have hpositive : 0 < (behind key rows cursor).length := by
        rw [← hperm.length_eq]
        exact List.length_pos_of_mem (List.mem_of_mem_take (List.mem_of_getLast? hlast))
      have hagain : (readPages key size rows fuel (some (key last))).Perm
          (behind key rows (some (key last))) := ih (by omega)
      have hboth := (hagain.trans hrest).append_left (sorted.take size)
      rw [List.take_append_drop] at hboth
      exact hboth.trans hperm

end Laws

end pages
