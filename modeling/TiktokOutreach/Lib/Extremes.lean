-- The least and the greatest value of a list, as the ends of the sorted list.
import Mathlib.Tactic

namespace extremes

variable {α : Type*} [LinearOrder α]

theorem head?_insertionSort (l : List α) : (l.insertionSort (· ≤ ·)).head? = l.min? := by
  have hsorted := List.pairwise_insertionSort (α := α) (· ≤ ·) l
  have hmem : ∀ a, a ∈ l.insertionSort (· ≤ ·) ↔ a ∈ l := fun a => List.mem_insertionSort _
  cases hsort : l.insertionSort (· ≤ ·) with
  | nil =>
    have hnil : l = [] := by
      rw [List.eq_nil_iff_forall_not_mem]
      intro a ha
      rw [← hmem, hsort] at ha
      cases ha
    rw [hnil]
    rfl
  | cons first rest =>
    rw [hsort] at hsorted hmem
    rw [List.head?_cons, eq_comm, List.min?_eq_some_iff]
    refine ⟨(hmem first).1 List.mem_cons_self, ?_⟩
    intro b hb
    rcases List.mem_cons.1 ((hmem b).2 hb) with rfl | hrest
    · exact le_refl b
    · exact (List.pairwise_cons.1 hsorted).1 b hrest

theorem getLast?_insertionSort (l : List α) : (l.insertionSort (· ≤ ·)).getLast? = l.max? := by
  have hsorted := List.pairwise_insertionSort (α := α) (· ≤ ·) l
  have hmem : ∀ a, a ∈ l.insertionSort (· ≤ ·) ↔ a ∈ l := fun a => List.mem_insertionSort _
  induction hsort : l.insertionSort (· ≤ ·) using List.reverseRecOn with
  | nil =>
    have hnil : l = [] := by
      rw [List.eq_nil_iff_forall_not_mem]
      intro a ha
      rw [← hmem, hsort] at ha
      cases ha
    rw [hnil]
    rfl
  | append_singleton front last _ =>
    rw [hsort] at hsorted hmem
    rw [List.getLast?_concat, eq_comm, List.max?_eq_some_iff]
    refine ⟨(hmem last).1 (by simp), ?_⟩
    intro b hb
    rcases List.mem_append.1 ((hmem b).2 hb) with hfront | hlast
    · exact (List.pairwise_append.1 hsorted).2.2 b hfront last (by simp)
    · rw [List.mem_singleton] at hlast
      exact le_of_eq hlast

/-- The extremes of a list depend on what is in it only. -/
theorem min?_congr {l l' : List α} (h : ∀ a, a ∈ l ↔ a ∈ l') : l.min? = l'.min? := by
  apply Option.ext
  intro a
  rw [List.min?_eq_some_iff, List.min?_eq_some_iff, h]
  simp only [h]

theorem max?_congr {l l' : List α} (h : ∀ a, a ∈ l ↔ a ∈ l') : l.max? = l'.max? := by
  apply Option.ext
  intro a
  rw [List.max?_eq_some_iff, List.max?_eq_some_iff, h]
  simp only [h]

/-- A list may stand for its least value. -/
theorem min?_append_min? (l l' : List α) : (l' ++ l.min?.toList).min? = (l ++ l').min? := by
  cases hmin : l.min? with
  | none =>
    rw [List.min?_eq_none_iff] at hmin
    simp [hmin]
  | some least =>
    obtain ⟨hmem, hleast⟩ := List.min?_eq_some_iff.1 hmin
    apply Option.ext
    intro a
    rw [List.min?_eq_some_iff, List.min?_eq_some_iff]
    simp only [Option.toList_some, List.mem_append, List.mem_singleton]
    constructor
    · rintro ⟨ha, hle⟩
      refine ⟨?_, ?_⟩
      · rcases ha with ha | rfl
        · exact .inr ha
        · exact .inl hmem
      · rintro b (hb | hb)
        · exact le_trans (hle least (.inr rfl)) (hleast b hb)
        · exact hle b (.inl hb)
    · rintro ⟨ha, hle⟩
      refine ⟨?_, ?_⟩
      · rcases ha with ha | ha
        · exact .inr (le_antisymm (hle least (.inl hmem)) (hleast a ha))
        · exact .inl ha
      · rintro b (hb | rfl)
        · exact hle b (.inr hb)
        · exact hle b (.inl hmem)

end extremes
