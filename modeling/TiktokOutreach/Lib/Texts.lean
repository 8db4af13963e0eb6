-- Texts as the programs of the web handle them: white space that is trimmed off, and lists that
-- are joined to one text and cut again.
import Mathlib.Data.List.DropRight
import Mathlib.Tactic

namespace texts

/-! ## White space -/

/-- White space and line terminators of the language. -/
def isWhitespace (c : Char) : Bool :=
  [0x09, 0x0A, 0x0B, 0x0C, 0x0D, 0x20, 0xA0, 0x1680, 0x2000, 0x2001, 0x2002, 0x2003, 0x2004,
    0x2005, 0x2006, 0x2007, 0x2008, 0x2009, 0x200A, 0x2028, 0x2029, 0x202F, 0x205F, 0x3000,
    0xFEFF].contains c.toNat

def trimList (l : List Char) : List Char := (l.dropWhile isWhitespace).rdropWhile isWhitespace

/-- `s.trim()` -/
def trim (s : String) : String := String.ofList (trimList s.toList)

/-- A text that is not empty, and that trimming leaves as it is. -/
def Trimmed (s : String) : Prop := s ≠ "" ∧ trim s = s

instance (s : String) : Decidable (Trimmed s) := inferInstanceAs (Decidable (_ ∧ _))

/-- No white space at either end. -/
def TrimmedList (l : List Char) : Prop :=
  (∀ c ∈ l.head?, isWhitespace c = false) ∧ ∀ c ∈ l.getLast?, isWhitespace c = false

theorem toList_trim (s : String) : (trim s).toList = trimList s.toList := by
  simp [trim]

theorem trimList_eq_self {l : List Char} (h : TrimmedList l) : trimList l = l := by
  cases l with
  | nil => rfl
  | cons c rest =>
    obtain ⟨hhead, hlast⟩ := h
    have hc : isWhitespace c = false := hhead c rfl
    unfold trimList
    rw [List.dropWhile_cons_of_neg (by simp [hc]), List.rdropWhile_eq_self_iff]
    intro hne
    have hend := hlast _ (List.getLast?_eq_some_getLast hne)
    simp [hend]

theorem trimmedList_trimList (l : List Char) : TrimmedList (trimList l) := by
  constructor
  · intro c hc
    -- what `trim` leaves is a prefix of what stands behind the white space
    have hstart : trimList l <+: l.dropWhile isWhitespace := List.rdropWhile_prefix ..
    cases htrim : trimList l with
    | nil => simp [htrim] at hc
    | cons d rest =>
      rw [htrim, List.head?_cons, Option.mem_some_iff] at hc
      subst hc
      rw [htrim] at hstart
      obtain ⟨t, ht⟩ := hstart
      have hhead := List.head?_dropWhile_not isWhitespace l
      rw [← ht] at hhead
      simpa using hhead
  · intro c hc
    have hne : trimList l ≠ [] := by
      rintro hnil
      simp [hnil] at hc
    have hlast : ¬ isWhitespace ((trimList l).getLast hne) :=
      List.rdropWhile_last_not isWhitespace (l.dropWhile isWhitespace) hne
    rw [List.getLast?_eq_some_getLast hne, Option.mem_some_iff] at hc
    rw [← hc]
    simpa using hlast

theorem trim_eq_self_iff {s : String} : trim s = s ↔ TrimmedList s.toList := by
  constructor
  · intro h
    rw [← h, toList_trim]
    exact trimmedList_trimList _
  · intro h
    rw [← String.toList_inj, toList_trim]
    exact trimList_eq_self h

@[simp] theorem trim_trim (s : String) : trim (trim s) = trim s := by
  rw [trim_eq_self_iff, toList_trim]
  exact trimmedList_trimList _

theorem toList_ne_nil {s : String} (h : s ≠ "") : s.toList ≠ [] := by
  intro hnil
  exact h (String.toList_inj.1 (by simpa using hnil))

/-- White space in front of a text goes. -/
theorem trim_cons {c : Char} (hc : isWhitespace c = true) (l : List Char) :
    trimList (c :: l) = trimList l := by
  unfold trimList
  rw [List.dropWhile_cons_of_pos hc]

/-! ## Joining and cutting -/

/-- `parts.join(separator)` -/
def join (separator : String) (parts : List String) : String := separator.intercalate parts

/-- `s.split(c)` for one character. -/
def split (c : Char) (s : String) : List String := (s.toList.splitOn c).map String.ofList

theorem toList_join (separator : String) (parts : List String) :
    (join separator parts).toList = separator.toList.intercalate (parts.map String.toList) := by
  unfold join
  rw [String.toList_intercalate]

theorem join_nil (separator : String) : join separator [] = "" := by
  unfold join
  exact String.intercalate_nil

theorem join_split (c : Char) (s : String) : join (String.singleton c) (split c s) = s := by
  rw [← String.toList_inj, toList_join, String.toList_singleton]
  unfold split
  rw [List.map_map]
  have hid : ∀ l ∈ s.toList.splitOn c, (String.toList ∘ String.ofList) l = id l := by
    intro l _
    simp
  rw [List.map_congr_left hid, List.map_id, List.intercalate_splitOn]

/-- A text that was joined is cut at the separators and inside the parts. -/
theorem split_join {c : Char} {parts : List String} (hne : parts ≠ []) :
    split c (join (String.singleton c) parts) = parts.flatMap (split c) := by
  have hlists : ∀ ls : List (List Char), ls ≠ [] →
      ([c].intercalate ls).splitOn c = ls.flatMap (fun l => l.splitOn c) := by
    intro ls
    induction ls with
    | nil => simp
    | cons l rest ih =>
      intro _
      cases rest with
      | nil => simp
      | cons l' rest =>
        rw [List.intercalate_cons_cons, List.append_assoc, List.singleton_append,
          List.splitOn_append_cons_of_beq l _ (beq_self_eq_true c), ih (by simp)]
        simp only [List.flatMap_cons]
  unfold split
  rw [toList_join, String.toList_singleton, hlists _ (by simpa using hne), List.map_flatMap,
    List.flatMap_map]

/-- Two lists of parts make the same text when they are the same pieces between the separators. -/
theorem join_eq_join_iff {c : Char} {xs ys : List String} (hx : xs ≠ []) (hy : ys ≠ []) :
    join (String.singleton c) xs = join (String.singleton c) ys ↔
      xs.flatMap (split c) = ys.flatMap (split c) := by
  constructor
  · intro h
    rw [← split_join hx, ← split_join hy, h]
  · intro h
    rw [← join_split c (join _ xs), ← join_split c (join _ ys), split_join hx, split_join hy, h]

/-- A separator of a character and a blank puts the blank in front of the part behind it. -/
theorem intercalate_blank (c : Char) (first : List Char) (rest : List (List Char)) :
    [c, ' '].intercalate (first :: rest) =
      [c].intercalate (first :: rest.map (fun part => ' ' :: part)) := by
  induction rest generalizing first with
  | nil => simp
  | cons part rest ih =>
    rw [List.intercalate_cons_cons, ih part, List.map_cons, List.intercalate_cons_cons]
    cases rest with
    | nil => simp
    | cons part' rest => simp [List.intercalate_cons_cons]

end texts
