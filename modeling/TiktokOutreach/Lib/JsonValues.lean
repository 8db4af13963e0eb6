-- JSON values as trees: what holds of all of them by their parts, when two are
-- the same but for the order of their members, and how the texts of strings
-- and numbers are told from what stands behind them.
import TiktokOutreach.Lib.Json

namespace json

/-! ## Trees -/

/-- What holds of a value whenever it holds of its parts holds of all values. -/
theorem of_parts {P : Json → Prop} (null : P .null) (bool : ∀ b, P (.bool b))
    (number : ∀ literal, P (.number literal)) (str : ∀ s, P (.str s))
    (arr : ∀ elements, (∀ x ∈ elements, P x) → P (.arr elements))
    (obj : ∀ members, (∀ m ∈ members, P m.2) → P (.obj members)) : ∀ x, P x := by
  apply @Json.rec P (fun elements => ∀ x ∈ elements, P x) (fun members => ∀ m ∈ members, P m.2)
    (fun m => P m.2) null bool number str arr obj
  · simp
  · intro x rest hx hrest
    exact List.forall_mem_cons.2 ⟨hx, hrest⟩
  · simp
  · intro m rest hm hrest
    exact List.forall_mem_cons.2 ⟨hm, hrest⟩
  · intro key x hx
    exact hx

/-- The characters of written numbers. -/
def isNumeral (c : UInt16) : Bool :=
  isDigit c || c = 0x2D || c = 0x2B || c = 0x2E || c = 0x65 || c = 0x45

/-- A text that can be that of a number. -/
def Numeral (literal : Text) : Prop := literal ≠ [] ∧ ∀ c ∈ literal, isNumeral c = true

mutual

/-- The numbers are numerals, and no object has a key twice. -/
def WellFormed : Json → Prop
  | .number literal => Numeral literal
  | .arr elements => WellFormedElements elements
  | .obj members => (members.map Prod.fst).Nodup ∧ WellFormedMembers members
  | .null | .bool _ | .str _ => True

def WellFormedElements : List Json → Prop
  | [] => True
  | x :: rest => WellFormed x ∧ WellFormedElements rest

def WellFormedMembers : List (Text × Json) → Prop
  | [] => True
  | (_, x) :: rest => WellFormed x ∧ WellFormedMembers rest

end

theorem wellFormedElements_iff {elements : List Json} :
    WellFormedElements elements ↔ ∀ x ∈ elements, WellFormed x := by
  induction elements with
  | nil => simp [WellFormedElements]
  | cons x rest ih => simp [WellFormedElements, ih]

theorem wellFormedMembers_iff {members : List (Text × Json)} :
    WellFormedMembers members ↔ ∀ m ∈ members, WellFormed m.2 := by
  induction members with
  | nil => simp [WellFormedMembers]
  | cons m rest ih => simp [WellFormedMembers, ih]

mutual

/-- Equal up to the order of members: two objects have equally many members, and each member of the
one has one of its key and with the same value in the other. -/
def Same : Json → Json → Prop
  | .null, .null => True
  | .bool b, .bool b' => b = b'
  | .number literal, .number literal' => literal = literal'
  | .str s, .str s' => s = s'
  | .arr elements, .arr elements' => SameElements elements elements'
  | .obj members, .obj members' =>
    members.length = members'.length ∧ SameMembers members members'
  | _, _ => False

def SameElements : List Json → List Json → Prop
  | [], [] => True
  | x :: rest, y :: rest' => Same x y ∧ SameElements rest rest'
  | _, _ => False

def SameMembers : List (Text × Json) → List (Text × Json) → Prop
  | [], _ => True
  | (key, x) :: rest, members' =>
    (∃ y, (key, y) ∈ members' ∧ Same x y) ∧ SameMembers rest members'

end

theorem sameMembers_iff {members members' : List (Text × Json)} : SameMembers members members' ↔
    ∀ m ∈ members, ∃ y, (m.1, y) ∈ members' ∧ Same m.2 y := by
  induction members with
  | nil => simp [SameMembers]
  | cons m rest ih => simp [SameMembers, ih]

theorem sameElements_refl {elements : List Json} (h : ∀ x ∈ elements, Same x x) :
    SameElements elements elements := by
  induction elements with
  | nil => simp [SameElements]
  | cons x rest ih =>
    rw [List.forall_mem_cons] at h
    simp only [SameElements]
    exact ⟨h.1, ih h.2⟩

theorem same_refl : ∀ x, Same x x := by
  apply of_parts
  · simp [Same]
  · simp [Same]
  · simp [Same]
  · simp [Same]
  · intro elements ih
    simp only [Same]
    exact sameElements_refl ih
  · intro members ih
    simp only [Same, sameMembers_iff]
    exact ⟨trivial, fun m hm => ⟨m.2, hm, ih m hm⟩⟩

/-! ## Where a text ends -/

/-- A text that no number goes on with. -/
def Ended (t : Text) : Prop := ∀ c ∈ t.head?, isNumeral c = false

theorem takeWhile_numeral {literal rest : Text} (hliteral : Numeral literal) (hrest : Ended rest) :
    (literal ++ rest).takeWhile isNumeral = literal := by
  rw [List.takeWhile_append_of_pos hliteral.2]
  cases rest with
  | nil => simp
  | cons c rest =>
    have hc : isNumeral c = false := hrest c rfl
    simp [hc]

theorem numeral_cut {literal literal' rest rest' : Text} (h : Numeral literal)
    (h' : Numeral literal') (hrest : Ended rest) (hrest' : Ended rest')
    (heq : literal ++ rest = literal' ++ rest') : literal = literal' ∧ rest = rest' := by
  have hliteral : literal = literal' := by
    rw [← takeWhile_numeral h hrest, heq, takeWhile_numeral h' hrest']
  rw [hliteral] at heq
  exact ⟨hliteral, List.append_cancel_left heq⟩

theorem quote_cut {s s' rest rest' : Text} (heq : quote s ++ rest = quote s' ++ rest') :
    s = s' ∧ rest = rest' := by
  unfold quote at heq
  simp only [List.cons_append, List.append_assoc, List.cons.injEq, true_and,
    List.nil_append] at heq
  have hread := congrArg stringBody heq
  rw [stringBody_quoteBody, stringBody_quoteBody, Option.some.injEq, Prod.mk.injEq] at hread
  exact hread

end json
