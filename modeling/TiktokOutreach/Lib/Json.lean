-- JSON texts over UTF-16 code units, as `JSON.stringify` writes them and as
-- `JSON.parse` reads them: a string that is written is read back unit by unit.
import Mathlib.Tactic

namespace json

/-- A string of the language: its UTF-16 code units, paired or not. -/
abbrev Text := List UInt16

/-- The code units of a text without characters outside the first plane. -/
def units (s : String) : Text := s.toList.map fun c => UInt16.ofNat c.toNat

inductive Json
  | null
  | bool (b : Bool)
  | number (literal : Text)
  | str (s : Text)
  | arr (elements : List Json)
  | obj (members : List (Text × Json))

/-! ## The characters of the grammar -/

abbrev quotationMark : UInt16 := 0x22
abbrev backslash : UInt16 := 0x5C
abbrev comma : UInt16 := 0x2C
abbrev colon : UInt16 := 0x3A
abbrev openBracket : UInt16 := 0x5B
abbrev closeBracket : UInt16 := 0x5D
abbrev openBrace : UInt16 := 0x7B
abbrev closeBrace : UInt16 := 0x7D

/-- The letter behind the backslash of a unicode escape. -/
abbrev unicodeLetter : UInt16 := 0x75

def isSpace (c : UInt16) : Bool := c = 0x20 || c = 0x09 || c = 0x0A || c = 0x0D

def isDigit (c : UInt16) : Bool := decide (0x30 ≤ c) && decide (c ≤ 0x39)

/-- The control characters, which a string holds escaped only. -/
def isControl (c : UInt16) : Bool := decide (c < 0x20)

def isLead (c : UInt16) : Bool := decide (0xD800 ≤ c) && decide (c ≤ 0xDBFF)

def isTrail (c : UInt16) : Bool := decide (0xDC00 ≤ c) && decide (c ≤ 0xDFFF)

/-! ## Writing -/

/-- The letter of a short escape. -/
def escapeLetter (c : UInt16) : Option UInt16 :=
  if c = 0x08 then some 0x62
  else if c = 0x09 then some 0x74
  else if c = 0x0A then some 0x6E
  else if c = 0x0C then some 0x66
  else if c = 0x0D then some 0x72
  else if c = quotationMark then some quotationMark
  else if c = backslash then some backslash
  else none

/-- A hexadecimal digit, in lower case. -/
def hexDigit (n : Nat) : UInt16 :=
  if n < 10 then UInt16.ofNat (0x30 + n) else UInt16.ofNat (0x61 + (n - 10))

def unicodeEscape (c : UInt16) : Text :=
  [backslash, unicodeLetter, hexDigit (c.toNat / 4096), hexDigit (c.toNat / 256 % 16),
    hexDigit (c.toNat / 16 % 16), hexDigit (c.toNat % 16)]

/-- A code unit that is no half of a pair. -/
def quoteUnit (c : UInt16) : Text :=
  match escapeLetter c with
  | some letter => [backslash, letter]
  | none => if isControl c || isLead c || isTrail c then unicodeEscape c else [c]

/-- The inside of a written string. A surrogate pair stands as it is, a
surrogate without its other half is escaped. -/
def quoteBody : Text → Text
  | [] => []
  | [c] => quoteUnit c
  | c :: d :: rest =>
    if isLead c && isTrail d then c :: d :: quoteBody rest
    else quoteUnit c ++ quoteBody (d :: rest)

def quote (s : Text) : Text := quotationMark :: (quoteBody s ++ [quotationMark])

mutual

def stringify : Json → Text
  | .null => units "null"
  | .bool true => units "true"
  | .bool false => units "false"
  | .number literal => literal
  | .str s => quote s
  | .arr elements => openBracket :: (stringifyElements elements ++ [closeBracket])
  | .obj members => openBrace :: (stringifyMembers members ++ [closeBrace])

def stringifyElements : List Json → Text
  | [] => []
  | [x] => stringify x
  | x :: y :: rest => stringify x ++ comma :: stringifyElements (y :: rest)

def stringifyMembers : List (Text × Json) → Text
  | [] => []
  | [(key, x)] => quote key ++ colon :: stringify x
  | (key, x) :: y :: rest =>
    quote key ++ colon :: (stringify x ++ comma :: stringifyMembers (y :: rest))

end

/-! ## Reading -/

/-- Each function takes what it reads off the front and returns the rest. -/
abbrev Reader (α : Type) := Text → Option (α × Text)

def skip (t : Text) : Text := t.dropWhile isSpace

def hexValue (c : UInt16) : Option Nat :=
  if isDigit c then some (c.toNat - 0x30)
  else if 0x61 ≤ c.toNat ∧ c.toNat ≤ 0x66 then some (c.toNat - 0x61 + 10)
  else if 0x41 ≤ c.toNat ∧ c.toNat ≤ 0x46 then some (c.toNat - 0x41 + 10)
  else none

def unicodeUnit (h1 h2 h3 h4 : UInt16) : Option UInt16 := do
  let n1 ← hexValue h1
  let n2 ← hexValue h2
  let n3 ← hexValue h3
  let n4 ← hexValue h4
  some (UInt16.ofNat (n1 * 4096 + n2 * 256 + n3 * 16 + n4))

/-- What a short escape stands for. -/
def escapedUnit (letter : UInt16) : Option UInt16 :=
  if letter = quotationMark then some quotationMark
  else if letter = backslash then some backslash
  else if letter = 0x2F then some 0x2F
  else if letter = 0x62 then some 0x08
  else if letter = 0x66 then some 0x0C
  else if letter = 0x6E then some 0x0A
  else if letter = 0x72 then some 0x0D
  else if letter = 0x74 then some 0x09
  else none

/-- The string behind its opening quotation mark. -/
def stringBody : Reader Text
  | [] => none
  | c :: rest =>
    if c = quotationMark then some ([], rest)
    else if c = backslash then
      match rest with
      | [] => none
      | letter :: rest =>
        if letter = unicodeLetter then
          match rest with
          | h1 :: h2 :: h3 :: h4 :: rest => do
            let u ← unicodeUnit h1 h2 h3 h4
            let (s, rest) ← stringBody rest
            some (u :: s, rest)
          | _ => none
        else do
          let u ← escapedUnit letter
          let (s, rest) ← stringBody rest
          some (u :: s, rest)
    else if isControl c then none
    else do
      let (s, rest) ← stringBody rest
      some (c :: s, rest)

/-- One digit or more. -/
def digits (t : Text) : Option Text :=
  if (t.takeWhile isDigit).isEmpty then none else some (t.dropWhile isDigit)

/-- Zero, or digits that do not start with one. -/
def whole : Text → Option Text
  | [] => none
  | c :: rest => if c = 0x30 then some rest else digits (c :: rest)

def fraction : Text → Option Text
  | [] => some []
  | c :: rest => if c = 0x2E then digits rest else some (c :: rest)

def exponent : Text → Option Text
  | [] => some []
  | c :: rest =>
    if c = 0x65 ∨ c = 0x45 then
      match rest with
      | [] => none
      | sign :: rest' => if sign = 0x2B ∨ sign = 0x2D then digits rest' else digits rest
    else some (c :: rest)

def minus : Text → Text
  | [] => []
  | c :: rest => if c = 0x2D then rest else c :: rest

def number : Reader Json := fun t => do
  let rest ← whole (minus t)
  let rest ← fraction rest
  let rest ← exponent rest
  some (.number (t.take (t.length - rest.length)), rest)

def word (w : Text) (x : Json) : Reader Json := fun t =>
  if t.take w.length = w then some (x, t.drop w.length) else none

/-- The character, with space before it. -/
def punctuation (p : UInt16) (t : Text) : Option Text :=
  match skip t with
  | [] => none
  | c :: rest => if c = p then some rest else none

mutual

/-- A value with space before it. Two levels read a character at least, so twice the
length of the text is fuel enough. -/
def value : Nat → Reader Json
  | 0, _ => none
  | n + 1, t =>
    match skip t with
    | [] => none
    | c :: rest =>
      if c = quotationMark then do
        let (s, rest) ← stringBody rest
        some (.str s, rest)
      else if c = openBrace then
        match punctuation closeBrace rest with
        | some rest => some (.obj [], rest)
        | none => do
          let (ms, rest) ← members n rest
          some (.obj ms, rest)
      else if c = openBracket then
        match punctuation closeBracket rest with
        | some rest => some (.arr [], rest)
        | none => do
          let (xs, rest) ← elements n rest
          some (.arr xs, rest)
      else if c = 0x6E then word (units "null") .null (c :: rest)
      else if c = 0x74 then word (units "true") (.bool true) (c :: rest)
      else if c = 0x66 then word (units "false") (.bool false) (c :: rest)
      else number (c :: rest)

def elements : Nat → Reader (List Json)
  | 0, _ => none
  | n + 1, t => do
    let (x, rest) ← value n t
    match punctuation comma rest with
    | some rest => do
      let (xs, rest) ← elements n rest
      some (x :: xs, rest)
    | none => do
      let rest ← punctuation closeBracket rest
      some ([x], rest)

def members : Nat → Reader (List (Text × Json))
  | 0, _ => none
  | n + 1, t => do
    let rest ← punctuation quotationMark t
    let (key, rest) ← stringBody rest
    let rest ← punctuation colon rest
    let (x, rest) ← value n rest
    match punctuation comma rest with
    | some rest => do
      let (ms, rest) ← members n rest
      some ((key, x) :: ms, rest)
    | none => do
      let rest ← punctuation closeBrace rest
      some ([(key, x)], rest)

end

/-- `none` where `JSON.parse` throws. -/
def parse (t : Text) : Option Json := do
  let (x, rest) ← value (2 * t.length + 1) t
  if (skip rest).isEmpty then some x else none

/-- The member of an object under a key. Of two members under one key the later counts. -/
def lookup (key : Text) (members : List (Text × Json)) : Option Json :=
  (members.reverse.find? fun member => decide (member.1 = key)).map Prod.snd

/-- `none` where reading a property throws, `some none` where it is undefined. -/
def property (key : Text) : Json → Option (Option Json)
  | .null => none
  | .obj members => some (lookup key members)
  | _ => some none

/-! ## What is written is read back -/

theorem hexValue_hexDigit : ∀ n, n < 16 → hexValue (hexDigit n) = some n := by decide

theorem unicodeUnit_hexDigits (c : UInt16) :
    unicodeUnit (hexDigit (c.toNat / 4096)) (hexDigit (c.toNat / 256 % 16))
      (hexDigit (c.toNat / 16 % 16)) (hexDigit (c.toNat % 16)) = some c := by
  have hsize := c.toNat_lt
  have h1 := hexValue_hexDigit (c.toNat / 4096) (by omega)
  have h2 := hexValue_hexDigit (c.toNat / 256 % 16) (by omega)
  have h3 := hexValue_hexDigit (c.toNat / 16 % 16) (by omega)
  have h4 := hexValue_hexDigit (c.toNat % 16) (by omega)
  have hsum : c.toNat / 4096 * 4096 + c.toNat / 256 % 16 * 256 + c.toNat / 16 % 16 * 16
      + c.toNat % 16 = c.toNat := by
    omega
  unfold unicodeUnit
  rw [h1, h2, h3, h4]
  simp only [Option.bind_eq_bind, Option.bind_some, hsum]
  rw [UInt16.ofNat_toNat]

/-- What reading the inside of a string gives with one unit more at its front. -/
def prepend (c : UInt16) (read : Option (Text × Text)) : Option (Text × Text) :=
  read.map fun p => (c :: p.1, p.2)

theorem stringBody_unicodeEscape (c : UInt16) (rest : Text) :
    stringBody (unicodeEscape c ++ rest) = prepend c (stringBody rest) := by
  have hback : (backslash : UInt16) ≠ quotationMark := by decide
  unfold unicodeEscape
  simp only [List.cons_append, List.nil_append]
  rw [stringBody, if_neg hback, if_pos rfl]
  simp only [if_true, unicodeUnit_hexDigits]
  cases stringBody rest with
  | none => rfl
  | some p => rfl

theorem stringBody_plain {c : UInt16} (hquote : c ≠ quotationMark) (hback : c ≠ backslash)
    (hcontrol : isControl c = false) (rest : Text) :
    stringBody (c :: rest) = prepend c (stringBody rest) := by
  rw [stringBody.eq_def]
  simp only [hquote, hback, hcontrol, if_false, Bool.false_eq_true]
  cases stringBody rest with
  | none => rfl
  | some p => rfl

/-- The letter of a short escape is read as the unit it was written for. -/
theorem escapedUnit_escapeLetter {c letter : UInt16} (h : escapeLetter c = some letter) :
    letter ≠ unicodeLetter ∧ escapedUnit letter = some c := by
  unfold escapeLetter at h
  split_ifs at h with h1 h2 h3 h4 h5 h6 h7
  all_goals
    rw [Option.some.injEq] at h
    subst h
    subst c
    decide

theorem stringBody_shortEscape {c letter : UInt16} (h : escapeLetter c = some letter)
    (rest : Text) :
    stringBody (backslash :: letter :: rest) = prepend c (stringBody rest) := by
  have hback : (backslash : UInt16) ≠ quotationMark := by decide
  obtain ⟨hletter, hunit⟩ := escapedUnit_escapeLetter h
  rw [stringBody.eq_def]
  simp only [hback, hletter, if_false, if_true, hunit]
  cases stringBody rest with
  | none => rfl
  | some p => rfl

theorem ne_of_escapeLetter {c : UInt16} (h : escapeLetter c = none) :
    c ≠ quotationMark ∧ c ≠ backslash := by
  unfold escapeLetter at h
  split_ifs at h with h1 h2 h3 h4 h5 h6 h7
  exact ⟨h6, h7⟩

theorem stringBody_quoteUnit (c : UInt16) (rest : Text) :
    stringBody (quoteUnit c ++ rest) = prepend c (stringBody rest) := by
  unfold quoteUnit
  cases hletter : escapeLetter c with
  | some letter => exact stringBody_shortEscape hletter rest
  | none =>
    obtain ⟨hquote, hback⟩ := ne_of_escapeLetter hletter
    cases hcontrol : isControl c with
    | true =>
      simp only [Bool.true_or, if_true]
      exact stringBody_unicodeEscape c rest
    | false =>
      simp only [Bool.false_or]
      split
      · exact stringBody_unicodeEscape c rest
      · exact stringBody_plain hquote hback hcontrol rest

/-- Half of a pair is no character that a string escapes. -/
theorem plain_of_surrogate {c : UInt16} (h : 0xD800 ≤ c.toNat) :
    c ≠ quotationMark ∧ c ≠ backslash ∧ isControl c = false := by
  refine ⟨?_, ?_, ?_⟩
  · intro hc
    subst hc
    revert h
    decide
  · intro hc
    subst hc
    revert h
    decide
  · unfold isControl
    rw [decide_eq_false_iff_not, UInt16.lt_iff_toNat_lt]
    have : (0x20 : UInt16).toNat = 0x20 := rfl
    omega

theorem le_of_isLead {c : UInt16} (h : isLead c = true) : 0xD800 ≤ c.toNat := by
  unfold isLead at h
  rw [Bool.and_eq_true, decide_eq_true_eq, UInt16.le_iff_toNat_le] at h
  exact h.1

theorem le_of_isTrail {c : UInt16} (h : isTrail c = true) : 0xD800 ≤ c.toNat := by
  unfold isTrail at h
  rw [Bool.and_eq_true, decide_eq_true_eq, UInt16.le_iff_toNat_le] at h
  have hlow : (0xDC00 : UInt16).toNat = 0xDC00 := rfl
  omega

theorem stringBody_end (rest : Text) : stringBody (quotationMark :: rest) = some ([], rest) := by
  rw [stringBody.eq_def]
  simp

theorem stringBody_quoteBody (s rest : Text) :
    stringBody (quoteBody s ++ quotationMark :: rest) = some (s, rest) := by
  induction s using quoteBody.induct with
  | case1 =>
    rw [quoteBody, List.nil_append]
    exact stringBody_end rest
  | case2 c =>
    rw [quoteBody, stringBody_quoteUnit, stringBody_end]
    rfl
  | case3 c d s hpair ih =>
    -- a pair goes through as it stands
    have hhalves := hpair
    rw [Bool.and_eq_true] at hhalves
    obtain ⟨h1, h2, h3⟩ := plain_of_surrogate (le_of_isLead hhalves.1)
    obtain ⟨h4, h5, h6⟩ := plain_of_surrogate (le_of_isTrail hhalves.2)
    rw [quoteBody, if_pos hpair, List.cons_append, List.cons_append,
      stringBody_plain h1 h2 h3, stringBody_plain h4 h5 h6, ih]
    rfl
  | case4 c d s hpair ih =>
    rw [quoteBody, if_neg hpair, List.append_assoc, stringBody_quoteUnit, ih]
    rfl

theorem skip_of_not_space {c : UInt16} (h : isSpace c = false) (rest : Text) :
    skip (c :: rest) = c :: rest := by
  unfold skip
  rw [List.dropWhile_cons_of_neg (by simp [h])]

theorem punctuation_self {p : UInt16} (h : isSpace p = false) (rest : Text) :
    punctuation p (p :: rest) = some rest := by
  unfold punctuation
  rw [skip_of_not_space h]
  simp

theorem punctuation_other {p c : UInt16} (h : isSpace c = false) (hne : c ≠ p) (rest : Text) :
    punctuation p (c :: rest) = none := by
  unfold punctuation
  rw [skip_of_not_space h]
  simp [hne]

theorem value_quote (n : Nat) (s rest : Text) :
    value (n + 1) (quote s ++ rest) = some (.str s, rest) := by
  have hcons : quote s ++ rest = quotationMark :: (quoteBody s ++ quotationMark :: rest) := by
    simp [quote]
  rw [hcons, value, skip_of_not_space (by decide)]
  simp [stringBody_quoteBody]

/-- An object of one string. -/
theorem members_single (n : Nat) (key s rest : Text) :
    members (n + 2) (stringifyMembers [(key, .str s)] ++ closeBrace :: rest) =
      some ([(key, .str s)], rest) := by
  have hcons : stringifyMembers [(key, .str s)] ++ closeBrace :: rest = quotationMark ::
      (quoteBody key ++ quotationMark :: (colon :: (quote s ++ closeBrace :: rest))) := by
    simp [stringifyMembers, stringify, quote]
  rw [hcons, members, punctuation_self (by decide)]
  simp only [Option.bind_eq_bind, Option.bind_some, stringBody_quoteBody]
  rw [punctuation_self (by decide)]
  simp only [Option.bind_some, value_quote]
  rw [punctuation_other (by decide) (by decide), punctuation_self (by decide)]
  simp

theorem parse_stringify_single (key s : Text) :
    parse (stringify (.obj [(key, .str s)])) = some (.obj [(key, .str s)]) := by
  have htext : stringify (.obj [(key, .str s)]) =
      openBrace :: (stringifyMembers [(key, .str s)] ++ [closeBrace]) := by
    rw [stringify]
  have hfirst : ∃ rest, stringifyMembers [(key, .str s)] ++ [closeBrace] =
      quotationMark :: rest := by
    refine ⟨quoteBody key ++ quotationMark :: colon :: (quote s ++ [closeBrace]), ?_⟩
    simp [stringifyMembers, stringify, quote]
  have hmembers := fun n => members_single n key s []
  generalize hinside : stringifyMembers [(key, .str s)] ++ [closeBrace] = inside
    at htext hfirst hmembers
  have hlength : ∃ n, 2 * (openBrace :: inside).length = n + 2 := by
    refine ⟨2 * inside.length, ?_⟩
    rw [List.length_cons]
    omega
  obtain ⟨n, hn⟩ := hlength
  obtain ⟨rest, hrest⟩ := hfirst
  unfold parse
  rw [htext, hn, value, skip_of_not_space (by decide)]
  have hopen : (openBrace : UInt16) ≠ quotationMark := by decide
  have hempty : punctuation closeBrace inside = none := by
    rw [hrest]
    exact punctuation_other (by decide) (by decide) rest
  simp only [hopen, if_false, if_true, hempty, hmembers n, Option.bind_eq_bind, Option.bind_some]
  simp [skip]

end json
