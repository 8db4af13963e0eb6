-- Paths of URLs over UTF-16 code units: what percent-encoding makes of a
-- segment, and what resolving makes of a path, its dot segments removed.
import Mathlib.Data.List.DropRight
import TiktokOutreach.Lib.Json

open json

namespace url_paths

/-! ## Code points -/

/-- A surrogate without its other half stands for itself. -/
def codePoints : Text → List Nat
  | [] => []
  | [c] => [c.toNat]
  | c :: d :: rest =>
    if isLead c && isTrail d then
      (0x10000 + (c.toNat - 0xD800) * 0x400 + (d.toNat - 0xDC00)) :: codePoints rest
    else c.toNat :: codePoints (d :: rest)

def isSurrogate (p : Nat) : Bool := decide (0xD800 ≤ p) && decide (p ≤ 0xDFFF)

/-- The code point that stands in a URL for a surrogate without its other half. -/
def scalarValue (p : Nat) : Nat := if isSurrogate p then 0xFFFD else p

def utf8 (p : Nat) : List Nat :=
  if p < 0x80 then [p]
  else if p < 0x800 then [0xC0 + p / 0x40, 0x80 + p % 0x40]
  else if p < 0x10000 then [0xE0 + p / 0x1000, 0x80 + p / 0x40 % 0x40, 0x80 + p % 0x40]
  else [0xF0 + p / 0x40000, 0x80 + p / 0x1000 % 0x40, 0x80 + p / 0x40 % 0x40, 0x80 + p % 0x40]

/-! ## Percent-encoding -/

abbrev percentSign : UInt16 := 0x25
abbrev fullStop : UInt16 := 0x2E
abbrev slash : UInt16 := 0x2F

/-- A hexadecimal digit, in upper case. -/
def upperHexDigit (n : Nat) : UInt16 :=
  if n < 10 then UInt16.ofNat (0x30 + n) else UInt16.ofNat (0x41 + (n - 10))

def percentByte (b : Nat) : Text := [percentSign, upperHexDigit (b / 16), upperHexDigit (b % 16)]

def percentEncode (p : Nat) : Text := (utf8 p).flatMap percentByte

def isAlphanumeric (p : Nat) : Bool :=
  (decide (0x30 ≤ p) && decide (p ≤ 0x39)) || (decide (0x41 ≤ p) && decide (p ≤ 0x5A)) ||
    (decide (0x61 ≤ p) && decide (p ≤ 0x7A))

/-- The marks that a component keeps: `-_.!~*'()`. -/
def marks : List Nat := [0x2D, 0x5F, 0x2E, 0x21, 0x7E, 0x2A, 0x27, 0x28, 0x29]

def isUnreserved (p : Nat) : Bool := isAlphanumeric p || marks.contains p

def encodePoint (p : Nat) : Text :=
  if isUnreserved p then [UInt16.ofNat p] else percentEncode p

/-- No text where a surrogate lacks its other half. -/
def encodeURIComponent (t : Text) : Option Text :=
  if (codePoints t).any isSurrogate then none else some ((codePoints t).flatMap encodePoint)

/-! ## Resolving -/

/-- What a path encodes: ``"#<>?^`{}``, spaces, control characters and all that is not ASCII. -/
def inPathEncodeSet (p : Nat) : Bool :=
  decide (p ≤ 0x20) || decide (0x7E < p) ||
    [0x22, 0x23, 0x3C, 0x3E, 0x3F, 0x5E, 0x60, 0x7B, 0x7D].contains p

def encodeInPath (p : Nat) : Text :=
  if inPathEncodeSet p then percentEncode p else [UInt16.ofNat p]

def lower (c : UInt16) : UInt16 :=
  if decide (0x41 ≤ c) && decide (c ≤ 0x5A) then c + 0x20 else c

/-- `.` as it may stand in a dot segment. -/
def dots : List Text := [units ".", units "%2e"]

def isSingleDot (segment : Text) : Bool := dots.contains (segment.map lower)

def isDoubleDot (segment : Text) : Bool :=
  (dots.flatMap fun d => dots.map (d ++ ·)).contains (segment.map lower)

/-- A segment with a separator behind it. -/
def pushSegment (path : List Text) (segment : Text) : List Text :=
  if isDoubleDot segment then path.dropLast
  else if isSingleDot segment then path
  else path ++ [segment]

/-- The last segment: behind a dot segment stands an empty one. -/
def endPath (path : List Text) (segment : Text) : List Text :=
  if isDoubleDot segment || isSingleDot segment then pushSegment path segment ++ [[]]
  else path ++ [segment]

/-- `/` and, where the scheme is special, `\`. -/
def isSeparator (p : Nat) : Bool := p == 0x2F || p == 0x5C

/-- `?` and `#`. -/
def endsPath (p : Nat) : Bool := p == 0x3F || p == 0x23

/-- The segments of the path that begins here, the last one read so far in `segment`. -/
def pathState (path : List Text) (segment : Text) : List Nat → List Text
  | [] => endPath path segment
  | p :: rest =>
    if isSeparator p then pathState (pushSegment path segment) [] rest
    else if endsPath p then endPath path segment
    else pathState path (segment ++ encodeInPath p) rest

/-- Nothing around the text that is space or control, and no tab or line break in it. -/
def clean (t : Text) : Text :=
  let isBlank := fun c : UInt16 => decide (c ≤ 0x20)
  ((t.dropWhile isBlank).rdropWhile isBlank).filter fun c => c ≠ 0x09 && c ≠ 0x0A && c ≠ 0x0D

/-- A URL of a special scheme that is no file's, without its query. -/
structure Url where
  origin : Text
  path : List Text
  deriving DecidableEq, Repr

def Url.pathname (url : Url) : Text := url.path.flatMap (slash :: ·)

/-- `new URL(reference, base)`, where the reference is a path with one slash in front. -/
def resolve (base : Url) (reference : Text) : Option Url :=
  match (codePoints (clean reference)).map scalarValue with
  | 0x2F :: rest =>
    if (rest.head?.map isSeparator).getD false then none
    else some { base with path := pathState [] [] rest }
  | _ => none

/-! ## Paths that resolving leaves as they are -/

/-- A unit that stands in a path for itself. -/
def isKept (c : UInt16) : Bool := !inPathEncodeSet c.toNat && !isSeparator c.toNat

/-- A segment that is neither encoded nor removed. -/
structure Kept (segment : Text) : Prop where
  units : ∀ c ∈ segment, isKept c = true
  notSingle : isSingleDot segment = false
  notDouble : isDoubleDot segment = false

theorem bounds_of_kept {c : UInt16} (h : isKept c = true) : 0x20 < c.toNat ∧ c.toNat ≤ 0x7E := by
  simp only [isKept, inPathEncodeSet, Bool.and_eq_true, Bool.not_eq_true', Bool.or_eq_false_iff,
    decide_eq_false_iff_not] at h
  omega

theorem codePoints_of_lt {t : Text} (h : ∀ c ∈ t, c.toNat < 0xD800) :
    codePoints t = t.map UInt16.toNat := by
  fun_induction codePoints t with
  | case1 => rfl
  | case2 c => rfl
  | case3 c d rest hpair ih =>
    have hc := h c (by simp)
    simp [isLead, UInt16.le_iff_toNat_le] at hpair
    omega
  | case4 c d rest hpair ih =>
    rw [ih fun x hx => h x (List.mem_cons_of_mem c hx)]
    rfl

theorem scalarValue_of_lt {p : Nat} (h : p < 0xD800) : scalarValue p = p := by
  have : ¬ 0xD800 ≤ p := by omega
  simp [scalarValue, isSurrogate, this]

theorem clean_of_lt {t : Text} (h : ∀ c ∈ t, 0x20 < c.toNat) : clean t = t := by
  have hblank : ∀ c ∈ t, decide (c ≤ 0x20) = false := by
    intro c hc
    have := h c hc
    simp only [decide_eq_false_iff_not, UInt16.le_iff_toNat_le]
    exact Nat.not_le.2 this
  have hfront : t.dropWhile (fun c => decide (c ≤ 0x20)) = t := by
    cases t with
    | nil => rfl
    | cons c rest => rw [List.dropWhile_cons_of_neg (by simp [hblank c (by simp)])]
  have hback : t.rdropWhile (fun c => decide (c ≤ 0x20)) = t := by
    rw [List.rdropWhile_eq_self_iff]
    intro hne
    simp [hblank _ (List.getLast_mem hne)]
  have hbreak : t.filter (fun c => c ≠ 0x09 && c ≠ 0x0A && c ≠ 0x0D) = t := by
    rw [List.filter_eq_self]
    intro c hc
    have := h c hc
    simp only [ne_eq, Bool.and_eq_true, decide_eq_true_eq]
    refine ⟨⟨?_, ?_⟩, ?_⟩ <;> (rintro rfl; contradiction)
  simp only [clean]
  rw [hfront, hback, hbreak]

/-- A segment is read unit by unit. -/
theorem pathState_segment {path : List Text} {read segment : Text} {rest : List Nat}
    (h : ∀ c ∈ segment, isKept c = true) :
    pathState path read (segment.map UInt16.toNat ++ rest) =
      pathState path (read ++ segment) rest := by
  induction segment generalizing read with
  | nil => simp
  | cons c segment ih =>
    have hc := h c (by simp)
    have hset : inPathEncodeSet c.toNat = false := by
      simp only [isKept, Bool.and_eq_true, Bool.not_eq_true'] at hc
      exact hc.1
    have hsep : isSeparator c.toNat = false := by
      simp only [isKept, Bool.and_eq_true, Bool.not_eq_true'] at hc
      exact hc.2
    have hend : endsPath c.toNat = false := by
      by_contra hends
      simp only [endsPath, Bool.not_eq_false, Bool.or_eq_true, beq_iff_eq] at hends
      rcases hends with heq | heq <;> simp [heq, inPathEncodeSet] at hset
    have henc : encodeInPath c.toNat = [c] := by simp [encodeInPath, hset]
    simp only [List.map_cons, List.cons_append, pathState, hsep, hend, henc, Bool.false_eq_true,
      if_false]
    rw [ih fun x hx => h x (List.mem_cons_of_mem c hx)]
    simp

/-- The text of a path. -/
def joined (segments : List Text) : Text := segments.flatMap (slash :: ·)

theorem map_joined_cons (segment : Text) (segments : List Text) :
    (joined (segment :: segments)).map UInt16.toNat =
      0x2F :: (segment.map UInt16.toNat ++ (joined segments).map UInt16.toNat) := by
  have hslash : slash.toNat = 0x2F := rfl
  simp [joined, hslash]

theorem pathState_joined {path : List Text} {segment : Text} {segments : List Text}
    (hsegment : Kept segment) (h : ∀ s ∈ segments, Kept s) :
    pathState path segment ((joined segments).map UInt16.toNat) = path ++ segment :: segments := by
  induction segments generalizing path segment with
  | nil => simp [joined, pathState, endPath, hsegment.notSingle, hsegment.notDouble]
  | cons s segments ih =>
    have hs : Kept s := h s (by simp)
    have hpush : pushSegment path segment = path ++ [segment] := by
      simp [pushSegment, hsegment.notSingle, hsegment.notDouble]
    rw [map_joined_cons]
    simp only [pathState, isSeparator, BEq.rfl, Bool.true_or, if_true]
    rw [pathState_segment hs.units, hpush, List.nil_append,
      ih hs fun x hx => h x (List.mem_cons_of_mem s hx)]
    simp

/-- A path of kept segments is resolved to these segments. -/
theorem resolve_joined {base : Url} {segment : Text} {segments : List Text}
    (hne : segment ≠ []) (hkept : ∀ s ∈ segment :: segments, Kept s) :
    resolve base (joined (segment :: segments)) =
      some { base with path := segment :: segments } := by
  have hbounds : ∀ c ∈ joined (segment :: segments), 0x20 < c.toNat ∧ c.toNat ≤ 0x7E := by
    intro c hc
    simp only [joined, List.mem_flatMap, List.mem_cons] at hc
    obtain ⟨s, hs, rfl | hc⟩ := hc
    · decide
    · exact bounds_of_kept ((hkept s (by simpa using hs)).units c hc)
  have hscalars : ((joined (segment :: segments)).map UInt16.toNat).map scalarValue =
      (joined (segment :: segments)).map UInt16.toNat := by
    rw [List.map_map]
    apply List.map_congr_left
    intro c hc
    have := hbounds c hc
    exact scalarValue_of_lt (by omega)
  have hclean : clean (joined (segment :: segments)) = joined (segment :: segments) :=
    clean_of_lt fun c hc => (hbounds c hc).1
  have hpoints : codePoints (joined (segment :: segments)) =
      (joined (segment :: segments)).map UInt16.toNat :=
    codePoints_of_lt fun c hc => by have := hbounds c hc; omega
  have hread : (codePoints (clean (joined (segment :: segments)))).map scalarValue =
      0x2F :: (segment.map UInt16.toNat ++ (joined segments).map UInt16.toNat) := by
    rw [hclean, hpoints, hscalars, map_joined_cons]
  have hsegment : Kept segment := hkept segment (by simp)
  -- the first segment has a unit, and that is no second slash
  have hhead : ((segment.map UInt16.toNat ++ (joined segments).map UInt16.toNat).head?.map
      isSeparator).getD false = false := by
    obtain ⟨c, rest, rfl⟩ := List.exists_cons_of_ne_nil hne
    have hc := hsegment.units c (by simp)
    simp only [isKept, Bool.and_eq_true, Bool.not_eq_true'] at hc
    simp [hc.2]
  simp only [resolve, hread, hhead, Bool.false_eq_true, if_false]
  rw [pathState_segment hsegment.units, List.nil_append,
    pathState_joined hsegment fun s hs => hkept s (List.mem_cons_of_mem segment hs)]
  simp

/-! ## Encoded components -/

theorem codePoints_lt (t : Text) : ∀ p ∈ codePoints t, p < 0x110000 := by
  fun_induction codePoints t with
  | case1 => simp
  | case2 c =>
    have := c.toNat_lt
    simp only [List.mem_singleton, forall_eq]
    omega
  | case3 c d rest hpair ih =>
    simp only [isLead, isTrail, Bool.and_eq_true, decide_eq_true_eq,
      UInt16.le_iff_toNat_le] at hpair
    obtain ⟨⟨_, hc⟩, _, hd⟩ := hpair
    change c.toNat ≤ 0xDBFF at hc
    change d.toNat ≤ 0xDFFF at hd
    refine List.forall_mem_cons.2 ⟨?_, ih⟩
    omega
  | case4 c d rest hpair ih =>
    have := c.toNat_lt
    refine List.forall_mem_cons.2 ⟨?_, ih⟩
    omega

theorem cons_of_codePoints {t : Text} {p : Nat} {rest : List Nat} (h : codePoints t = p :: rest)
    (hp : p < 0xD800) : ∃ u, t = UInt16.ofNat p :: u ∧ codePoints u = rest := by
  fun_cases codePoints t with
  | case1 => simp [codePoints] at h
  | case2 c =>
    simp only [codePoints, List.cons.injEq] at h
    exact ⟨[], by simp [← h.1], by simpa [codePoints] using h.2⟩
  | case3 c d u hpair =>
    simp only [codePoints, hpair, if_true, List.cons.injEq] at h
    omega
  | case4 c d u hpair =>
    rw [codePoints, if_neg hpair] at h
    obtain ⟨hc, hrest⟩ := List.cons.inj h
    exact ⟨d :: u, by simp [← hc], hrest⟩

theorem isKept_upperHexDigit : ∀ n < 16, isKept (upperHexDigit n) = true := by decide

theorem utf8_lt {p b : Nat} (hp : p < 0x110000) (hb : b ∈ utf8 p) : b < 256 := by
  unfold utf8 at hb
  split_ifs at hb <;> simp only [List.mem_cons, List.not_mem_nil, or_false] at hb <;> omega

theorem isKept_of_mem_percentEncode {p : Nat} {c : UInt16} (hp : p < 0x110000)
    (hc : c ∈ percentEncode p) : isKept c = true := by
  simp only [percentEncode, List.mem_flatMap, percentByte, List.mem_cons, List.not_mem_nil,
    or_false] at hc
  obtain ⟨b, hb, rfl | rfl | rfl⟩ := hc
  · decide
  · have := utf8_lt hp hb
    exact isKept_upperHexDigit _ (by omega)
  · exact isKept_upperHexDigit _ (by omega)

theorem isUnreserved_lt {p : Nat} (h : isUnreserved p = true) : p < 0x7F := by
  by_contra hp
  have h0 : isAlphanumeric p = false := by
    simp only [isAlphanumeric, Bool.or_eq_false_iff, Bool.and_eq_false_iff, decide_eq_false_iff_not]
    omega
  simp only [isUnreserved, h0, Bool.false_or, marks, List.contains_cons, List.contains_nil,
    Bool.or_eq_true, beq_iff_eq, Bool.or_false] at h
  omega

theorem isKept_of_isUnreserved :
    ∀ p < 0x7F, isUnreserved p = true → isKept (UInt16.ofNat p) = true := by
  decide

theorem isKept_of_mem_encodePoint {p : Nat} {c : UInt16} (hp : p < 0x110000)
    (hc : c ∈ encodePoint p) : isKept c = true := by
  unfold encodePoint at hc
  split at hc
  · next h =>
    rw [List.mem_singleton.1 hc]
    exact isKept_of_isUnreserved p (isUnreserved_lt h) h
  · exact isKept_of_mem_percentEncode hp hc

theorem percentEncode_eq {p : Nat} (hp : p < 0x110000) :
    ∃ b rest, percentEncode p = percentByte b ++ rest ∧ b < 256 ∧ (b < 0x80 → b = p) := by
  unfold percentEncode utf8
  split_ifs
  · exact ⟨p, [], by simp, by omega, fun _ => rfl⟩
  all_goals exact ⟨_, _, List.flatMap_cons, by omega, by omega⟩

theorem lower_upperHexDigit : ∀ n < 16,
    (lower (upperHexDigit n) = 0x32 → n = 2) ∧ (lower (upperHexDigit n) = 0x65 → n = 14) := by
  decide

theorem lower_unreserved : ∀ p < 0x7F, isUnreserved p = true →
    lower (UInt16.ofNat p) ≠ percentSign ∧
      (lower (UInt16.ofNat p) = fullStop → p = 0x2E) := by
  decide

/-- What is encoded begins with a dot only where the text does. -/
theorem dot_of_encodePoint {p : Nat} {s d rest : Text} (hp : p < 0x110000) (hd : d ∈ dots)
    (h : (encodePoint p ++ s).map lower = d ++ rest) : p = 0x2E ∧ s.map lower = rest := by
  have hdots : d = [fullStop] ∨ d = [percentSign, 0x32, 0x65] := by
    have hdot : units "." = [fullStop] := rfl
    have hcode : units "%2e" = [percentSign, 0x32, 0x65] := rfl
    simpa [dots, hdot, hcode] using hd
  by_cases hkeep : isUnreserved p = true
  · have hpoint : encodePoint p = [UInt16.ofNat p] := by simp [encodePoint, hkeep]
    obtain ⟨hpercent, hstop⟩ := lower_unreserved p (isUnreserved_lt hkeep) hkeep
    rw [hpoint] at h
    rcases hdots with rfl | rfl
    · obtain ⟨hfirst, hrest⟩ := List.cons.inj h
      exact ⟨hstop hfirst, hrest⟩
    · exact absurd (List.cons.inj h).1 hpercent
  · obtain ⟨b, more, hbytes, hb, hbp⟩ := percentEncode_eq hp
    have hpoint : encodePoint p = percentByte b ++ more := by simp [encodePoint, hkeep, hbytes]
    rw [hpoint] at h
    have hsign : lower percentSign = percentSign := by decide
    rcases hdots with rfl | rfl
    · have hfirst : percentSign = fullStop := by
        rw [← hsign]
        exact (List.cons.inj h).1
      exact absurd hfirst (by decide)
    · simp only [percentByte, List.cons_append, List.nil_append, List.map_cons,
        List.cons.injEq] at h
      have htens := (lower_upperHexDigit (b / 16) (by omega)).1 h.2.1
      have hones := (lower_upperHexDigit (b % 16) (by omega)).2 h.2.2.1
      -- the byte is that of the dot, which is not encoded
      have hdot : p = 0x2E := by
        have := hbp (by omega)
        omega
      rw [hdot] at hkeep
      exact absurd (by decide) hkeep

theorem encodePoint_ne_nil (p : Nat) : encodePoint p ≠ [] := by
  unfold encodePoint percentEncode utf8
  split_ifs <;> simp [percentByte]

theorem eq_nil_of_encoded {points : List Nat} (h : points.flatMap encodePoint = []) :
    points = [] := by
  cases points with
  | nil => rfl
  | cons p rest =>
    rw [List.flatMap_cons] at h
    exact absurd (List.append_eq_nil_iff.1 h).1 (encodePoint_ne_nil p)

theorem dot_of_single {points : List Nat} (hp : ∀ p ∈ points, p < 0x110000) {d : Text}
    (hd : d ∈ dots) (h : (points.flatMap encodePoint).map lower = d) : points = [0x2E] := by
  cases points with
  | nil =>
    have hempty : d ≠ [] := by rintro rfl; revert hd; decide
    exact absurd h.symm hempty
  | cons p rest =>
    rw [List.flatMap_cons, ← List.append_nil d] at h
    obtain ⟨rfl, hrest⟩ := dot_of_encodePoint (hp p (by simp)) hd h
    rw [eq_nil_of_encoded (List.map_eq_nil_iff.1 hrest)]

theorem dots_of_double {points : List Nat} (hp : ∀ p ∈ points, p < 0x110000) {d e : Text}
    (hd : d ∈ dots) (he : e ∈ dots) (h : (points.flatMap encodePoint).map lower = d ++ e) :
    points = [0x2E, 0x2E] := by
  cases points with
  | nil =>
    have hempty : d ≠ [] := by rintro rfl; revert hd; decide
    exact absurd (List.append_eq_nil_iff.1 h.symm).1 hempty
  | cons p rest =>
    rw [List.flatMap_cons] at h
    obtain ⟨rfl, hrest⟩ := dot_of_encodePoint (hp p (by simp)) hd h
    rw [dot_of_single (fun q hq => hp q (by simp [hq])) he hrest]

theorem eq_nil_of_codePoints {t : Text} (h : codePoints t = []) : t = [] := by
  match t with
  | [] => rfl
  | [c] => simp [codePoints] at h
  | c :: d :: rest =>
    rw [codePoints] at h
    split at h <;> cases h

theorem eq_dot_of_codePoints {t : Text} (h : codePoints t = [0x2E]) : t = units "." := by
  obtain ⟨u, rfl, hu⟩ := cons_of_codePoints h (by omega)
  rw [eq_nil_of_codePoints hu]
  rfl

theorem eq_dots_of_codePoints {t : Text} (h : codePoints t = [0x2E, 0x2E]) : t = units ".." := by
  obtain ⟨u, rfl, hu⟩ := cons_of_codePoints h (by omega)
  rw [eq_dot_of_codePoints hu]
  rfl

/-- An encoded component is kept by a path, unless it is one of the two dot segments. -/
theorem kept_of_encodeURIComponent {t encoded : Text} (h : encodeURIComponent t = some encoded)
    (hdot : t ≠ units ".") (hdots : t ≠ units "..") : Kept encoded := by
  unfold encodeURIComponent at h
  split at h
  · cases h
  · obtain rfl := Option.some.inj h
    have hlt := codePoints_lt t
    constructor
    · intro c hc
      obtain ⟨p, hp, hcp⟩ := List.mem_flatMap.1 hc
      exact isKept_of_mem_encodePoint (hlt p hp) hcp
    · rw [Bool.eq_false_iff]
      intro hsingle
      have hd := List.contains_iff_mem.1 hsingle
      exact hdot (eq_dot_of_codePoints (dot_of_single hlt hd rfl))
    · rw [Bool.eq_false_iff]
      intro hdouble
      have hde := List.contains_iff_mem.1 hdouble
      simp only [List.mem_flatMap, List.mem_map] at hde
      obtain ⟨d, hd, e, he, heq⟩ := hde
      exact hdots (eq_dots_of_codePoints (dots_of_double hlt hd he heq.symm))

theorem encodeURIComponent_ne_nil {t encoded : Text} (h : encodeURIComponent t = some encoded)
    (hne : t ≠ []) : encoded ≠ [] := by
  unfold encodeURIComponent at h
  split at h
  · cases h
  · obtain rfl := Option.some.inj h
    intro hnil
    exact hne (eq_nil_of_codePoints (eq_nil_of_encoded hnil))

theorem slash_notMem_of_encodeURIComponent {t encoded : Text}
    (h : encodeURIComponent t = some encoded) : slash ∉ encoded := by
  unfold encodeURIComponent at h
  split at h
  · cases h
  · obtain rfl := Option.some.inj h
    intro hmem
    obtain ⟨p, hp, hcp⟩ := List.mem_flatMap.1 hmem
    have := isKept_of_mem_encodePoint (codePoints_lt t p hp) hcp
    exact absurd this (by decide)

end url_paths
