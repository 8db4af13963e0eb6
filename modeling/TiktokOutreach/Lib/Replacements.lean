-- The replacement of all matches of a pattern in a text, from left to right. When
-- the places that several patterns match are holes between two delimiters, one
-- replacement after another fills the holes, unless a delimiter arises anew.
import Mathlib.Tactic

namespace replacements

variable {α κ : Type}

/-! ## Replacing -/

/-- The length of the match at the start of a text, if there is one. -/
abbrev Pattern (α : Type) := List α → Option Nat

/-- The rest of a text, of which `skip` elements still belong to the last match. What takes the
place of a match depends on the text before it, the match and the text behind it. -/
def replaceFrom (p : Pattern α) (f : List α → List α → List α → List α) :
    Nat → List α → List α → List α
  | _, _, [] => []
  | skip + 1, before, a :: rest => replaceFrom p f skip (before ++ [a]) rest
  | 0, before, a :: rest =>
    match p (a :: rest) with
    | some n => f before ((a :: rest).take n) ((a :: rest).drop n) ++
        replaceFrom p f (n - 1) (before ++ [a]) rest
    | none => a :: replaceFrom p f 0 (before ++ [a]) rest

def replaceAll (p : Pattern α) (f : List α → List α → List α → List α) (t : List α) : List α :=
  replaceFrom p f 0 [] t

/-- The matches of a pattern, in the same order. -/
def matchesFrom (p : Pattern α) : Nat → List α → List (List α)
  | _, [] => []
  | skip + 1, _ :: rest => matchesFrom p skip rest
  | 0, a :: rest =>
    match p (a :: rest) with
    | some n => (a :: rest).take n :: matchesFrom p (n - 1) rest
    | none => matchesFrom p 0 rest

/-! ## Pieces -/

/-- A piece of a text: one element, or a hole of some kind with the text that it was matched by. -/
inductive Piece (α κ : Type)
  | unit (a : α)
  | hole (kind : κ) (raw : List α)
  deriving DecidableEq, Repr

namespace Piece

def text : Piece α κ → List α
  | unit a => [a]
  | hole _ raw => raw

/-- The piece with its hole filled, when there is a value for its kind. -/
def fill (σ : κ → Option (List α)) : Piece α κ → List (Piece α κ)
  | unit a => [unit a]
  | hole kind raw => match σ kind with
    | some value => value.map unit
    | none => [hole kind raw]

theorem fill_of_some {σ : κ → Option (List α)} {kind : κ} {value : List α}
    (h : σ kind = some value) (raw : List α) : (hole kind raw).fill σ = value.map unit := by
  simp only [fill, h]

theorem fill_of_none {σ : κ → Option (List α)} {kind : κ} (h : σ kind = none) (raw : List α) :
    (hole kind raw).fill σ = [hole kind raw] := by
  simp only [fill, h]

end Piece

def text (ps : List (Piece α κ)) : List α := ps.flatMap Piece.text

def fill (σ : κ → Option (List α)) (ps : List (Piece α κ)) : List (Piece α κ) :=
  ps.flatMap (Piece.fill σ)

@[simp] theorem text_nil : text ([] : List (Piece α κ)) = [] := rfl

@[simp] theorem text_cons (p : Piece α κ) (ps : List (Piece α κ)) :
    text (p :: ps) = p.text ++ text ps := rfl

@[simp] theorem text_append (ps ps' : List (Piece α κ)) :
    text (ps ++ ps') = text ps ++ text ps' := by
  simp [text]

@[simp] theorem text_units (t : List α) : text (t.map Piece.unit : List (Piece α κ)) = t := by
  induction t with
  | nil => rfl
  | cons a t ih => rw [List.map_cons, text_cons, ih, Piece.text, List.singleton_append]

@[simp] theorem fill_nil (σ : κ → Option (List α)) : fill σ [] = [] := rfl

@[simp] theorem fill_cons (σ : κ → Option (List α)) (p : Piece α κ) (ps : List (Piece α κ)) :
    fill σ (p :: ps) = p.fill σ ++ fill σ ps := rfl

@[simp] theorem fill_append (σ : κ → Option (List α)) (ps ps' : List (Piece α κ)) :
    fill σ (ps ++ ps') = fill σ ps ++ fill σ ps' := by
  simp [fill]

@[simp] theorem fill_units (σ : κ → Option (List α)) (t : List α) :
    fill σ (t.map Piece.unit) = t.map Piece.unit := by
  induction t with
  | nil => rfl
  | cons a t ih => rw [List.map_cons, fill_cons, ih, Piece.fill, List.singleton_append]

theorem mem_of_mem_fill {σ : κ → Option (List α)} {ps : List (Piece α κ)} {kind : κ}
    {raw : List α} (h : Piece.hole kind raw ∈ fill σ ps) : Piece.hole kind raw ∈ ps := by
  obtain ⟨p, hp, hmem⟩ := List.mem_flatMap.1 h
  cases p with
  | unit a => simp [Piece.fill] at hmem
  | hole kind' raw' =>
    cases hσ : σ kind' with
    | some value => simp [Piece.fill_of_some hσ] at hmem
    | none =>
      rw [Piece.fill_of_none hσ, List.mem_singleton] at hmem
      rw [hmem]
      exact hp

/-- The value of one kind alone. -/
def only [DecidableEq κ] (kind : κ) (value : List α) : κ → Option (List α) :=
  fun kind' => if kind' = kind then some value else none

/-! ## Patterns between delimiters -/

/-- Patterns of several kinds. A match starts with the opening element twice, which does not come
again in it, and which match is at the start of a text does not depend on what follows it. -/
structure Delimited (α κ : Type) where
  opening : α
  pattern : κ → Pattern α
  IsHole : κ → List α → Prop
  shape : ∀ kind raw, IsHole kind raw → ∃ a inner, raw = opening :: opening :: a :: inner ∧
    opening ∉ a :: inner
  match_hole : ∀ kind raw rest, IsHole kind raw → pattern kind (raw ++ rest) = some raw.length
  match_other : ∀ kind kind' raw rest, IsHole kind raw → kind' ≠ kind →
    pattern kind' (raw ++ rest) = none
  of_match : ∀ kind t n, pattern kind t = some n →
    ∃ raw rest, t = raw ++ rest ∧ IsHole kind raw ∧ n = raw.length

namespace Delimited

variable (D : Delimited α κ)

/-- All holes are matches of their kind. -/
def Sound (ps : List (Piece α κ)) : Prop := ∀ kind raw, Piece.hole kind raw ∈ ps → D.IsHole kind raw

/-- No two elements next to each other open a hole. -/
def Calm (ps : List (Piece α κ)) : Prop :=
  ∀ before after, ps ≠ before ++ Piece.unit D.opening :: Piece.unit D.opening :: after

/-- A text has the opening element twice, one behind the other. -/
def Opens (t : List α) : Prop := ∃ before after, t = before ++ D.opening :: D.opening :: after

variable {D}

theorem sound_of_cons {p : Piece α κ} {ps : List (Piece α κ)} (h : D.Sound (p :: ps)) :
    D.Sound ps :=
  fun kind raw hmem => h kind raw (List.mem_cons_of_mem _ hmem)

theorem sound_fill {ps : List (Piece α κ)} (h : D.Sound ps) (σ : κ → Option (List α)) :
    D.Sound (fill σ ps) := by
  intro kind raw hmem
  exact h kind raw (mem_of_mem_fill hmem)

theorem calm_of_cons {p : Piece α κ} {ps : List (Piece α κ)} (h : D.Calm (p :: ps)) : D.Calm ps := by
  intro before after hps
  exact h (p :: before) after (by rw [hps, List.cons_append])

/-- Elements stay where they are when holes are filled. -/
theorem calm_of_fill {ps : List (Piece α κ)} {σ : κ → Option (List α)} (h : D.Calm (fill σ ps)) :
    D.Calm ps := by
  rintro before after rfl
  exact h (fill σ before) (fill σ after) (by simp [Piece.fill])

/-- In a text that opens no hole the elements do not open one either. -/
theorem calm_of_text {ps : List (Piece α κ)} (h : ¬ D.Opens (text ps)) : D.Calm ps := by
  rintro before after rfl
  exact h ⟨text before, text after, by simp [Piece.text]⟩

/-- A match starts with the opening element twice, and then with another one. -/
theorem starts_of_match {kind : κ} {t : List α} {n : Nat} (h : D.pattern kind t = some n) :
    ∃ a rest, t = D.opening :: D.opening :: a :: rest ∧ a ≠ D.opening := by
  obtain ⟨raw, rest, rfl, hraw, _⟩ := D.of_match kind t n h
  obtain ⟨a, inner, rfl, hinner⟩ := D.shape kind raw hraw
  refine ⟨a, inner ++ rest, by simp, ?_⟩
  rintro rfl
  exact hinner List.mem_cons_self

theorem no_match {kind : κ} {a : α} (ha : a ≠ D.opening) (t : List α) :
    D.pattern kind (a :: t) = none := by
  cases h : D.pattern kind (a :: t) with
  | none => rfl
  | some n =>
    obtain ⟨b, rest, ht, _⟩ := starts_of_match h
    rw [List.cons.injEq] at ht
    exact absurd ht.1 ha

theorem no_match_of_second {kind : κ} {a b : α} (hb : b ≠ D.opening) (t : List α) :
    D.pattern kind (a :: b :: t) = none := by
  cases h : D.pattern kind (a :: b :: t) with
  | none => rfl
  | some n =>
    obtain ⟨c, rest, ht, _⟩ := starts_of_match h
    rw [List.cons.injEq, List.cons.injEq] at ht
    exact absurd ht.2.1 hb

end Delimited

/-! ## One step after another -/

section Steps

variable {p : Pattern α} {f : List α → List α → List α → List α}

theorem replaceFrom_skip (before x y : List α) :
    replaceFrom p f x.length before (x ++ y) = replaceFrom p f 0 (before ++ x) y := by
  induction x generalizing before with
  | nil => rw [List.append_nil, List.nil_append, List.length_nil]
  | cons a x ih =>
    rw [List.cons_append, List.length_cons, replaceFrom, ih, List.append_assoc]
    rfl

theorem replaceFrom_none {a : α} {t : List α} (h : p (a :: t) = none) (before : List α) :
    replaceFrom p f 0 before (a :: t) = a :: replaceFrom p f 0 (before ++ [a]) t := by
  rw [replaceFrom, h]

/-- A text without a match stays as it is. -/
theorem replaceFrom_unmatched {t : List α} (h : ∀ x y, t = x ++ y → p y = none)
    (before : List α) : replaceFrom p f 0 before t = t := by
  induction t generalizing before with
  | nil => rfl
  | cons a t ih =>
    have hrest : ∀ x y, t = x ++ y → p y = none := by
      rintro x y rfl
      exact h (a :: x) y rfl
    rw [replaceFrom_none (h [] (a :: t) rfl), ih hrest]

theorem replaceFrom_match {raw rest : List α} (hraw : raw ≠ [])
    (h : p (raw ++ rest) = some raw.length) (before : List α) :
    replaceFrom p f 0 before (raw ++ rest) =
      f before raw rest ++ replaceFrom p f 0 (before ++ raw) rest := by
  cases raw with
  | nil => exact absurd rfl hraw
  | cons a raw =>
    rw [List.cons_append] at h ⊢
    rw [replaceFrom, h]
    dsimp only
    have htake : (a :: (raw ++ rest)).take (a :: raw).length = a :: raw := by simp
    have hdrop : (a :: (raw ++ rest)).drop (a :: raw).length = rest := by simp
    rw [htake, hdrop, List.length_cons, Nat.add_sub_cancel, replaceFrom_skip, List.append_assoc]
    rfl

end Steps

namespace Delimited

variable {D : Delimited α κ} {f : List α → List α → List α → List α}

/-- No match starts where the opening element does not come. -/
theorem replaceFrom_quiet {kind : κ} {x : List α} (hx : D.opening ∉ x) (before y : List α) :
    replaceFrom (D.pattern kind) f 0 before (x ++ y) =
      x ++ replaceFrom (D.pattern kind) f 0 (before ++ x) y := by
  induction x generalizing before with
  | nil => rw [List.append_nil, List.nil_append, List.nil_append]
  | cons a x ih =>
    rw [List.mem_cons, not_or] at hx
    rw [List.cons_append, replaceFrom_none (no_match (Ne.symm hx.1) _), ih hx.2, List.append_assoc]
    rfl

/-- A hole of another kind stays. -/
theorem replaceFrom_other {kind kind' : κ} {raw : List α} (hraw : D.IsHole kind raw)
    (hkind : kind' ≠ kind) (before rest : List α) :
    replaceFrom (D.pattern kind') f 0 before (raw ++ rest) =
      raw ++ replaceFrom (D.pattern kind') f 0 (before ++ raw) rest := by
  have hother := D.match_other kind kind' raw rest hraw hkind
  obtain ⟨a, inner, rfl, hinner⟩ := D.shape kind raw hraw
  have ha : a ≠ D.opening := by
    rintro rfl
    exact hinner List.mem_cons_self
  rw [List.cons_append] at hother ⊢
  rw [replaceFrom_none hother, List.cons_append, List.cons_append,
    replaceFrom_none (no_match_of_second ha _), ← List.cons_append,
    replaceFrom_quiet hinner]
  simp

/-- The replacement of the matches of one kind fills the holes of this kind, and nothing else. -/
theorem replaceFrom_text [DecidableEq κ] {kind : κ} {value : List α} {ps : List (Piece α κ)}
    (hsound : D.Sound ps) (hcalm : D.Calm ps)
    (hf : ∀ raw, Piece.hole kind raw ∈ ps → ∀ before after, f before raw after = value)
    (before : List α) :
    replaceFrom (D.pattern kind) f 0 before (text ps) = text (fill (only kind value) ps) := by
  induction ps generalizing before with
  | nil => rfl
  | cons p ps ih =>
    have hrest := ih (sound_of_cons hsound) (calm_of_cons hcalm)
      (fun raw hmem => hf raw (List.mem_cons_of_mem _ hmem))
    cases p with
    | unit a =>
      have hnone : D.pattern kind (a :: text ps) = none := by
        cases hmatch : D.pattern kind (a :: text ps) with
        | none => rfl
        | some n =>
          obtain ⟨b, rest, ht, hb⟩ := starts_of_match hmatch
          rw [List.cons.injEq] at ht
          obtain ⟨rfl, ht⟩ := ht
          cases ps with
          | nil => cases ht
          | cons q ps =>
            cases q with
            | unit c =>
              rw [text_cons, Piece.text, List.singleton_append, List.cons.injEq] at ht
              obtain ⟨rfl, _⟩ := ht
              exact absurd rfl (hcalm [] ps)
            | hole kind' raw =>
              -- a hole would open with two more of them
              obtain ⟨c, inner, rfl, _⟩ := D.shape kind' raw
                (hsound kind' raw (List.mem_cons_of_mem _ List.mem_cons_self))
              rw [text_cons, Piece.text, List.cons_append, List.cons_append, List.cons.injEq,
                List.cons.injEq] at ht
              exact absurd ht.2.1.symm hb
      rw [text_cons, Piece.text, List.singleton_append, replaceFrom_none hnone, hrest]
      rfl
    | hole kind' raw =>
      have hraw := hsound kind' raw List.mem_cons_self
      rw [text_cons, Piece.text, fill_cons, text_append]
      by_cases hkind : kind' = kind
      · subst hkind
        have hne : raw ≠ [] := by
          obtain ⟨a, inner, rfl, _⟩ := D.shape kind' raw hraw
          simp
        rw [replaceFrom_match hne (D.match_hole kind' raw _ hraw),
          hf raw List.mem_cons_self, hrest]
        simp [Piece.fill, only]
      · rw [replaceFrom_other hraw (Ne.symm hkind), hrest]
        simp [Piece.fill, only, hkind, Piece.text]

/-- A match that starts before a hole ends before it: the hole opens with two opening elements,
and a match has them at its own start only. -/
theorem match_before {kind kind' : κ} {a : α} {x raw rest : List α} {n : Nat}
    (hraw : D.IsHole kind raw) (h : D.pattern kind' (a :: (x ++ (raw ++ rest))) = some n) :
    n ≤ x.length + 1 := by
  obtain ⟨m, rest', ht, hm, rfl⟩ := D.of_match kind' _ n h
  obtain ⟨b, inner, rfl, _⟩ := D.shape kind raw hraw
  obtain ⟨b', inner', rfl, hinner'⟩ := D.shape kind' m hm
  by_contra hlong
  have hfirst : (a :: (x ++ (D.opening :: D.opening :: b :: inner ++ rest)))[x.length + 1]? =
      some D.opening := by simp
  have hsecond : (a :: (x ++ (D.opening :: D.opening :: b :: inner ++ rest)))[x.length + 2]? =
      some D.opening := by simp
  have hlen : x.length < inner'.length + 2 := by
    simp only [List.length_cons] at hlong
    omega
  rw [ht] at hfirst hsecond
  cases x with
  | nil =>
    have hb : b' = D.opening := by simpa using hsecond
    exact hinner' (hb ▸ List.mem_cons_self)
  | cons c x =>
    have hin : x.length < (b' :: inner').length := by
      simp only [List.length_cons] at hlen ⊢
      omega
    have hget : (b' :: inner')[x.length]? = some D.opening := by
      rw [List.length_cons, List.cons_append, List.cons_append, List.getElem?_cons_succ,
        List.getElem?_cons_succ, List.getElem?_append_left hin] at hfirst
      exact hfirst
    exact hinner' (List.mem_of_getElem? hget)

/-- Whatever is replaced before a hole, the replacement comes to the start of the hole. -/
theorem reaches (kind' : κ) {kind : κ} {raw : List α} (hraw : D.IsHole kind raw) (x y : List α)
    {skip : Nat} (hskip : skip ≤ x.length) (before : List α) :
    ∃ x', replaceFrom (D.pattern kind') f skip before (x ++ (raw ++ y)) =
      x' ++ replaceFrom (D.pattern kind') f 0 (before ++ x) (raw ++ y) := by
  induction x generalizing skip before with
  | nil =>
    have hzero : skip = 0 := by simpa using hskip
    exact ⟨[], by rw [hzero, List.append_nil, List.nil_append, List.nil_append]⟩
  | cons a x ih =>
    have happend : before ++ a :: x = before ++ [a] ++ x := by simp
    rw [happend, List.cons_append]
    cases skip with
    | succ skip =>
      rw [replaceFrom]
      exact ih (by simpa using hskip) (before ++ [a])
    | zero =>
      rw [replaceFrom]
      cases hmatch : D.pattern kind' (a :: (x ++ (raw ++ y))) with
      | none =>
        obtain ⟨x', hx'⟩ := ih (Nat.zero_le _) (before ++ [a])
        exact ⟨a :: x', by dsimp only; rw [hx', List.cons_append]⟩
      | some n =>
        have hskip' : n - 1 ≤ x.length := by
          have hn := match_before hraw hmatch
          omega
        obtain ⟨x', hx'⟩ := ih hskip' (before ++ [a])
        refine ⟨f before ((a :: (x ++ (raw ++ y))).take n) ((a :: (x ++ (raw ++ y))).drop n) ++ x',
          ?_⟩
        simp only [hx', List.append_assoc]

/-- A hole of another kind is there after the replacement. -/
theorem keeps_other {kind kind' : κ} {raw : List α} (hraw : D.IsHole kind raw)
    (hkind : kind' ≠ kind) (x y : List α) :
    ∃ x' y', replaceAll (D.pattern kind') f (x ++ (raw ++ y)) = x' ++ (raw ++ y') := by
  obtain ⟨x', hx'⟩ := reaches (f := f) kind' hraw x y (Nat.zero_le _) []
  exact ⟨x', _, by rw [replaceAll, hx', replaceFrom_other hraw hkind]⟩

/-- A hole of the kind itself is replaced by what `f` gives for it. -/
theorem replaces_hole {kind : κ} {raw : List α} (hraw : D.IsHole kind raw) (x y : List α) :
    ∃ x' y', replaceAll (D.pattern kind) f (x ++ (raw ++ y)) = x' ++ (f x raw y ++ y') := by
  obtain ⟨x', hx'⟩ := reaches (f := f) kind hraw x y (Nat.zero_le _) []
  have hne : raw ≠ [] := by
    obtain ⟨a, inner, rfl, _⟩ := D.shape kind raw hraw
    simp
  exact ⟨x', _, by
    rw [replaceAll, hx', replaceFrom_match hne (D.match_hole kind raw y hraw), List.nil_append]⟩

end Delimited

/-! ## The pieces of a text -/

/-- The first kind that matches at the start of a text, with the length of its match. -/
def find (pattern : κ → Pattern α) : List κ → List α → Option (κ × Nat)
  | [], _ => none
  | kind :: kinds, t =>
    match pattern kind t with
    | some n => some (kind, n)
    | none => find pattern kinds t

/-- A text, from left to right, as its holes and the elements between them. -/
def piecesFrom (pattern : κ → Pattern α) (kinds : List κ) : Nat → List α → List (Piece α κ)
  | _, [] => []
  | skip + 1, _ :: rest => piecesFrom pattern kinds skip rest
  | 0, a :: rest =>
    match find pattern kinds (a :: rest) with
    | some (kind, n) => .hole kind ((a :: rest).take n) :: piecesFrom pattern kinds (n - 1) rest
    | none => .unit a :: piecesFrom pattern kinds 0 rest

def pieces (pattern : κ → Pattern α) (kinds : List κ) (t : List α) : List (Piece α κ) :=
  piecesFrom pattern kinds 0 t

theorem match_of_find {pattern : κ → Pattern α} {kinds : List κ} {t : List α} {kind : κ} {n : Nat}
    (h : find pattern kinds t = some (kind, n)) : pattern kind t = some n := by
  induction kinds with
  | nil => cases h
  | cons kind' kinds ih =>
    rw [find] at h
    cases hmatch : pattern kind' t with
    | none =>
      rw [hmatch] at h
      exact ih h
    | some n' =>
      rw [hmatch] at h
      cases h
      exact hmatch

namespace Delimited

variable {D : Delimited α κ}

theorem piecesFrom_spec (kinds : List κ) {skip : Nat} {t : List α} (hskip : skip ≤ t.length) :
    text (piecesFrom D.pattern kinds skip t) = t.drop skip ∧
      D.Sound (piecesFrom D.pattern kinds skip t) := by
  induction t generalizing skip with
  | nil =>
    have hzero : skip = 0 := by simpa using hskip
    subst hzero
    exact ⟨rfl, fun _ _ hmem => nomatch hmem⟩
  | cons a t ih =>
    cases skip with
    | succ skip =>
      rw [piecesFrom, List.drop_succ_cons]
      exact ih (by simpa using hskip)
    | zero =>
      rw [piecesFrom, List.drop_zero]
      cases hfind : find D.pattern kinds (a :: t) with
      | none =>
        obtain ⟨htext, hsound⟩ := ih (Nat.zero_le t.length)
        refine ⟨?_, ?_⟩
        · rw [text_cons, htext, List.drop_zero]
          rfl
        · intro kind raw hmem
          rcases List.mem_cons.1 hmem with heq | hmem
          · cases heq
          · exact hsound kind raw hmem
      | some found =>
        obtain ⟨kind, n⟩ := found
        obtain ⟨raw, rest, ht, hraw, rfl⟩ := D.of_match kind _ n (match_of_find hfind)
        obtain ⟨b, inner, hshape, _⟩ := D.shape kind raw hraw
        have htake : (a :: t).take raw.length = raw := by rw [ht, List.take_left]
        have hdrop : t.drop (raw.length - 1) = rest := by
          have hcons : (a :: t).drop raw.length = rest := by rw [ht, List.drop_left]
          rw [hshape] at hcons ⊢
          simpa using hcons
        have hle : raw.length - 1 ≤ t.length := by
          have hlen := congrArg List.length ht
          simp only [List.length_cons, List.length_append] at hlen
          omega
        obtain ⟨htext, hsound⟩ := ih hle
        refine ⟨?_, ?_⟩
        · dsimp only
          rw [text_cons, htext, hdrop, Piece.text, htake, ht]
        · intro kind' raw' hmem
          rcases List.mem_cons.1 hmem with heq | hmem
          · cases heq
            rw [htake]
            exact hraw
          · exact hsound kind' raw' hmem

theorem find_of_match {kinds : List κ} {kind : κ} (hkind : kind ∈ kinds) {t : List α} {n : Nat}
    (h : D.pattern kind t = some n) : find D.pattern kinds t = some (kind, n) := by
  obtain ⟨raw, rest, rfl, hraw, rfl⟩ := D.of_match kind t n h
  induction kinds with
  | nil => cases hkind
  | cons kind' kinds ih =>
    rw [find]
    by_cases hsame : kind' = kind
    · rw [hsame, h]
    · rw [D.match_other kind kind' raw rest hraw hsame]
      exact ih ((List.mem_cons.1 hkind).resolve_left (Ne.symm hsame))

/-- Wherever a kind matches, there is a hole of the kind: a match before it does not reach it. -/
theorem hole_of_match {kinds : List κ} {kind : κ} (hkind : kind ∈ kinds) {y : List α} {n : Nat}
    (h : D.pattern kind y = some n) {x : List α} {skip : Nat} (hskip : skip ≤ x.length) :
    ∃ raw, Piece.hole kind raw ∈ piecesFrom D.pattern kinds skip (x ++ y) := by
  induction x generalizing skip with
  | nil =>
    have hzero : skip = 0 := by simpa using hskip
    subst hzero
    obtain ⟨a, rest, rfl, _⟩ := starts_of_match h
    rw [List.nil_append, piecesFrom, find_of_match hkind h]
    exact ⟨_, List.mem_cons_self⟩
  | cons a x ih =>
    rw [List.cons_append]
    cases skip with
    | succ skip =>
      rw [piecesFrom]
      exact ih (by simpa using hskip)
    | zero =>
      rw [piecesFrom]
      cases hfind : find D.pattern kinds (a :: (x ++ y)) with
      | none =>
        obtain ⟨raw, hmem⟩ := ih (Nat.zero_le _)
        exact ⟨raw, List.mem_cons_of_mem _ hmem⟩
      | some found =>
        obtain ⟨kind', n'⟩ := found
        obtain ⟨raw', rest', rfl, hraw', rfl⟩ := D.of_match kind y n h
        have hn := match_before hraw' (match_of_find hfind)
        have hskip' : n' - 1 ≤ x.length := by omega
        obtain ⟨raw, hmem⟩ := ih hskip'
        exact ⟨raw, List.mem_cons_of_mem _ hmem⟩

/-- Where no hole of a kind is, its replacement changes nothing. -/
theorem replaceAll_absent {kinds : List κ} {kind : κ} (hkind : kind ∈ kinds) {t : List α}
    (h : ∀ raw, Piece.hole kind raw ∉ pieces D.pattern kinds t)
    (f : List α → List α → List α → List α) : replaceAll (D.pattern kind) f t = t := by
  apply replaceFrom_unmatched
  rintro x y rfl
  cases hmatch : D.pattern kind y with
  | none => rfl
  | some n =>
    obtain ⟨raw, hmem⟩ := hole_of_match hkind hmatch (Nat.zero_le x.length)
    exact absurd hmem (h raw)

/-- The pieces make up the text. -/
@[simp] theorem text_pieces (kinds : List κ) (t : List α) : text (pieces D.pattern kinds t) = t :=
  (piecesFrom_spec kinds (Nat.zero_le _)).1

theorem sound_pieces (kinds : List κ) (t : List α) : D.Sound (pieces D.pattern kinds t) :=
  (piecesFrom_spec kinds (Nat.zero_le t.length)).2

end Delimited

/-! ## Values that lose an element -/

/-- Here and there a text has one element `d` where another text has two of them. -/
inductive Collapses (d : α) : List α → List α → Prop
  | nil : Collapses d [] []
  | keep (a : α) {x y : List α} (h : Collapses d x y) : Collapses d (a :: x) (a :: y)
  | drop {x y : List α} (h : Collapses d x y) : Collapses d (d :: d :: x) (d :: y)

namespace Collapses

variable {d : α}

theorem refl (x : List α) : Collapses d x x := by
  induction x with
  | nil => exact nil
  | cons a x ih => exact keep a ih

theorem append {x y x' y' : List α} (h : Collapses d x y) (h' : Collapses d x' y') :
    Collapses d (x ++ x') (y ++ y') := by
  induction h with
  | nil => exact h'
  | keep a _ ih => exact keep a ih
  | drop _ ih => exact drop ih

theorem length_le {x y : List α} (h : Collapses d x y) : y.length ≤ x.length := by
  induction h with
  | nil => exact Nat.le_refl _
  | keep a _ ih => exact Nat.succ_le_succ ih
  | drop _ ih =>
    simp only [List.length_cons]
    omega

/-- No pair of another element arises. -/
theorem opens {D : Delimited α κ} (hd : D.opening ≠ d) {x y : List α} (h : Collapses d x y)
    (hy : D.Opens y) : D.Opens x := by
  obtain ⟨before, after, rfl⟩ := hy
  generalize hy : before ++ D.opening :: D.opening :: after = y at h
  induction h generalizing before with
  | nil => simp at hy
  | @keep a x y h ih =>
    cases before with
    | nil =>
      rw [List.nil_append, List.cons.injEq] at hy
      obtain ⟨rfl, hy⟩ := hy
      subst hy
      cases h with
      | keep _ h => exact ⟨[], _, rfl⟩
      | drop h => exact absurd rfl hd
    | cons b before =>
      rw [List.cons_append, List.cons.injEq] at hy
      obtain ⟨before', after', rfl⟩ := ih before hy.2
      exact ⟨a :: before', after', rfl⟩
  | @drop x y h ih =>
    cases before with
    | nil =>
      rw [List.nil_append, List.cons.injEq] at hy
      exact absurd hy.1 hd
    | cons b before =>
      rw [List.cons_append, List.cons.injEq] at hy
      obtain ⟨before', after', rfl⟩ := ih before hy.2
      exact ⟨d :: d :: before', after', rfl⟩

/-- Filled with values that lost elements, a text has lost elements. -/
theorem fill {σ σ' : κ → List α} {ps : List (Piece α κ)}
    (hσ : ∀ kind raw, Piece.hole kind raw ∈ ps → Collapses d (σ kind) (σ' kind)) :
    Collapses d (text (fill (fun kind => some (σ kind)) ps))
      (text (fill (fun kind => some (σ' kind)) ps)) := by
  induction ps with
  | nil => exact nil
  | cons p ps ih =>
    have hrest := ih fun kind raw hmem => hσ kind raw (List.mem_cons_of_mem _ hmem)
    rw [fill_cons, fill_cons, text_append, text_append]
    refine append ?_ hrest
    cases p with
    | unit a => exact refl _
    | hole kind raw =>
      simp only [Piece.fill, text_units]
      exact hσ kind raw List.mem_cons_self

/-- If one of the values lost an element, the text is shorter. -/
theorem fill_length {σ σ' : κ → List α} {ps : List (Piece α κ)} {kind : κ} {raw : List α}
    (hσ : ∀ kind raw, Piece.hole kind raw ∈ ps → Collapses d (σ kind) (σ' kind))
    (hmem : Piece.hole kind raw ∈ ps) (hlt : (σ' kind).length < (σ kind).length) :
    (text (replacements.fill (fun kind => some (σ' kind)) ps)).length <
      (text (replacements.fill (fun kind => some (σ kind)) ps)).length := by
  obtain ⟨before, after, rfl⟩ := List.append_of_mem hmem
  have hbefore := length_le (fill fun kind raw (hmem : Piece.hole kind raw ∈ before) =>
    hσ kind raw (by simp [hmem]))
  have hafter := length_le (fill fun kind raw (hmem : Piece.hole kind raw ∈ after) =>
    hσ kind raw (by simp [hmem]))
  simp only [fill_append, fill_cons, text_append, List.length_append, Piece.fill, text_units]
  omega

end Collapses

/-! ## One kind after another -/

/-- Two values for the kinds, one behind the other, are as good as the first that there is. -/
theorem fill_fill (σ σ' : κ → Option (List α)) (ps : List (Piece α κ)) :
    fill σ' (fill σ ps) = fill (fun kind => (σ kind).or (σ' kind)) ps := by
  induction ps with
  | nil => rfl
  | cons p ps ih =>
    rw [fill_cons, fill_append, ih, fill_cons]
    congr 1
    cases p with
    | unit a => rfl
    | hole kind raw =>
      cases hσ : σ kind with
      | none =>
        rw [Piece.fill_of_none hσ, fill_cons, fill_nil, List.append_nil]
        simp only [Piece.fill, hσ, Option.none_or]
      | some value =>
        rw [Piece.fill_of_some hσ, fill_units]
        simp only [Piece.fill, hσ, Option.some_or]

/-- The values of the kinds of a list. -/
def among [DecidableEq κ] (kinds : List κ) (σ : κ → List α) : κ → Option (List α) :=
  fun kind => if kind ∈ kinds then some (σ kind) else none

theorem only_or_among [DecidableEq κ] (kind : κ) (kinds : List κ) (σ : κ → List α) :
    (fun kind' => (only kind (σ kind) kind').or (among kinds σ kind')) =
      among (kind :: kinds) σ := by
  funext kind'
  unfold only among
  by_cases hkind : kind' = kind
  · simp [hkind]
  · simp [hkind]

@[simp] theorem fill_among_nil [DecidableEq κ] (σ : κ → List α) (ps : List (Piece α κ)) :
    fill (among [] σ) ps = ps := by
  induction ps with
  | nil => rfl
  | cons p ps ih =>
    rw [fill_cons, ih]
    cases p <;> simp [Piece.fill, among]

/-- The replacements of the matches of several kinds, one after another. -/
def replaceKinds (pattern : κ → Pattern α) (f : κ → List α → List α → List α → List α)
    (kinds : List κ) (t : List α) : List α :=
  kinds.foldl (fun t kind => replaceAll (pattern kind) (f kind) t) t

theorem replaceKinds_cons (pattern : κ → Pattern α) (f : κ → List α → List α → List α → List α)
    (kind : κ) (kinds : List κ) (t : List α) :
    replaceKinds pattern f (kind :: kinds) t =
      replaceKinds pattern f kinds (replaceAll (pattern kind) (f kind) t) := rfl

namespace Delimited

variable {D : Delimited α κ} {f : κ → List α → List α → List α → List α}

/-- If the filled text opens no hole, one replacement after another fills the holes, each with
the value of its kind. -/
theorem replaceKinds_text [DecidableEq κ] {kinds : List κ} {σ : κ → List α}
    {ps : List (Piece α κ)} (hsound : D.Sound ps) (hcalm : D.Calm (fill (among kinds σ) ps))
    (hf : ∀ kind ∈ kinds, ∀ raw, Piece.hole kind raw ∈ ps →
      ∀ before after, f kind before raw after = σ kind) :
    replaceKinds D.pattern f kinds (text ps) = text (fill (among kinds σ) ps) := by
  induction kinds generalizing ps with
  | nil =>
    rw [fill_among_nil]
    rfl
  | cons kind kinds ih =>
    have hstep : replaceAll (D.pattern kind) (f kind) (text ps) =
        text (fill (only kind (σ kind)) ps) :=
      replaceFrom_text hsound (calm_of_fill hcalm) (hf kind List.mem_cons_self) []
    rw [← only_or_among, ← fill_fill] at hcalm ⊢
    rw [replaceKinds_cons, hstep]
    exact ih (sound_fill hsound _) hcalm fun kind' hkind' raw hmem =>
      hf kind' (List.mem_cons_of_mem _ hkind') raw (mem_of_mem_fill hmem)

/-- A hole stays until its kind is replaced. -/
theorem replaceKinds_keeps {kinds : List κ} {kind : κ} {raw : List α} (hraw : D.IsHole kind raw)
    (hkinds : kind ∉ kinds) (x y : List α) :
    ∃ x' y', replaceKinds D.pattern f kinds (x ++ (raw ++ y)) = x' ++ (raw ++ y') := by
  induction kinds generalizing x y with
  | nil => exact ⟨x, y, rfl⟩
  | cons kind' kinds ih =>
    rw [List.mem_cons, not_or] at hkinds
    obtain ⟨x', y', hstep⟩ := keeps_other (f := f kind') hraw (Ne.symm hkinds.1) x y
    rw [replaceKinds_cons, hstep]
    exact ih hkinds.2 x' y'

/-- A hole whose value brings the hole back is there in the end. -/
theorem replaceKinds_returns {kinds : List κ} (hnodup : kinds.Nodup) {kind : κ}
    (hkind : kind ∈ kinds) {raw : List α} (hraw : D.IsHole kind raw)
    (hf : ∀ before after, ∃ c c', f kind before raw after = c ++ (raw ++ c')) (x y : List α) :
    ∃ x' y', replaceKinds D.pattern f kinds (x ++ (raw ++ y)) = x' ++ (raw ++ y') := by
  induction kinds generalizing x y with
  | nil => cases hkind
  | cons kind' kinds ih =>
    rw [List.nodup_cons] at hnodup
    rw [replaceKinds_cons]
    by_cases heq : kind' = kind
    · subst heq
      obtain ⟨x', y', hstep⟩ := replaces_hole (f := f kind') hraw x y
      obtain ⟨c, c', hc⟩ := hf x y
      rw [hstep, hc]
      simpa using replaceKinds_keeps hraw hnodup.1 (x' ++ c) (c' ++ y')
    · obtain ⟨x', y', hstep⟩ := keeps_other (f := f kind') hraw heq x y
      rw [hstep]
      exact ih hnodup.2 (Or.resolve_left (List.mem_cons.1 hkind) (Ne.symm heq)) x' y'

end Delimited

end replacements
