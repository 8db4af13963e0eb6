-- `renderMessage` of the domain package: the check of a template's placeholders, and three
-- replacements, one after another. The values are not inserted as they are: `replace` reads
-- dollar patterns in them, and a later replacement reads what an earlier one inserted.
import Mathlib.Data.List.DropRight
import TiktokOutreach.Lib.Json
import TiktokOutreach.Lib.Replacements

namespace tiktok_outreach.render_message

open json replacements

/-! ## Texts -/

abbrev dollar : UInt16 := 0x24
abbrev ampersand : UInt16 := 0x26
abbrev apostrophe : UInt16 := 0x27
abbrev backtick : UInt16 := 0x60

/-- White space and line terminators: what `\s` matches, and what `trim` cuts off. -/
def isWhitespace (c : UInt16) : Bool :=
  [0x09, 0x0A, 0x0B, 0x0C, 0x0D, 0x20, 0xA0, 0x1680, 0x2000, 0x2001, 0x2002, 0x2003, 0x2004,
    0x2005, 0x2006, 0x2007, 0x2008, 0x2009, 0x200A, 0x2028, 0x2029, 0x202F, 0x205F, 0x3000,
    0xFEFF].contains c

def trim (t : Text) : Text := (t.dropWhile isWhitespace).rdropWhile isWhitespace

def openingPair : Text := [openBrace, openBrace]

def closingPair : Text := [closeBrace, closeBrace]

/-- `/{{|}}/.test(t)` -/
def hasPair : Text → Bool
  | c :: d :: rest =>
    (c == openBrace && d == openBrace) || (c == closeBrace && d == closeBrace) ||
      hasPair (d :: rest)
  | _ => false

/-! ## Placeholders -/

inductive Placeholder
  | creator_display_name
  | product_name
  | campaign_name
  deriving DecidableEq, Repr

def Placeholder.name : Placeholder → Text
  | creator_display_name => units "creator_display_name"
  | product_name => units "product_name"
  | campaign_name => units "campaign_name"

/-- The placeholders, in the order in which their values are inserted. -/
def approved : List Placeholder := [.creator_display_name, .product_name, .campaign_name]

/-- `/{{\s*([^{}]+?)\s*}}/`. White space is no brace, so all between the braces is taken. -/
def anyPlaceholder : Pattern UInt16 := fun t => do
  let inner ← t.dropPrefix? openingPair
  let body := inner.takeWhile fun c => c != openBrace && c != closeBrace
  let _ ← (inner.drop body.length).dropPrefix? closingPair
  if body.isEmpty then none else some (body.length + 4)

/-- The group of a match of `anyPlaceholder`, without the white space around it. -/
def placeholderOf (found : Text) : Text := trim ((found.drop 2).dropLast.dropLast)

/-- `/{{\s*name\s*}}/` -/
def pattern (placeholder : Placeholder) : Pattern UInt16 := fun t => do
  let inner ← t.dropPrefix? openingPair
  let behind ← (inner.dropWhile isWhitespace).dropPrefix? placeholder.name
  let rest ← (behind.dropWhile isWhitespace).dropPrefix? closingPair
  some (t.length - rest.length)

/-- The loop over the matches in the template, which throws at the first unknown one. -/
def assertPlaceholders (template : Text) : Except Text Unit :=
  (matchesFrom anyPlaceholder 0 template).forM fun found =>
    if (approved.map Placeholder.name).contains (placeholderOf found) then .ok ()
    else .error (units "Unsupported template placeholder: " ++ placeholderOf found)

/-! ## Replacement texts -/

/-- What a replacement text of `replace` is made of. A dollar before a digit or before `<` is
an ordinary one, as the patterns have no groups. -/
inductive Part
  | unit (c : UInt16)
  | dollar
  | matched
  | before
  | after
  deriving DecidableEq, Repr

def parts : Text → List Part
  | c :: d :: rest =>
    if c = dollar ∧ d = dollar then .dollar :: parts rest
    else if c = dollar ∧ d = ampersand then .matched :: parts rest
    else if c = dollar ∧ d = backtick then .before :: parts rest
    else if c = dollar ∧ d = apostrophe then .after :: parts rest
    else .unit c :: parts (d :: rest)
  | [c] => [.unit c]
  | [] => []

def Part.source : Part → Text
  | unit c => [c]
  | dollar => [render_message.dollar, render_message.dollar]
  | matched => [render_message.dollar, ampersand]
  | before => [render_message.dollar, backtick]
  | after => [render_message.dollar, apostrophe]

def Part.expand (textBefore found textAfter : Text) : Part → Text
  | unit c => [c]
  | dollar => [render_message.dollar]
  | matched => found
  | before => textBefore
  | after => textAfter

/-- The text that takes the place of a match, with the text before it and the text behind it. -/
def substitution (value textBefore found textAfter : Text) : Text :=
  (parts value).flatMap (Part.expand textBefore found textAfter)

/-- `t.replace(/{{\s*name\s*}}/g, value)` -/
def replace (placeholder : Placeholder) (value t : Text) : Text :=
  replaceAll (pattern placeholder) (substitution value) t

/-! ## Rendering -/

structure Values where
  creatorDisplayName : Text
  productName : Text
  campaignName : Text
  deriving DecidableEq, Repr

def Values.value (values : Values) : Placeholder → Text
  | .creator_display_name => values.creatorDisplayName
  | .product_name => values.productName
  | .campaign_name => values.campaignName

def renderMessage (template : Text) (values : Values) : Except Text Text := do
  assertPlaceholders template
  let rendered := replace .campaign_name values.campaignName
    (replace .product_name values.productName
      (replace .creator_display_name values.creatorDisplayName template))
  if hasPair rendered then
    .error (units "Message template contains an invalid or unclosed placeholder")
  else .ok rendered

/-! ## Literal substitution -/

/-- A template as its placeholders and the code units between them. -/
def templatePieces (template : Text) : List (Piece UInt16 Placeholder) :=
  pieces pattern approved template

/-- The template with its placeholders replaced by the values as they are, all at once. -/
def literal (template : Text) (values : Values) : Text :=
  text (fill (fun placeholder => some (values.value placeholder)) (templatePieces template))

/-- The placeholder comes in the template. -/
def Occurs (placeholder : Placeholder) (template : Text) : Prop :=
  ∃ raw, Piece.hole placeholder raw ∈ templatePieces template

def Part.isUnit : Part → Bool
  | unit _ => true
  | _ => false

def Part.isContext : Part → Bool
  | before => true
  | after => true
  | _ => false

/-- None of the two dollars, the dollar with an ampersand, with a backtick or with an apostrophe. -/
def isPlain (value : Text) : Bool := (parts value).all Part.isUnit

/-- A dollar with a backtick or an apostrophe, which stands for the text around a match. -/
def hasContext (value : Text) : Bool := (parts value).any Part.isContext

/-! ## The matches of a placeholder -/

/-- A placeholder with white space around its name. -/
def IsHole (placeholder : Placeholder) (raw : Text) : Prop :=
  ∃ w w', (∀ c ∈ w, isWhitespace c) ∧ (∀ c ∈ w', isWhitespace c) ∧
    raw = openingPair ++ (w ++ (placeholder.name ++ (w' ++ closingPair)))

theorem name_starts (placeholder : Placeholder) :
    ∃ c tail, placeholder.name = c :: tail ∧ isWhitespace c = false := by
  cases placeholder with
  | creator_display_name => exact ⟨_, _, rfl, by decide⟩
  | product_name => exact ⟨_, _, rfl, by decide⟩
  | campaign_name => exact ⟨_, _, rfl, by decide⟩

theorem no_brace_in_name (placeholder : Placeholder) : openBrace ∉ placeholder.name := by
  cases placeholder <;> decide

theorem no_brace_in_whitespace {w : Text} (h : ∀ c ∈ w, isWhitespace c) : openBrace ∉ w := by
  intro hmem
  exact absurd (h _ hmem) (by decide)

/-- Two letters tell the names apart. -/
theorem name_append_injective {placeholder placeholder' : Placeholder} {x y : Text}
    (h : placeholder.name ++ x = placeholder'.name ++ y) : placeholder = placeholder' := by
  have htake : ∀ (placeholder : Placeholder) (x : Text),
      (placeholder.name ++ x).take 2 = placeholder.name.take 2 := by
    intro placeholder x
    cases placeholder <;> rfl
  have hfirst := congrArg (List.take 2) h
  rw [htake, htake] at hfirst
  cases placeholder <;> cases placeholder' <;> first | rfl | exact absurd hfirst (by decide)

theorem dropPrefix?_append (t x : Text) : (t ++ x).dropPrefix? t = some x :=
  List.dropPrefix?_append_of_beq x (beq_self_eq_true t)

theorem eq_of_dropPrefix? {t p x : Text} (h : t.dropPrefix? p = some x) : t = p ++ x := by
  obtain ⟨p', rfl, hp⟩ := List.dropPrefix?_eq_some_iff.1 h
  rw [eq_of_beq hp]

/-- Behind white space comes what is no white space. -/
theorem dropWhile_whitespace {w : Text} (h : ∀ c ∈ w, isWhitespace c) {c : UInt16}
    (hc : isWhitespace c = false) (t : Text) : (w ++ c :: t).dropWhile isWhitespace = c :: t := by
  rw [List.dropWhile_append_of_pos h, List.dropWhile_cons_of_neg (by simp [hc])]

theorem dropWhile_name {w : Text} (h : ∀ c ∈ w, isWhitespace c) (placeholder : Placeholder)
    (t : Text) :
    (w ++ (placeholder.name ++ t)).dropWhile isWhitespace = placeholder.name ++ t := by
  obtain ⟨c, tail, hname, hc⟩ := name_starts placeholder
  rw [hname, List.cons_append]
  exact dropWhile_whitespace h hc _

theorem dropWhile_closing {w : Text} (h : ∀ c ∈ w, isWhitespace c) (t : Text) :
    (w ++ (closingPair ++ t)).dropWhile isWhitespace = closingPair ++ t :=
  dropWhile_whitespace h (by decide) _

theorem pattern_hole {placeholder : Placeholder} {raw : Text} (h : IsHole placeholder raw)
    (rest : Text) : pattern placeholder (raw ++ rest) = some raw.length := by
  obtain ⟨w, w', hw, hw', rfl⟩ := h
  unfold pattern
  simp only [List.append_assoc, dropPrefix?_append, Option.bind_eq_bind, Option.bind_some,
    dropWhile_name hw, dropWhile_closing hw', List.length_append, Option.some.injEq]
  omega

theorem pattern_other {placeholder placeholder' : Placeholder} {raw : Text}
    (h : IsHole placeholder raw) (hne : placeholder' ≠ placeholder) (rest : Text) :
    pattern placeholder' (raw ++ rest) = none := by
  obtain ⟨w, w', hw, hw', rfl⟩ := h
  unfold pattern
  simp only [List.append_assoc, dropPrefix?_append, Option.bind_eq_bind, Option.bind_some,
    dropWhile_name hw]
  cases hdrop : List.dropPrefix? (placeholder.name ++ (w' ++ (closingPair ++ rest)))
      placeholder'.name with
  | none => rfl
  | some behind => exact absurd (name_append_injective (eq_of_dropPrefix? hdrop).symm) hne

theorem hole_of_pattern {placeholder : Placeholder} {t : Text} {n : Nat}
    (h : pattern placeholder t = some n) :
    ∃ raw rest, t = raw ++ rest ∧ IsHole placeholder raw ∧ n = raw.length := by
  unfold pattern at h
  simp only [Option.bind_eq_bind, Option.bind_eq_some_iff] at h
  obtain ⟨inner, hinner, behind, hbehind, rest, hrest, hn⟩ := h
  have htext : t = openingPair ++ (inner.takeWhile isWhitespace ++ (placeholder.name ++
      (behind.takeWhile isWhitespace ++ closingPair))) ++ rest := by
    rw [eq_of_dropPrefix? hinner]
    simp only [List.append_assoc]
    rw [← eq_of_dropPrefix? hrest, List.takeWhile_append_dropWhile, ← eq_of_dropPrefix? hbehind,
      List.takeWhile_append_dropWhile]
  refine ⟨_, rest, htext, ⟨_, _, ?_, ?_, rfl⟩, ?_⟩
  · exact fun c hc => List.mem_takeWhile_imp hc
  · exact fun c hc => List.mem_takeWhile_imp hc
  · have hlen := congrArg List.length htext
    rw [List.length_append] at hlen
    rw [Option.some.injEq] at hn
    omega

/-- The placeholders of a template are delimited by two braces. -/
def placeholders : Delimited UInt16 Placeholder where
  opening := openBrace
  pattern := pattern
  IsHole := IsHole
  shape := by
    rintro placeholder raw ⟨w, w', hw, hw', rfl⟩
    have hnot : openBrace ∉ w ++ (placeholder.name ++ (w' ++ closingPair)) := by
      simp only [List.mem_append, not_or]
      exact ⟨no_brace_in_whitespace hw, no_brace_in_name placeholder,
        no_brace_in_whitespace hw', by decide⟩
    obtain ⟨c, tail, hcons⟩ : ∃ c tail, w ++ (placeholder.name ++ (w' ++ closingPair)) =
        c :: tail := by
      obtain ⟨c, tail, hname, _⟩ := name_starts placeholder
      exact List.exists_cons_of_ne_nil (by simp [hname])
    rw [hcons] at hnot ⊢
    exact ⟨c, tail, rfl, hnot⟩
  match_hole _ _ rest h := pattern_hole h rest
  match_other _ _ _ rest h hne := pattern_other h hne rest
  of_match _ _ _ h := hole_of_pattern h

/-- The placeholders make up the template with the code units between them. -/
theorem text_templatePieces (template : Text) : text (templatePieces template) = template :=
  placeholders.text_pieces approved template

theorem sound_templatePieces (template : Text) : placeholders.Sound (templatePieces template) :=
  placeholders.sound_pieces approved template

/-! ## What a replacement text stands for -/

@[simp] theorem parts_source (value : Text) : (parts value).flatMap Part.source = value := by
  fun_induction parts value with
  | case1 c d rest hd ih => simp [Part.source, ih, hd.1, hd.2]
  | case2 c d rest _ hd ih => simp [Part.source, ih, hd.1, hd.2]
  | case3 c d rest _ _ hd ih => simp [Part.source, ih, hd.1, hd.2]
  | case4 c d rest _ _ _ hd ih => simp [Part.source, ih, hd.1, hd.2]
  | case5 c d rest _ _ _ _ ih => simp [Part.source, ih]
  | case6 c => rfl
  | case7 => rfl

/-- A plain value is inserted as it is. -/
theorem substitution_plain {value : Text} (h : isPlain value) (textBefore found textAfter : Text) :
    substitution value textBefore found textAfter = value := by
  have hexpand : ∀ part ∈ parts value,
      part.expand textBefore found textAfter = part.source := by
    intro part hmem
    have hunit := List.all_eq_true.1 h part hmem
    cases part <;> first | rfl | cases hunit
  calc substitution value textBefore found textAfter
      = (parts value).flatMap Part.source := by
        unfold substitution
        rw [List.flatMap_congr hexpand]
    _ = value := parts_source value

/-- A dollar with an ampersand brings the match back. -/
theorem substitution_matched {value : Text} (h : Part.matched ∈ parts value)
    (textBefore found textAfter : Text) :
    ∃ c c', substitution value textBefore found textAfter = c ++ (found ++ c') := by
  obtain ⟨front, back, hparts⟩ := List.append_of_mem h
  unfold substitution
  rw [hparts, List.flatMap_append, List.flatMap_cons]
  exact ⟨_, _, rfl⟩

/-- The value with one dollar for each two. -/
def undoubled (value : Text) : Text := substitution value [] [] []

theorem substitution_undoubled {value : Text} (hcontext : hasContext value = false)
    (hmatched : Part.matched ∉ parts value) (textBefore found textAfter : Text) :
    substitution value textBefore found textAfter = undoubled value := by
  have hexpand : ∀ part ∈ parts value,
      part.expand textBefore found textAfter = part.expand [] [] [] := by
    intro part hmem
    have hpart := List.any_eq_false.1 hcontext part hmem
    cases part with
    | unit c => rfl
    | dollar => rfl
    | matched => exact absurd hmem hmatched
    | before => exact absurd rfl hpart
    | after => exact absurd rfl hpart
  unfold undoubled substitution
  rw [List.flatMap_congr hexpand]

/-- Without the other patterns a value that is not plain loses a dollar. -/
theorem collapses_expand {ps : List Part} (hcontext : ps.any Part.isContext = false)
    (hmatched : Part.matched ∉ ps) :
    Collapses dollar (ps.flatMap Part.source) (ps.flatMap (Part.expand [] [] [])) ∧
      (ps.all Part.isUnit = false →
        (ps.flatMap (Part.expand [] [] [])).length < (ps.flatMap Part.source).length) := by
  induction ps with
  | nil => exact ⟨.nil, by simp⟩
  | cons part ps ih =>
    rw [List.any_cons, Bool.or_eq_false_iff] at hcontext
    rw [List.mem_cons, not_or] at hmatched
    obtain ⟨hcollapses, hlength⟩ := ih hcontext.2 hmatched.2
    have hle := hcollapses.length_le
    cases part with
    | unit c =>
      refine ⟨hcollapses.keep c, fun hsome => ?_⟩
      rw [List.all_cons, Part.isUnit, Bool.true_and] at hsome
      exact Nat.succ_lt_succ (hlength hsome)
    | dollar =>
      refine ⟨hcollapses.drop, fun _ => ?_⟩
      simp only [List.flatMap_cons, List.length_append, Part.source, Part.expand, List.length_cons]
      omega
    | matched => exact absurd rfl hmatched.1
    | before => cases hcontext.1
    | after => cases hcontext.1

theorem collapses_undoubled {value : Text} (hcontext : hasContext value = false)
    (hmatched : Part.matched ∉ parts value) : Collapses dollar value (undoubled value) := by
  have h := (collapses_expand hcontext hmatched).1
  rwa [parts_source] at h

theorem undoubled_shorter {value : Text} (hcontext : hasContext value = false)
    (hmatched : Part.matched ∉ parts value) (hplain : isPlain value = false) :
    (undoubled value).length < value.length := by
  have h := (collapses_expand hcontext hmatched).2 hplain
  rwa [parts_source] at h

/-! ## Pairs of braces -/

theorem hasPair_append (x y : Text) : hasPair (x ++ openBrace :: openBrace :: y) = true := by
  induction x with
  | nil => rfl
  | cons c x ih =>
    cases x with
    | nil => simp [hasPair]
    | cons d x =>
      rw [List.cons_append, List.cons_append, hasPair, Bool.or_eq_true]
      exact Or.inr ih

theorem hasPair_of_opens {t : Text} (h : placeholders.Opens t) : hasPair t = true := by
  obtain ⟨x, y, rfl⟩ := h
  exact hasPair_append x y

/-- A placeholder that is left is a pair. -/
theorem hasPair_of_hole {placeholder : Placeholder} {raw : Text} (h : IsHole placeholder raw)
    (x y : Text) : hasPair (x ++ (raw ++ y)) = true := by
  obtain ⟨w, w', _, _, rfl⟩ := h
  exact hasPair_append x _

/-! ## The three replacements -/

/-- What the three replacements make of the template. -/
def rendering (template : Text) (values : Values) : Text :=
  replaceKinds pattern (fun placeholder => substitution (values.value placeholder)) approved
    template

theorem renderMessage_eq {template : Text} (h : assertPlaceholders template = .ok ())
    (values : Values) :
    renderMessage template values =
      if hasPair (rendering template values) then
        .error (units "Message template contains an invalid or unclosed placeholder")
      else .ok (rendering template values) := by
  unfold renderMessage
  rw [h]
  rfl

theorem assertPlaceholders_of_ok {template rendered : Text} {values : Values}
    (h : renderMessage template values = .ok rendered) : assertPlaceholders template = .ok () := by
  unfold renderMessage at h
  cases hassert : assertPlaceholders template with
  | ok _ => rfl
  | error message =>
    rw [hassert] at h
    cases h

/-- If each value stands for one text, wherever it is inserted, and no pair of opening braces
arises, the texts take the places of the placeholders. -/
theorem rendering_eq {template : Text} {values : Values} (σ : Placeholder → Text)
    (hvalue : ∀ placeholder, Occurs placeholder template → ∀ textBefore found textAfter,
      substitution (values.value placeholder) textBefore found textAfter = σ placeholder)
    (hopens : ¬ placeholders.Opens
      (text (fill (fun placeholder => some (σ placeholder)) (templatePieces template)))) :
    rendering template values =
      text (fill (fun placeholder => some (σ placeholder)) (templatePieces template)) := by
  have hall : (fun placeholder => some (σ placeholder)) = among approved σ := by
    funext placeholder
    cases placeholder <;> rfl
  rw [hall] at hopens ⊢
  have h := Delimited.replaceKinds_text
    (f := fun placeholder => substitution (values.value placeholder))
    (sound_templatePieces template) (Delimited.calm_of_text hopens)
    (fun placeholder _ raw hmem textBefore textAfter =>
      hvalue placeholder ⟨raw, hmem⟩ textBefore raw textAfter)
  rw [text_templatePieces] at h
  exact h

/-- A value with the match in it leaves a placeholder behind. -/
theorem hasPair_of_matched {template : Text} {values : Values} {placeholder : Placeholder}
    (hoccurs : Occurs placeholder template)
    (hmatched : Part.matched ∈ parts (values.value placeholder)) :
    hasPair (rendering template values) = true := by
  obtain ⟨raw, hmem⟩ := hoccurs
  have hraw : IsHole placeholder raw := sound_templatePieces template placeholder raw hmem
  obtain ⟨front, back, hpieces⟩ := List.append_of_mem hmem
  have htemplate : template = text front ++ (raw ++ text back) := by
    rw [← text_templatePieces template, hpieces, text_append, text_cons, Piece.text]
  have happroved : placeholder ∈ approved := by cases placeholder <;> decide
  obtain ⟨x, y, hreturns⟩ := Delimited.replaceKinds_returns (D := placeholders)
    (f := fun placeholder => substitution (values.value placeholder)) (by decide) happroved hraw
    (fun textBefore textAfter => substitution_matched hmatched textBefore raw textAfter)
    (text front) (text back)
  unfold rendering
  rw [htemplate]
  exact (congrArg hasPair hreturns).trans (hasPair_of_hole hraw x y)

/-! ## Literal rendering -/

/-- What is meant by rendering: the template is accepted, and its placeholders are replaced by
the values as they are. -/
def RendersLiterally (template : Text) (values : Values) : Prop :=
  renderMessage template values = .ok (literal template values)

/-- The values that are inserted have no dollar pattern, and no pair of braces arises. -/
structure Harmless (template : Text) (values : Values) : Prop where
  plain : ∀ placeholder, Occurs placeholder template → isPlain (values.value placeholder)
  unpaired : hasPair (literal template values) = false

theorem rendersLiterally_of_harmless {template : Text} {values : Values}
    (haccepted : assertPlaceholders template = .ok ()) (h : Harmless template values) :
    RendersLiterally template values := by
  have hrendering : rendering template values = literal template values := by
    refine rendering_eq values.value
      (fun placeholder hoccurs => substitution_plain (h.plain placeholder hoccurs)) ?_
    intro hopens
    exact absurd (hasPair_of_opens hopens) (by simpa [literal] using h.unpaired)
  unfold RendersLiterally
  rw [renderMessage_eq haccepted, hrendering, h.unpaired]
  rfl

theorem harmless_of_rendersLiterally {template : Text} {values : Values}
    (hcontext : ∀ placeholder, Occurs placeholder template →
      hasContext (values.value placeholder) = false)
    (h : RendersLiterally template values) : Harmless template values := by
  unfold RendersLiterally at h
  rw [renderMessage_eq (assertPlaceholders_of_ok h)] at h
  cases hpair : hasPair (rendering template values) with
  | true =>
    rw [hpair] at h
    cases h
  | false =>
    simp only [hpair, Bool.false_eq_true, if_false, Except.ok.injEq] at h
    have hmatched : ∀ placeholder, Occurs placeholder template →
        Part.matched ∉ parts (values.value placeholder) := by
      intro placeholder hoccurs hmem
      rw [hasPair_of_matched hoccurs hmem] at hpair
      cases hpair
    rw [h] at hpair
    have hcollapses : ∀ placeholder raw, Piece.hole placeholder raw ∈ templatePieces template →
        Collapses dollar (values.value placeholder) (undoubled (values.value placeholder)) :=
      fun placeholder raw hmem => collapses_undoubled (hcontext placeholder ⟨raw, hmem⟩)
        (hmatched placeholder ⟨raw, hmem⟩)
    -- with one dollar for each two no pair of braces arises that is not there with both
    have hrendering := rendering_eq (fun placeholder => undoubled (values.value placeholder))
      (fun placeholder hoccurs => substitution_undoubled (hcontext placeholder hoccurs)
        (hmatched placeholder hoccurs))
      (fun hopens => by
        have hpair' : hasPair (literal template values) = true :=
          hasPair_of_opens ((Collapses.fill hcollapses).opens (by decide) hopens)
        rw [hpair] at hpair'
        cases hpair')
    refine ⟨?_, hpair⟩
    rintro placeholder ⟨raw, hmem⟩
    by_contra hplain
    rw [Bool.not_eq_true] at hplain
    have hshorter := Collapses.fill_length hcollapses hmem (undoubled_shorter
      (hcontext placeholder ⟨raw, hmem⟩) (hmatched placeholder ⟨raw, hmem⟩) hplain)
    rw [← hrendering, h] at hshorter
    exact Nat.lt_irrefl _ hshorter

/-- A template that was accepted is rendered literally if the values are harmless, and, where no
value stands for the text around its placeholder, only then. -/
theorem harmless_values_are_rendered_literally {template rendered : Text} {accepted : Values}
    (haccepted : renderMessage template accepted = .ok rendered) (values : Values) :
    (Harmless template values → RendersLiterally template values) ∧
      ((∀ placeholder, Occurs placeholder template →
          hasContext (values.value placeholder) = false) →
        RendersLiterally template values → Harmless template values) :=
  ⟨rendersLiterally_of_harmless (assertPlaceholders_of_ok haccepted),
    harmless_of_rendersLiterally⟩

def greeting : Text := units "Hi \x7b\x7bcreator_display_name\x7d\x7d — try \x7b\x7bproduct_name\x7d\x7d"

def launch : Values where
  creatorDisplayName := units "Ayu"
  productName := units "Glow Serum"
  campaignName := units "Launch"

theorem the_greeting_is_rendered_literally : RendersLiterally greeting launch :=
  (harmless_values_are_rendered_literally
    (show renderMessage greeting launch = .ok (units "Hi Ayu — try Glow Serum") by decide)
    launch).1
    ⟨fun placeholder _ => by cases placeholder <;> decide, by decide⟩

/-- A creator whose name ends in two dollars. -/
def cash : Values := { launch with creatorDisplayName := units "Cash$$" }

/-- One of the two dollars is lost. -/
theorem a_dollar_is_lost :
    ¬ ∀ template values rendered, renderMessage template values = .ok rendered →
      rendered = literal template values := by
  intro h
  have hrendered : renderMessage greeting cash = .ok (units "Hi Cash$ — try Glow Serum") := by
    decide
  have hliteral : literal greeting cash = units "Hi Cash$$ — try Glow Serum" := by decide
  have hequal := h _ _ _ hrendered
  rw [hliteral] at hequal
  exact absurd hequal (by decide)

end tiktok_outreach.render_message
