-- The rows of the creator sheet (apps/api/src/creator-database/creator-sheet.gateway.ts): how a
-- creator is written into a row, and what is read back from one.
import Mathlib
import TiktokOutreach.Lib.Texts

open texts

namespace tiktok_outreach.creator_sheet

/-! ## Creators -/

/-- The finite numbers of the language: their texts, the number of a text, if it is one, and the
numbers of the truth values. A number is read back from its text. -/
structure Numbers (N : Type) where
  toText : N → String
  ofText : String → Option N
  ofNat : Nat → N
  ofBool : Bool → N
  ofText_toText : ∀ n, ofText (toText n) = some n

structure Money where
  amount : String
  currency : String
  deriving DecidableEq, Repr

structure CreatorCandidate (N : Type) where
  creatorOpenId : String
  username : Option String := none
  nickname : Option String := none
  categoryIds : List String := []
  followerCount : Option N := none
  avgVideoViews : Option N := none
  avgLiveViewers : Option N := none
  unitsSold : Option N := none
  gmv : Option Money := none
  liveGmv : Option Money := none
  videoGmv : Option Money := none
  gmvRange : Option String := none
  selectionRegion : String
  topAgeRanges : Option (List String) := none
  majorGender : Option String := none
  majorGenderPercentage : Option N := none
  avatarUrl : Option String := none
  discoveryOrdinal : Nat := 0
  deriving DecidableEq

/-! ## Cells -/

/-- The value of a cell. An empty cell is an empty text, or no cell at all behind the last one. -/
inductive Cell (N : Type)
  | text (s : String)
  | number (n : N)
  | boolean (b : Bool)
  deriving DecidableEq

abbrev Row (N : Type) := List (Cell N)

section Rows

variable {N : Type} (numbers : Numbers N)

/-- `String(value)` -/
def Cell.toText : Cell N → String
  | text s => s
  | number n => numbers.toText n
  | boolean b => if b then "true" else "false"

/-- `text(value)` -/
def text (value : Option (Cell N)) : Option String :=
  let normalized := trim ((value.map (Cell.toText numbers)).getD "")
  if normalized = "" then none else some normalized

/-- `numeric(value)` -/
def numeric : Option (Cell N) → Option N
  | none => none
  | some (.text s) => if s = "" then none else numbers.ofText s
  | some (.number n) => some n
  | some (.boolean b) => some (numbers.ofBool b)

def money (amount : Option (Cell N)) (currency : String) : Option Money :=
  (numeric numbers amount).map (fun value => ⟨numbers.toText value, currency⟩)

/-- `value ?? ""` -/
def textCell (value : Option String) : Cell N := .text (value.getD "")

def numberCell (value : Option N) : Cell N :=
  match value with
  | some n => .number n
  | none => .text ""

def sheetRow (creator : CreatorCandidate N) (recordNumber : Nat) : Row N :=
  [.number (numbers.ofNat recordNumber), textCell creator.username, textCell creator.nickname,
    .text creator.creatorOpenId,
    numberCell creator.followerCount, numberCell creator.avgVideoViews,
    numberCell creator.avgLiveViewers,
    textCell (creator.gmv.map (·.amount)), textCell (creator.liveGmv.map (·.amount)),
    textCell (creator.videoGmv.map (·.amount)),
    textCell creator.gmvRange, .text (join ", " creator.categoryIds), .text creator.selectionRegion,
    textCell (creator.topAgeRanges.map (join ", ")), textCell creator.majorGender,
    numberCell creator.majorGenderPercentage, textCell creator.avatarUrl]

/-- `value.split(",").map((value) => value.trim()).filter(Boolean)` -/
def commaSeparated (value : String) : List String :=
  ((split ',' value).map trim).filter (· ≠ "")

def candidateFromRow (row : Row N) (ordinal : Nat) : Option (CreatorCandidate N) :=
  (text numbers row[3]?).map fun creatorOpenId => {
    creatorOpenId
    username := text numbers row[1]?
    nickname := text numbers row[2]?
    followerCount := numeric numbers row[4]?
    avgVideoViews := numeric numbers row[5]?
    avgLiveViewers := numeric numbers row[6]?
    gmv := money numbers row[7]? "USD"
    liveGmv := money numbers row[8]? "USD"
    videoGmv := money numbers row[9]? "USD"
    gmvRange := text numbers row[10]?
    categoryIds := ((text numbers row[11]?).map commaSeparated).getD []
    selectionRegion := (text numbers row[12]?).getD "UNKNOWN"
    topAgeRanges := (text numbers row[13]?).map commaSeparated
    majorGender := text numbers row[14]?
    majorGenderPercentage := numeric numbers row[15]?
    avatarUrl := text numbers row[16]?
    unitsSold := none
    discoveryOrdinal := ordinal }

/-! ## The texts of the cells -/

variable {numbers}

theorem text_text {s : String} (h : Trimmed s) : text numbers (some (.text s)) = some s := by
  obtain ⟨hne, htrim⟩ := h
  simp [text, Cell.toText, htrim, hne]

theorem text_empty : text numbers (some (.text "")) = none := by
  have htrim : trim "" = "" := by decide
  simp [text, Cell.toText, htrim]

/-- A text that is written where there is one is read back. -/
theorem text_textCell {value : Option String} (h : ∀ s ∈ value, Trimmed s) :
    text numbers (some (textCell value)) = value := by
  cases value with
  | none => exact text_empty
  | some s => exact text_text (h s rfl)

theorem numeric_numberCell (value : Option N) :
    numeric numbers (some (numberCell value)) = value := by
  cases value with
  | none => simp [numberCell, numeric]
  | some n => rfl

/-- The comma and the blank between the parts are white space and no part of them. -/
theorem commaSeparated_join {parts : List String} (hne : parts ≠ [])
    (h : ∀ part ∈ parts, Trimmed part ∧ ',' ∉ part.toList) :
    commaSeparated (join ", " parts) = parts := by
  obtain ⟨first, rest, rfl⟩ := List.exists_cons_of_ne_nil hne
  have hseparator : (", " : String).toList = [',', ' '] := by decide
  have hchars : (join ", " (first :: rest)).toList =
      [','].intercalate (first.toList :: rest.map (fun part => ' ' :: part.toList)) := by
    rw [toList_join, hseparator, List.map_cons, intercalate_blank, List.map_map]
    rfl
  have hfree : ∀ l ∈ first.toList :: rest.map (fun part => ' ' :: part.toList), ',' ∉ l := by
    intro l hl
    rcases List.mem_cons.1 hl with rfl | hl
    · exact (h first List.mem_cons_self).2
    · obtain ⟨part, hpart, rfl⟩ := List.mem_map.1 hl
      have hcomma := (h part (List.mem_cons_of_mem _ hpart)).2
      simp [hcomma]
  have hsplit : split ',' (join ", " (first :: rest)) =
      first :: rest.map (fun part => String.ofList (' ' :: part.toList)) := by
    unfold split
    rw [hchars, List.splitOn_intercalate ',' hfree (by simp), List.map_cons, List.map_map]
    simp
  have htrim : ∀ part ∈ rest, (trim ∘ fun part => String.ofList (' ' :: part.toList)) part =
      id part := by
    intro part hpart
    have hpart := (h part (List.mem_cons_of_mem _ hpart)).1.2
    rw [Function.comp_apply, id_eq, ← String.toList_inj, toList_trim, String.toList_ofList,
      trim_cons (by decide), ← toList_trim, hpart]
  have hall : ((first :: rest).filter (· ≠ "")) = first :: rest := by
    rw [List.filter_eq_self]
    intro part hpart
    simpa using (h part hpart).1.1
  unfold commaSeparated
  rw [hsplit, List.map_cons, List.map_map, List.map_congr_left htrim, List.map_id,
    (h first List.mem_cons_self).1.2]
  exact hall

/-- The parts have no white space at their ends, and so has the text they are joined to. -/
theorem trimmed_join {parts : List String} (hne : parts ≠ []) (h : ∀ part ∈ parts, Trimmed part) :
    Trimmed (join ", " parts) := by
  have hlist : ∀ part ∈ parts, part.toList ≠ [] ∧ TrimmedList part.toList := by
    intro part hpart
    obtain ⟨hempty, htrim⟩ := h part hpart
    exact ⟨toList_ne_nil hempty, trim_eq_self_iff.1 htrim⟩
  have hjoined : ∀ ls : List (List Char), ls ≠ [] → (∀ l ∈ ls, l ≠ [] ∧ TrimmedList l) →
      (", " : String).toList.intercalate ls ≠ [] ∧
        TrimmedList ((", " : String).toList.intercalate ls) := by
    intro ls
    induction ls with
    | nil => simp
    | cons l rest ih =>
      intro _ hall
      obtain ⟨hl, hhead, hlast⟩ := hall l List.mem_cons_self
      cases rest with
      | nil => exact ⟨by simpa using hl, by simpa using ⟨hhead, hlast⟩⟩
      | cons l' rest =>
        obtain ⟨hrest, _, hend⟩ := ih (by simp) (fun m hm => hall m (List.mem_cons_of_mem _ hm))
        rw [List.intercalate_cons_cons]
        refine ⟨by simp, ?_, ?_⟩
        · rw [List.append_assoc, List.head?_append_of_ne_nil _ hl]
          exact hhead
        · rw [List.getLast?_append_of_ne_nil _ hrest]
          exact hend
  obtain ⟨hnonempty, htrimmed⟩ := hjoined (parts.map String.toList) (by simpa using hne) (by
    intro l hl
    obtain ⟨part, hpart, rfl⟩ := List.mem_map.1 hl
    exact hlist part hpart)
  rw [← toList_join] at hnonempty htrimmed
  refine ⟨?_, trim_eq_self_iff.2 htrimmed⟩
  rintro hempty
  simp [hempty] at hnonempty

theorem text_join {parts : List String} (hne : parts ≠ []) (h : ∀ part ∈ parts, Trimmed part) :
    text numbers (some (.text (join ", " parts))) = some (join ", " parts) :=
  text_text (trimmed_join hne h)

end Rows

/-! ## What is read back -/

section Copies

variable {N : Type} (numbers : Numbers N)

/-- The same numeric amount with the same currency, or no money at all. -/
def SameMoney (a b : Option Money) : Prop :=
  a.map (fun money => (numbers.ofText money.amount, money.currency)) =
    b.map (fun money => (numbers.ofText money.amount, money.currency))

/-- The columns of a creator are those of the other. -/
structure Copied (creator back : CreatorCandidate N) : Prop where
  creatorOpenId : back.creatorOpenId = creator.creatorOpenId
  username : back.username = creator.username
  nickname : back.nickname = creator.nickname
  followerCount : back.followerCount = creator.followerCount
  avgVideoViews : back.avgVideoViews = creator.avgVideoViews
  avgLiveViewers : back.avgLiveViewers = creator.avgLiveViewers
  gmv : SameMoney numbers back.gmv creator.gmv
  liveGmv : SameMoney numbers back.liveGmv creator.liveGmv
  videoGmv : SameMoney numbers back.videoGmv creator.videoGmv
  gmvRange : back.gmvRange = creator.gmvRange
  categoryIds : back.categoryIds = creator.categoryIds
  selectionRegion : back.selectionRegion = creator.selectionRegion
  topAgeRanges : back.topAgeRanges = creator.topAgeRanges
  majorGender : back.majorGender = creator.majorGender
  majorGenderPercentage : back.majorGenderPercentage = creator.majorGenderPercentage
  avatarUrl : back.avatarUrl = creator.avatarUrl

/-- A trimmed text that is no list of more parts than one. -/
def Part (s : String) : Prop := Trimmed s ∧ ',' ∉ s.toList

/-- The texts are trimmed and not empty, the lists have no commas in their parts, and the amounts
are finite numbers. -/
structure Writable (creator : CreatorCandidate N) : Prop where
  creatorOpenId : Trimmed creator.creatorOpenId
  username : ∀ s ∈ creator.username, Trimmed s
  nickname : ∀ s ∈ creator.nickname, Trimmed s
  gmv : ∀ money ∈ creator.gmv, money.amount ≠ "" ∧ (numbers.ofText money.amount).isSome
  liveGmv : ∀ money ∈ creator.liveGmv, money.amount ≠ "" ∧ (numbers.ofText money.amount).isSome
  videoGmv : ∀ money ∈ creator.videoGmv, money.amount ≠ "" ∧ (numbers.ofText money.amount).isSome
  gmvRange : ∀ s ∈ creator.gmvRange, Trimmed s
  categoryIds : ∀ s ∈ creator.categoryIds, Part s
  selectionRegion : Trimmed creator.selectionRegion
  topAgeRanges : ∀ ranges ∈ creator.topAgeRanges, ∀ s ∈ ranges, Part s
  majorGender : ∀ s ∈ creator.majorGender, Trimmed s
  avatarUrl : ∀ s ∈ creator.avatarUrl, Trimmed s

/-- The currency of all money that is read. -/
def InDollars (creator : CreatorCandidate N) : Prop :=
  ∀ money ∈ creator.gmv.toList ++ creator.liveGmv.toList ++ creator.videoGmv.toList,
    money.currency = "USD"

variable {numbers}

/-- An amount keeps its number, and gets the currency it is read with. -/
theorem sameMoney_iff {value : Option Money} {currency : String}
    (h : ∀ money ∈ value, money.amount ≠ "" ∧ (numbers.ofText money.amount).isSome) :
    SameMoney numbers (money numbers (some (textCell (value.map (·.amount)))) currency) value ↔
      ∀ money ∈ value, money.currency = currency := by
  cases value with
  | none => simp [SameMoney, money, textCell, numeric]
  | some given =>
    obtain ⟨hne, hnumber⟩ := h given rfl
    obtain ⟨n, hn⟩ := Option.isSome_iff_exists.1 hnumber
    have hread : money numbers (some (textCell ((some given).map (·.amount)))) currency =
        some ⟨numbers.toText n, currency⟩ := by
      simp [money, textCell, numeric, hne, hn]
    rw [hread]
    simp [SameMoney, hn, numbers.ofText_toText, eq_comm]

theorem categories_read {ids : List String} (h : ∀ s ∈ ids, Part s) :
    ((text numbers (some (.text (join ", " ids)))).map commaSeparated).getD [] = ids := by
  by_cases hne : ids = []
  · rw [hne, join_nil, text_empty]
    rfl
  · rw [text_join hne (fun s hs => (h s hs).1), Option.map_some, Option.getD_some,
      commaSeparated_join hne h]

/-- The ranges are read back, but an empty list is read as none. -/
theorem ranges_read_iff {value : Option (List String)}
    (h : ∀ ranges ∈ value, ∀ s ∈ ranges, Part s) :
    (text numbers (some (textCell (value.map (join ", "))))).map commaSeparated = value ↔
      value ≠ some [] := by
  cases value with
  | none => simp [textCell, text_empty]
  | some ranges =>
    have hparts := h ranges rfl
    by_cases hne : ranges = []
    · rw [hne]
      simp [textCell, join_nil, text_empty]
    · have hread : text numbers (some (textCell ((some ranges).map (join ", ")))) =
          some (join ", " ranges) := text_join hne (fun s hs => (hparts s hs).1)
      rw [hread, Option.map_some, commaSeparated_join hne hparts]
      simp [hne]

/-- The creator that is read from the row of another one. -/
def readBack (numbers : Numbers N) (creator : CreatorCandidate N) (ordinal : Nat) :
    CreatorCandidate N :=
  { creator with
    gmv := money numbers (some (textCell (creator.gmv.map (·.amount)))) "USD"
    liveGmv := money numbers (some (textCell (creator.liveGmv.map (·.amount)))) "USD"
    videoGmv := money numbers (some (textCell (creator.videoGmv.map (·.amount)))) "USD"
    topAgeRanges :=
      (text numbers (some (textCell (creator.topAgeRanges.map (join ", "))))).map commaSeparated
    unitsSold := none
    discoveryOrdinal := ordinal }

theorem candidateFromRow_sheetRow {creator : CreatorCandidate N} (h : Writable numbers creator)
    (recordNumber ordinal : Nat) :
    candidateFromRow numbers (sheetRow numbers creator recordNumber) ordinal =
      some (readBack numbers creator ordinal) := by
  have hcells : sheetRow numbers creator recordNumber = [.number (numbers.ofNat recordNumber),
      textCell creator.username, textCell creator.nickname, .text creator.creatorOpenId,
      numberCell creator.followerCount, numberCell creator.avgVideoViews,
      numberCell creator.avgLiveViewers, textCell (creator.gmv.map (·.amount)),
      textCell (creator.liveGmv.map (·.amount)), textCell (creator.videoGmv.map (·.amount)),
      textCell creator.gmvRange, .text (join ", " creator.categoryIds),
      .text creator.selectionRegion, textCell (creator.topAgeRanges.map (join ", ")),
      textCell creator.majorGender, numberCell creator.majorGenderPercentage,
      textCell creator.avatarUrl] := rfl
  rw [hcells]
  simp only [candidateFromRow, List.getElem?_cons_zero, List.getElem?_cons_succ,
    text_text h.creatorOpenId, text_textCell h.username, text_textCell h.nickname,
    text_textCell h.gmvRange, text_textCell h.majorGender, text_textCell h.avatarUrl,
    text_text h.selectionRegion, numeric_numberCell, categories_read h.categoryIds,
    Option.map_some, Option.getD_some]
  rfl

/-- A creator comes back from the sheet as it was exactly when all its money is in dollars and its
age ranges are no empty list. -/
theorem sheet_copies_creators {creator : CreatorCandidate N} (h : Writable numbers creator)
    (recordNumber ordinal : Nat) :
    (∃ back, candidateFromRow numbers (sheetRow numbers creator recordNumber) ordinal = some back ∧
      Copied numbers creator back) ↔ InDollars creator ∧ creator.topAgeRanges ≠ some [] := by
  have hgmv := @sameMoney_iff _ numbers creator.gmv "USD" h.gmv
  have hlive := @sameMoney_iff _ numbers creator.liveGmv "USD" h.liveGmv
  have hvideo := @sameMoney_iff _ numbers creator.videoGmv "USD" h.videoGmv
  have hranges := @ranges_read_iff _ numbers creator.topAgeRanges h.topAgeRanges
  have hdollars : InDollars creator ↔ (∀ money ∈ creator.gmv, money.currency = "USD") ∧
      (∀ money ∈ creator.liveGmv, money.currency = "USD") ∧
      ∀ money ∈ creator.videoGmv, money.currency = "USD" := by
    simp only [InDollars, List.mem_append, Option.mem_toList, Option.mem_def, or_imp,
      forall_and, and_assoc]
  rw [candidateFromRow_sheetRow h, hdollars]
  constructor
  · rintro ⟨back, hback, hcopied⟩
    cases hback
    exact ⟨⟨hgmv.1 hcopied.gmv, hlive.1 hcopied.liveGmv, hvideo.1 hcopied.videoGmv⟩,
      hranges.1 hcopied.topAgeRanges⟩
  · rintro ⟨⟨hgmv', hlive', hvideo'⟩, hranges'⟩
    exact ⟨_, rfl, {
      creatorOpenId := rfl
      username := rfl
      nickname := rfl
      followerCount := rfl
      avgVideoViews := rfl
      avgLiveViewers := rfl
      gmv := hgmv.2 hgmv'
      liveGmv := hlive.2 hlive'
      videoGmv := hvideo.2 hvideo'
      gmvRange := rfl
      categoryIds := rfl
      selectionRegion := rfl
      topAgeRanges := hranges.2 hranges'
      majorGender := rfl
      majorGenderPercentage := rfl
      avatarUrl := rfl }⟩

end Copies

/-! ## Samples -/

def decimals : Numbers Nat where
  toText := Nat.repr
  ofText := String.toNat?
  ofNat := id
  ofBool := Bool.toNat
  ofText_toText := Nat.toNat?_repr

def sampleCreator : CreatorCandidate Nat where
  creatorOpenId := "open-1"
  username := some "ayu"
  categoryIds := ["beauty", "home"]
  followerCount := some 1200
  gmv := some ⟨"125", "USD"⟩
  selectionRegion := "ID"
  topAgeRanges := some ["18-24", "25-34"]

/-- A creator with its money in rupiah. -/
def rupiahCreator : CreatorCandidate Nat := { sampleCreator with gmv := some ⟨"125", "IDR"⟩ }

theorem ofText_sample : decimals.ofText "125" = some 125 := by
  have hrepr : decimals.toText 125 = "125" := by decide
  rw [← hrepr]
  exact decimals.ofText_toText 125

theorem writable_sample : Writable decimals sampleCreator where
  creatorOpenId := by decide
  username := by decide
  nickname := by decide
  gmv := by
    rintro money hmoney
    cases hmoney
    exact ⟨by decide, by rw [ofText_sample]; rfl⟩
  liveGmv := by decide
  videoGmv := by decide
  gmvRange := by decide
  categoryIds := by
    simp only [Part]
    decide
  selectionRegion := by decide
  topAgeRanges := by
    simp only [Part]
    decide
  majorGender := by decide
  avatarUrl := by decide

theorem a_creator_in_dollars_is_copied :
    ∃ back, candidateFromRow decimals (sheetRow decimals sampleCreator 7) 0 = some back ∧
      Copied decimals sampleCreator back :=
  (sheet_copies_creators writable_sample 7 0).2 ⟨by unfold InDollars; decide, by decide⟩

/-- Money in rupiah comes back in dollars. -/
theorem rupiah_come_back_as_dollars :
    Writable decimals rupiahCreator ∧
      (candidateFromRow decimals (sheetRow decimals rupiahCreator 7) 0).map (·.gmv) =
        some (some ⟨"125", "USD"⟩) ∧
      ¬ ∃ back, candidateFromRow decimals (sheetRow decimals rupiahCreator 7) 0 = some back ∧
        Copied decimals rupiahCreator back := by
  have hwritable : Writable decimals rupiahCreator :=
    { writable_sample with
      gmv := by
        rintro money hmoney
        cases hmoney
        exact ⟨by decide, by rw [ofText_sample]; rfl⟩ }
  have hread := candidateFromRow_sheetRow hwritable 7 0
  refine ⟨hwritable, ?_, ?_⟩
  · have hmoney : money decimals (some (.text "125")) "USD" = some ⟨"125", "USD"⟩ := by
      simp only [money, numeric, ofText_sample]
      decide
    rw [hread]
    exact congrArg some hmoney
  · rintro ⟨back, hback, hcopied⟩
    rw [hread, Option.some.injEq] at hback
    subst hback
    have hcurrency := (sameMoney_iff hwritable.gmv).1 hcopied.gmv ⟨"125", "IDR"⟩ rfl
    exact absurd hcurrency (by decide)

end tiktok_outreach.creator_sheet
