-- A page of creators is put into the creator sheet
-- (apps/api/src/creator-database/creator-sheet.gateway.ts): the rows that are there are updated and
-- the others appended, in two requests, each of which may fail before it or behind it.
import TiktokOutreach.CreatorSheet
import TiktokOutreach.Lib.Runs
import TiktokOutreach.Lib.Tables
import TiktokOutreach.Lib.Transcripts

open executions runs tables texts tiktok_outreach.creator_sheet

namespace tiktok_outreach.sheet_reconciliation

variable {N : Type}

/-! ## The sheet -/

/-- The rows of the sheet in its columns A to Q, from row 1 on. -/
abbrev Sheet (N : Type) := List (Row N)

def isEmpty : Cell N → Bool
  | .text s => s = ""
  | _ => false

def blank (row : Row N) : Bool := row.all isEmpty

/-- The values of the range A2:Q, without the empty cells at the end of a row and the blank rows at
the end. -/
def readValues (sheet : Sheet N) : List (Row N) :=
  ((sheet.drop 1).map (fun row => row.rdropWhile isEmpty)).rdropWhile blank

/-- `values:batchUpdate`, one row for each range. -/
def batchUpdate (updates : List (Nat × Row N)) (sheet : Sheet N) : Sheet N :=
  updates.foldl (fun sheet update => sheet.set (update.1 - 1) update.2) sheet

/-- `:append` with `INSERT_ROWS`: the rows are put behind the last one that is not blank. -/
def append (additions : List (Row N)) (sheet : Sheet N) : Sheet N :=
  sheet.rdropWhile blank ++ additions ++ sheet.rtakeWhile blank

/-! ## `reconcilePage` -/

section Reconcile

variable (numbers : Numbers N)

/-- `text(row[3])` -/
def idOf (row : Row N) : Option String := text numbers row[3]?

/-- The row of each creator, which is the first one with its id. -/
def rowByCreator (rows : List (Row N)) : Table String Nat :=
  rows.zipIdx.foldl (fun known entry =>
    match idOf numbers entry.1 with
    | none => known
    | some id => if (known.get id).isSome then known else known.set id (entry.2 + 2)) .empty

/-- `[...new Map(creators.map((creator) => [creator.creatorOpenId, creator])).values()]` -/
def uniqueCreators (creators : List (CreatorCandidate N)) : List (CreatorCandidate N) :=
  (Table.ofList (creators.map (fun creator => (creator.creatorOpenId, creator)))).rows.map Prod.snd

structure Plan (N : Type) where
  updates : List (Nat × Row N)
  additions : List (Row N)

def planCreator (rows : List (Row N)) (plan : Plan N) (creator : CreatorCandidate N) : Plan N :=
  match (rowByCreator numbers rows).get creator.creatorOpenId with
  | some rowNumber => { plan with
      updates := plan.updates ++ [(rowNumber, sheetRow numbers creator (rowNumber - 1))] }
  | none => { plan with
      additions :=
        plan.additions ++ [sheetRow numbers creator (rows.length + plan.additions.length + 1)] }

def plan (rows : List (Row N)) (creators : List (CreatorCandidate N)) : Plan N :=
  (uniqueCreators creators).foldl (planCreator numbers rows) ⟨[], []⟩

end Reconcile

inductive Call (N : Type)
  | getValues
  | batchUpdate (updates : List (Nat × Row N))
  | append (additions : List (Row N))

/-- What a request gives. -/
abbrev Call.Result : Call N → Type
  | .getValues => List (Row N)
  | .batchUpdate _ => Unit
  | .append _ => Unit

/-- A request that failed, before it was applied or behind it. -/
structure Failure where
  retryable : Bool

abbrev Program (N : Type) (α : Type) := Js (Call N) Call.Result Failure Unit α

/-- `if (updates.length) await this.request(...)` -/
def requestUpdates (updates : List (Nat × Row N)) : Program N Unit :=
  if updates ≠ [] then Js.call (Call.batchUpdate updates) else pure ()

/-- `if (additions.length) await this.request(...)` -/
def requestAppend (additions : List (Row N)) : Program N Unit :=
  if additions ≠ [] then Js.call (Call.append additions) else pure ()

def reconcilePage (numbers : Numbers N) (creators : List (CreatorCandidate N)) :
    Program N Unit := do
  let rows : List (Row N) ← Js.call Call.getValues
  let plan := plan numbers rows creators
  requestUpdates plan.updates
  requestAppend plan.additions

/-- What a request does to the sheet. It gives its result when it was applied, and it fails whether
it was applied or not. -/
def exec (sheet : Sheet N) : (c : Call N) → Except Failure c.Result → Sheet N → Prop
  | .getValues, outcome, after => after = sheet ∧
      (outcome = .ok (readValues sheet) ∨ ∃ e, outcome = .error e)
  | .batchUpdate updates, outcome, after => after = batchUpdate updates sheet ∨
      (after = sheet ∧ ∃ e, outcome = .error e)
  | .append additions, outcome, after => after = append additions sheet ∨
      (after = sheet ∧ ∃ e, outcome = .error e)

/-- An attempt to put a page into the sheet, with nothing else written between its requests. -/
def Attempt (numbers : Numbers N) (creators : List (CreatorCandidate N)) (sheet : Sheet N)
    (outcome : Except Failure Unit) (after : Sheet N) : Prop :=
  Js.Leads exec (reconcilePage numbers creators) sheet outcome after

/-! ## The rows of a sheet -/

section Rows

variable {numbers : Numbers N}

/-- The rows that are dropped at the end are blank. -/
theorem rdropWhile_append {α : Type} (p : α → Bool) (l : List α) :
    ∃ dropped, l = l.rdropWhile p ++ dropped ∧ ∀ x ∈ dropped, p x = true := by
  refine ⟨l.rtakeWhile p, List.rdropWhile_append_rtakeWhile.symm, ?_⟩
  intro x hx
  exact List.mem_rtakeWhile_imp hx

theorem text_isEmpty {cell : Cell N} (h : isEmpty cell = true) :
    text numbers (some cell) = none := by
  cases cell with
  | text s =>
    rw [isEmpty, decide_eq_true_eq] at h
    rw [h]
    exact text_empty
  | number n => cases h
  | boolean b => cases h

/-- The empty cells at the end of a row are not those of an id. -/
theorem idOf_rdropWhile (row : Row N) : idOf numbers (row.rdropWhile isEmpty) = idOf numbers row := by
  obtain ⟨dropped, hrow, hempty⟩ := rdropWhile_append isEmpty row
  unfold idOf
  by_cases h3 : 3 < (row.rdropWhile isEmpty).length
  · conv_rhs => rw [hrow]
    rw [List.getElem?_append_left h3]
  · rw [List.getElem?_eq_none (by omega)]
    conv_rhs => rw [hrow]
    rw [List.getElem?_append_right (by omega)]
    cases hcell : dropped[3 - (row.rdropWhile isEmpty).length]? with
    | none => rfl
    | some cell => rw [text_isEmpty (hempty cell (List.mem_of_getElem? hcell))]; rfl

theorem blank_rdropWhile (row : Row N) : blank (row.rdropWhile isEmpty) = blank row := by
  obtain ⟨dropped, hrow, hempty⟩ := rdropWhile_append isEmpty row
  have hall : dropped.all isEmpty = true := List.all_eq_true.2 hempty
  unfold blank
  conv_rhs => rw [hrow]
  simp [hall]

theorem idOf_blank {row : Row N} (h : blank row = true) : idOf numbers row = none := by
  unfold idOf
  cases hcell : row[3]? with
  | none => rfl
  | some cell => exact text_isEmpty (List.all_eq_true.1 h cell (List.mem_of_getElem? hcell))

theorem readValues_eq (sheet : Sheet N) : readValues sheet =
    ((sheet.drop 1).rdropWhile blank).map (fun row => row.rdropWhile isEmpty) := by
  unfold readValues List.rdropWhile
  rw [← List.map_reverse, List.dropWhile_map, List.map_reverse]
  congr 2
  congr 1
  funext row
  exact blank_rdropWhile row

/-- The index of the first row of a creator, where row 1 is none. -/
def rowIndex (numbers : Numbers N) (sheet : Sheet N) (id : String) : Option Nat :=
  ((sheet.drop 1).findIdx? (fun row => idOf numbers row = some id)).map (· + 1)

theorem rowIndex_eq_some_iff {sheet : Sheet N} {id : String} {i : Nat} :
    rowIndex numbers sheet id = some i ↔ 1 ≤ i ∧
      (sheet[i]?).bind (idOf numbers) = some id ∧
      ∀ j, 1 ≤ j → j < i → (sheet[j]?).bind (idOf numbers) ≠ some id := by
  unfold rowIndex
  rw [Option.map_eq_some_iff]
  constructor
  · rintro ⟨k, hk, rfl⟩
    obtain ⟨hlt, hid, hbefore⟩ := List.findIdx?_eq_some_iff_getElem.1 hk
    refine ⟨by omega, ?_, ?_⟩
    · rw [List.getElem_drop, decide_eq_true_eq] at hid
      rw [List.length_drop] at hlt
      rw [List.getElem?_eq_getElem (by omega)]
      simpa [Nat.add_comm] using hid
    · intro j hj hji hsome
      obtain ⟨m, rfl⟩ : ∃ m, j = m + 1 := ⟨j - 1, by omega⟩
      have hm := hbefore m (by omega)
      rw [List.length_drop] at hlt
      rw [List.getElem?_eq_getElem (by omega)] at hsome
      apply hm
      rw [List.getElem_drop, decide_eq_true_eq]
      simpa [Nat.add_comm] using hsome
  · rintro ⟨hi, hid, hbefore⟩
    obtain ⟨k, rfl⟩ : ∃ k, i = k + 1 := ⟨i - 1, by omega⟩
    obtain ⟨row, hrow, hidrow⟩ := Option.bind_eq_some_iff.1 hid
    obtain ⟨hlength, hget⟩ := List.getElem?_eq_some_iff.1 hrow
    refine ⟨k, List.findIdx?_eq_some_iff_getElem.2 ⟨by rw [List.length_drop]; omega, ?_, ?_⟩, rfl⟩
    · rw [List.getElem_drop, decide_eq_true_eq]
      simp only [Nat.add_comm 1 k, hget]
      exact hidrow
    · intro m hm hfound
      rw [List.getElem_drop, decide_eq_true_eq] at hfound
      apply hbefore (m + 1) (by omega) (by omega)
      rw [List.getElem?_eq_getElem (by omega)]
      simpa [Nat.add_comm] using hfound

theorem rowByCreator_get (rows : List (Row N)) (id : String) :
    (rowByCreator numbers rows).get id =
      (rows.findIdx? (fun row => idOf numbers row = some id)).map (· + 2) := by
  induction rows using List.reverseRecOn with
  | nil => rfl
  | append_singleton rows row ih =>
    unfold rowByCreator at ih ⊢
    rw [List.zipIdx_append, List.foldl_append, List.findIdx?_append]
    simp only [List.zipIdx_singleton, List.foldl_cons, List.foldl_nil, Nat.zero_add,
      List.findIdx?_singleton]
    generalize rows.zipIdx.foldl _ _ = known at ih ⊢
    cases hid : idOf numbers row with
    | none => simp [ih]
    | some other =>
      simp only [Option.some.injEq, decide_eq_true_eq]
      cases hknown : known.get other with
      | some n =>
        by_cases hsame : other = id
        · subst hsame
          obtain ⟨k, hk, _⟩ := Option.map_eq_some_iff.1 (ih.symm.trans hknown)
          simp [ih, hk]
        · simp [ih, hsame]
      | none =>
        by_cases hsame : other = id
        · subst hsame
          have hfind := Option.map_eq_none_iff.1 (ih.symm.trans hknown)
          simp [hfind]
        · have hsame' : ¬ id = other := fun h => hsame h.symm
          simp [ih, hsame, hsame']

/-- In the values that were read a creator has the row that it has in the sheet. -/
theorem rowByCreator_readValues (sheet : Sheet N) (id : String) :
    (rowByCreator numbers (readValues sheet)).get id =
      (rowIndex numbers sheet id).map (· + 1) := by
  obtain ⟨dropped, hsheet, hblank⟩ := rdropWhile_append blank (sheet.drop 1)
  have hnone : dropped.findIdx? (fun row => idOf numbers row = some id) = none := by
    rw [List.findIdx?_eq_none_iff]
    intro row hrow
    simp [@idOf_blank _ numbers _ (hblank row hrow)]
  have hread : (fun row : Row N => decide (idOf numbers row = some id)) ∘
      (fun row => row.rdropWhile isEmpty) = fun row => decide (idOf numbers row = some id) := by
    funext row
    simp only [Function.comp_apply, idOf_rdropWhile]
  rw [rowByCreator_get, readValues_eq, List.findIdx?_map, hread]
  unfold rowIndex
  conv_rhs => rw [hsheet, List.findIdx?_append, hnone]
  simp [Function.comp_def]

/-! ## What is planned -/

variable {creators : List (CreatorCandidate N)}

/-- The creators of a page that stand in the sheet, with the index of their row. -/
def known (numbers : Numbers N) (sheet : Sheet N) (creators : List (CreatorCandidate N)) :
    List (Nat × CreatorCandidate N) :=
  (uniqueCreators creators).filterMap (fun creator =>
    (rowIndex numbers sheet creator.creatorOpenId).map (fun i => (i, creator)))

/-- Those that do not. -/
def missing (numbers : Numbers N) (sheet : Sheet N) (creators : List (CreatorCandidate N)) :
    List (CreatorCandidate N) :=
  (uniqueCreators creators).filter (fun creator =>
    (rowIndex numbers sheet creator.creatorOpenId).isNone)

theorem plan_eq (sheet : Sheet N) (creators : List (CreatorCandidate N)) :
    plan numbers (readValues sheet) creators =
      ⟨(known numbers sheet creators).map (fun entry =>
          (entry.1 + 1, sheetRow numbers entry.2 entry.1)),
        (missing numbers sheet creators).mapIdx (fun j creator =>
          sheetRow numbers creator ((readValues sheet).length + j + 1))⟩ := by
  unfold plan known missing
  induction uniqueCreators creators using List.reverseRecOn with
  | nil => rfl
  | append_singleton before creator ih =>
    rw [List.foldl_append, ih, List.filterMap_append, List.filter_append, List.map_append,
      List.mapIdx_append]
    simp only [List.foldl_cons, List.foldl_nil, planCreator, rowByCreator_readValues]
    cases hindex : rowIndex numbers sheet creator.creatorOpenId with
    | none => simp [hindex]
    | some i => simp [hindex]

/-- The last value of a creator in a page. -/
def lastValue (creators : List (CreatorCandidate N)) (id : String) : Option (CreatorCandidate N) :=
  creators.reverse.find? (fun creator => creator.creatorOpenId = id)

theorem lastValue_id {id : String} {creator : CreatorCandidate N}
    (h : lastValue creators id = some creator) : creator.creatorOpenId = id := by
  simpa using List.find?_some h

theorem get_page (creators : List (CreatorCandidate N)) (id : String) :
    (Table.ofList (creators.map (fun creator => (creator.creatorOpenId, creator)))).get id =
      lastValue creators id := by
  rw [Table.get_ofList_eq_find?, ← List.map_reverse, List.find?_map, Option.map_map]
  unfold lastValue
  simp [Function.comp_def]

theorem mem_uniqueCreators {creator : CreatorCandidate N} :
    creator ∈ uniqueCreators creators ↔
      lastValue creators creator.creatorOpenId = some creator := by
  unfold uniqueCreators
  rw [List.mem_map]
  constructor
  · rintro ⟨⟨id, value⟩, hmem, rfl⟩
    have hlast := (Table.mem_rows_iff _ _ _).1 hmem
    rw [get_page] at hlast
    rw [lastValue_id hlast]
    exact hlast
  · intro hlast
    rw [← get_page] at hlast
    exact ⟨(creator.creatorOpenId, creator), (Table.mem_rows_iff _ _ _).2 hlast, rfl⟩

theorem uniqueCreators_nodup : ((uniqueCreators creators).map (·.creatorOpenId)).Nodup := by
  have hnodup := (Table.ofList
    (creators.map (fun creator => (creator.creatorOpenId, creator)))).nodup
  have hkeys : ∀ row ∈ (Table.ofList
      (creators.map (fun creator => (creator.creatorOpenId, creator)))).rows,
      row.2.creatorOpenId = row.1 := by
    intro row hrow
    have hlast := (Table.mem_rows_iff _ row.1 row.2).1 hrow
    rw [get_page] at hlast
    exact lastValue_id hlast
  unfold uniqueCreators
  rw [List.map_map]
  rw [← List.map_congr_left hkeys] at hnodup
  exact hnodup

/-- Of the creators of a page each has one entry. -/
theorem mem_known {sheet : Sheet N} {i : Nat} {creator : CreatorCandidate N} :
    (i, creator) ∈ known numbers sheet creators ↔
      lastValue creators creator.creatorOpenId = some creator ∧
        rowIndex numbers sheet creator.creatorOpenId = some i := by
  unfold known
  simp only [List.mem_filterMap, mem_uniqueCreators, Option.map_eq_some_iff, Prod.mk.injEq]
  constructor
  · rintro ⟨other, hlast, j, hj, rfl, rfl⟩
    exact ⟨hlast, hj⟩
  · rintro ⟨hlast, hi⟩
    exact ⟨creator, hlast, i, hi, rfl, rfl⟩

/-! ## What the updates do -/

/-- The sheet after its updates. -/
def updated (numbers : Numbers N) (creators : List (CreatorCandidate N)) (sheet : Sheet N) :
    Sheet N :=
  batchUpdate (plan numbers (readValues sheet) creators).updates sheet

/-- The sheet after both requests. -/
def reconciled (numbers : Numbers N) (creators : List (CreatorCandidate N)) (sheet : Sheet N) :
    Sheet N :=
  append (plan numbers (readValues sheet) creators).additions (updated numbers creators sheet)

/-- Rows are set by their indices. -/
def setRows (f : Nat × CreatorCandidate N → Row N) (entries : List (Nat × CreatorCandidate N))
    (sheet : Sheet N) : Sheet N :=
  entries.foldl (fun sheet entry => sheet.set entry.1 (f entry)) sheet

variable {f : Nat × CreatorCandidate N → Row N} {entries : List (Nat × CreatorCandidate N)}
  {sheet : Sheet N}

@[simp] theorem length_setRows : (setRows f entries sheet).length = sheet.length := by
  unfold setRows
  induction entries generalizing sheet with
  | nil => rfl
  | cons entry entries ih => simp [ih]

theorem setRows_other {i : Nat} (h : ∀ entry ∈ entries, entry.1 ≠ i) :
    (setRows f entries sheet)[i]? = sheet[i]? := by
  unfold setRows
  induction entries generalizing sheet with
  | nil => rfl
  | cons entry entries ih =>
    rw [List.foldl_cons, ih (fun e he => h e (List.mem_cons_of_mem _ he)),
      List.getElem?_set_ne (h entry List.mem_cons_self)]

theorem setRows_self {entry : Nat × CreatorCandidate N} (hentry : entry ∈ entries)
    (hone : ∀ e ∈ entries, e.1 = entry.1 → e = entry) (hlength : entry.1 < sheet.length) :
    (setRows f entries sheet)[entry.1]? = some (f entry) := by
  induction entries using List.reverseRecOn with
  | nil => cases hentry
  | append_singleton before last ih =>
    have hlast : setRows f (before ++ [last]) sheet =
        (setRows f before sheet).set last.1 (f last) := List.foldl_append
    rw [hlast]
    by_cases hsame : last.1 = entry.1
    · have heq := hone last (by simp) hsame
      rw [heq, List.getElem?_set_self (by simpa using hlength)]
    · rw [List.getElem?_set_ne hsame]
      have hbefore : entry ∈ before := by
        rcases List.mem_append.1 hentry with h | h
        · exact h
        · rw [List.mem_singleton] at h
          exact absurd (by rw [h]) hsame
      exact ih hbefore (fun e he => hone e (List.mem_append_left _ he))

theorem updated_eq : updated numbers creators sheet =
    setRows (fun entry => sheetRow numbers entry.2 entry.1) (known numbers sheet creators)
      sheet := by
  unfold updated batchUpdate setRows
  rw [plan_eq, List.foldl_map]
  rfl

/-- The row of a creator of the page holds its last value. -/
theorem updated_self {creator : CreatorCandidate N} {i : Nat}
    (hlast : lastValue creators creator.creatorOpenId = some creator)
    (hi : rowIndex numbers sheet creator.creatorOpenId = some i) :
    (updated numbers creators sheet)[i]? = some (sheetRow numbers creator i) := by
  obtain ⟨_, hid, _⟩ := rowIndex_eq_some_iff.1 hi
  have hlength : i < sheet.length := by
    by_contra hge
    rw [List.getElem?_eq_none (by omega)] at hid
    cases hid
  rw [updated_eq]
  have hentry : (i, creator) ∈ known numbers sheet creators := mem_known.2 ⟨hlast, hi⟩
  refine setRows_self hentry ?_ hlength
  rintro ⟨j, other⟩ hmem rfl
  obtain ⟨hother, hj⟩ := mem_known.1 hmem
  have hsame := (rowIndex_eq_some_iff.1 hj).2.1
  rw [hid, Option.some.injEq] at hsame
  rw [← hsame, hlast, Option.some.injEq] at hother
  rw [hother]

/-- The other rows stay as they are. -/
theorem updated_other {i : Nat} (h : ∀ creator,
    lastValue creators creator.creatorOpenId = some creator →
      rowIndex numbers sheet creator.creatorOpenId ≠ some i) :
    (updated numbers creators sheet)[i]? = sheet[i]? := by
  rw [updated_eq]
  apply setRows_other
  rintro ⟨j, creator⟩ hmem rfl
  obtain ⟨hlast, hj⟩ := mem_known.1 hmem
  exact h creator hlast hj

/-! ## What stays in the sheet -/

/-- The ids of a page have no surrounding blanks, and no one is empty. -/
def TrimmedIds (creators : List (CreatorCandidate N)) : Prop :=
  ∀ creator ∈ creators, Trimmed creator.creatorOpenId

theorem mem_of_lastValue {id : String} {creator : CreatorCandidate N}
    (h : lastValue creators id = some creator) : creator ∈ creators := by
  simpa using List.mem_of_find?_eq_some h

theorem idOf_sheetRow {creator : CreatorCandidate N} (h : Trimmed creator.creatorOpenId) (i : Nat) :
    idOf numbers (sheetRow numbers creator i) = some creator.creatorOpenId :=
  text_text h

theorem blank_of_idOf {row : Row N} {id : String} (h : idOf numbers row = some id) :
    blank row = false := by
  by_contra hblank
  rw [Bool.not_eq_false] at hblank
  rw [idOf_blank hblank] at h
  cases h

/-- Two sheets with the same creators and the same blank rows. -/
structure SameOutline (numbers : Numbers N) (s t : Sheet N) : Prop where
  ids : s.map (idOf numbers) = t.map (idOf numbers)
  blanks : s.map blank = t.map blank

theorem id_of_same {s t : Sheet N} (h : SameOutline numbers s t) (i : Nat) :
    (s[i]?).bind (idOf numbers) = (t[i]?).bind (idOf numbers) := by
  have hmap := congrArg (fun ids => (ids[i]?).bind id) h.ids
  simpa [Option.bind_map] using hmap

theorem rowIndex_of_same {s t : Sheet N} (h : SameOutline numbers s t) (id : String) :
    rowIndex numbers s id = rowIndex numbers t id := by
  apply Option.ext
  intro i
  rw [rowIndex_eq_some_iff, rowIndex_eq_some_iff]
  simp only [id_of_same h]

/-- The number of rows up to the last one that is not blank. -/
def usedLength (sheet : Sheet N) : Nat := (sheet.rdropWhile blank).length

theorem length_rdropWhile {α : Type} (p : α → Bool) (l : List α) :
    (l.rdropWhile p).length = ((l.map p).rdropWhile id).length := by
  unfold List.rdropWhile
  rw [← List.map_reverse, List.dropWhile_map, List.length_reverse, List.length_reverse,
    List.length_map]
  rfl

theorem usedLength_of_same {s t : Sheet N} (h : SameOutline numbers s t) :
    usedLength s = usedLength t := by
  unfold usedLength
  rw [length_rdropWhile blank s, length_rdropWhile blank t, h.blanks]

theorem length_readValues (sheet : Sheet N) :
    (readValues sheet).length = ((sheet.drop 1).rdropWhile blank).length := by
  rw [readValues_eq, List.length_map]

theorem length_readValues_of_same {s t : Sheet N} (h : SameOutline numbers s t) :
    (readValues s).length = (readValues t).length := by
  rw [length_readValues, length_readValues, length_rdropWhile blank (s.drop 1),
    length_rdropWhile blank (t.drop 1), List.map_drop, List.map_drop, h.blanks]

/-- What is dropped at the end may as well not be there. -/
theorem rdropWhile_of_dropped {α : Type} {p : α → Bool} {l dropped : List α}
    (h : ∀ x ∈ dropped, p x = true) : (l ++ dropped).rdropWhile p = l.rdropWhile p := by
  unfold List.rdropWhile
  rw [List.reverse_append, List.dropWhile_append_of_pos (by simpa using h)]

/-- Row 1 is counted, as soon as a row is not blank. -/
theorem usedLength_eq {sheet : Sheet N} (h : ∃ row ∈ sheet, blank row = false) :
    usedLength sheet = (readValues sheet).length + 1 := by
  rw [length_readValues]
  unfold usedLength
  cases sheet with
  | nil => simp at h
  | cons header rest =>
    obtain ⟨dropped, hrest, hblank⟩ := rdropWhile_append blank rest
    rw [List.drop_succ_cons, List.drop_zero]
    have hcut : (header :: rest).rdropWhile blank =
        (header :: rest.rdropWhile blank).rdropWhile blank := by
      conv_lhs => rw [hrest, ← List.cons_append, rdropWhile_of_dropped hblank]
    have hlast : (header :: rest.rdropWhile blank).rdropWhile blank =
        header :: rest.rdropWhile blank := by
      rw [List.rdropWhile_eq_self_iff]
      intro _
      by_cases hnil : rest.rdropWhile blank = []
      · obtain ⟨row, hrow, hfalse⟩ := h
        rw [List.rdropWhile_eq_nil_iff] at hnil
        rcases List.mem_cons.1 hrow with rfl | hrow
        · simp [List.rdropWhile_eq_nil_iff.2 hnil, hfalse]
        · simp [hnil row hrow] at hfalse
      · rw [List.getLast_cons hnil]
        exact List.rdropWhile_last_not blank rest hnil
    rw [hcut, hlast, List.length_cons]

theorem updated_outline (h : TrimmedIds creators) (sheet : Sheet N) :
    SameOutline numbers (updated numbers creators sheet) sheet := by
  have hrow : ∀ i, (updated numbers creators sheet)[i]? = sheet[i]? ∨
      ∃ creator row, (updated numbers creators sheet)[i]? = some (sheetRow numbers creator i) ∧
        sheet[i]? = some row ∧ Trimmed creator.creatorOpenId ∧
          idOf numbers row = some creator.creatorOpenId := by
    intro i
    by_cases hnone : ∀ creator, lastValue creators creator.creatorOpenId = some creator →
        rowIndex numbers sheet creator.creatorOpenId ≠ some i
    · exact .inl (updated_other hnone)
    · push Not at hnone
      obtain ⟨creator, hlast, hi⟩ := hnone
      obtain ⟨row, hget, hid⟩ := Option.bind_eq_some_iff.1 (rowIndex_eq_some_iff.1 hi).2.1
      exact .inr ⟨creator, row, updated_self hlast hi, hget, h creator (mem_of_lastValue hlast), hid⟩
  constructor
  · apply List.ext_getElem?
    intro i
    rw [List.getElem?_map, List.getElem?_map]
    rcases hrow i with hsame | ⟨creator, row, hnew, hold, htrim, hid⟩
    · rw [hsame]
    · rw [hnew, hold, Option.map_some, Option.map_some, hid, idOf_sheetRow htrim]
  · apply List.ext_getElem?
    intro i
    rw [List.getElem?_map, List.getElem?_map]
    rcases hrow i with hsame | ⟨creator, row, hnew, hold, htrim, hid⟩
    · rw [hsame]
    · rw [hnew, hold, Option.map_some, Option.map_some, blank_of_idOf hid,
        blank_of_idOf (@idOf_sheetRow _ numbers _ htrim i)]

/-- The plan is made from the creators and the blank rows alone. -/
theorem plan_of_same {s t : Sheet N} (h : SameOutline numbers s t) :
    plan numbers (readValues s) creators = plan numbers (readValues t) creators := by
  have hknown : known numbers s creators = known numbers t creators := by
    unfold known
    simp only [rowIndex_of_same h]
  have hmissing : missing numbers s creators = missing numbers t creators := by
    unfold missing
    simp only [rowIndex_of_same h]
  rw [plan_eq, plan_eq, hknown, hmissing, length_readValues_of_same h]

/-- A second time the updates change nothing. -/
theorem updated_updated (h : TrimmedIds creators) (sheet : Sheet N) :
    updated numbers creators (updated numbers creators sheet) =
      updated numbers creators sheet := by
  apply List.ext_getElem?
  intro i
  by_cases hnone : ∀ creator, lastValue creators creator.creatorOpenId = some creator →
      rowIndex numbers (updated numbers creators sheet) creator.creatorOpenId ≠ some i
  · exact updated_other hnone
  · push Not at hnone
    obtain ⟨creator, hlast, hi⟩ := hnone
    have hi' := hi
    rw [rowIndex_of_same (updated_outline h sheet)] at hi'
    rw [updated_self hlast hi, updated_self hlast hi']

theorem reconciled_updated (h : TrimmedIds creators) (sheet : Sheet N) :
    reconciled numbers creators (updated numbers creators sheet) =
      reconciled numbers creators sheet := by
  unfold reconciled
  rw [updated_updated h, plan_of_same (updated_outline h sheet)]

/-! ## What the append does -/

theorem append_used {additions : List (Row N)} {i : Nat} (h : i < usedLength sheet) :
    (append additions sheet)[i]? = sheet[i]? := by
  obtain ⟨dropped, hsheet, _⟩ := rdropWhile_append blank sheet
  unfold append
  rw [List.append_assoc, List.getElem?_append_left h]
  conv_rhs => rw [hsheet, List.getElem?_append_left h]

theorem append_new {additions : List (Row N)} {j : Nat} (h : j < additions.length) :
    (append additions sheet)[usedLength sheet + j]? = additions[j]? := by
  unfold append usedLength
  rw [List.append_assoc, List.getElem?_append_right (by omega),
    List.getElem?_append_left (by omega)]
  congr 1
  omega

/-- Behind the rows that are added there are blank ones only. -/
theorem append_rest {additions : List (Row N)} {i : Nat} {row : Row N}
    (h : usedLength sheet + additions.length ≤ i) (hrow : (append additions sheet)[i]? = some row) :
    blank row = true := by
  unfold append at hrow
  rw [List.getElem?_append_right (by rw [List.length_append]; exact h)] at hrow
  exact List.mem_rtakeWhile_imp (List.mem_of_getElem? hrow)

theorem append_nil (sheet : Sheet N) : append [] sheet = sheet := by
  unfold append
  rw [List.append_nil, List.rdropWhile_append_rtakeWhile]

/-- A row that is not blank is one of the used ones. -/
theorem lt_usedLength {i : Nat} {row : Row N} (hrow : sheet[i]? = some row)
    (h : blank row = false) : i < usedLength sheet := by
  obtain ⟨dropped, hsheet, hblank⟩ := rdropWhile_append blank sheet
  by_contra hge
  unfold usedLength at hge
  rw [hsheet, List.getElem?_append_right (by omega)] at hrow
  rw [hblank row (List.mem_of_getElem? hrow)] at h
  cases h

theorem rowIndex_lt_usedLength {id : String} {i : Nat} (h : rowIndex numbers sheet id = some i) :
    i < usedLength sheet := by
  obtain ⟨row, hrow, hid⟩ := Option.bind_eq_some_iff.1 (rowIndex_eq_some_iff.1 h).2.1
  exact lt_usedLength hrow (blank_of_idOf hid)

/-! ## The sheet with the page -/

/-- The rows of the sheet before the first one that is added. -/
theorem reconciled_used (h : TrimmedIds creators) {i : Nat} (hi : i < usedLength sheet) :
    (reconciled numbers creators sheet)[i]? = (updated numbers creators sheet)[i]? := by
  apply append_used
  rw [usedLength_of_same (updated_outline h sheet)]
  exact hi

theorem additions_eq (hused : ∃ row ∈ sheet, blank row = false) :
    (plan numbers (readValues sheet) creators).additions =
      (missing numbers sheet creators).mapIdx (fun j creator =>
        sheetRow numbers creator (usedLength sheet + j)) := by
  have hlength := usedLength_eq hused
  have hnumber : ∀ (j : Nat) (creator : CreatorCandidate N),
      sheetRow numbers creator ((readValues sheet).length + j + 1) =
        sheetRow numbers creator (usedLength sheet + j) := by
    intro j creator
    congr 1
    omega
  rw [plan_eq]
  simp only [hnumber]

theorem length_additions (sheet : Sheet N) :
    (plan numbers (readValues sheet) creators).additions.length =
      (missing numbers sheet creators).length := by
  rw [plan_eq, List.length_mapIdx]

/-- Each creator that is not in the sheet gets a row with its number. -/
theorem reconciled_new (h : TrimmedIds creators) (hused : ∃ row ∈ sheet, blank row = false)
    {j : Nat} {creator : CreatorCandidate N}
    (hj : (missing numbers sheet creators)[j]? = some creator) :
    (reconciled numbers creators sheet)[usedLength sheet + j]? =
      some (sheetRow numbers creator (usedLength sheet + j)) := by
  obtain ⟨hlength, _⟩ := List.getElem?_eq_some_iff.1 hj
  unfold reconciled
  rw [← usedLength_of_same (@updated_outline _ numbers _ h sheet),
    append_new (by rw [length_additions]; exact hlength), additions_eq hused, List.getElem?_mapIdx,
    hj, Option.map_some, usedLength_of_same (@updated_outline _ numbers _ h sheet)]

theorem reconciled_rest (h : TrimmedIds creators) {i : Nat} {row : Row N}
    (hi : usedLength sheet + (missing numbers sheet creators).length ≤ i)
    (hrow : (reconciled numbers creators sheet)[i]? = some row) : blank row = true := by
  apply append_rest _ hrow
  rw [length_additions, usedLength_of_same (updated_outline h sheet)]
  exact hi

theorem mem_missing {creator : CreatorCandidate N} :
    creator ∈ missing numbers sheet creators ↔
      lastValue creators creator.creatorOpenId = some creator ∧
        rowIndex numbers sheet creator.creatorOpenId = none := by
  unfold missing
  rw [List.mem_filter, mem_uniqueCreators, Option.isNone_iff_eq_none]

/-- A creator is missing once. -/
theorem missing_injective {j m : Nat} {a b : CreatorCandidate N}
    (hj : (missing numbers sheet creators)[j]? = some a)
    (hm : (missing numbers sheet creators)[m]? = some b)
    (hsame : a.creatorOpenId = b.creatorOpenId) : j = m := by
  have hnodup : ((missing numbers sheet creators).map (·.creatorOpenId)).Nodup :=
    uniqueCreators_nodup.sublist (List.filter_sublist.map _)
  have hget : ∀ {k : Nat} {c : CreatorCandidate N},
      (missing numbers sheet creators)[k]? = some c →
      ((missing numbers sheet creators).map (·.creatorOpenId))[k]? = some c.creatorOpenId := by
    intro k c hk
    rw [List.getElem?_map, hk, Option.map_some]
  have hj' := hget hj
  have hm' := hget hm
  rw [← hsame, ← hj'] at hm'
  have hlt := (List.getElem?_eq_some_iff.1 hj').1
  exact (List.getElem?_inj hlt hnodup).1 hm'.symm

/-- The id of a row of the new sheet, by its place. -/
theorem id_before (h : TrimmedIds creators) {i : Nat} (hi : i < usedLength sheet) :
    ((reconciled numbers creators sheet)[i]?).bind (idOf numbers) =
      (sheet[i]?).bind (idOf numbers) := by
  rw [reconciled_used h hi, id_of_same (updated_outline h sheet)]

/-- Every creator of the page has a first row, with its last value. -/
theorem reconciled_row (h : TrimmedIds creators) (hused : ∃ row ∈ sheet, blank row = false)
    {creator : CreatorCandidate N}
    (hlast : lastValue creators creator.creatorOpenId = some creator) :
    ∃ i, rowIndex numbers (reconciled numbers creators sheet) creator.creatorOpenId = some i ∧
      (reconciled numbers creators sheet)[i]? = some (sheetRow numbers creator i) := by
  have htrim := h creator (mem_of_lastValue hlast)
  cases hindex : rowIndex numbers sheet creator.creatorOpenId with
  | some i =>
    have hlt := rowIndex_lt_usedLength hindex
    obtain ⟨hpos, hid, hbefore⟩ := rowIndex_eq_some_iff.1 hindex
    refine ⟨i, rowIndex_eq_some_iff.2 ⟨hpos, ?_, ?_⟩, ?_⟩
    · rw [id_before h hlt, hid]
    · intro j hj hji
      rw [id_before h (by omega)]
      exact hbefore j hj hji
    · rw [reconciled_used h hlt, updated_self hlast hindex]
  | none =>
    obtain ⟨j, hj⟩ := List.mem_iff_getElem?.1 (mem_missing.2 ⟨hlast, hindex⟩)
    have hnew := reconciled_new h hused hj
    have hpos : 1 ≤ usedLength sheet := by
      rw [usedLength_eq hused]
      omega
    refine ⟨usedLength sheet + j, rowIndex_eq_some_iff.2 ⟨by omega, ?_, ?_⟩, hnew⟩
    · rw [hnew, Option.bind_some, idOf_sheetRow htrim]
    · intro i hi hlt hid
      by_cases hold : i < usedLength sheet
      · rw [id_before h hold] at hid
        obtain ⟨row, hrow, hrowid⟩ := Option.bind_eq_some_iff.1 hid
        unfold rowIndex at hindex
        rw [Option.map_eq_none_iff, List.findIdx?_eq_none_iff] at hindex
        have hmem : row ∈ sheet.drop 1 := by
          apply List.mem_of_getElem? (i := i - 1)
          rw [List.getElem?_drop]
          rw [← hrow]
          congr 1
          omega
        have := hindex row hmem
        simp [hrowid] at this
      · obtain ⟨m, rfl⟩ : ∃ m, i = usedLength sheet + m := ⟨i - usedLength sheet, by omega⟩
        have hlength := (List.getElem?_eq_some_iff.1 hj).1
        obtain ⟨other, hother⟩ : ∃ other, (missing numbers sheet creators)[m]? = some other :=
          ⟨_, List.getElem?_eq_getElem (by omega)⟩
        have htrim' := h other (mem_of_lastValue
          (mem_missing.1 (List.mem_of_getElem? hother)).1)
        rw [reconciled_new h hused hother, Option.bind_some, idOf_sheetRow htrim',
          Option.some.injEq] at hid
        have := missing_injective hother hj hid
        omega

/-- The page is in the sheet: nothing is left to do. -/
theorem reconciled_reconciled (h : TrimmedIds creators)
    (hused : ∃ row ∈ sheet, blank row = false) :
    updated numbers creators (reconciled numbers creators sheet) =
        reconciled numbers creators sheet ∧
      reconciled numbers creators (reconciled numbers creators sheet) =
        reconciled numbers creators sheet := by
  have hupdated : updated numbers creators (reconciled numbers creators sheet) =
      reconciled numbers creators sheet := by
    apply List.ext_getElem?
    intro i
    by_cases hnone : ∀ creator, lastValue creators creator.creatorOpenId = some creator →
        rowIndex numbers (reconciled numbers creators sheet) creator.creatorOpenId ≠ some i
    · exact updated_other hnone
    · push Not at hnone
      obtain ⟨creator, hlast, hi⟩ := hnone
      obtain ⟨j, hj, hrow⟩ := reconciled_row h hused hlast
      rw [hi, Option.some.injEq] at hj
      subst hj
      rw [updated_self hlast hi, hrow]
  have hmissing : missing numbers (reconciled numbers creators sheet) creators = [] := by
    rw [List.eq_nil_iff_forall_not_mem]
    intro creator hmem
    obtain ⟨hlast, hnone⟩ := mem_missing.1 hmem
    obtain ⟨i, hi, _⟩ := reconciled_row h hused hlast
    rw [hnone] at hi
    cases hi
  refine ⟨hupdated, ?_⟩
  have hadditions : (plan numbers (readValues (reconciled numbers creators sheet))
      creators).additions = [] := by
    rw [← List.length_eq_zero_iff, length_additions, hmissing]
    rfl
  calc reconciled numbers creators (reconciled numbers creators sheet)
      = append [] (updated numbers creators (reconciled numbers creators sheet)) := by
        rw [← hadditions]
        rfl
    _ = reconciled numbers creators sheet := by rw [append_nil, hupdated]

/-! ## What holds of the sheet with the page -/

/-- How often a creator stands in the sheet. -/
def occurrences (numbers : Numbers N) (sheet : Sheet N) (id : String) : Nat :=
  ((sheet.drop 1).map (idOf numbers)).count (some id)

theorem occurrences_eq_zero_iff {id : String} :
    occurrences numbers sheet id = 0 ↔ rowIndex numbers sheet id = none := by
  unfold occurrences rowIndex
  rw [List.count_eq_zero, Option.map_eq_none_iff, List.findIdx?_eq_none_iff]
  simp only [List.mem_map, not_exists, not_and, decide_eq_false_iff_not]

/-- Blank rows are no creators. -/
theorem count_blank {rows : List (Row N)} (h : ∀ row ∈ rows, blank row = true) (id : String) :
    (rows.map (idOf numbers)).count (some id) = 0 := by
  rw [List.count_eq_zero, List.mem_map]
  rintro ⟨row, hrow, hid⟩
  rw [idOf_blank (h row hrow)] at hid
  cases hid

theorem occurrences_append (additions : List (Row N)) (id : String)
    (hused : 1 ≤ usedLength sheet) :
    occurrences numbers (append additions sheet) id =
      occurrences numbers sheet id + (additions.map (idOf numbers)).count (some id) := by
  obtain ⟨dropped, hsheet, hblank⟩ := rdropWhile_append blank sheet
  have hrest : ∀ row ∈ sheet.rtakeWhile blank, blank row = true := fun row hrow =>
    List.mem_rtakeWhile_imp hrow
  have hold : occurrences numbers sheet id =
      (((sheet.rdropWhile blank).drop 1).map (idOf numbers)).count (some id) := by
    unfold occurrences
    conv_lhs => rw [hsheet, List.drop_append_of_le_length hused, List.map_append,
      List.count_append, count_blank hblank]
    rfl
  rw [hold]
  unfold occurrences append
  rw [List.append_assoc, List.drop_append_of_le_length hused, List.map_append, List.map_append,
    List.count_append, List.count_append, count_blank hrest]
  omega

theorem occurrences_updated (h : TrimmedIds creators) (sheet : Sheet N) (id : String) :
    occurrences numbers (updated numbers creators sheet) id = occurrences numbers sheet id := by
  unfold occurrences
  rw [List.map_drop, List.map_drop, (updated_outline h sheet).ids]

/-- The ids of the rows that are added. -/
theorem ids_of_additions (h : TrimmedIds creators) (sheet : Sheet N) :
    (plan numbers (readValues sheet) creators).additions.map (idOf numbers) =
      ((missing numbers sheet creators).map (·.creatorOpenId)).map some := by
  rw [plan_eq, List.map_map]
  apply List.ext_getElem?
  intro j
  rw [List.getElem?_map, List.getElem?_mapIdx, List.getElem?_map]
  cases hj : (missing numbers sheet creators)[j]? with
  | none => rfl
  | some creator =>
    have htrim := h creator (mem_of_lastValue (mem_missing.1 (List.mem_of_getElem? hj)).1)
    simp [idOf_sheetRow htrim]

theorem mem_missing_ids {id : String} :
    id ∈ (missing numbers sheet creators).map (·.creatorOpenId) ↔
      (lastValue creators id).isSome = true ∧ rowIndex numbers sheet id = none := by
  rw [List.mem_map, Option.isSome_iff_exists]
  constructor
  · rintro ⟨creator, hmem, rfl⟩
    obtain ⟨hlast, hnone⟩ := mem_missing.1 hmem
    exact ⟨⟨creator, hlast⟩, hnone⟩
  · rintro ⟨⟨creator, hlast⟩, hnone⟩
    have hid := lastValue_id hlast
    subst hid
    exact ⟨creator, mem_missing.2 ⟨hlast, hnone⟩, rfl⟩

/-- The sheet `t` is the sheet `s` with the page put in. -/
structure Upserted (numbers : Numbers N) (creators : List (CreatorCandidate N))
    (s t : Sheet N) : Prop where
  /-- A creator of the page has a row with its last value, whose record number is that of the row
  less one. -/
  present : ∀ id creator, lastValue creators id = some creator →
    ∃ i, rowIndex numbers t id = some i ∧ t[i]? = some (sheetRow numbers creator i)
  once : ∀ id, occurrences numbers t id =
    if (lastValue creators id).isSome then max 1 (occurrences numbers s id)
    else occurrences numbers s id
  /-- The rows of row 1 and of all others stay where they are. -/
  others : ∀ i row, s[i]? = some row → blank row = false →
    (i = 0 ∨ ∀ id, idOf numbers row = some id → lastValue creators id = none) →
    t[i]? = some row
  written : ∀ i row, t[i]? = some row → s[i]? = some row ∨ blank row = true ∨
    ∃ creator ∈ creators, 1 ≤ i ∧ row = sheetRow numbers creator i

theorem occurrences_reconciled (h : TrimmedIds creators)
    (hused : ∃ row ∈ sheet, blank row = false) (id : String) :
    occurrences numbers (reconciled numbers creators sheet) id =
      if (lastValue creators id).isSome then max 1 (occurrences numbers sheet id)
      else occurrences numbers sheet id := by
  have hpos : 1 ≤ usedLength (updated numbers creators sheet) := by
    rw [usedLength_of_same (updated_outline h sheet), usedLength_eq hused]
    omega
  have hnodup : ((missing numbers sheet creators).map (·.creatorOpenId)).Nodup :=
    uniqueCreators_nodup.sublist (List.filter_sublist.map _)
  unfold reconciled
  rw [occurrences_append _ _ hpos, occurrences_updated h, ids_of_additions h,
    List.count_map_of_injective _ some (Option.some_injective _), hnodup.count]
  have hzero := @occurrences_eq_zero_iff _ numbers sheet id
  by_cases hmem : id ∈ (missing numbers sheet creators).map (·.creatorOpenId)
  · obtain ⟨hlast, hnone⟩ := mem_missing_ids.1 hmem
    rw [if_pos hmem, if_pos hlast, hzero.2 hnone]
    rfl
  · rw [if_neg hmem]
    by_cases hlast : (lastValue creators id).isSome = true
    · have hsome : occurrences numbers sheet id ≠ 0 := fun h0 =>
        hmem (mem_missing_ids.2 ⟨hlast, hzero.1 h0⟩)
      rw [if_pos hlast]
      omega
    · rw [if_neg hlast]
      omega

theorem reconciled_upserted (h : TrimmedIds creators)
    (hused : ∃ row ∈ sheet, blank row = false) :
    Upserted numbers creators sheet (reconciled numbers creators sheet) where
  present := by
    intro id creator hlast
    have hid := lastValue_id hlast
    subst hid
    exact reconciled_row h hused hlast
  once := occurrences_reconciled h hused
  others := by
    intro i row hrow hblank hother
    rw [reconciled_used h (lt_usedLength hrow hblank), ← hrow]
    apply updated_other
    intro creator hlast hi
    obtain ⟨hpos, hid, _⟩ := rowIndex_eq_some_iff.1 hi
    rw [hrow, Option.bind_some] at hid
    rcases hother with hzero | hother
    · omega
    · rw [hother _ hid] at hlast
      cases hlast
  written := by
    intro i row hrow
    by_cases hold : i < usedLength sheet
    · rw [reconciled_used h hold] at hrow
      by_cases hnone : ∀ creator, lastValue creators creator.creatorOpenId = some creator →
          rowIndex numbers sheet creator.creatorOpenId ≠ some i
      · rw [updated_other hnone] at hrow
        exact .inl hrow
      · push Not at hnone
        obtain ⟨creator, hlast, hi⟩ := hnone
        rw [updated_self hlast hi, Option.some.injEq] at hrow
        exact .inr (.inr ⟨creator, mem_of_lastValue hlast, (rowIndex_eq_some_iff.1 hi).1,
          hrow.symm⟩)
    · by_cases hrest : usedLength sheet + (missing numbers sheet creators).length ≤ i
      · exact .inr (.inl (reconciled_rest h hrest hrow))
      · obtain ⟨j, rfl⟩ : ∃ j, i = usedLength sheet + j := ⟨i - usedLength sheet, by omega⟩
        obtain ⟨creator, hj⟩ : ∃ creator, (missing numbers sheet creators)[j]? = some creator :=
          ⟨_, List.getElem?_eq_getElem (by omega)⟩
        rw [reconciled_new h hused hj, Option.some.injEq] at hrow
        have hpos := usedLength_eq hused
        exact .inr (.inr ⟨creator, mem_of_lastValue (mem_missing.1 (List.mem_of_getElem? hj)).1,
          by omega, hrow.symm⟩)

/-! ## Attempts -/

theorem update_request {updates : List (Nat × Row N)} {outcome : Except Failure Unit}
    {s t : Sheet N} (h : Js.Leads exec (requestUpdates updates) s outcome t) :
    t = batchUpdate updates s ∨ (t = s ∧ ∃ e, outcome = .error e) := by
  unfold requestUpdates at h
  by_cases hnil : updates = []
  · rw [if_neg (by simpa using hnil), Js.leads_pure] at h
    rw [h.2, hnil]
    exact .inl rfl
  · rw [if_pos hnil, Js.leads_call] at h
    exact h

theorem append_request {additions : List (Row N)} {outcome : Except Failure Unit} {s t : Sheet N}
    (h : Js.Leads exec (requestAppend additions) s outcome t) :
    t = append additions s ∨ (t = s ∧ ∃ e, outcome = .error e) := by
  unfold requestAppend at h
  by_cases hnil : additions = []
  · rw [if_neg (by simpa using hnil), Js.leads_pure] at h
    rw [h.2, hnil, append_nil]
    exact .inl rfl
  · rw [if_pos hnil, Js.leads_call] at h
    exact h

/-- An attempt leaves the sheet as it was, or with its updates, or with the page; the last when it
succeeds. -/
theorem attempt_cases {s t : Sheet N} {outcome : Except Failure Unit}
    (h : Attempt numbers creators s outcome t) :
    t = reconciled numbers creators s ∨
      ((t = s ∨ t = updated numbers creators s) ∧ ∃ e, outcome = .error e) := by
  rcases Js.leads_bind.1 h with ⟨e, hread, houtcome⟩ | ⟨rows, mid, hread, hrest⟩
  · exact .inr ⟨.inl (Js.leads_call.1 hread).1, e, houtcome⟩
  · obtain ⟨rfl, hrows⟩ := Js.leads_call.1 hread
    have hrows : rows = readValues mid := by
      rcases hrows with hrows | ⟨e, hrows⟩
      · cases hrows
        rfl
      · cases hrows
    subst hrows
    rcases Js.leads_bind.1 hrest with ⟨e, hupdate, houtcome⟩ | ⟨u, after, hupdate, happend⟩
    · rcases update_request hupdate with ht | ⟨ht, _⟩
      · exact .inr ⟨.inr ht, e, houtcome⟩
      · exact .inr ⟨.inl ht, e, houtcome⟩
    · have hafter : after = updated numbers creators mid := by
        rcases update_request hupdate with hafter | ⟨_, e, herror⟩
        · exact hafter
        · cases herror
      rcases append_request happend with ht | ⟨ht, e, houtcome⟩
      · rw [ht, hafter]
        exact .inl rfl
      · rw [ht, hafter]
        exact .inr ⟨.inr rfl, e, houtcome⟩

/-- An attempt succeeds when no request fails. -/
theorem attempt_succeeds (numbers : Numbers N) (creators : List (CreatorCandidate N))
    (s : Sheet N) : Attempt numbers creators s (.ok ()) (reconciled numbers creators s) := by
  have hupdates : Js.Leads exec
      (requestUpdates (plan numbers (readValues s) creators).updates) s (.ok ())
      (updated numbers creators s) := by
    unfold requestUpdates updated
    by_cases hnil : (plan numbers (readValues s) creators).updates = []
    · rw [if_neg (by simpa using hnil), hnil]
      exact Js.leads_pure.2 ⟨rfl, rfl⟩
    · rw [if_pos hnil]
      exact Js.leads_call.2 (.inl rfl)
  have hadditions : Js.Leads exec
      (requestAppend (plan numbers (readValues s) creators).additions)
      (updated numbers creators s) (.ok ()) (reconciled numbers creators s) := by
    unfold requestAppend reconciled
    by_cases hnil : (plan numbers (readValues s) creators).additions = []
    · rw [if_neg (by simpa using hnil), hnil, append_nil]
      exact Js.leads_pure.2 ⟨rfl, rfl⟩
    · rw [if_pos hnil]
      exact Js.leads_call.2 (.inl rfl)
  exact Js.leads_bind.2 (.inr ⟨readValues s, s, Js.leads_call.2 ⟨rfl, .inl rfl⟩,
    Js.leads_bind.2 (.inr ⟨(), _, hupdates, hadditions⟩)⟩)

/-- What the attempts so far have made of the sheet. -/
theorem run_cases (h : TrimmedIds creators) {s t : Sheet N}
    (hused : ∃ row ∈ s, blank row = false) {outcomes : List (Except Failure Unit)}
    (hrun : Run (Attempt numbers creators) s outcomes t) :
    t = s ∨ t = updated numbers creators s ∨ t = reconciled numbers creators s := by
  refine hrun.invariant (fun t => t = s ∨ t = updated numbers creators s ∨
    t = reconciled numbers creators s) ?_ (.inl rfl)
  rintro w outcome t _ hstep hw
  have hcases : t = reconciled numbers creators w ∨ t = w ∨ t = updated numbers creators w := by
    rcases attempt_cases hstep with ht | ⟨ht, _⟩
    · exact .inl ht
    · exact .inr ht
  rcases hw with rfl | rfl | rfl
  · rcases hcases with ht | ht | ht
    · exact .inr (.inr ht)
    · exact .inl ht
    · exact .inr (.inl ht)
  · rw [reconciled_updated h, updated_updated h] at hcases
    rcases hcases with ht | ht | ht
    · exact .inr (.inr ht)
    · exact .inr (.inl ht)
    · exact .inr (.inl ht)
  · obtain ⟨hupdated, hreconciled⟩ := @reconciled_reconciled _ numbers _ _ h hused
    rw [hupdated, hreconciled] at hcases
    rcases hcases with ht | ht | ht <;> exact .inr (.inr ht)

/-- Attempts that end with a success lead to the sheet with the page, whatever failed before. -/
theorem page_is_upserted (h : TrimmedIds creators) {s : Sheet N}
    (hused : ∃ row ∈ s, blank row = false) :
    ∃ t, Attempt numbers creators s (.ok ()) t ∧ Upserted numbers creators s t ∧
      ∀ outcomes u, Run (Attempt numbers creators) s (outcomes ++ [.ok ()]) u → u = t := by
  refine ⟨reconciled numbers creators s, attempt_succeeds numbers creators s,
    reconciled_upserted h hused, ?_⟩
  intro outcomes u hrun
  obtain ⟨w, hbefore, hlast⟩ := hrun.split
  cases hlast with
  | cons hstep hend =>
    cases hend
    have hu : u = reconciled numbers creators w := by
      rcases attempt_cases hstep with hu | ⟨_, e, herror⟩
      · exact hu
      · cases herror
    rw [hu]
    rcases run_cases h hused hbefore with rfl | rfl | rfl
    · rfl
    · exact reconciled_updated h s
    · exact (reconciled_reconciled h hused).2

end Rows

/-! ## Samples -/

/-- A sheet with its header and a blank row. -/
def sampleSheet : Sheet Nat :=
  [[.text "No.", .text "Username"], [], sheetRow decimals sampleCreator 2, [.text ""]]

def secondCreator : CreatorCandidate Nat where
  creatorOpenId := "open-2"
  selectionRegion := "ID"

theorem a_page_is_put_into_the_sheet :
    ∃ t, Attempt decimals [secondCreator, sampleCreator] sampleSheet (.ok ()) t ∧
      Upserted decimals [secondCreator, sampleCreator] sampleSheet t ∧
      ∀ outcomes u, Run (Attempt decimals [secondCreator, sampleCreator]) sampleSheet
        (outcomes ++ [.ok ()]) u → u = t := by
  have htrim : TrimmedIds [secondCreator, sampleCreator] := by
    unfold TrimmedIds
    decide
  exact page_is_upserted htrim ⟨_, List.mem_cons_self, by decide⟩

/-- A creator without an id, which the database refuses. -/
def namelessCreator : CreatorCandidate Nat := { sampleCreator with creatorOpenId := "" }

/-- Without a header the first row of an empty sheet is taken, where it is never found again; and
a creator without an id is appended at every attempt. -/
theorem an_empty_sheet_has_no_first_row :
    (TrimmedIds [sampleCreator] ∧ ∃ t u, Attempt decimals [sampleCreator] [] (.ok ()) t ∧
      Attempt decimals [sampleCreator] t (.ok ()) u ∧
      t = [sheetRow decimals sampleCreator 1] ∧ u ≠ t ∧
      ¬ Upserted decimals [sampleCreator] [] t) ∧
    trim namelessCreator.creatorOpenId = namelessCreator.creatorOpenId ∧
    ∃ t u, Attempt decimals [namelessCreator] sampleSheet (.ok ()) t ∧
      Attempt decimals [namelessCreator] t (.ok ()) u ∧ u ≠ t := by
  have ht : reconciled decimals [sampleCreator] [] = [sheetRow decimals sampleCreator 1] := by
    decide
  refine ⟨⟨by unfold TrimmedIds; decide, _, _, attempt_succeeds _ _ _, attempt_succeeds _ _ _,
    ht, ?_, ?_⟩, by decide, _, _, attempt_succeeds _ _ _, attempt_succeeds _ _ _, ?_⟩
  · rw [ht]
    decide
  · intro h
    rw [ht] at h
    obtain ⟨i, hi, _⟩ := h.present "open-1" sampleCreator (by decide)
    have hnone : rowIndex decimals [sheetRow decimals sampleCreator 1] "open-1" = none := by decide
    rw [hnone] at hi
    cases hi
  · decide +kernel

end tiktok_outreach.sheet_reconciliation
