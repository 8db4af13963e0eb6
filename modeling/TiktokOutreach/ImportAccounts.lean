-- What an import stores of the rows of its file. Imports run side by side and crash at any place, so
-- the account of each one is kept against what its own calls have written so far.
import TiktokOutreach.LiveRecords
import TiktokOutreach.ImportRetries

open runs executions tables transactions tiktok_outreach.historical_identity
  tiktok_outreach.history_import tiktok_outreach.contact_facts tiktok_outreach.live_records
  tiktok_outreach.import_retries

namespace tiktok_outreach.import_accounts

/-! ## The records of an import -/

/-- What a record keeps of its row, whatever becomes of the record. -/
structure Content where
  sourceRecordId : String
  conversationId : Option String
  externalMessageId : Option String
  contactedAt : Int
  sendStatus : String
  campaignName : Option String
  messageContent : Option String
  deriving DecidableEq, Repr

def contentOf (record : HistoricalContactRecord) : Content where
  sourceRecordId := record.sourceRecordId
  conversationId := record.conversationId
  externalMessageId := record.externalMessageId
  contactedAt := record.contactedAt
  sendStatus := record.sendStatus
  campaignName := record.campaignName
  messageContent := record.messageContent

/-- The source record of a row, which does not depend on the name of the file. -/
def sourceRecordId (lang : Language) (row : CsvRow) : String :=
  (historicalIdentity lang "" row).sourceRecordId

/-- What is to be kept of a row. A date that is not valid is kept as the start of time. -/
def rowContent (lang : Language) (row : CsvRow) : Content where
  sourceRecordId := sourceRecordId lang row
  conversationId := orNull (trimmed row.conversationId)
  externalMessageId := orNull row.externalMessageId
  contactedAt := (contactedAt lang row).getD 0
  sendStatus := sendStatus lang row
  campaignName := orNull row.campaignName
  messageContent := orNull row.messageBody

/-- The records of an import, one behind the other. -/
def contents (db : Db) (importId : Nat) : List Content :=
  (db.records.findMany (fun _ r => r.importId = importId)).map (fun r => contentOf r.2)

/-- The counts of the import add up to its rows, and each row is one record. -/
structure Accounts (env : Environment) (rows : List CsvRow) (db : Db) (importId : Nat)
    (row : HistoricalContactImport) : Prop where
  rowCount : row.rowCount = rows.length
  total : row.importedCount + row.duplicateCount + row.conflictCount = row.rowCount
  records : contents db importId = rows.map (rowContent env.toLanguage)

theorem historicalIdentity_sourceRecordId (lang : Language) (sourceName : String) (row : CsvRow) :
    (historicalIdentity lang sourceName row).sourceRecordId = sourceRecordId lang row := by
  unfold sourceRecordId historicalIdentity
  cases trimmed row.externalMessageId with
  | some messageId => rfl
  | none =>
    cases trimmed row.sourceRecordId with
    | some recordId => rfl
    | none => rfl

/-! ## What the calls write -/

/-- One record more for an import, and the same imports. -/
structure Appends (db db' : Db) (importId : Nat) (content : Content) : Prop where
  imports : imports db' = imports db
  contents : ∀ id, contents db' id = contents db id ++ if id = importId then [content] else []
  importIds : ∀ id r, db'.records.get id = some r → r.importId = importId ∨
    ∃ r', db.records.get id = some r' ∧ r'.importId = r.importId

theorem appends_withRecord {db : Db} (h : Chained db) (record : HistoricalContactRecord) :
    Appends db (withRecord db record) record.importId (contentOf record) := by
  have hnew : db.records.get db.nextRecordId = none := by
    cases hget : db.records.get db.nextRecordId with
    | none => rfl
    | some r => exact absurd (h.fresh _ r hget) (Nat.lt_irrefl _)
  refine ⟨rfl, ?_, ?_⟩
  · intro id
    unfold contents withRecord
    dsimp only
    rw [Table.findMany_set_new hnew, List.map_append]
    by_cases hid : id = record.importId
    · simp [hid]
    · have hid' : ¬ record.importId = id := fun heq => hid heq.symm
      simp [hid, hid']
  · intro id r hr
    simp only [withRecord, Table.get_set] at hr
    split at hr
    · left
      rw [Option.some.injEq] at hr
      rw [hr]
    · exact Or.inr ⟨r, hr, rfl⟩

/-- The content of the record of a row does not hang on its state. -/
def incomingContent (incoming : Incoming) : Content := contentOf (incoming.record .CONFLICT none)

theorem appends_importRow {incoming : Incoming} {db db' : Db} {outcome : RowOutcome}
    (h : Chained db) (hrun : (importRow incoming).run db = .ok (outcome, db')) :
    Appends db db' incoming.importId (incomingContent incoming) := by
  obtain ⟨creators, facts, hfacts, heq⟩ := run_importRow incoming h.currentStored
  rw [heq] at hrun
  split at hrun
  · cases hrun
  · split at hrun
    · cases hrun
      obtain ⟨h1, h2, h3⟩ :=
        appends_withRecord h (incoming.record .DUPLICATE (some incoming.key))
      exact ⟨h1, h2, h3⟩
    · cases hrun
      obtain ⟨h1, h2, h3⟩ := appends_withRecord h
        (incoming.record incoming.resolutionState (some incoming.key))
      refine ⟨h1, ?_, ?_⟩
      · intro id
        refine Eq.trans ?_ (h2 id)
        unfold contents replaced withRecord
        dsimp only
        rw [Table.map_findMany_updateMany, Table.map_findMany_updateMany]
        all_goals intros; rfl
      · intro id r hr
        rcases record_cases h hr with ⟨_, rfl⟩ | ⟨old, hold, _, rfl⟩ | ⟨hold, _⟩
        · exact Or.inl rfl
        · exact Or.inr ⟨old, hold, rfl⟩
        · exact Or.inr ⟨r, hold, rfl⟩

/-! ## What an import has written so far -/

inductive Role
  | idle
  | running (importId : Nat) (row : HistoricalContactImport) (written : List Content)

/-- The import is of a file that the parser read. -/
def OfFile (env : Environment) (row : HistoricalContactImport) (rows : List CsvRow) : Prop :=
  ∃ csv, env.parse csv = some rows ∧ row.sourceHash = env.sha256 csv ∧ row.rowCount = rows.length

def total (counts : Counts) : Nat :=
  counts.importedCount + counts.duplicateCount + counts.conflictCount

/-- The calls that come next. -/
def Allows (env : Environment) : Role → Call → Prop
  | .idle, .findImport _ _ => True
  | .idle, .createImport row => row.state = .RUNNING
  | .running _ _ _, .findConversation _ => True
  | .running importId _ _, .createRecord record =>
    record.importId = importId ∧ Conflicts (.createRecord record)
  | .running importId _ _, .importRow incoming => incoming.importId = importId
  | .running importId row written, .finishImport importId' counts =>
    importId' = importId ∧ total counts = row.rowCount ∧
      ∃ rows, OfFile env row rows ∧ written = rows.map (rowContent env.toLanguage)
  | _, _ => False

def next : Role → (c : Call) → Answer c → Role
  | .idle, .createImport row, .ok importId => .running importId row []
  | .running importId row written, .findConversation _, .ok _ => .running importId row written
  | .running importId row written, .createRecord record, .ok _ =>
    .running importId row (written ++ [contentOf record])
  | .running importId row written, .importRow incoming, .ok _ =>
    .running importId row (written ++ [incomingContent incoming])
  | _, _, _ => .idle

def accounting (env : Environment) : Protocol Call Answer Role where
  ok := Allows env
  next := next

def AnyRole (_ : Role) : Prop := True

section Programs

variable {env : Environment} {shopId : Nat} {sourceName : String} {importId : Nat}
  {row : HistoricalContactImport} {written : List Content}

theorem lawful_creatorOf {α : Type} {f : Option String → Program α} {csvRow : CsvRow}
    (hf : ∀ openId, Js.Lawful (accounting env) AnyRole (f openId) (.running importId row written)) :
    Js.Lawful (accounting env) AnyRole (creatorOf csvRow >>= f) (.running importId row written) := by
  unfold creatorOf
  split
  · exact hf _
  · exact Js.lawful_call_bind trivial hf (fun _ => trivial)
  · exact hf none

theorem content_conflictRecord {csvRow : CsvRow} (openId : Option String)
    (hdate : contactedAt env.toLanguage csvRow = none) :
    contentOf (conflictRecord env shopId sourceName importId csvRow openId) =
      rowContent env.toLanguage csvRow := by
  unfold conflictRecord contentOf rowContent Incoming.record incomingOf
  dsimp only
  rw [historicalIdentity_sourceRecordId, hdate]
  rfl

theorem content_incomingOf {csvRow : CsvRow} {date : Int} (openId : Option String)
    (hdate : contactedAt env.toLanguage csvRow = some date) :
    incomingContent (incomingOf env shopId sourceName importId csvRow date openId) =
      rowContent env.toLanguage csvRow := by
  unfold incomingContent contentOf rowContent Incoming.record incomingOf
  dsimp only
  rw [historicalIdentity_sourceRecordId, hdate]
  rfl

/-- A row is written once, and counted once. -/
theorem lawful_processRow {α : Type} {f : Counts → Program α} {csvRow : CsvRow} {counts : Counts}
    (hf : ∀ counts', total counts' = total counts + 1 → Js.Lawful (accounting env) AnyRole (f counts')
      (.running importId row (written ++ [rowContent env.toLanguage csvRow]))) :
    Js.Lawful (accounting env) AnyRole
      (processRow env shopId sourceName importId csvRow counts >>= f)
      (.running importId row written) := by
  unfold processRow
  rw [Js.bind_assoc]
  apply lawful_creatorOf
  intro openId
  cases hdate : contactedAt env.toLanguage csvRow with
  | none =>
    dsimp only
    rw [Js.bind_assoc]
    refine Js.lawful_call_bind ?_ ?_ (fun _ => trivial)
    · exact ⟨rfl, rfl, rfl⟩
    intro _
    have hnext := hf { counts with conflictCount := counts.conflictCount + 1 } (by
      simp only [total]
      omega)
    rw [← content_conflictRecord openId hdate] at hnext
    exact hnext
  | some date =>
    dsimp only
    rw [Js.bind_assoc]
    apply Js.lawful_call_bind rfl _ (fun _ => trivial)
    intro outcome
    have hnext := hf (counted counts openId outcome) (by
      cases outcome with
      | DUPLICATE =>
        simp only [total, counted]
        omega
      | IMPORTED =>
        simp only [total, counted]
        omega)
    rw [← content_incomingOf openId hdate] at hnext
    exact hnext

theorem lawful_processRows {α : Type} {f : Counts → Program α} (rows : List CsvRow)
    {counts : Counts} (hf : ∀ counts', total counts' = total counts + rows.length →
      Js.Lawful (accounting env) AnyRole (f counts')
        (.running importId row (written ++ rows.map (rowContent env.toLanguage)))) :
    Js.Lawful (accounting env) AnyRole
      (processRows env shopId sourceName importId rows counts >>= f)
      (.running importId row written) := by
  induction rows generalizing counts written with
  | nil =>
    have hnow := hf counts rfl
    rw [List.map_nil, List.append_nil] at hnow
    exact hnow
  | cons csvRow rest ih =>
    unfold processRows
    rw [Js.bind_assoc]
    apply lawful_processRow
    intro counts' htotal
    apply ih
    intro counts'' htotal'
    have hlast := hf counts'' (by
      rw [htotal', htotal, List.length_cons]
      omega)
    rw [List.map_cons, List.append_cons] at hlast
    exact hlast

theorem lawful_importFile {csv : String} {rows : List CsvRow} (hparse : env.parse csv = some rows) :
    Js.Lawful (accounting env) AnyRole (importFile env shopId sourceName csv rows) .idle := by
  unfold importFile
  apply Js.lawful_call_bind rfl _ (fun _ => trivial)
  intro importId
  apply lawful_processRows
  intro counts htotal
  apply Js.lawful_call _ (fun _ => trivial)
  refine ⟨rfl, ?_, rows, ⟨csv, hparse, rfl, rfl⟩, by simp⟩
  rw [htotal]
  simp [total, newImport]

theorem lawful_importCsv (env : Environment) (shopId : Nat) (sourceName csv : String) :
    Js.Lawful (accounting env) AnyRole (importCsv env shopId sourceName csv) .idle := by
  unfold importCsv
  split
  · exact Js.lawful_throw trivial
  · apply Js.lawful_call_bind trivial _ (fun _ => trivial)
    intro prior
    cases prior with
    | some prior => exact Js.lawful_pure trivial
    | none =>
      dsimp only
      cases hparse : env.parse csv with
      | none => exact Js.lawful_throw trivial
      | some rows => exact lawful_importFile hparse

end Programs

/-! ## The books -/

/-- A running import is stored with what it has written so far, and no other one writes to it. A
finished import accounts for the rows of its file. -/
structure Books (env : Environment) (db : Db) (roles : Nat → Role) : Prop where
  chained : Chained db
  fresh : ∀ id row, db.imports.get id = some row → id < db.nextImportId
  records : ∀ id r, db.records.get id = some r → r.importId < db.nextImportId
  running : ∀ i id row written, roles i = .running id row written →
    db.imports.get id = some row ∧ row.state = .RUNNING ∧ contents db id = written
  apart : ∀ i j id row row' written written', roles i = .running id row written →
    roles j = .running id row' written' → i = j
  finished : ∀ id row, db.imports.get id = some row → row.state ≠ .RUNNING →
    ∃ rows, OfFile env row rows ∧ Accounts env rows db id row

section Books

variable {env : Environment} {db db' : Db} {roles : Nat → Role} {i : Nat}

theorem books_noImports : Books env Db.initial (fun _ => .idle) where
  chained := chained_initial
  fresh := by simp [Db.initial]
  records := by simp [Db.initial]
  running := by simp
  apart := by simp
  finished := by simp [Db.initial]

/-- What a thread is there is of the threads before, but for the one whose role is set. -/
theorem role_cases {r r' : Role} {j : Nat} (h : setRole roles i r j = r') :
    (j = i ∧ r = r') ∨ (j ≠ i ∧ roles j = r') := by
  by_cases hj : j = i
  · subst hj
    rw [setRole_self] at h
    exact Or.inl ⟨rfl, h⟩
  · rw [setRole_of_ne _ _ hj] at h
    exact Or.inr ⟨hj, h⟩

theorem setRole_role (roles : Nat → Role) (i : Nat) : setRole roles i (roles i) = roles := by
  funext j
  by_cases hj : j = i
  · rw [hj, setRole_self]
  · exact setRole_of_ne _ _ hj

theorem setRole_setRole (roles : Nat → Role) (i : Nat) (r r' : Role) :
    setRole (setRole roles i r) i r' = setRole roles i r' := by
  funext j
  by_cases hj : j = i
  · rw [hj, setRole_self, setRole_self]
  · rw [setRole_of_ne _ _ hj, setRole_of_ne _ _ hj, setRole_of_ne _ _ hj]

theorem books_idle (h : Books env db roles) : Books env db (setRole roles i .idle) := by
  refine ⟨h.chained, h.fresh, h.records, ?_, ?_, h.finished⟩
  · intro j id row written hj
    rcases role_cases hj with ⟨_, hr⟩ | ⟨_, hj⟩
    · cases hr
    · exact h.running j id row written hj
  · intro j k id row row' written written' hj hk
    rcases role_cases hj with ⟨_, hr⟩ | ⟨_, hj⟩
    · cases hr
    · rcases role_cases hk with ⟨_, hr⟩ | ⟨_, hk⟩
      · cases hr
      · exact h.apart j k id row row' written written' hj hk

theorem contents_of_same (hrecords : db'.records = db.records) (id : Nat) :
    contents db' id = contents db id := by
  unfold contents
  rw [hrecords]

/-- The other tables are free. -/
theorem books_of_same (h : Books env db roles) (himports : imports db' = imports db)
    (hchains : chains db' = chains db) : Books env db' roles := by
  simp only [imports, chains, Prod.mk.injEq] at himports hchains
  refine ⟨chained_of_same h.chained hchains.1 hchains.2.1 hchains.2.2, ?_, ?_, ?_, h.apart, ?_⟩
  · rw [himports.1, himports.2]
    exact h.fresh
  · rw [hchains.1, himports.2]
    exact h.records
  · intro j id row written hj
    rw [himports.1, contents_of_same hchains.1]
    exact h.running j id row written hj
  · intro id row hget hstate
    rw [himports.1] at hget
    obtain ⟨rows, hfile, hcount, htotal, hcontents⟩ := h.finished id row hget hstate
    exact ⟨rows, hfile, hcount, htotal, (contents_of_same hchains.1 id).trans hcontents⟩

/-- A record more of a running import. -/
theorem books_appends {importId : Nat} {row : HistoricalContactImport} {written : List Content}
    {content : Content} (h : Books env db roles) (hchained : Chained db')
    (hi : roles i = .running importId row written) (happends : Appends db db' importId content) :
    Books env db' (setRole roles i (.running importId row (written ++ [content]))) := by
  obtain ⟨himports, hcontents, hids⟩ := happends
  simp only [imports, Prod.mk.injEq] at himports
  obtain ⟨hget, hstate, hwritten⟩ := h.running i importId row written hi
  have hother : ∀ id, id ≠ importId → contents db' id = contents db id := by
    intro id hid
    rw [hcontents, if_neg hid, List.append_nil]
  refine ⟨hchained, ?_, ?_, ?_, ?_, ?_⟩
  · rw [himports.1, himports.2]
    exact h.fresh
  · intro id r hr
    rw [himports.2]
    rcases hids id r hr with hid | ⟨r', hr', hid⟩
    · exact hid ▸ h.fresh importId row hget
    · exact hid ▸ h.records id r' hr'
  · intro j id row' written' hj
    rw [himports.1]
    rcases role_cases hj with ⟨_, hr⟩ | ⟨hne, hold⟩
    · cases hr
      refine ⟨hget, hstate, ?_⟩
      rw [hcontents, if_pos rfl, hwritten]
    · have hid : id ≠ importId := by
        rintro rfl
        exact hne (h.apart j i _ _ _ _ _ hold hi)
      rw [hother id hid]
      exact h.running j id row' written' hold
  · intro j k id row' row'' written' written'' hj hk
    rcases role_cases hj with ⟨hji, hr⟩ | ⟨_, hold⟩
    · cases hr
      rcases role_cases hk with ⟨hki, _⟩ | ⟨_, hold'⟩
      · rw [hji, hki]
      · rw [hji]
        exact h.apart _ _ _ _ _ _ _ hi hold'
    · rcases role_cases hk with ⟨hki, hr⟩ | ⟨_, hold'⟩
      · cases hr
        rw [hki]
        exact h.apart _ _ _ _ _ _ _ hold hi
      · exact h.apart _ _ _ _ _ _ _ hold hold'
  · intro id row' hget' hstate'
    rw [himports.1] at hget'
    have hid : id ≠ importId := by
      rintro rfl
      rw [hget, Option.some.injEq] at hget'
      exact hstate' (hget' ▸ hstate)
    obtain ⟨rows, hfile, hcount, htotal, hrecords⟩ := h.finished id row' hget' hstate'
    exact ⟨rows, hfile, hcount, htotal, (hother id hid).trans hrecords⟩

/-- A new import, which has no records yet. -/
theorem books_createImport (row : HistoricalContactImport) (h : Books env db roles)
    (hstate : row.state = .RUNNING) :
    Books env (withImport db row) (setRole roles i (.running db.nextImportId row [])) := by
  have hold : ∀ id row', db.imports.get id = some row' →
      id ≠ db.nextImportId ∧ (withImport db row).imports.get id = some row' := by
    intro id row' hget
    have hne := Nat.ne_of_lt (h.fresh id row' hget)
    exact ⟨hne, by simp [withImport, hne, hget]⟩
  have hcases : ∀ id row', (withImport db row).imports.get id = some row' →
      (id = db.nextImportId ∧ row' = row) ∨ db.imports.get id = some row' := by
    intro id row' hget
    simp only [withImport, Table.get_set] at hget
    split at hget
    · left
      exact ⟨‹_›, by simpa using hget.symm⟩
    · exact Or.inr hget
  have hcontents : contents (withImport db row) db.nextImportId = [] := by
    unfold contents
    rw [List.map_eq_nil_iff, List.eq_nil_iff_forall_not_mem]
    rintro ⟨id, r⟩ hmem
    rw [Table.mem_findMany, decide_eq_true_eq] at hmem
    exact Nat.ne_of_lt (h.records id r hmem.1) hmem.2
  refine ⟨chained_of_same h.chained rfl rfl rfl, ?_, ?_, ?_, ?_, ?_⟩
  · intro id row' hget
    rcases hcases id row' hget with ⟨rfl, _⟩ | hget
    · exact Nat.lt_succ_self _
    · exact Nat.lt_succ_of_lt (h.fresh id row' hget)
  · intro id r hr
    exact Nat.lt_succ_of_lt (h.records id r hr)
  · intro j id row' written hj
    rcases role_cases hj with ⟨_, hr⟩ | ⟨_, hrole⟩
    · cases hr
      exact ⟨by simp [withImport], hstate, hcontents⟩
    · obtain ⟨hget, hrest⟩ := h.running j id row' written hrole
      exact ⟨(hold id row' hget).2, hrest⟩
  · intro j k id row' row'' written written' hj hk
    have hnew : ∀ l row' written, roles l ≠ .running db.nextImportId row' written := by
      intro l row' written hl
      exact (hold _ _ (h.running l _ row' written hl).1).1 rfl
    rcases role_cases hj with ⟨hji, hr⟩ | ⟨_, hrole⟩
    · cases hr
      rcases role_cases hk with ⟨hki, _⟩ | ⟨_, hrole⟩
      · rw [hji, hki]
      · exact absurd hrole (hnew _ _ _)
    · rcases role_cases hk with ⟨_, hr⟩ | ⟨_, hrole'⟩
      · cases hr
        exact absurd hrole (hnew _ _ _)
      · exact h.apart _ _ _ _ _ _ _ hrole hrole'
  · intro id row' hget hfinished
    rcases hcases id row' hget with ⟨_, rfl⟩ | hget
    · exact absurd hstate hfinished
    · obtain ⟨rows, hfile, hcount, htotal, hrecords⟩ := h.finished id row' hget hfinished
      exact ⟨rows, hfile, hcount, htotal, hrecords⟩

/-- The import that is finished has written its rows. -/
theorem books_finishImport {importId : Nat} {row : HistoricalContactImport}
    {written : List Content} {counts : Counts} {rows : List CsvRow} (h : Books env db roles)
    (hi : roles i = .running importId row written) (htotal : total counts = row.rowCount)
    (hfile : OfFile env row rows) (hwritten : written = rows.map (rowContent env.toLanguage)) :
    Books env (withFinished db importId counts) (setRole roles i .idle) := by
  obtain ⟨hget, _, hcontents⟩ := h.running i importId row written hi
  have hcases : ∀ id row', (withFinished db importId counts).imports.get id = some row' →
      (id = importId ∧ row' = finished counts row) ∨
        (id ≠ importId ∧ db.imports.get id = some row') := by
    intro id row' hget'
    simp only [withFinished, Table.get_updateMany, decide_eq_true_eq] at hget'
    by_cases hid : id = importId
    · subst hid
      rw [hget, Option.map_some, if_pos rfl, Option.some.injEq] at hget'
      exact Or.inl ⟨rfl, hget'.symm⟩
    · simp only [if_neg hid, Option.map_id'] at hget'
      exact Or.inr ⟨hid, hget'⟩
  refine ⟨chained_of_same h.chained rfl rfl rfl, ?_, h.records, ?_, (books_idle h).apart, ?_⟩
  · intro id row' hget'
    rcases hcases id row' hget' with ⟨rfl, _⟩ | ⟨_, hget'⟩
    · exact h.fresh id row hget
    · exact h.fresh id row' hget'
  · intro j id row' written' hj
    rcases role_cases hj with ⟨_, hr⟩ | ⟨hne, hrole⟩
    · cases hr
    · have hid : id ≠ importId := by
        rintro rfl
        exact hne (h.apart j i _ _ _ _ _ hrole hi)
      obtain ⟨hget', hrest⟩ := h.running j id row' written' hrole
      exact ⟨by simp [withFinished, hid, hget'], hrest⟩
  · intro id row' hget' hstate'
    rcases hcases id row' hget' with ⟨rfl, rfl⟩ | ⟨_, hget'⟩
    · obtain ⟨csv, hparse, hhash, hcount⟩ := hfile
      exact ⟨rows, ⟨csv, hparse, hhash, hcount⟩, hcount, htotal, hcontents.trans hwritten⟩
    · obtain ⟨rows', hfile', hcount, htotal', hrecords⟩ := h.finished id row' hget' hstate'
      exact ⟨rows', hfile', hcount, htotal', hrecords⟩

/-- A call that is answered keeps the books, and the role follows. -/
theorem books_run {c : Call} {a : c.Result} (h : Books env db roles)
    (hok : Allows env (roles i) c) (hrun : c.transaction.run db = .ok (a, db')) :
    Books env db' (setRole roles i (next (roles i) c (.ok a))) := by
  cases hi : roles i with
  | idle =>
    rw [hi] at hok
    cases c with
    | findImport shopId sourceHash =>
      cases hrun
      exact books_idle h
    | createImport row =>
      cases hnone : importOf db row.shopId row.sourceHash with
      | none =>
        rw [show (Call.createImport row).transaction.run db = _ from run_createImport hnone] at hrun
        cases hrun
        exact books_createImport row h hok
      | some prior =>
        change (createImport row).run db = _ at hrun
        unfold createImport at hrun
        simp [hnone] at hrun
    | findConversation | createRecord | importRow | finishImport => exact hok.elim
  | running importId row written =>
    rw [hi] at hok
    cases c with
    | findImport | createImport => exact hok.elim
    | findConversation conversationId =>
      cases hrun
      have hsame : setRole roles i (.running importId row written) = roles := by
        rw [← hi, setRole_role]
      exact hsame.symm ▸ h
    | createRecord record =>
      obtain ⟨rfl, hconflict⟩ := hok
      have hchained := chained_run h.chained hconflict hrun
      change (createRecord record).run db = _ at hrun
      rw [run_createRecord] at hrun
      split at hrun
      · cases hrun
      · cases hrun
        exact books_appends h hchained hi (appends_withRecord h.chained record)
    | importRow incoming =>
      cases hok
      exact books_appends h (chained_importRow h.chained hrun) hi (appends_importRow h.chained hrun)
    | finishImport importId' counts =>
      obtain ⟨rfl, htotal, rows, hfile, hwritten⟩ := hok
      rw [show (Call.finishImport importId' counts).transaction.run db = _ from
        run_finishImport (h.running i _ _ _ hi).1 counts] at hrun
      cases hrun
      exact books_finishImport h hi htotal hfile hwritten

theorem next_error (r : Role) (c : Call) (e : Failure) : next r c (.error e) = .idle := by
  cases r with
  | idle => cases c <;> rfl
  | running importId row written => cases c <;> rfl

/-- A call that fails keeps the books, whether its transaction was committed or not. -/
theorem books_error {c : Call} {e : Failure} (h : Books env db roles) (hok : Allows env (roles i) c)
    (hexec : exec db c (.error e) db') : Books env db' (setRole roles i .idle) := by
  rcases of_exec_error hexec with rfl | rfl
  · exact books_idle h
  · unfold Call.answer
    split
    · rename_i hrun
      have hcommitted := books_idle (i := i) (books_run h hok hrun)
      rwa [setRole_setRole] at hcommitted
    · exact books_idle h

theorem books_exec {c : Call} {outcome : Answer c} (h : Books env db roles)
    (hok : Allows env (roles i) c) (hexec : exec db c outcome db') :
    Books env db' (setRole roles i (next (roles i) c outcome)) := by
  cases outcome with
  | error e =>
    rw [next_error]
    exact books_error h hok hexec
  | ok a =>
    have hanswer : c.answer db = (.ok a, db') := answered_call c db a db' (Js.leads_call.2 hexec)
    unfold Call.answer at hanswer
    split at hanswer
    · rename_i hrun
      cases hanswer
      exact books_run h hok hrun
    · cases hanswer

theorem books_pool : PoolInvariant machine (accounting env) .idle .idle (fun _ _ => True)
    (Books env) where
  spawn _ _ _ h := books_idle h
  work := by
    rintro db roles i c db' h _ ⟨creators, conversations, rfl⟩ _
    exact books_of_same h rfl rfl
  run _ _ _ _ _ _ h hok hexec _ := books_exec h hok hexec
  ends _ _ _ h := books_idle h
  crash _ _ _ _ h _ := books_idle h

end Books

/-- The books of every run of imports. -/
theorem books_of_run {env : Environment} {ls : List (Label Call Answer)} {pool : Imports}
    (hrun : Run (PoolStep machine (IsImport env)) noImports ls pool) :
    ∃ roles, Books env pool.world roles := by
  have hstartable : ∀ p, IsImport env p → p.Conforms (accounting env) .idle (fun _ _ => True) := by
    rintro p ⟨shopId, sourceName, csv, rfl⟩
    apply Prog.conforms_mono (Js.conforms_of_lawful (lawful_importCsv env shopId sourceName csv))
    intro _ _ _
    trivial
  have hguarded : Run (Guarded (PoolStep machine (IsImport env)) (fun _ _ => True)) noImports ls pool :=
    hrun.mono (fun _ _ _ hstep => ⟨hstep, trivial⟩)
  have hnone : ∃ roles, Books env noImports.world roles ∧
      Follows (accounting env) noImports roles :=
    ⟨fun _ => .idle, books_noImports, fun _ _ hthread => nomatch hthread⟩
  obtain ⟨roles, h, _⟩ := pool_invariant books_pool hstartable hguarded hnone
  exact ⟨roles, h⟩

end tiktok_outreach.import_accounts
