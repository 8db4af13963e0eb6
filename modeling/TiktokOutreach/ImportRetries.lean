-- An import that stopped is tried again with the same file. The import of the file is stored before
-- its first row and finished behind its last one, so what a retry does hangs on where the attempt
-- stopped.
import TiktokOutreach.HistoryImport
import TiktokOutreach.Lib.Transcripts

open executions tables transactions tiktok_outreach.historical_identity
  tiktok_outreach.history_import

namespace tiktok_outreach.import_retries

/-! ## What the calls leave alone -/

/-- The tables of the imports. -/
def imports (db : Db) : Table Nat HistoricalContactImport × Nat := (db.imports, db.nextImportId)

theorem keeps_createRecord (record : HistoricalContactRecord) :
    (createRecord record).Keeps imports := by
  unfold createRecord
  rw [Tx.keeps_stmt]
  constructor
  · intro db
    split
    · rfl
    · rfl
  · intro v
    split
    · trivial
    · trivial

theorem keeps_upsertCreator (incoming : Incoming) (openId : String) :
    (upsertCreator incoming openId).Keeps imports := by
  unfold upsertCreator
  simp [imports]

theorem keeps_writeFact (incoming : Incoming) (existing : Option HistoricalContactFact) :
    (writeFact incoming existing).Keeps imports := by
  unfold writeFact
  cases existing with
  | none => simp [imports]
  | some fact => simp [imports]

theorem keeps_supersedeCurrent (existing : Option HistoricalContactFact) (created : Nat) :
    (supersedeCurrent existing created).Keeps imports := by
  unfold supersedeCurrent
  split
  · simp [imports]
  · exact Tx.keeps_pure _

theorem keeps_importRow (incoming : Incoming) : (importRow incoming).Keeps imports := by
  unfold importRow
  apply Tx.keeps_bind ((Tx.keeps_lock _ _).2 (Tx.keeps_ret _))
  intro _
  apply Tx.keeps_bind (Tx.keeps_read _ _)
  intro existing
  apply Tx.keeps_bind (Tx.keeps_traverse (fun openId _ => keeps_upsertCreator incoming openId))
  intro _
  apply Tx.keeps_bind (Tx.keeps_traverse (fun _ _ => (Tx.keeps_lock _ _).2 (Tx.keeps_ret _)))
  intro _
  split
  · apply Tx.keeps_bind (keeps_createRecord _)
    intro _
    exact Tx.keeps_pure _
  · apply Tx.keeps_bind (keeps_writeFact incoming existing)
    intro _
    apply Tx.keeps_bind (keeps_createRecord _)
    intro created
    apply Tx.keeps_bind (keeps_supersedeCurrent existing created)
    intro _
    apply Tx.keeps_bind
    · simp [imports]
    · intro _
      apply Tx.keeps_bind
      · simp [imports]
      · intro _
        exact Tx.keeps_pure _

theorem answer_of_ok {c : Call} {db db' : Db} {a : c.Result}
    (hrun : c.transaction.run db = .ok (a, db')) : c.answer db = (.ok a, db') := by
  unfold Call.answer
  rw [hrun]

theorem answer_of_error {c : Call} {db : Db} {e : Failure}
    (hrun : c.transaction.run db = .error e) : c.answer db = (.error e, db) := by
  unfold Call.answer
  rw [hrun]

theorem imports_answer {c : Call} (hc : c.transaction.Keeps imports) (db : Db) :
    imports (c.answer db).2 = imports db := by
  unfold Call.answer
  split
  · rename_i hrun
    exact Tx.run_of_keeps hc hrun
  · rfl

/-- Whether it is answered or not, the call leaves the imports alone. -/
theorem leaves_call {c : Call} (hc : c.transaction.Keeps imports) :
    Js.Leaves exec imports (Js.call c : Program c.Result) := by
  apply Js.leaves_call
  rintro db outcome db' (heq | ⟨_, rfl | rfl⟩)
  · rw [show db' = (c.answer db).2 from congrArg Prod.snd heq]
    exact imports_answer hc db
  · rfl
  · exact imports_answer hc db

theorem answered_call (c : Call) :
    Js.Answered exec Call.answer (Js.call c : Program c.Result) := by
  apply Js.answered_call
  rintro db a db' (heq | ⟨hfailed, _⟩)
  · exact heq.symm
  · cases hfailed

/-! ## The rows -/

section Rows

variable (env : Environment) (shopId : Nat) (sourceName : String) (importId : Nat)

theorem leaves_creatorOf (row : CsvRow) : Js.Leaves exec imports (creatorOf row) := by
  unfold creatorOf
  split
  · exact Js.leaves_pure _
  · exact leaves_call (c := .findConversation _) (Tx.keeps_read _ _)
  · exact Js.leaves_pure _

theorem leaves_processRow (row : CsvRow) (counts : Counts) :
    Js.Leaves exec imports (processRow env shopId sourceName importId row counts) := by
  unfold processRow
  apply Js.leaves_bind (leaves_creatorOf row)
  intro creatorOpenId
  split
  · apply Js.leaves_bind (leaves_call (c := .createRecord _) (keeps_createRecord _))
    intro _
    exact Js.leaves_pure _
  · apply Js.leaves_bind (leaves_call (c := .importRow _) (keeps_importRow _))
    intro outcome
    exact Js.leaves_pure _

/-- The rows leave the imports alone. -/
theorem leaves_processRows (rows : List CsvRow) (counts : Counts) :
    Js.Leaves exec imports (processRows env shopId sourceName importId rows counts) := by
  induction rows generalizing counts with
  | nil => exact Js.leaves_pure _
  | cons row rest ih =>
    apply Js.leaves_bind (leaves_processRow env shopId sourceName importId row counts)
    intro counts'
    exact ih counts'

theorem answered_creatorOf (row : CsvRow) : Js.Answered exec Call.answer (creatorOf row) := by
  unfold creatorOf
  split
  · exact Js.answered_pure _
  · exact answered_call (.findConversation _)
  · exact Js.answered_pure _

theorem answered_processRow (row : CsvRow) (counts : Counts) :
    Js.Answered exec Call.answer (processRow env shopId sourceName importId row counts) := by
  unfold processRow
  apply Js.answered_bind (answered_creatorOf row)
  intro creatorOpenId
  split
  · apply Js.answered_bind (answered_call (.createRecord _))
    intro _
    exact Js.answered_pure _
  · apply Js.answered_bind (answered_call (.importRow _))
    intro outcome
    exact Js.answered_pure _

theorem answered_processRows (rows : List CsvRow) (counts : Counts) :
    Js.Answered exec Call.answer (processRows env shopId sourceName importId rows counts) := by
  induction rows generalizing counts with
  | nil => exact Js.answered_pure _
  | cons row rest ih =>
    apply Js.answered_bind (answered_processRow env shopId sourceName importId row counts)
    intro counts'
    exact ih counts'

end Rows

/-! ## The import of a file -/

theorem of_importOf {db : Db} {shopId : Nat} {sourceHash : String} {id : Nat}
    {row : HistoricalContactImport} (h : importOf db shopId sourceHash = some (id, row)) :
    db.imports.get id = some row ∧ row.shopId = shopId ∧ row.sourceHash = sourceHash := by
  have hmem := List.mem_of_head? h
  rw [Table.mem_findMany] at hmem
  simpa using hmem

/-- The only import of a file is found. -/
theorem importOf_of_only {db : Db} {shopId : Nat} {sourceHash : String} {id : Nat}
    {row : HistoricalContactImport} (hget : db.imports.get id = some row)
    (hshop : row.shopId = shopId) (hhash : row.sourceHash = sourceHash)
    (honly : ∀ id' row', db.imports.get id' = some row' → row'.shopId = shopId →
      row'.sourceHash = sourceHash → id' = id) : importOf db shopId sourceHash = some (id, row) := by
  have hmem : (id, row) ∈ db.imports.findMany
      (fun _ i => i.shopId = shopId && i.sourceHash = sourceHash) := by
    rw [Table.mem_findMany]
    simp [hget, hshop, hhash]
  cases hfound : importOf db shopId sourceHash with
  | none =>
    rw [List.head?_eq_none_iff.1 hfound] at hmem
    cases hmem
  | some found =>
    obtain ⟨id', row'⟩ := found
    obtain ⟨hget', hshop', hhash'⟩ := of_importOf hfound
    have hid := honly id' row' hget' hshop' hhash'
    subst hid
    rw [hget, Option.some.injEq] at hget'
    rw [hget']

theorem importOf_none {db : Db} {shopId : Nat} {sourceHash : String}
    (h : importOf db shopId sourceHash = none) {id : Nat} {row : HistoricalContactImport}
    (hget : db.imports.get id = some row) : ¬ (row.shopId = shopId ∧ row.sourceHash = sourceHash) := by
  rintro ⟨hshop, hhash⟩
  have hmem : (id, row) ∈ db.imports.findMany
      (fun _ i => i.shopId = shopId && i.sourceHash = sourceHash) := by
    rw [Table.mem_findMany]
    simp [hget, hshop, hhash]
  rw [List.head?_eq_none_iff.1 h] at hmem
  cases hmem

/-- The database with a new import. -/
def withImport (db : Db) (row : HistoricalContactImport) : Db :=
  { db with
    imports := db.imports.set db.nextImportId row
    nextImportId := db.nextImportId + 1 }

theorem run_createImport {db : Db} {row : HistoricalContactImport}
    (h : importOf db row.shopId row.sourceHash = none) :
    (createImport row).run db = .ok (db.nextImportId, withImport db row) := by
  unfold createImport
  simp [h, withImport]

/-- Where the file had no import, the new one is its import, whatever the imports of other files
and the other tables are. -/
theorem importOf_withImport {db db' : Db} (row : HistoricalContactImport)
    {row' : HistoricalContactImport}
    (h : importOf db row.shopId row.sourceHash = none)
    (hnew : db'.imports.get db.nextImportId = some row')
    (hfile : row'.shopId = row.shopId ∧ row'.sourceHash = row.sourceHash)
    (hothers : ∀ id, id ≠ db.nextImportId → db'.imports.get id = db.imports.get id) :
    importOf db' row.shopId row.sourceHash = some (db.nextImportId, row') := by
  apply importOf_of_only hnew hfile.1 hfile.2
  intro id found hget hshop hhash
  by_contra hid
  rw [hothers id hid] at hget
  exact importOf_none h hget ⟨hshop, hhash⟩

def withFinished (db : Db) (importId : Nat) (counts : Counts) : Db :=
  { db with imports := db.imports.updateMany (fun id _ => id = importId) (finished counts) }

theorem run_finishImport {db : Db} {importId : Nat} {row : HistoricalContactImport}
    (h : db.imports.get importId = some row) (counts : Counts) :
    (finishImport importId counts).run db =
      .ok ((importId, finished counts row), withFinished db importId counts) := by
  unfold finishImport
  rw [Tx.run_bind, Tx.run_update, if_pos (by simp [h])]
  simp only [Except.bind]
  rw [Tx.run_bind, (Tx.run_readOrThrow_eq_ok (r := (finished counts row, _))).2 ⟨by simp [h], rfl⟩]
  rfl

theorem run_finishImport_none {db : Db} {importId : Nat} (h : db.imports.get importId = none)
    (counts : Counts) : (finishImport importId counts).run db = .error .notFound := by
  unfold finishImport
  rw [Tx.run_bind, Tx.run_update, if_neg (by simp [h])]
  rfl

theorem finished_state (counts : Counts) (row : HistoricalContactImport) :
    (finished counts row).state ≠ .RUNNING := by
  unfold finished
  dsimp only
  split
  · simp
  · simp

/-! ## Where an attempt can stop -/

/-- A call that ends with an error changed nothing, or all that it would have changed. -/
theorem of_exec_error {db db' : Db} {c : Call} {e : Failure} (h : exec db c (.error e) db') :
    db' = db ∨ db' = (c.answer db).2 := by
  rcases h with heq | ⟨_, h⟩
  · exact Or.inr (congrArg Prod.snd heq)
  · exact h

section Attempts

variable {env : Environment} {shopId : Nat} {sourceName csv : String} {rows : List CsvRow}
  {db db' : Db} {outcome : Except Failure (Nat × HistoricalContactImport)}

/-- The import of the file is stored and not finished. -/
def LeftRunning (db : Db) (shopId : Nat) (sourceHash : String) : Prop :=
  ∃ id row, importOf db shopId sourceHash = some (id, row) ∧ row.state = .RUNNING

def Finished (db : Db) (shopId : Nat) (sourceHash : String) : Prop :=
  ∃ id row, importOf db shopId sourceHash = some (id, row) ∧ row.state ≠ .RUNNING

/-- The import is running while the rows are processed. -/
theorem leftRunning_of_imports (hnone : importOf db shopId (env.sha256 csv) = none)
    (himports : imports db' = imports (withImport db (newImport env shopId sourceName csv rows))) :
    LeftRunning db' shopId (env.sha256 csv) := by
  simp only [imports, withImport, Prod.mk.injEq] at himports
  refine ⟨db.nextImportId, newImport env shopId sourceName csv rows, ?_, rfl⟩
  apply importOf_withImport (newImport env shopId sourceName csv rows) hnone
  · simp [himports.1]
  · exact ⟨rfl, rfl⟩
  · intro id hid
    simp [himports.1, hid]

/-- Behind the end of the rows the import gets finished. -/
theorem finished_of_imports (hnone : importOf db shopId (env.sha256 csv) = none)
    (himports : imports db' = imports (withImport db (newImport env shopId sourceName csv rows)))
    (counts : Counts) :
    Finished ((Call.finishImport db.nextImportId counts).answer db').2 shopId (env.sha256 csv) := by
  simp only [imports, withImport, Prod.mk.injEq] at himports
  have hget : db'.imports.get db.nextImportId =
      some (newImport env shopId sourceName csv rows) := by
    simp [himports.1]
  have hanswer : (Call.finishImport db.nextImportId counts).answer db' =
      (.ok (db.nextImportId, finished counts (newImport env shopId sourceName csv rows)),
        withFinished db' db.nextImportId counts) := answer_of_ok (run_finishImport hget counts)
  rw [hanswer]
  refine ⟨db.nextImportId, finished counts (newImport env shopId sourceName csv rows), ?_,
    finished_state _ _⟩
  apply importOf_withImport (newImport env shopId sourceName csv rows) hnone
  · simp [withFinished, hget]
  · exact ⟨rfl, rfl⟩
  · intro id hid
    simp [withFinished, himports.1, hid]

/-- No import that is still running is the result. -/
def NotRunning (outcome : Except Failure (Nat × HistoricalContactImport)) : Prop :=
  ∀ id row, outcome = .ok (id, row) → row.state ≠ .RUNNING

theorem notRunning_error (e : Failure) : NotRunning (.error e) := by
  intro id row h
  cases h

/-- A finished import is the result of its last call. -/
theorem notRunning_finishImport {importId : Nat} {counts : Counts}
    (hexec : exec db (.finishImport importId counts) outcome db') : NotRunning outcome := by
  rintro id row rfl
  rcases hexec with heq | ⟨hfailed, _⟩
  · cases hget : db.imports.get importId with
    | none =>
      rw [answer_of_error (c := .finishImport _ _) (run_finishImport_none hget counts)] at heq
      cases heq
    | some stored =>
      rw [answer_of_ok (c := .finishImport _ _) (run_finishImport hget counts)] at heq
      cases heq
      exact finished_state counts stored
  · cases hfailed

theorem importFile_cases (hnone : importOf db shopId (env.sha256 csv) = none)
    (h : Js.Leads exec (importFile env shopId sourceName csv rows) db outcome db') :
    db' = db ∨ LeftRunning db' shopId (env.sha256 csv) ∨
      (db' = (Js.eval Call.answer (importFile env shopId sourceName csv rows) db).2 ∧
        Finished db' shopId (env.sha256 csv)) := by
  have hcreate : (Call.createImport (newImport env shopId sourceName csv rows)).answer db =
      (.ok db.nextImportId, withImport db (newImport env shopId sourceName csv rows)) :=
    answer_of_ok (run_createImport hnone)
  unfold importFile at h
  rcases Js.leads_bind.1 h with ⟨e, hcall, _⟩ | ⟨importId, mid, hcall, hrest⟩
  · rcases of_exec_error (Js.leads_call.1 hcall) with rfl | rfl
    · exact Or.inl rfl
    · rw [hcreate]
      exact Or.inr (Or.inl (leftRunning_of_imports hnone rfl))
  · have hmid := answered_call _ _ _ _ hcall
    rw [Js.eval_call, hcreate, Prod.mk.injEq, Except.ok.injEq] at hmid
    obtain ⟨rfl, rfl⟩ := hmid
    rcases Js.leads_bind.1 hrest with ⟨e, hrows, _⟩ | ⟨counts, mid', hrows, hfinish⟩
    · exact Or.inr (Or.inl (leftRunning_of_imports hnone
        (leaves_processRows env shopId sourceName _ rows {} _ _ _ hrows)))
    · have himports := leaves_processRows env shopId sourceName _ rows {} _ _ _ hrows
      have heval := answered_processRows env shopId sourceName _ rows {} _ _ _ hrows
      have hfinished := finished_of_imports hnone himports counts
      have hwhole : (Js.eval Call.answer (importFile env shopId sourceName csv rows) db).2 =
          ((Call.finishImport db.nextImportId counts).answer mid').2 := by
        unfold importFile
        rw [Js.eval_call_ok hcreate, Js.eval_bind_ok _ _ heval]
        rfl
      rw [hwhole]
      rcases Js.leads_call.1 hfinish with heq | ⟨_, rfl | rfl⟩
      · have hdb : db' = ((Call.finishImport db.nextImportId counts).answer mid').2 :=
          congrArg Prod.snd heq
        exact Or.inr (Or.inr ⟨hdb, hdb ▸ hfinished⟩)
      · exact Or.inr (Or.inl (leftRunning_of_imports hnone himports))
      · exact Or.inr (Or.inr ⟨rfl, hfinished⟩)

/-- An import that is there is the result. -/
theorem eval_importCsv_of_prior {prior : Nat × HistoricalContactImport} (hname : sourceName ≠ "")
    (hcsv : csv ≠ "") (hprior : importOf db shopId (env.sha256 csv) = some prior) :
    Js.eval Call.answer (importCsv env shopId sourceName csv) db = (.ok prior, db) := by
  unfold importCsv
  rw [if_neg (by simp [hname, hcsv])]
  have hfind : (Call.findImport shopId (env.sha256 csv)).answer db = (.ok (some prior), db) := by
    rw [← hprior]
    rfl
  exact Js.eval_call_ok hfind

theorem importCsv_cases (hname : sourceName ≠ "") (hcsv : csv ≠ "")
    (h : Js.Leads exec (importCsv env shopId sourceName csv) db outcome db') :
    db' = db ∨ LeftRunning db' shopId (env.sha256 csv) ∨
      (db' = (Js.eval Call.answer (importCsv env shopId sourceName csv) db).2 ∧
        Finished db' shopId (env.sha256 csv)) := by
  unfold importCsv at h ⊢
  rw [if_neg (by simp [hname, hcsv])] at h ⊢
  have hfind : (Call.findImport shopId (env.sha256 csv)).answer db =
      (.ok (importOf db shopId (env.sha256 csv)), db) := rfl
  rcases Js.leads_bind.1 h with ⟨e, hcall, _⟩ | ⟨prior, mid, hcall, hrest⟩
  · rcases of_exec_error (Js.leads_call.1 hcall) with rfl | rfl
    · exact Or.inl rfl
    · exact Or.inl rfl
  · have hmid := answered_call _ _ _ _ hcall
    rw [Js.eval_call, hfind, Prod.mk.injEq, Except.ok.injEq] at hmid
    obtain ⟨hprior, rfl⟩ := hmid
    rw [Js.eval_call_ok hfind, hprior]
    cases prior with
    | some prior => exact Or.inl (Js.leads_pure.1 hrest).2
    | none =>
      dsimp only at hrest ⊢
      cases hparse : env.parse csv with
      | none =>
        rw [hparse] at hrest
        exact Or.inl (Js.leads_throw.1 hrest).2
      | some rows =>
        rw [hparse] at hrest
        exact importFile_cases hprior hrest

theorem notRunning_importFile
    (h : Js.Leads exec (importFile env shopId sourceName csv rows) db outcome db') :
    NotRunning outcome := by
  unfold importFile at h
  rcases Js.leads_bind.1 h with ⟨e, _, rfl⟩ | ⟨importId, mid, _, hrest⟩
  · exact notRunning_error e
  · rcases Js.leads_bind.1 hrest with ⟨e, _, rfl⟩ | ⟨counts, mid', _, hfinish⟩
    · exact notRunning_error e
    · exact notRunning_finishImport (Js.leads_call.1 hfinish)

/-- The import is the result of an earlier one that is still running, or it is not running. -/
theorem notRunning_importCsv (hname : sourceName ≠ "") (hcsv : csv ≠ "")
    (hidle : ¬ LeftRunning db shopId (env.sha256 csv)) :
    NotRunning (Js.eval Call.answer (importCsv env shopId sourceName csv) db).1 := by
  cases hprior : importOf db shopId (env.sha256 csv) with
  | some prior =>
    rw [eval_importCsv_of_prior hname hcsv hprior]
    intro id row h hrunning
    cases h
    exact hidle ⟨id, row, hprior, hrunning⟩
  | none =>
    unfold importCsv
    rw [if_neg (by simp [hname, hcsv])]
    have hfind : (Call.findImport shopId (env.sha256 csv)).answer db = (.ok none, db) := by
      rw [← hprior]
      rfl
    rw [Js.eval_call_ok hfind]
    dsimp only
    cases env.parse csv with
    | none => exact notRunning_error _
    | some rows =>
      exact notRunning_importFile (Js.leads_eval (fun _ _ => Or.inl rfl) _ db)

end Attempts

/-! ## What a retry does -/

/-- The retry imports what the attempt did not. The facts are those of an import that nothing
interrupted, and no import that is still running is the result. -/
def Recovers (env : Environment) (shopId : Nat) (sourceName csv : String) (db db' : Db) : Prop :=
  (Js.eval Call.answer (importCsv env shopId sourceName csv) db').2.facts =
      (Js.eval Call.answer (importCsv env shopId sourceName csv) db).2.facts ∧
    NotRunning (Js.eval Call.answer (importCsv env shopId sourceName csv) db').1

/-- Wherever an attempt stopped, a retry makes up for it just when the attempt did not leave
an import of the file running, or the arguments are not accepted at all. -/
theorem retry_recovers_iff {env : Environment} {shopId : Nat} {sourceName csv : String}
    {db db' : Db} {outcome : Except Failure (Nat × HistoricalContactImport)}
    (h : Js.Leads exec (importCsv env shopId sourceName csv) db outcome db') :
    Recovers env shopId sourceName csv db db' ↔
      sourceName = "" ∨ csv = "" ∨ ¬ LeftRunning db' shopId (env.sha256 csv) := by
  by_cases hrejected : sourceName = "" ∨ csv = ""
  · have hthrow : importCsv env shopId sourceName csv =
        Js.throw (.badRequest "sourceName and csv are required") := by
      unfold importCsv
      rw [if_pos (by simpa using hrejected)]
    rw [hthrow] at h
    have hdb := (Js.leads_throw.1 h).2
    subst hdb
    constructor
    · intro _
      rcases hrejected with hname | hcsv
      · exact Or.inl hname
      · exact Or.inr (Or.inl hcsv)
    · intro _
      refine ⟨rfl, ?_⟩
      rw [hthrow]
      exact notRunning_error _
  · rw [not_or] at hrejected
    obtain ⟨hname, hcsv⟩ := hrejected
    simp only [hname, hcsv, false_or]
    constructor
    · rintro ⟨_, hresult⟩ ⟨id, row, hprior, hrunning⟩
      rw [eval_importCsv_of_prior hname hcsv hprior] at hresult
      exact hresult id row rfl hrunning
    · intro hidle
      refine ⟨?_, notRunning_importCsv hname hcsv hidle⟩
      rcases importCsv_cases hname hcsv h with rfl | hrunning | ⟨hdb, id, row, hprior, _⟩
      · rfl
      · exact absurd hrunning hidle
      · rw [eval_importCsv_of_prior hname hcsv hprior, hdb]

/-! ## One message -/

/-- The import of a file with one message, of which the `k`th call fails. -/
def interrupted (k : Nat) : Except Failure (Nat × HistoricalContactImport) × Db :=
  Js.evalFailing Call.answer .database (importCsv sampleEnvironment 1 "history.csv" (fileOf first)) k
    Db.initial

theorem leads_interrupted (k : Nat) :
    Js.Leads exec (importCsv sampleEnvironment 1 "history.csv" (fileOf first)) Db.initial
      (interrupted k).1 (interrupted k).2 :=
  Js.leads_evalFailing (fun _ _ => Or.inl rfl) (fun _ _ => Or.inr ⟨rfl, Or.inl rfl⟩) _ k _

/-- The database fails before the import is stored. -/
theorem early_failure_is_made_up_for :
    Recovers sampleEnvironment 1 "history.csv" (fileOf first) Db.initial (interrupted 1).2 := by
  apply (retry_recovers_iff (leads_interrupted 1)).2
  right
  right
  rintro ⟨id, row, hprior, _⟩
  have hnone : importOf (interrupted 1).2 1 (sampleEnvironment.sha256 (fileOf first)) = none := by
    decide
  rw [hnone] at hprior
  cases hprior

/-- The transaction of the row fails. A retry gives the running import back, and the contact of the
row is not stored. -/
theorem failed_row_is_never_imported :
    (∃ outcome db', Js.Leads exec (importCsv sampleEnvironment 1 "history.csv" (fileOf first))
      Db.initial outcome db' ∧ ¬ Recovers sampleEnvironment 1 "history.csv" (fileOf first)
        Db.initial db') ∧
      (Js.eval Call.answer (importCsv sampleEnvironment 1 "history.csv" (fileOf first))
        Db.initial).2.facts.rows.length = 1 ∧
      (Js.eval Call.answer (importCsv sampleEnvironment 1 "history.csv" (fileOf first))
        (interrupted 2).2).2.facts.rows.length = 0 := by
  have hwhole : (Js.eval Call.answer (importCsv sampleEnvironment 1 "history.csv" (fileOf first))
      Db.initial).2.facts.rows.length = 1 := by decide
  have hretry : (Js.eval Call.answer (importCsv sampleEnvironment 1 "history.csv" (fileOf first))
      (interrupted 2).2).2.facts.rows.length = 0 := by decide
  refine ⟨⟨_, _, leads_interrupted 2, ?_⟩, hwhole, hretry⟩
  rintro ⟨hfacts, _⟩
  rw [hfacts, hwhole] at hretry
  cases hretry

end tiktok_outreach.import_retries
