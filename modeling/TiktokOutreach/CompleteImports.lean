-- When the import of a file comes to its end: the source records of its rows are told apart, or an
-- earlier import of the file is finished.
import TiktokOutreach.ImportAccounts

open runs executions tables transactions tiktok_outreach.historical_identity
  tiktok_outreach.history_import tiktok_outreach.contact_facts tiktok_outreach.live_records
  tiktok_outreach.import_retries tiktok_outreach.import_accounts

namespace tiktok_outreach.complete_imports

/-! ## The rows of a file that nothing disturbs -/

/-- The source records that an import has. -/
def sourceRecordIds (db : Db) (importId : Nat) : List String :=
  (contents db importId).map (·.sourceRecordId)

theorem clashes_iff (db : Db) (importId : Nat) (id : String) :
    clashes db importId id = true ↔ id ∈ sourceRecordIds db importId := by
  unfold clashes sourceRecordIds contents
  rw [Table.any_iff, List.map_map, List.mem_map]
  constructor
  · rintro ⟨k, r, hr, hp⟩
    simp only [Bool.and_eq_true, decide_eq_true_eq] at hp
    refine ⟨(k, r), ?_, hp.2⟩
    rw [Table.mem_findMany, decide_eq_true_eq]
    exact ⟨hr, hp.1⟩
  · rintro ⟨⟨k, r⟩, hmem, hid⟩
    rw [Table.mem_findMany, decide_eq_true_eq] at hmem
    refine ⟨k, r, hmem.1, ?_⟩
    simp only [Bool.and_eq_true, decide_eq_true_eq]
    exact ⟨hmem.2, hid⟩

theorem sourceRecordIds_appends {db db' : Db} {importId : Nat} {content : Content}
    (h : Appends db db' importId content) :
    sourceRecordIds db' importId = sourceRecordIds db importId ++ [content.sourceRecordId] := by
  unfold sourceRecordIds
  rw [h.contents, if_pos rfl]
  simp

section Rows

variable {env : Environment} {shopId : Nat} {sourceName : String} {importId : Nat} {db : Db}

theorem eval_creatorOf (row : CsvRow) (db : Db) :
    ∃ openId, Js.eval Call.answer (creatorOf row) db = (.ok openId, db) := by
  unfold creatorOf
  split
  · exact ⟨_, rfl⟩
  · exact ⟨_, rfl⟩
  · exact ⟨none, rfl⟩

/-- A row fails just when the import has a record for its source record already. -/
theorem eval_processRow (h : Chained db) (row : CsvRow) (counts : Counts) :
    (sourceRecordId env.toLanguage row ∈ sourceRecordIds db importId ∧
      Js.eval Call.answer (processRow env shopId sourceName importId row counts) db =
        (.error .uniqueViolation, db)) ∨
    (sourceRecordId env.toLanguage row ∉ sourceRecordIds db importId ∧ ∃ counts' db',
      Js.eval Call.answer (processRow env shopId sourceName importId row counts) db =
        (.ok counts', db') ∧
      Chained db' ∧ Appends db db' importId (rowContent env.toLanguage row)) := by
  obtain ⟨openId, hcreator⟩ := eval_creatorOf row db
  unfold processRow
  rw [Js.eval_bind_ok _ _ hcreator, ← clashes_iff]
  cases hdate : contactedAt env.toLanguage row with
  | none =>
    dsimp only
    have hrun := run_createRecord (conflictRecord env shopId sourceName importId row openId) db
    rw [show (conflictRecord env shopId sourceName importId row openId).sourceRecordId =
      sourceRecordId env.toLanguage row from historicalIdentity_sourceRecordId _ _ _] at hrun
    by_cases hclash : clashes db importId (sourceRecordId env.toLanguage row) = true
    · have hanswer := answer_of_error (c := .createRecord _) (hrun.trans (if_pos hclash))
      exact Or.inl ⟨hclash, Js.eval_call_error hanswer⟩
    · have hok := hrun.trans (if_neg hclash)
      have happends :=
        appends_withRecord h (conflictRecord env shopId sourceName importId row openId)
      rw [content_conflictRecord openId hdate] at happends
      refine Or.inr ⟨hclash, { counts with conflictCount := counts.conflictCount + 1 }, _, ?_,
        chained_run (c := .createRecord _) h ⟨rfl, rfl⟩ hok, happends⟩
      exact Js.eval_call_ok (answer_of_ok (c := .createRecord _) hok)
  | some date =>
    dsimp only
    obtain ⟨creators, facts, _, hrun⟩ :=
      run_importRow (incomingOf env shopId sourceName importId row date openId) h.currentStored
    rw [show (incomingOf env shopId sourceName importId row date openId).identity.sourceRecordId =
      sourceRecordId env.toLanguage row from historicalIdentity_sourceRecordId _ _ _] at hrun
    by_cases hclash : clashes db importId (sourceRecordId env.toLanguage row) = true
    · have hanswer := answer_of_error (c := .importRow _) (hrun.trans (if_pos hclash))
      exact Or.inl ⟨hclash, Js.eval_call_error hanswer⟩
    · have hok := hrun.trans (if_neg hclash)
      obtain ⟨outcome, db', hok⟩ : ∃ outcome db',
          (importRow (incomingOf env shopId sourceName importId row date openId)).run db =
            .ok (outcome, db') := by
        rw [hok]
        split
        · exact ⟨_, _, rfl⟩
        · exact ⟨_, _, rfl⟩
      have happends := appends_importRow h hok
      rw [content_incomingOf openId hdate] at happends
      refine Or.inr ⟨hclash, counted counts openId outcome, db', ?_, chained_importRow h hok, happends⟩
      exact Js.eval_call_ok (answer_of_ok (c := .importRow _) hok)

/-- The rows come to their end just when their source records, and those that the import has
already, are told apart. -/
theorem eval_processRows (env : Environment) (shopId : Nat) (sourceName : String) (h : Chained db) (rows : List CsvRow) (counts : Counts)
    (hwritten : (sourceRecordIds db importId).Nodup) :
    (∃ counts' db', Js.eval Call.answer (processRows env shopId sourceName importId rows counts) db =
      (.ok counts', db')) ↔
      (sourceRecordIds db importId ++ rows.map (sourceRecordId env.toLanguage)).Nodup := by
  induction rows generalizing counts db with
  | nil =>
    rw [List.map_nil, List.append_nil]
    exact ⟨fun _ => hwritten, fun _ => ⟨counts, db, rfl⟩⟩
  | cons row rest ih =>
    unfold processRows
    rw [List.map_cons]
    rcases eval_processRow h row counts with ⟨hmem, herror⟩ | ⟨hfree, counts', db', hok, h', happends⟩
    · constructor
      · rintro ⟨counts', db', hwhole⟩
        rw [Js.eval_bind_error _ _ herror] at hwhole
        cases hwhole
      · intro hnodup
        exact absurd hmem fun hmem =>
          List.disjoint_of_nodup_append hnodup hmem List.mem_cons_self
    · have hids : sourceRecordIds db' importId =
          sourceRecordIds db importId ++ [sourceRecordId env.toLanguage row] :=
        sourceRecordIds_appends happends
      rw [Js.eval_bind_ok _ _ hok, List.append_cons, ← hids]
      apply ih h'
      rw [hids]
      exact hwritten.append (List.nodup_singleton _) (by simpa using hfree)

end Rows

/-! ## The whole file -/

section Files

variable {env : Environment} {shopId : Nat} {sourceName csv : String} {rows : List CsvRow} {db : Db}

/-- The import of a file without an import comes to its end just when the source records of its rows
are told apart, and then it is stored as it is given back. -/
theorem eval_importFile {roles : Nat → Role} (h : Books env db roles)
    (hnone : importOf db shopId (env.sha256 csv) = none) :
    ((rows.map (sourceRecordId env.toLanguage)).Nodup ∧ ∃ row db',
      Js.eval Call.answer (importFile env shopId sourceName csv rows) db =
        (.ok (db.nextImportId, row), db') ∧
      db'.imports.get db.nextImportId = some row ∧ row.sourceHash = env.sha256 csv ∧
        row.state ≠ .RUNNING) ∨
    (¬ (rows.map (sourceRecordId env.toLanguage)).Nodup ∧ ∃ e db',
      Js.eval Call.answer (importFile env shopId sourceName csv rows) db = (.error e, db')) := by
  have hcreate : (Call.createImport (newImport env shopId sourceName csv rows)).answer db =
      (.ok db.nextImportId, withImport db (newImport env shopId sourceName csv rows)) :=
    answer_of_ok (run_createImport hnone)
  have hbooks := books_createImport (i := 0) (newImport env shopId sourceName csv rows) h rfl
  have hempty : sourceRecordIds (withImport db (newImport env shopId sourceName csv rows))
      db.nextImportId = [] := by
    unfold sourceRecordIds
    rw [(hbooks.running 0 _ _ _ (setRole_self _ _ _)).2.2]
    rfl
  have hrows := eval_processRows env shopId sourceName hbooks.chained rows {}
    (hempty ▸ List.nodup_nil)
  rw [hempty, List.nil_append] at hrows
  unfold importFile
  rw [Js.eval_call_ok hcreate, ← hrows]
  by_cases hend : ∃ counts' db', Js.eval Call.answer
      (processRows env shopId sourceName db.nextImportId rows {})
      (withImport db (newImport env shopId sourceName csv rows)) = (.ok counts', db')
  · left
    obtain ⟨counts', db', hend'⟩ := hend
    refine ⟨⟨counts', db', hend'⟩, ?_⟩
    have hanswer : ∀ db c, exec db c (c.answer db).1 (c.answer db).2 := fun _ _ => Or.inl rfl
    have hleads := Js.leads_eval hanswer
      (processRows env shopId sourceName db.nextImportId rows {})
      (withImport db (newImport env shopId sourceName csv rows))
    have himports := leaves_processRows env shopId sourceName db.nextImportId rows {} _ _ _ hleads
    rw [hend'] at himports
    simp only [imports, Prod.mk.injEq] at himports
    have hget : db'.imports.get db.nextImportId =
        some (newImport env shopId sourceName csv rows) := by
      simp [himports.1, withImport]
    refine ⟨finished counts' (newImport env shopId sourceName csv rows),
      withFinished db' db.nextImportId counts', ?_, ?_, rfl, finished_state _ _⟩
    · rw [Js.eval_bind_ok _ _ hend']
      exact answer_of_ok (c := .finishImport _ _) (run_finishImport hget counts')
    · simp [withFinished, hget]
  · right
    refine ⟨hend, ?_⟩
    obtain ⟨outcome, db', hrun⟩ : ∃ outcome db', Js.eval Call.answer
        (processRows env shopId sourceName db.nextImportId rows {})
        (withImport db (newImport env shopId sourceName csv rows)) = (outcome, db') := ⟨_, _, rfl⟩
    cases outcome with
    | ok counts' => exact absurd ⟨counts', db', hrun⟩ hend
    | error e => exact ⟨e, db', Js.eval_bind_error _ _ hrun⟩

/-- The import of a file for which there is none. -/
theorem eval_importCsv_of_none (hname : sourceName ≠ "") (hcsv : csv ≠ "")
    (hparse : env.parse csv = some rows) (hnone : importOf db shopId (env.sha256 csv) = none) :
    Js.eval Call.answer (importCsv env shopId sourceName csv) db =
      Js.eval Call.answer (importFile env shopId sourceName csv rows) db := by
  have hfind : (Call.findImport shopId (env.sha256 csv)).answer db = (.ok none, db) := by
    rw [← hnone]
    rfl
  unfold importCsv
  rw [if_neg (by simp [hname, hcsv]), Js.eval_call_ok hfind]
  dsimp only
  rw [hparse]

end Files

/-! ## After every history of imports -/

/-- The hash of the file is that of no file with other rows. -/
def OneFile (env : Environment) (csv : String) : Prop :=
  ∀ other, env.sha256 other = env.sha256 csv → env.parse other = env.parse csv

/-- The import is finished, its counts add up to the rows, and each row is one record of it. -/
def AccountsForEveryRow (env : Environment) (shopId : Nat) (sourceName csv : String)
    (rows : List CsvRow) (db : Db) : Prop :=
  ∃ id row db', Js.eval Call.answer (importCsv env shopId sourceName csv) db = (.ok (id, row), db') ∧
    db'.imports.get id = some row ∧ row.state ≠ .RUNNING ∧ Accounts env rows db' id row

/-- There is no import of the file, and its rows have source records of their own. Or there is one,
and it is finished. -/
def Importable (env : Environment) (shopId : Nat) (csv : String) (rows : List CsvRow) (db : Db) :
    Prop :=
  (importOf db shopId (env.sha256 csv) = none ∧ (rows.map (sourceRecordId env.toLanguage)).Nodup) ∨
    Finished db shopId (env.sha256 csv)

/-- A finished import of a file accounts for the rows of that file. -/
theorem accounts_of_books {env : Environment} {csv : String} {rows : List CsvRow} {db : Db}
    {roles : Nat → Role} {id : Nat} {row : HistoricalContactImport} (h : Books env db roles)
    (hfile : OneFile env csv) (hparse : env.parse csv = some rows)
    (hget : db.imports.get id = some row) (hhash : row.sourceHash = env.sha256 csv)
    (hstate : row.state ≠ .RUNNING) : Accounts env rows db id row := by
  obtain ⟨rows', ⟨other, hother, hsame, _⟩, haccounts⟩ := h.finished id row hget hstate
  rw [hfile other (hsame.symm.trans hhash), hparse, Option.some.injEq] at hother
  exact hother ▸ haccounts

/-- The books behind a file that is imported in the end. -/
theorem books_of_import {env : Environment} {ls : List (Label Call Answer)} {pool : Imports}
    (hrun : Run (PoolStep machine (IsImport env)) noImports ls pool) (shopId : Nat)
    (sourceName csv : String) : ∃ roles,
      Books env (Js.eval Call.answer (importCsv env shopId sourceName csv) pool.world).2 roles := by
  obtain ⟨db, threads⟩ := pool
  cases hthread : threads 0 with
  | none =>
    obtain ⟨ls', hnext⟩ := exists_run_import env shopId sourceName csv db threads hthread
    exact books_of_run (hrun.append hnext)
  | some p =>
    -- the thread in the way can crash first
    have hcrash : PoolStep machine (IsImport env) ⟨db, threads⟩ (.crash 0)
        ⟨machine.crashed 0 p db, Pool.setThread ⟨db, threads⟩ 0 none⟩ :=
      PoolStep.crash ⟨db, threads⟩ 0 p hthread
    have hworld : machine.crashed 0 p db = db := by
      cases p with
      | ret u => rfl
      | call c next => rfl
    rw [hworld] at hcrash
    obtain ⟨ls', hnext⟩ := exists_run_import env shopId sourceName csv db
      (Pool.setThread ⟨db, threads⟩ 0 none) (i := 0) (by simp [Pool.setThread])
    exact books_of_run ((hrun.snoc hcrash).append hnext)

/-- After every history of imports side by side, a file is accounted for just when it is importable.
-/
theorem import_accounts_for_every_row_iff {env : Environment} {shopId : Nat}
    {sourceName csv : String} {rows : List CsvRow} {ls : List (Label Call Answer)} {pool : Imports}
    (hname : sourceName ≠ "") (hcsv : csv ≠ "") (hparse : env.parse csv = some rows)
    (hfile : OneFile env csv) (hrun : Run (PoolStep machine (IsImport env)) noImports ls pool) :
    AccountsForEveryRow env shopId sourceName csv rows pool.world ↔
      Importable env shopId csv rows pool.world := by
  obtain ⟨roles, hbooks⟩ := books_of_run hrun
  cases hprior : importOf pool.world shopId (env.sha256 csv) with
  | some prior =>
    obtain ⟨id, row⟩ := prior
    obtain ⟨hget, _, hhash⟩ := of_importOf hprior
    unfold AccountsForEveryRow
    rw [eval_importCsv_of_prior hname hcsv hprior]
    constructor
    · rintro ⟨id', row', db', heq, _, hstate, _⟩
      cases heq
      exact Or.inr ⟨id, row, hprior, hstate⟩
    · rintro (⟨hnone, _⟩ | ⟨id', row', hprior', hstate⟩)
      · rw [hprior] at hnone
        cases hnone
      · rw [hprior, Option.some.injEq, Prod.mk.injEq] at hprior'
        obtain ⟨rfl, rfl⟩ := hprior'
        exact ⟨id, row, pool.world, rfl, hget, hstate,
          accounts_of_books hbooks hfile hparse hget hhash hstate⟩
  | none =>
    have heval := eval_importCsv_of_none hname hcsv hparse hprior
    rcases eval_importFile hbooks hprior with
      ⟨hnodup, row, db', hok, hget, hhash, hstate⟩ | ⟨hrepeated, e, db', herror⟩
    · rw [← heval] at hok
      constructor
      · intro _
        exact Or.inl ⟨hprior, hnodup⟩
      · intro _
        obtain ⟨roles', hbooks'⟩ := books_of_import hrun shopId sourceName csv
        rw [hok] at hbooks'
        exact ⟨_, row, db', hok, hget, hstate,
          accounts_of_books hbooks' hfile hparse hget hhash hstate⟩
    · rw [← heval] at herror
      constructor
      · rintro ⟨id, row, db'', hok, _⟩
        rw [herror] at hok
        cases hok
      · rintro (⟨_, hnodup⟩ | ⟨id, row, hfound, _⟩)
        · exact absurd hnodup hrepeated
        · rw [hprior] at hfound
          cases hfound

/-- No other text has the hash of the file. -/
theorem oneFile_first : OneFile sampleEnvironment (fileOf first) := by
  intro other h
  have hhash : sampleEnvironment.sha256 (fileOf first) =
      "05e47fc7853d67e51cbba4e8f37906a75f57ab843d2e018a6cb3fdfe08f8890d" := by
    simp [sampleEnvironment]
  rw [hhash] at h
  by_cases hother : other = fileOf first
  · rw [hother]
  · exfalso
    simp only [sampleEnvironment, if_neg hother] at h
    split at h
    · revert h
      decide
    · split at h
      · revert h
        decide
      · revert h
        decide

/-- A file with one message is accounted for in a fresh shop. -/
theorem one_message_is_accounted_for :
    AccountsForEveryRow sampleEnvironment 1 "history.csv" (fileOf first)
      [{ contactedAt := some "2024-01-01", externalMessageId := some "m-1" }] Db.initial := by
  have himportable : Importable sampleEnvironment 1 (fileOf first)
      [{ contactedAt := some "2024-01-01", externalMessageId := some "m-1" }] Db.initial :=
    Or.inl ⟨by decide, by decide⟩
  exact (import_accounts_for_every_row_iff (by decide) (by decide) (by decide) oneFile_first
    (Run.nil noImports)).2 himportable

/-- A file that has a message twice stops at the second row. Its import is left running. -/
theorem repeated_message_stops_the_import :
    ¬ AccountsForEveryRow sampleEnvironment 1 "history.csv" (fileOf both)
        [{ contactedAt := some "2024-01-01", externalMessageId := some "m-1" },
          { contactedAt := some "2024-01-02", externalMessageId := some "m-1" }] Db.initial ∧
      (Js.eval Call.answer (importCsv sampleEnvironment 1 "history.csv" (fileOf both))
        Db.initial).1 = .error .uniqueViolation := by
  have herror : (Js.eval Call.answer (importCsv sampleEnvironment 1 "history.csv" (fileOf both))
      Db.initial).1 = .error .uniqueViolation := by decide
  refine ⟨?_, herror⟩
  rintro ⟨id, row, db', hok, _⟩
  rw [hok] at herror
  cases herror

end tiktok_outreach.complete_imports
