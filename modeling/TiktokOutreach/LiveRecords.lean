-- Every run of imports side by side keeps one live record of each contact. An import crashes at any
-- place, and others write creators and conversations meanwhile.
import TiktokOutreach.ContactFacts
import TiktokOutreach.Lib.Transcripts

open runs executions tables transactions tiktok_outreach.historical_identity
  tiktok_outreach.history_import tiktok_outreach.contact_facts

namespace tiktok_outreach.live_records

/-! ## The calls of an import -/

/-- A record that is created outside of the transaction of a row is a conflict. -/
def Conflicts : Call → Prop
  | .createRecord record => record.resolutionState = .CONFLICT ∧ record.supersededByRecordId = none
  | _ => True

def protocol : Protocol Call Answer Unit where
  ok _ c := Conflicts c
  next _ _ _ := ()

def Anytime (_ : Unit) : Prop := True

section Programs

variable (env : Environment) (shopId : Nat) (sourceName : String)

theorem within_call (c : Call) (hc : Conflicts c) :
    Js.Within protocol Anytime (Js.call c : Program c.Result) :=
  Js.within_call (fun _ _ => hc) (fun _ _ _ => trivial)

theorem within_creatorOf (row : CsvRow) : Js.Within protocol Anytime (creatorOf row) := by
  unfold creatorOf
  split
  · exact Js.within_pure _
  · exact within_call (.findConversation _) trivial
  · exact Js.within_pure _

theorem within_processRow (importId : Nat) (row : CsvRow) (counts : Counts) :
    Js.Within protocol Anytime (processRow env shopId sourceName importId row counts) := by
  unfold processRow
  apply Js.within_bind (within_creatorOf row)
  intro creatorOpenId
  split
  · apply Js.within_bind (within_call (.createRecord _) ⟨rfl, rfl⟩)
    intro _
    exact Js.within_pure _
  · apply Js.within_bind (within_call (.importRow _) trivial)
    intro outcome
    exact Js.within_pure _

theorem within_processRows (importId : Nat) (rows : List CsvRow) (counts : Counts) :
    Js.Within protocol Anytime (processRows env shopId sourceName importId rows counts) := by
  induction rows generalizing counts with
  | nil => exact Js.within_pure _
  | cons row rest ih =>
    apply Js.within_bind (within_processRow env shopId sourceName importId row counts)
    intro counts'
    exact ih counts'

theorem within_importCsv (csv : String) :
    Js.Within protocol Anytime (importCsv env shopId sourceName csv) := by
  unfold importCsv
  apply Js.within_ite (Js.within_throw _)
  apply Js.within_bind (within_call (.findImport _ _) trivial)
  intro prior
  cases prior with
  | some prior => exact Js.within_pure _
  | none =>
    dsimp only
    cases env.parse csv with
    | none => exact Js.within_throw _
    | some rows =>
      apply Js.within_bind (within_call (.createImport _) trivial)
      intro importId
      apply Js.within_bind (within_processRows env shopId sourceName importId rows {})
      intro counts
      exact within_call (.finishImport _ _) trivial

end Programs

/-! ## A call keeps the chains -/

theorem chained_importRow {incoming : Incoming} {db db' : Db} {outcome : RowOutcome}
    (h : Chained db) (hrun : (importRow incoming).run db = .ok (outcome, db')) : Chained db' := by
  obtain ⟨creators, facts, hfacts, heq⟩ := run_importRow incoming h.currentStored
  rw [heq] at hrun
  split at hrun
  · cases hrun
  · split at hrun
    · cases hrun
      have hadded := chained_withRecord (incoming.record .DUPLICATE (some incoming.key)) h
        (Or.inr rfl) rfl
      exact chained_of_same hadded rfl rfl rfl
    · cases hrun
      exact chained_behind h hfacts

/-- The tables of the records and of the facts. -/
def chains (db : Db) : Table Nat HistoricalContactRecord × Nat × Table FactKey HistoricalContactFact :=
  (db.records, db.nextRecordId, db.facts)

theorem chained_of_keeps {α : Type} {x : Transaction α} (hx : x.Keeps chains) {db db' : Db} {a : α}
    (h : Chained db) (hrun : x.run db = .ok (a, db')) : Chained db' := by
  have hsame := Tx.run_of_keeps hx hrun
  simp only [chains, Prod.mk.injEq] at hsame
  exact chained_of_same h hsame.1 hsame.2.1 hsame.2.2

theorem keeps_createImport (row : HistoricalContactImport) : (createImport row).Keeps chains := by
  unfold createImport
  rw [Tx.keeps_stmt]
  constructor
  · intro db
    split
    · rfl
    · rfl
  · intro v
    split
    · trivial
    · trivial

theorem keeps_finishImport (importId : Nat) (counts : Counts) :
    (finishImport importId counts).Keeps chains := by
  apply Tx.keeps_bind
  · simp [chains]
  · intro _
    apply Tx.keeps_bind (Tx.keeps_readOrThrow _ _ _)
    intro row
    exact Tx.keeps_pure _

theorem chained_run {c : Call} {db db' : Db} {r : c.Result} (h : Chained db) (hc : Conflicts c)
    (hrun : c.transaction.run db = .ok (r, db')) : Chained db' := by
  cases c with
  | findImport shopId sourceHash => exact chained_of_keeps (Tx.keeps_read _ _) h hrun
  | createImport row => exact chained_of_keeps (keeps_createImport row) h hrun
  | findConversation conversationId => exact chained_of_keeps (Tx.keeps_read _ _) h hrun
  | createRecord record =>
    change (createRecord record).run db = _ at hrun
    rw [run_createRecord] at hrun
    split at hrun
    · cases hrun
    · cases hrun
      exact chained_withRecord record h (Or.inl hc.1) hc.2
  | importRow incoming => exact chained_importRow h hrun
  | finishImport importId counts => exact chained_of_keeps (keeps_finishImport importId counts) h hrun

theorem chained_answer {c : Call} {db : Db} (h : Chained db) (hc : Conflicts c) :
    Chained (c.answer db).2 := by
  unfold Call.answer
  split
  · rename_i hrun
    exact chained_run h hc hrun
  · exact h

theorem chained_exec {c : Call} {db db' : Db} {outcome : Except Failure c.Result} (h : Chained db)
    (hc : Conflicts c) (hexec : exec db c outcome db') : Chained db' := by
  rcases hexec with heq | ⟨_, rfl | rfl⟩
  · have hdb : db' = (c.answer db).2 := congrArg Prod.snd heq
    exact hdb ▸ chained_answer h hc
  · exact h
  · exact chained_answer h hc

theorem chained_others {db db' : Db} (h : Chained db) (hothers : Others db db') : Chained db' := by
  obtain ⟨creators, conversations, rfl⟩ := hothers
  exact chained_of_same h rfl rfl rfl

theorem chained_pool : PoolInvariant machine protocol () () (fun _ _ => True)
    (fun db _ => Chained db) where
  spawn _ _ _ h := h
  work _ _ _ _ _ h _ hwork _ := chained_others h hwork
  run _ _ _ _ _ _ h hok hexec _ := chained_exec h hok hexec
  ends _ _ _ h := h
  crash _ _ _ _ h _ := h

/-! ## The way to the live record -/

/-- The record was superseded by the next one. -/
def SupersededBy (db : Db) (id next : Nat) : Prop :=
  ∃ record, db.records.get id = some record ∧ record.supersededByRecordId = some next

theorem lt_of_transGen {db : Db} (h : Chained db) {id id' : Nat}
    (hpath : Relation.TransGen (SupersededBy db) id id') : id < id' := by
  induction hpath with
  | single hstep =>
    obtain ⟨record, hrecord, hnext⟩ := hstep
    exact (h.superseded _ record _ hrecord hnext).1
  | tail _ hstep ih =>
    obtain ⟨record, hrecord, hnext⟩ := hstep
    exact ih.trans (h.superseded _ record _ hrecord hnext).1

/-- From a superseded record the way leads to the current one of its contact. -/
theorem leads_to_current {db : Db} (h : Chained db) {id next : Nat}
    {record : HistoricalContactRecord} (hrecord : db.records.get id = some record)
    (hnext : record.supersededByRecordId = some next) :
    ∃ fact current, db.facts.get (contactOf record) = some fact ∧
      fact.currentRecordId = some current ∧ Relation.TransGen (SupersededBy db) id current := by
  have hstep : SupersededBy db id next := ⟨record, hrecord, hnext⟩
  obtain ⟨hlt, record', hrecord', hcontact, hstate⟩ := h.superseded id record next hrecord hnext
  have hbound := h.fresh next record' hrecord'
  cases hnext' : record'.supersededByRecordId with
  | none =>
    have hlive : Live record' := by
      refine ⟨?_, hnext'⟩
      have hnot : record'.resolutionState ≠ .SUPERSEDED := by
        rw [Ne, h.states next record' hrecord', hnext']
        simp
      simpa [hnot] using hstate
    obtain ⟨fact, hfact, hcurrent⟩ := h.live next record' hrecord' hlive
    exact ⟨fact, next, hcontact ▸ hfact, hcurrent, .single hstep⟩
  | some next' =>
    obtain ⟨fact, current, hfact, hcurrent, hpath⟩ := leads_to_current h hrecord' hnext'
    exact ⟨fact, current, hcontact ▸ hfact, hcurrent, .head hstep hpath⟩
termination_by db.nextRecordId - id

/-- Of the records of a contact with a fact one is live. The fact points to it and says what it
says, and from each superseded one the way leads to it. -/
structure OneLiveRecord (db : Db) (key : FactKey) (fact : HistoricalContactFact) (current : Nat)
    (record : HistoricalContactRecord) : Prop where
  pointer : fact.currentRecordId = some current
  stored : db.records.get current = some record
  contact : contactOf record = key
  live : Live record
  agrees : Agrees fact record
  only : ∀ id r, db.records.get id = some r → contactOf r = key → Live r → id = current
  reached : ∀ id r, db.records.get id = some r → contactOf r = key →
    (r.resolutionState = .SUPERSEDED ∨ r.supersededByRecordId.isSome = true) →
    Relation.TransGen (SupersededBy db) id current

theorem oneLiveRecord_of_chained {db : Db} (h : Chained db) {key : FactKey}
    {fact : HistoricalContactFact} (hfact : db.facts.get key = some fact) :
    ∃ current record, OneLiveRecord db key fact current record := by
  obtain ⟨current, record, hcurrent, hrecord, hcontact, hlive, hagrees⟩ := h.current key fact hfact
  refine ⟨current, record, hcurrent, hrecord, hcontact, hlive, hagrees, ?_, ?_⟩
  · intro id r hr hkey hliver
    obtain ⟨fact', hfact', hcurrent'⟩ := h.live id r hr hliver
    rw [hkey, hfact, Option.some.injEq] at hfact'
    subst hfact'
    simpa [hcurrent] using hcurrent'.symm
  · intro id r hr hkey hsuperseded
    rw [h.states id r hr, or_self] at hsuperseded
    obtain ⟨next, hnext⟩ := Option.isSome_iff_exists.1 hsuperseded
    obtain ⟨fact', current', hfact', hcurrent', hpath⟩ := leads_to_current h hr hnext
    rw [hkey, hfact, Option.some.injEq] at hfact'
    subst hfact'
    rw [hcurrent, Option.some.injEq] at hcurrent'
    rwa [hcurrent']

/-- In every run of imports of any files, which may crash, a contact has at most one fact and a
fact one live record, and no way along superseded records comes back. -/
theorem one_live_record {env : Environment} {ls : List (Label Call Answer)} {pool : Imports}
    (hrun : Run (PoolStep machine (IsImport env)) noImports ls pool) :
    (∀ key, (pool.world.facts.findMany (fun k _ => k = key)).length ≤ 1 ∧
      ∀ fact, pool.world.facts.get key = some fact →
        ∃ current record, OneLiveRecord pool.world key fact current record) ∧
    ∀ id, ¬ Relation.TransGen (SupersededBy pool.world) id id := by
  have hstartable : ∀ p, IsImport env p → p.Conforms protocol () (fun _ _ => True) := by
    rintro p ⟨shopId, sourceName, csv, rfl⟩
    apply Prog.conforms_mono (Js.conforms_of_lawful (within_importCsv env shopId sourceName csv () trivial))
    intro _ _ _
    trivial
  have hguarded : Run (Guarded (PoolStep machine (IsImport env)) (fun _ _ => True)) noImports ls pool :=
    hrun.mono (fun _ _ _ hstep => ⟨hstep, trivial⟩)
  have hnone : ∃ roles, Chained noImports.world ∧ Follows protocol noImports roles :=
    ⟨fun _ => (), chained_initial, fun _ _ hthread => nomatch hthread⟩
  obtain ⟨_, h, _⟩ := pool_invariant chained_pool hstartable hguarded hnone
  refine ⟨?_, ?_⟩
  · intro key
    refine ⟨?_, fun fact hfact => oneLiveRecord_of_chained h hfact⟩
    rw [Table.findMany_key]
    cases pool.world.facts.get key with
    | none => simp
    | some fact => simp
  · intro id hcycle
    exact Nat.lt_irrefl id (lt_of_transGen h hcycle)

/-! ## Two files one after the other -/

/-- An import that starts while nothing else runs goes to its end. -/
theorem exists_run_import (env : Environment) (shopId : Nat) (sourceName csv : String) (db : Db)
    (threads : Nat → Option (Prog Call Answer Unit)) {i : Nat} (hfree : threads i = none) :
    ∃ ls, Run (PoolStep machine (IsImport env)) ⟨db, threads⟩ ls
      ⟨(Js.eval Call.answer (importCsv env shopId sourceName csv) db).2,
        Pool.setThread ⟨db, threads⟩ i (some (.ret ()))⟩ := by
  have hanswer : ∀ db c, exec db c (c.answer db).1 (c.answer db).2 := fun _ _ => Or.inl rfl
  have hleads : ((importCsv env shopId sourceName csv).thread ()).Leads (machine.exec i) db ()
      (Js.eval Call.answer (importCsv env shopId sourceName csv) db).2 :=
    Prog.leads_bind.2 ⟨_, _, Prog.leads_eval hanswer _ db, rfl, rfl⟩
  obtain ⟨ls, hrun⟩ := run_of_leads hleads threads
  exact ⟨_, Run.cons (PoolStep.spawn ⟨db, threads⟩ i _ hfree ⟨shopId, sourceName, csv, rfl⟩) hrun⟩

/-- The database behind the import of a file. -/
def imported (db : Db) (messages : List (String × String)) : Db :=
  (Js.eval Call.answer (importCsv sampleEnvironment 1 "history.csv" (fileOf messages)) db).2

/-- The database behind the file and its correction. -/
def correctedDb : Db := imported (imported Db.initial first) corrected

theorem correction_has_one_live_record :
    (correctedDb.facts.get (1, "message:history.csv:m-1")).isSome = true ∧
      (correctedDb.records.get 0).map (·.supersededByRecordId) = some (some 1) ∧
      (∀ key, (correctedDb.facts.findMany (fun k _ => k = key)).length ≤ 1 ∧
        ∀ fact, correctedDb.facts.get key = some fact →
          ∃ current record, OneLiveRecord correctedDb key fact current record) ∧
      ∀ id, ¬ Relation.TransGen (SupersededBy correctedDb) id id := by
  obtain ⟨ls, hfirst⟩ := exists_run_import sampleEnvironment 1 "history.csv" (fileOf first)
    Db.initial (fun _ => none) (i := 0) rfl
  obtain ⟨ls', hsecond⟩ := exists_run_import sampleEnvironment 1 "history.csv" (fileOf corrected)
    (imported Db.initial first) (Pool.setThread ⟨Db.initial, fun _ => none⟩ 0 (some (.ret ())))
    (i := 1) rfl
  have hrun : Run (PoolStep machine (IsImport sampleEnvironment)) noImports (ls ++ ls')
      ⟨correctedDb, _⟩ := hfirst.append hsecond
  exact ⟨by decide, by decide, one_live_record hrun⟩

end tiktok_outreach.live_records
