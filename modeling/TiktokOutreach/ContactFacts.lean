-- The records and the facts of imported histories: of the records of a contact one is live, which
-- its fact points to, and from every superseded one the way leads to it.
import TiktokOutreach.HistoryImport
import TiktokOutreach.Lib.Runs

open runs tables transactions tiktok_outreach.historical_identity tiktok_outreach.history_import

namespace tiktok_outreach.contact_facts

/-! ## What the transactions do -/

/-- The import has a record for the source record. -/
def clashes (db : Db) (importId : Nat) (sourceRecordId : String) : Bool :=
  db.records.any (fun _ r => r.importId = importId && r.sourceRecordId = sourceRecordId)

def withRecord (db : Db) (record : HistoricalContactRecord) : Db :=
  { db with
    records := db.records.set db.nextRecordId record
    nextRecordId := db.nextRecordId + 1 }

@[simp] theorem run_createRecord (record : HistoricalContactRecord) (db : Db) :
    (createRecord record).run db = if clashes db record.importId record.sourceRecordId then .error .uniqueViolation
      else .ok (db.nextRecordId, withRecord db record) := by
  unfold createRecord clashes
  rw [Tx.run_stmt]
  split
  · rfl
  · rfl

theorem run_createIncoming (incoming : Incoming) (state : ResolutionState) (key : Option FactKey)
    (db : Db) : (createRecord (incoming.record state key)).run db =
      if clashes db incoming.importId incoming.identity.sourceRecordId then .error .uniqueViolation
      else .ok (db.nextRecordId, withRecord db (incoming.record state key)) :=
  run_createRecord _ db

/-- The creators of a row are written, and nothing else. -/
theorem run_upsertCreators (incoming : Incoming) (openIds : List String) (db : Db) :
    ∃ us creators, (Tx.traverse (upsertCreator incoming) openIds).run db =
      .ok (us, { db with creators }) := by
  induction openIds generalizing db with
  | nil => exact ⟨[], db.creators, rfl⟩
  | cons openId rest ih =>
    have hfirst : ∃ creators, (upsertCreator incoming openId).run db =
        .ok ((), { db with creators }) := ⟨_, rfl⟩
    obtain ⟨creators, hfirst⟩ := hfirst
    obtain ⟨us, creators', hrest⟩ := ih { db with creators }
    refine ⟨() :: us, creators', ?_⟩
    simp only [Tx.traverse, Tx.run_bind, hfirst, hrest, Except.bind, Tx.run_ret]

theorem run_locks (shopId : Nat) (openIds : List String) (db : Db) :
    ∃ us, (Tx.traverse (fun openId => (Tx.lock (.creatorEligibility shopId openId)
      (Tx.ret ()) : Transaction Unit)) openIds).run db = .ok (us, db) := by
  induction openIds with
  | nil => exact ⟨[], rfl⟩
  | cons openId rest ih =>
    obtain ⟨us, hrest⟩ := ih
    refine ⟨() :: us, ?_⟩
    simp only [Tx.traverse, Tx.run_bind, Tx.run_lock, Tx.run_ret, hrest, Except.bind]

/-- The record of the fact that is there, and the rows that are swept, are superseded. -/
def replaced (incoming : Incoming) (db : Db) : Table Nat HistoricalContactRecord :=
  (((db.records.set db.nextRecordId
      (incoming.record incoming.resolutionState (some incoming.key))).updateMany
    (fun id _ => (db.facts.get incoming.key).bind (·.currentRecordId) = some id)
    (superseded db.nextRecordId)).updateMany
    (swept incoming db.nextRecordId) (superseded db.nextRecordId))

/-- The current record of a fact is stored. -/
def CurrentStored (db : Db) : Prop := ∀ key fact current, db.facts.get key = some fact →
  fact.currentRecordId = some current → (db.records.get current).isSome

theorem run_duplicate (incoming : Incoming) (db : Db) :
    (do
      let _ ← createRecord (incoming.record .DUPLICATE (some incoming.key))
      return RowOutcome.DUPLICATE : Transaction RowOutcome).run db =
      if clashes db incoming.importId incoming.identity.sourceRecordId then .error .uniqueViolation
      else .ok (.DUPLICATE, withRecord db (incoming.record .DUPLICATE (some incoming.key))) := by
  rw [Tx.run_bind, run_createIncoming]
  by_cases hclash : clashes db incoming.importId incoming.identity.sourceRecordId = true
  · rw [if_pos hclash, if_pos hclash]
    rfl
  · rw [if_neg hclash, if_neg hclash]
    rfl

theorem run_writeFact (incoming : Incoming) (db : Db) : ∃ facts,
    (∀ key, facts.get key = if key = incoming.key then
      some (incoming.fact ((db.facts.get incoming.key).bind (·.currentRecordId)))
      else db.facts.get key) ∧
    (writeFact incoming (db.facts.get incoming.key)).run db = .ok ((), { db with facts }) := by
  unfold writeFact
  cases hfact : db.facts.get incoming.key with
  | none =>
    refine ⟨db.facts.set incoming.key (incoming.fact none), ?_, ?_⟩
    · intro key
      rw [Table.get_set]
      rfl
    · simp [hfact]
  | some fact =>
    refine ⟨db.facts.updateMany (fun k _ => k = incoming.key)
      (fun fact => incoming.fact fact.currentRecordId), ?_, ?_⟩
    · intro key
      by_cases hkey : key = incoming.key
      · subst hkey
        simp [hfact]
      · simp [hkey]
    · simp [hfact]

/-- The record of a fact that is there is superseded, when there is one. -/
theorem run_supersedeCurrent {existing : Option HistoricalContactFact} {created : Nat} {db : Db}
    (hstored : ∀ current, existing.bind (·.currentRecordId) = some current →
      (db.records.get current).isSome) :
    (supersedeCurrent existing created).run db = .ok ((), { db with
      records := db.records.updateMany
        (fun id _ => existing.bind (·.currentRecordId) = some id) (superseded created) }) := by
  unfold supersedeCurrent
  cases hcurrent : existing.bind (·.currentRecordId) with
  | none =>
    have hsame : db.records.updateMany (fun _ _ => false) (superseded created) = db.records := by
      unfold Table.updateMany
      simp
    simp [hsame]
  | some current =>
    have heq : (fun (id : Nat) (_ : HistoricalContactRecord) => decide (some current = some id)) =
        fun id _ => decide (id = current) := by
      funext id _
      simp [eq_comm]
    rw [heq, Tx.run_update]
    exact if_pos (hstored current hcurrent)

theorem run_importRow (incoming : Incoming) {db : Db} (hcurrent : CurrentStored db) :
    ∃ creators facts, (∀ key, facts.get key = if key = incoming.key then
        some (incoming.fact (some db.nextRecordId)) else db.facts.get key) ∧
      (importRow incoming).run db =
        if clashes db incoming.importId incoming.identity.sourceRecordId then
          .error .uniqueViolation
        else if (db.facts.get incoming.key).any incoming.same then
          .ok (.DUPLICATE,
            { withRecord db (incoming.record .DUPLICATE (some incoming.key)) with creators })
        else .ok (.IMPORTED, { db with
          records := replaced incoming db
          nextRecordId := db.nextRecordId + 1
          facts
          creators }) := by
  obtain ⟨us, creators, hcreators⟩ := run_upsertCreators incoming
    (incoming.openIds (db.facts.get incoming.key)) db
  obtain ⟨vs, hlocks⟩ := run_locks incoming.shopId
    (incoming.openIds (db.facts.get incoming.key)) { db with creators }
  have hrun : (importRow incoming).run db =
      (if (db.facts.get incoming.key).any incoming.same then (do
          let _ ← createRecord (incoming.record .DUPLICATE (some incoming.key))
          return .DUPLICATE)
        else (do
          writeFact incoming (db.facts.get incoming.key)
          let created ← createRecord
            (incoming.record incoming.resolutionState (some incoming.key))
          supersedeCurrent (db.facts.get incoming.key) created
          let _ ← Tx.updateMany table.records (fun _ => swept incoming created)
            (superseded created)
          Tx.update table.facts .notFound incoming.key
            (fun fact => { fact with currentRecordId := some created })
          return RowOutcome.IMPORTED) : Transaction RowOutcome).run { db with creators } := by
    unfold importRow
    simp only [Tx.run_bind, Tx.run_lock, Tx.run_ret, Tx.run_read, Except.bind, hcreators, hlocks]
  rw [hrun]
  by_cases hsame : (db.facts.get incoming.key).any incoming.same = true
  · refine ⟨creators, db.facts.set incoming.key (incoming.fact (some db.nextRecordId)),
      fun key => Table.get_set _ _ _ _, ?_⟩
    rw [if_pos hsame, if_pos hsame]
    exact run_duplicate incoming { db with creators }
  · obtain ⟨facts, hfacts, hwrite⟩ := run_writeFact incoming { db with creators }
    refine ⟨creators, facts.updateMany (fun key _ => key = incoming.key)
      (fun fact => { fact with currentRecordId := some db.nextRecordId }), ?_, ?_⟩
    · intro key
      rw [Table.get_updateMany, hfacts]
      by_cases hkey : key = incoming.key
      · simp [hkey, Incoming.fact]
      · simp [hkey]
    · rw [if_neg hsame, if_neg hsame, Tx.run_bind, hwrite]
      simp only [Except.bind]
      rw [Tx.run_bind, run_createIncoming]
      by_cases hclash : clashes db incoming.importId incoming.identity.sourceRecordId = true
      · have hclash' : clashes { db with creators, facts } incoming.importId
            incoming.identity.sourceRecordId = true := hclash
        rw [if_pos hclash, if_pos hclash']
        rfl
      · have hclash' : ¬ clashes { db with creators, facts } incoming.importId
            incoming.identity.sourceRecordId = true := hclash
        rw [if_neg hclash, if_neg hclash']
        simp only [Except.bind]
        rw [Tx.run_bind, run_supersedeCurrent]
        · simp only [Except.bind, Tx.run_bind, Tx.run_updateMany, Tx.run_update]
          rw [if_pos]
          · rfl
          · simp [withRecord, hfacts]
        · intro current hbind
          obtain ⟨fact, hfact, hcur⟩ := Option.bind_eq_some_iff.1 hbind
          have hold := hcurrent incoming.key fact current hfact hcur
          simp only [withRecord, Table.get_set]
          split
          · rfl
          · exact hold

/-! ## The invariant -/

/-- The contact of a record. -/
def contactOf (record : HistoricalContactRecord) : FactKey := (record.shopId, record.identityKey)

/-- The record of a contact, matched or not, that nothing supersedes. -/
def Live (record : HistoricalContactRecord) : Prop :=
  (record.resolutionState = .MATCHED ∨ record.resolutionState = .UNMATCHED) ∧
    record.supersededByRecordId = none

/-- The fact says what the record says. -/
structure Agrees (fact : HistoricalContactFact) (record : HistoricalContactRecord) : Prop where
  creatorOpenId : fact.creatorOpenId = record.creatorOpenId
  conversationId : fact.conversationId = record.conversationId
  contactedAt : fact.contactedAt = record.contactedAt
  sendStatus : fact.sendStatus = record.sendStatus
  resolutionState : fact.resolutionState = record.resolutionState

/-- The record was superseded by one of the same contact, which is behind it and of a row with a
valid date. -/
def Superseded (db : Db) (id : Nat) (record : HistoricalContactRecord) (next : Nat) : Prop :=
  id < next ∧ ∃ record', db.records.get next = some record' ∧ contactOf record' = contactOf record ∧
    record'.resolutionState ∈ [.MATCHED, .UNMATCHED, .SUPERSEDED]

structure Chained (db : Db) : Prop where
  fresh : ∀ id record, db.records.get id = some record → id < db.nextRecordId
  current : ∀ key fact, db.facts.get key = some fact → ∃ current record,
    fact.currentRecordId = some current ∧ db.records.get current = some record ∧
      contactOf record = key ∧ Live record ∧ Agrees fact record
  live : ∀ id record, db.records.get id = some record → Live record →
    ∃ fact, db.facts.get (contactOf record) = some fact ∧ fact.currentRecordId = some id
  superseded : ∀ id record next, db.records.get id = some record →
    record.supersededByRecordId = some next → Superseded db id record next
  states : ∀ id record, db.records.get id = some record →
    (record.resolutionState = .SUPERSEDED ↔ record.supersededByRecordId.isSome = true)

theorem Chained.currentStored {db : Db} (h : Chained db) : CurrentStored db := by
  intro key fact current hfact hcurrent
  obtain ⟨current', record, hcurrent', hrecord, _⟩ := h.current key fact hfact
  rw [hcurrent', Option.some.injEq] at hcurrent
  subst hcurrent
  simp [hrecord]

theorem chained_initial : Chained Db.initial where
  fresh := by simp [Db.initial]
  current := by simp [Db.initial]
  live := by simp [Db.initial]
  superseded := by simp [Db.initial]
  states := by simp [Db.initial]

/-- The other tables are free. -/
theorem chained_of_same {db db' : Db} (h : Chained db) (hrecords : db'.records = db.records)
    (hnext : db'.nextRecordId = db.nextRecordId) (hfacts : db'.facts = db.facts) : Chained db' := by
  obtain ⟨h1, h2, h3, h4, h5⟩ := h
  constructor
  · rwa [hrecords, hnext]
  · rwa [hrecords, hfacts]
  · rwa [hrecords, hfacts]
  · unfold Superseded
    rwa [hrecords]
  · rwa [hrecords]

/-- A record behind the others that is neither live nor superseded. -/
theorem chained_withRecord {db : Db} (record : HistoricalContactRecord) (h : Chained db)
    (hstate : record.resolutionState = .CONFLICT ∨ record.resolutionState = .DUPLICATE)
    (hsuperseded : record.supersededByRecordId = none) : Chained (withRecord db record) := by
  have hold : ∀ id r, db.records.get id = some r → (withRecord db record).records.get id = some r := by
    intro id r hr
    have hne : id ≠ db.nextRecordId := Nat.ne_of_lt (h.fresh id r hr)
    simp [withRecord, hne, hr]
  have hcases : ∀ id r, (withRecord db record).records.get id = some r →
      (id = db.nextRecordId ∧ r = record) ∨ db.records.get id = some r := by
    intro id r hr
    simp only [withRecord, Table.get_set] at hr
    split at hr
    · left
      exact ⟨‹_›, by simpa using hr.symm⟩
    · exact Or.inr hr
  constructor
  · intro id r hr
    rcases hcases id r hr with ⟨rfl, rfl⟩ | hr
    · exact Nat.lt_succ_self _
    · exact Nat.lt_succ_of_lt (h.fresh id r hr)
  · intro key fact hfact
    obtain ⟨current, r, hcurrent, hr, hrest⟩ := h.current key fact hfact
    exact ⟨current, r, hcurrent, hold current r hr, hrest⟩
  · intro id r hr hlive
    rcases hcases id r hr with ⟨rfl, rfl⟩ | hr
    · rcases hstate with hstate | hstate <;> simp [Live, hstate] at hlive
    · exact h.live id r hr hlive
  · intro id r next hr hnext
    rcases hcases id r hr with ⟨rfl, rfl⟩ | hr
    · rw [hsuperseded] at hnext
      cases hnext
    · obtain ⟨hlt, r', hr', hrest⟩ := h.superseded id r next hr hnext
      exact ⟨hlt, r', hold next r' hr', hrest⟩
  · intro id r hr
    rcases hcases id r hr with ⟨rfl, rfl⟩ | hr
    · rcases hstate with hstate | hstate <;> simp [hstate, hsuperseded]
    · exact h.states id r hr

/-! ## A row that replaces the record of its contact -/

/-- The record is the current one of the contact of the row, or is swept with it. -/
def replaces (incoming : Incoming) (db : Db) (id : Nat) (record : HistoricalContactRecord) : Bool :=
  (db.facts.get incoming.key).bind (·.currentRecordId) = some id ||
    swept incoming db.nextRecordId id record

theorem get_replaced {incoming : Incoming} {db : Db} (h : Chained db) (id : Nat) :
    (replaced incoming db).get id = if id = db.nextRecordId then
      some (incoming.record incoming.resolutionState (some incoming.key))
    else (db.records.get id).map
      (fun r => if replaces incoming db id r then superseded db.nextRecordId r else r) := by
  unfold replaced
  rw [Table.get_updateMany, Table.get_updateMany, Table.get_set]
  by_cases hid : id = db.nextRecordId
  · subst hid
    have hnew : (db.facts.get incoming.key).bind (·.currentRecordId) ≠ some db.nextRecordId := by
      intro hbind
      obtain ⟨fact, hfact, hcurrent⟩ := Option.bind_eq_some_iff.1 hbind
      have hstored := h.currentStored incoming.key fact _ hfact hcurrent
      obtain ⟨r, hr⟩ := Option.isSome_iff_exists.1 hstored
      exact Nat.lt_irrefl _ (h.fresh _ r hr)
    simp [hnew, swept]
  · rw [if_neg hid, if_neg hid, Option.map_map]
    congr 1
    funext r
    unfold replaces
    by_cases hcurrent : (db.facts.get incoming.key).bind (·.currentRecordId) = some id
    · simp [hcurrent, swept, superseded]
    · simp [hcurrent]

section Replaced

variable {incoming : Incoming} {db : Db} {facts : Table FactKey HistoricalContactFact}
  {creators : Table String (Option String)}

/-- What the database holds behind a row that replaces the record of its contact. -/
def behind (incoming : Incoming) (db : Db) (facts : Table FactKey HistoricalContactFact)
    (creators : Table String (Option String)) : Db :=
  { db with
    records := replaced incoming db
    nextRecordId := db.nextRecordId + 1
    facts
    creators }

/-- A record behind the row is its own, one that it superseded, or one that it left alone. -/
theorem record_cases (h : Chained db) {id : Nat} {r : HistoricalContactRecord}
    (hr : (replaced incoming db).get id = some r) :
    (id = db.nextRecordId ∧ r = incoming.record incoming.resolutionState (some incoming.key)) ∨
      (∃ old, db.records.get id = some old ∧ replaces incoming db id old = true ∧
        r = superseded db.nextRecordId old) ∨
      (db.records.get id = some r ∧ replaces incoming db id r = false) := by
  rw [get_replaced h] at hr
  split at hr
  · left
    exact ⟨‹_›, by simpa using hr.symm⟩
  · obtain ⟨old, hold, hr⟩ := Option.map_eq_some_iff.1 hr
    split at hr
    · exact Or.inr (Or.inl ⟨old, hold, ‹_›, hr.symm⟩)
    · rename_i hfree
      subst hr
      exact Or.inr (Or.inr ⟨hold, by simpa using hfree⟩)

/-- What the row supersedes is of its contact. -/
theorem contactOf_of_replaces (h : Chained db) {id : Nat} {r : HistoricalContactRecord}
    (hr : db.records.get id = some r) (hreplaces : replaces incoming db id r = true) :
    contactOf r = incoming.key := by
  unfold replaces at hreplaces
  rw [Bool.or_eq_true, decide_eq_true_eq] at hreplaces
  rcases hreplaces with hcurrent | hswept
  · obtain ⟨fact, hfact, hcurrent⟩ := Option.bind_eq_some_iff.1 hcurrent
    obtain ⟨current, record, hcurrent', hrecord, hkey, _⟩ := h.current _ fact hfact
    rw [hcurrent, Option.some.injEq] at hcurrent'
    subst hcurrent'
    rw [hr, Option.some.injEq] at hrecord
    exact hrecord ▸ hkey
  · simp only [swept, Bool.and_eq_true, decide_eq_true_eq] at hswept
    exact Prod.ext hswept.1.1.1.1 hswept.1.1.1.2

/-- The row supersedes every live record of its contact. -/
theorem replaces_of_live (h : Chained db) {id : Nat} {r : HistoricalContactRecord}
    (hr : db.records.get id = some r) (hlive : Live r) (hkey : contactOf r = incoming.key) :
    replaces incoming db id r = true := by
  obtain ⟨fact, hfact, hcurrent⟩ := h.live id r hr hlive
  rw [hkey] at hfact
  simp [replaces, hfact, hcurrent]

theorem live_incoming (incoming : Incoming) :
    Live (incoming.record incoming.resolutionState (some incoming.key)) := by
  refine ⟨?_, rfl⟩
  unfold Incoming.record Incoming.resolutionState
  dsimp only
  split
  · exact Or.inl rfl
  · exact Or.inr rfl

/-- A record of another contact is left alone. -/
theorem get_replaced_of_ne (incoming : Incoming) (h : Chained db) {id : Nat} {r : HistoricalContactRecord}
    (hr : db.records.get id = some r) (hkey : contactOf r ≠ incoming.key) :
    (replaced incoming db).get id = some r := by
  have hne : id ≠ db.nextRecordId := Nat.ne_of_lt (h.fresh id r hr)
  have hfree : ¬ replaces incoming db id r = true := fun hreplaces =>
    hkey (contactOf_of_replaces h hr hreplaces)
  rw [get_replaced h, if_neg hne, hr, Option.map_some, if_neg hfree]

/-- A record that could supersede others still can. -/
theorem superseder_replaced (incoming : Incoming) (h : Chained db) {id : Nat} {r : HistoricalContactRecord}
    (hr : db.records.get id = some r)
    (hstate : r.resolutionState ∈ [ResolutionState.MATCHED, .UNMATCHED, .SUPERSEDED]) :
    ∃ r', (replaced incoming db).get id = some r' ∧ contactOf r' = contactOf r ∧
      r'.resolutionState ∈ [ResolutionState.MATCHED, .UNMATCHED, .SUPERSEDED] := by
  have hne : id ≠ db.nextRecordId := Nat.ne_of_lt (h.fresh id r hr)
  rw [get_replaced h, if_neg hne, hr, Option.map_some]
  split
  · exact ⟨superseded db.nextRecordId r, rfl, rfl, by simp [superseded]⟩
  · exact ⟨r, rfl, rfl, hstate⟩

theorem chained_behind (h : Chained db) (hfacts : ∀ key, facts.get key = if key = incoming.key then
    some (incoming.fact (some db.nextRecordId)) else db.facts.get key) :
    Chained (behind incoming db facts creators) := by
  have hnew : (replaced incoming db).get db.nextRecordId =
      some (incoming.record incoming.resolutionState (some incoming.key)) := by
    rw [get_replaced h, if_pos rfl]
  constructor
  · intro id r hr
    rcases record_cases h hr with ⟨rfl, _⟩ | ⟨old, hold, _⟩ | ⟨hold, _⟩
    · exact Nat.lt_succ_self _
    · exact Nat.lt_succ_of_lt (h.fresh id old hold)
    · exact Nat.lt_succ_of_lt (h.fresh id r hold)
  · intro key fact hfact
    change facts.get key = some fact at hfact
    rw [hfacts] at hfact
    by_cases hkey : key = incoming.key
    · rw [if_pos hkey, Option.some.injEq] at hfact
      subst hfact
      exact ⟨db.nextRecordId, _, rfl, hnew, hkey.symm, live_incoming incoming, ⟨rfl, rfl, rfl, rfl, rfl⟩⟩
    · rw [if_neg hkey] at hfact
      obtain ⟨current, r, hcurrent, hr, hcontact, hrest⟩ := h.current key fact hfact
      have hkept := get_replaced_of_ne incoming h hr (hcontact ▸ hkey)
      exact ⟨current, r, hcurrent, hkept, hcontact, hrest⟩
  · intro id r hr hlive
    change ∃ fact, facts.get (contactOf r) = some fact ∧ _
    rw [hfacts]
    rcases record_cases h hr with ⟨rfl, rfl⟩ | ⟨old, hold, _, rfl⟩ | ⟨hold, hfree⟩
    · exact ⟨_, if_pos rfl, rfl⟩
    · simp [Live, superseded] at hlive
    · have hkey : contactOf r ≠ incoming.key := by
        intro hkey
        rw [replaces_of_live h hold hlive hkey] at hfree
        cases hfree
      rw [if_neg hkey]
      exact h.live id r hold hlive
  · intro id r next hr hnext
    rcases record_cases h hr with ⟨rfl, rfl⟩ | ⟨old, hold, hreplaces, rfl⟩ | ⟨hold, hfree⟩
    · cases hnext
    · cases hnext
      refine ⟨h.fresh id old hold, _, hnew, (contactOf_of_replaces h hold hreplaces).symm, ?_⟩
      rcases (live_incoming incoming).1 with hstate | hstate
      · simp [hstate]
      · simp [hstate]
    · obtain ⟨hlt, r', hr', hcontact, hstate⟩ := h.superseded id r next hold hnext
      obtain ⟨r'', hr'', hcontact', hstate'⟩ := superseder_replaced incoming h hr' hstate
      exact ⟨hlt, r'', hr'', hcontact'.trans hcontact, hstate'⟩
  · intro id r hr
    rcases record_cases h hr with ⟨rfl, rfl⟩ | ⟨old, hold, _, rfl⟩ | ⟨hold, _⟩
    · have hlive := live_incoming incoming
      rcases hlive.1 with hstate | hstate
      · simp [hstate, hlive.2]
      · simp [hstate, hlive.2]
    · simp [superseded]
    · exact h.states id r hold

end Replaced

end tiktok_outreach.contact_facts
