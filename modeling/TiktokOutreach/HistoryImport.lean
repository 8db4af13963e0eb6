-- The import of a contact history from a file (apps/api/src/history/history.service.ts): its
-- tables, its transactions and the program. A row of the file is a record of the import, and the
-- newest record of a contact is its fact. The contact states of the creators, which are rebuilt
-- behind each row, are none of these tables.
import TiktokOutreach.HistoricalIdentity
import TiktokOutreach.Lib.Transactions
import TiktokOutreach.Lib.Executions

open executions tables transactions texts tiktok_outreach.historical_identity

namespace tiktok_outreach.history_import

/-! ## Rows -/

inductive SyncState
  | RUNNING
  | PARTIAL
  | COMPLETE
  deriving DecidableEq, Repr

inductive ResolutionState
  | CONFLICT
  | MATCHED
  | UNMATCHED
  | DUPLICATE
  | SUPERSEDED
  deriving DecidableEq, Repr

structure HistoricalContactImport where
  shopId : Nat
  sourceName : String
  sourceHash : String
  state : SyncState
  rowCount : Nat
  importedCount : Nat := 0
  duplicateCount : Nat := 0
  unmatchedCount : Nat := 0
  conflictCount : Nat := 0
  deriving DecidableEq, Repr

/-- The key of a fact: its shop and its identity, which are unique. -/
abbrev FactKey := Nat × String

structure HistoricalContactRecord where
  importId : Nat
  shopId : Nat
  sourceRecordId : String
  identityKey : String
  creatorOpenId : Option String
  conversationId : Option String
  externalMessageId : Option String
  contactedAt : Int
  sendStatus : String
  campaignName : Option String
  messageContent : Option String
  resolutionState : ResolutionState
  contactFactId : Option FactKey := none
  supersededByRecordId : Option Nat := none
  deriving DecidableEq, Repr

structure HistoricalContactFact where
  externalSource : String
  sourceRecordId : String
  externalMessageId : Option String
  creatorOpenId : Option String
  conversationId : Option String
  contactedAt : Int
  sendStatus : String
  resolutionState : ResolutionState
  currentRecordId : Option Nat := none
  deriving DecidableEq, Repr

structure Db where
  imports : Table Nat HistoricalContactImport
  nextImportId : Nat
  records : Table Nat HistoricalContactRecord
  nextRecordId : Nat
  facts : Table FactKey HistoricalContactFact
  /-- The usernames of the creators, by their Open IDs. -/
  creators : Table String (Option String)
  /-- The Open IDs of the creators of the conversations. -/
  conversations : Table String (Option String)

def Db.initial : Db := ⟨.empty, 0, .empty, 0, .empty, .empty, .empty⟩

inductive RowId
  | import (id : Nat)
  | record (id : Nat)
  | fact (key : FactKey)
  | creator (openId : String)
  deriving DecidableEq, Repr

inductive LockKey
  | historicalIdentity (key : FactKey)
  | creatorEligibility (shopId : Nat) (openId : String)
  deriving DecidableEq, Repr

inductive Failure
  | badRequest (message : String)
  /-- The parser of the file threw. -/
  | malformedCsv
  | uniqueViolation
  | notFound
  /-- The database did not answer, or gave up the transaction. -/
  | database
  deriving DecidableEq, Repr

namespace table

@[simp] def records : TableOf Db RowId Nat HistoricalContactRecord :=
  ⟨Db.records, fun db t => { db with records := t }, .record⟩
@[simp] def facts : TableOf Db RowId FactKey HistoricalContactFact :=
  ⟨Db.facts, fun db t => { db with facts := t }, .fact⟩
@[simp] def creators : TableOf Db RowId String (Option String) :=
  ⟨Db.creators, fun db t => { db with creators := t }, .creator⟩
@[simp] def imports : TableOf Db RowId Nat HistoricalContactImport :=
  ⟨Db.imports, fun db t => { db with imports := t }, .import⟩

end table

abbrev Transaction (α : Type) := Tx Db LockKey RowId Failure α

/-! ## The import -/

/-- `findUnique({ where: { shopId_sourceHash } })` -/
def importOf (db : Db) (shopId : Nat) (sourceHash : String) :
    Option (Nat × HistoricalContactImport) :=
  (db.imports.findMany (fun _ i => i.shopId = shopId && i.sourceHash = sourceHash)).head?

/-- The insert of an import, which is the only one of its file in its shop. -/
def createImport (row : HistoricalContactImport) : Transaction Nat :=
  Tx.stmt (fun _ => [])
    (fun v db => if (importOf v row.shopId row.sourceHash).isSome then db
      else { db with imports := db.imports.set v.nextImportId row, nextImportId := v.nextImportId + 1 })
    (fun v => if (importOf v row.shopId row.sourceHash).isSome then Tx.throw .uniqueViolation
      else Tx.ret v.nextImportId)

structure Counts where
  importedCount : Nat := 0
  duplicateCount : Nat := 0
  unmatchedCount : Nat := 0
  conflictCount : Nat := 0
  deriving DecidableEq, Repr

/-- The import with its counts at the end. -/
def finished (counts : Counts) (row : HistoricalContactImport) : HistoricalContactImport :=
  { row with
    state := if counts.unmatchedCount ≠ 0 || counts.conflictCount ≠ 0 then .PARTIAL else .COMPLETE
    importedCount := counts.importedCount
    duplicateCount := counts.duplicateCount
    unmatchedCount := counts.unmatchedCount
    conflictCount := counts.conflictCount }

def finishImport (importId : Nat) (counts : Counts) :
    Transaction (Nat × HistoricalContactImport) := do
  Tx.update table.imports .notFound importId (finished counts)
  let row ← Tx.readOrThrow .notFound (fun db => db.imports.get importId)
  return (importId, row)

/-! ## A record -/

/-- The insert of a record, which is the only one with its source record in its import. -/
def createRecord (record : HistoricalContactRecord) : Transaction Nat :=
  Tx.stmt (fun _ => [])
    (fun v db => if v.records.any (fun _ r => r.importId = record.importId &&
        r.sourceRecordId = record.sourceRecordId) then db
      else { db with records := db.records.set v.nextRecordId record, nextRecordId := v.nextRecordId + 1 })
    (fun v => if v.records.any (fun _ r => r.importId = record.importId &&
        r.sourceRecordId = record.sourceRecordId) then Tx.throw .uniqueViolation
      else Tx.ret v.nextRecordId)

/-- What a row of the file is to the database. -/
structure Incoming where
  importId : Nat
  shopId : Nat
  identity : HistoricalIdentity
  creatorOpenId : Option String
  conversationId : Option String
  externalMessageId : Option String
  contactedAt : Int
  sendStatus : String
  campaignName : Option String
  messageContent : Option String
  username : Option String
  deriving DecidableEq, Repr

/-- `value || null` -/
def orNull (value : Option String) : Option String := value.filter (· ≠ "")

section Incoming

variable (incoming : Incoming)

def Incoming.key : FactKey := (incoming.shopId, incoming.identity.identityKey)

/-- `creatorOpenId ? "MATCHED" : "UNMATCHED"` -/
def Incoming.resolutionState : ResolutionState :=
  if (orNull incoming.creatorOpenId).isSome then .MATCHED else .UNMATCHED

def Incoming.record (resolutionState : ResolutionState) (contactFactId : Option FactKey) :
    HistoricalContactRecord where
  importId := incoming.importId
  shopId := incoming.shopId
  sourceRecordId := incoming.identity.sourceRecordId
  identityKey := incoming.identity.identityKey
  creatorOpenId := orNull incoming.creatorOpenId
  conversationId := orNull incoming.conversationId
  externalMessageId := orNull incoming.externalMessageId
  contactedAt := incoming.contactedAt
  sendStatus := incoming.sendStatus
  campaignName := orNull incoming.campaignName
  messageContent := orNull incoming.messageContent
  resolutionState
  contactFactId

/-- The columns of the fact that the row writes. The current record is written behind them. -/
def Incoming.fact (currentRecordId : Option Nat) : HistoricalContactFact where
  externalSource := incoming.identity.externalSource
  sourceRecordId := incoming.identity.sourceRecordId
  externalMessageId := orNull incoming.externalMessageId
  creatorOpenId := orNull incoming.creatorOpenId
  conversationId := orNull incoming.conversationId
  contactedAt := incoming.contactedAt
  sendStatus := incoming.sendStatus
  resolutionState := incoming.resolutionState
  currentRecordId

/-- The fact says already what the row says. -/
def Incoming.same (existing : HistoricalContactFact) : Bool :=
  existing.creatorOpenId = incoming.creatorOpenId &&
    existing.conversationId = incoming.conversationId &&
    existing.contactedAt = incoming.contactedAt && existing.sendStatus = incoming.sendStatus &&
    existing.resolutionState = incoming.resolutionState

/-- The creators of the fact and of the row. -/
def Incoming.openIds (existing : Option HistoricalContactFact) : List String :=
  ([orNull (existing.bind (·.creatorOpenId)), orNull incoming.creatorOpenId].filterMap
    id).reverse.dedup.reverse

/-- The upsert of a creator, which gets the username of the row when it is its creator. -/
def upsertCreator (openId : String) : Transaction Unit :=
  let username := if incoming.creatorOpenId = some openId then orNull incoming.username else none
  Tx.upsert table.creators openId (fun stored => username.or stored) username

def superseded (by_ : Nat) (record : HistoricalContactRecord) : HistoricalContactRecord :=
  { record with resolutionState := .SUPERSEDED, supersededByRecordId := some by_ }

/-- A row without a contact or without a date that a newer row sweeps. -/
def swept (created : Nat) (id : Nat) (record : HistoricalContactRecord) : Bool :=
  record.shopId = incoming.shopId && record.identityKey = incoming.identity.identityKey &&
    id ≠ created && (record.resolutionState = .UNMATCHED || record.resolutionState = .CONFLICT) &&
    record.supersededByRecordId = none

/-- The current record of the fact that was there, when there is one. -/
def supersedeCurrent (existing : Option HistoricalContactFact) (created : Nat) :
    Transaction Unit :=
  match existing.bind (·.currentRecordId) with
  | some current => Tx.update table.records .notFound current (superseded created)
  | none => return ()

def writeFact (existing : Option HistoricalContactFact) : Transaction Unit :=
  match existing with
  | some _ => Tx.update table.facts .notFound incoming.key
      (fun fact => incoming.fact fact.currentRecordId)
  | none => Tx.create table.facts .uniqueViolation [] (fun _ => false) incoming.key
      (incoming.fact none)

inductive RowOutcome
  | DUPLICATE
  | IMPORTED
  deriving DecidableEq, Repr

/-- The transaction of a row with a valid date. -/
def importRow : Transaction RowOutcome := do
  Tx.lock (.historicalIdentity incoming.key) (Tx.ret ())
  let existing ← Tx.read (fun db => db.facts.get incoming.key)
  let _ ← Tx.traverse (upsertCreator incoming) (incoming.openIds existing)
  let _ ← Tx.traverse (fun openId => Tx.lock (.creatorEligibility incoming.shopId openId)
    (Tx.ret ())) (incoming.openIds existing)
  if existing.any incoming.same then do
    let _ ← createRecord (incoming.record .DUPLICATE (some incoming.key))
    return .DUPLICATE
  else do
    writeFact incoming existing
    let created ← createRecord (incoming.record incoming.resolutionState (some incoming.key))
    supersedeCurrent existing created
    let _ ← Tx.updateMany table.records (fun _ => swept incoming created) (superseded created)
    Tx.update table.facts .notFound incoming.key
      (fun fact => { fact with currentRecordId := some created })
    return .IMPORTED

end Incoming

/-! ## `importCsv` -/

/-- The language, with the parser of the file. -/
structure Environment extends Language where
  parse : String → Option (List CsvRow)

inductive Call
  | findImport (shopId : Nat) (sourceHash : String)
  | createImport (row : HistoricalContactImport)
  | findConversation (conversationId : String)
  | createRecord (record : HistoricalContactRecord)
  | importRow (incoming : Incoming)
  | finishImport (importId : Nat) (counts : Counts)

abbrev Call.Result : Call → Type
  | findImport _ _ => Option (Nat × HistoricalContactImport)
  | createImport _ => Nat
  | findConversation _ => Option String
  | createRecord _ => Nat
  | importRow _ => RowOutcome
  | finishImport _ _ => Nat × HistoricalContactImport

def Call.transaction : (c : Call) → Transaction c.Result
  | findImport shopId sourceHash => Tx.read (fun db => importOf db shopId sourceHash)
  | createImport row => history_import.createImport row
  | findConversation conversationId => Tx.read (fun db => (db.conversations.get conversationId).join)
  | createRecord record => history_import.createRecord record
  | importRow incoming => history_import.importRow incoming
  | finishImport importId counts => history_import.finishImport importId counts

abbrev Program (α : Type) := Js Call Call.Result Failure Unit α

section Programs

variable (env : Environment) (shopId : Nat) (sourceName : String)

/-- The Open ID of a row: its own one, or that of the creator of its conversation. -/
def creatorOf (row : CsvRow) : Program (Option String) :=
  match trimmed row.creatorOpenId, trimmed row.conversationId with
  | some openId, _ => return some openId
  | none, some conversationId => Js.call (Call.findConversation conversationId)
  | none, none => return none

/-- What the row is to the database, for a date and a creator. -/
def incomingOf (importId : Nat) (row : CsvRow) (contactedAt : Int) (creatorOpenId : Option String) :
    Incoming where
  importId
  shopId
  identity := historicalIdentity env.toLanguage sourceName row
  creatorOpenId
  conversationId := trimmed row.conversationId
  externalMessageId := row.externalMessageId
  contactedAt
  sendStatus := sendStatus env.toLanguage row
  campaignName := row.campaignName
  messageContent := row.messageBody
  username := row.username

/-- The record of a row without a valid date. -/
def conflictRecord (importId : Nat) (row : CsvRow) (creatorOpenId : Option String) :
    HistoricalContactRecord :=
  (incomingOf env shopId sourceName importId row 0 creatorOpenId).record .CONFLICT none

def counted (counts : Counts) (creatorOpenId : Option String) : RowOutcome → Counts
  | .DUPLICATE => { counts with
      duplicateCount := counts.duplicateCount + 1
      unmatchedCount := counts.unmatchedCount + if (orNull creatorOpenId).isSome then 0 else 1 }
  | .IMPORTED => { counts with
      importedCount := counts.importedCount + 1
      unmatchedCount := counts.unmatchedCount + if (orNull creatorOpenId).isSome then 0 else 1 }

/-- One row of the file. -/
def processRow (importId : Nat) (row : CsvRow) (counts : Counts) : Program Counts := do
  let creatorOpenId ← creatorOf row
  match contactedAt env.toLanguage row with
  | none => do
    let _ ← Js.call (Call.createRecord (conflictRecord env shopId sourceName importId row creatorOpenId))
    return { counts with conflictCount := counts.conflictCount + 1 }
  | some contactedAt => do
    let outcome ← Js.call (Call.importRow
      (incomingOf env shopId sourceName importId row contactedAt creatorOpenId))
    return counted counts creatorOpenId outcome

def processRows (importId : Nat) : List CsvRow → Counts → Program Counts
  | [], counts => return counts
  | row :: rest, counts => do
    let counts ← processRow env shopId sourceName importId row counts
    processRows importId rest counts

/-- The import that is created for a file. -/
def newImport (csv : String) (rows : List CsvRow) : HistoricalContactImport where
  shopId
  sourceName
  sourceHash := env.sha256 csv
  state := .RUNNING
  rowCount := rows.length

def importFile (csv : String) (rows : List CsvRow) :
    Program (Nat × HistoricalContactImport) := do
  let importId ← Js.call (Call.createImport (newImport env shopId sourceName csv rows))
  let counts ← processRows env shopId sourceName importId rows {}
  Js.call (Call.finishImport importId counts)

def importCsv (csv : String) : Program (Nat × HistoricalContactImport) :=
  if sourceName = "" || csv = "" then
    Js.throw (.badRequest "sourceName and csv are required")
  else do
    let prior ← Js.call (Call.findImport shopId (env.sha256 csv))
    match prior with
    | some prior => return prior
    | none =>
      match env.parse csv with
      | none => Js.throw .malformedCsv
      | some rows => importFile env shopId sourceName csv rows

end Programs

/-! ## How a call runs -/

/-- A call of a database that answers. A transaction that throws changes nothing. -/
def Call.answer (db : Db) (c : Call) : Except Failure c.Result × Db :=
  match c.transaction.run db with
  | .ok (r, db') => (.ok r, db')
  | .error e => (.error e, db)

/-- A call of a database that may fail, before the transaction is committed or behind it. -/
def exec (db : Db) (c : Call) (outcome : Except Failure c.Result) (db' : Db) : Prop :=
  (outcome, db') = c.answer db ∨
    (outcome = .error .database ∧ (db' = db ∨ db' = (c.answer db).2))

/-! ## Imports side by side -/

/-- What others do to the tables: they write creators and conversations. -/
def Others (db db' : Db) : Prop := ∃ creators conversations, db' = { db with creators, conversations }

abbrev Answer (c : Call) : Type := Except Failure c.Result

abbrev Imports : Type := Pool Db Call Answer

/-- Others write while an import waits for a call. A crash may be behind the call. -/
def machine : Machine Db Call Answer where
  work _ db _ db' := Others db db'
  exec _ db c outcome db' := exec db c outcome db'
  onCrash _ _ db := db

/-- The import of a file. -/
def IsImport (env : Environment) (p : Prog Call Answer Unit) : Prop :=
  ∃ shopId sourceName csv, p = (importCsv env shopId sourceName csv).thread ()

def noImports : Imports := ⟨Db.initial, fun _ => none⟩

/-! ## A sample -/

/-- Files of messages with their dates. -/
def fileOf (messages : List (String × String)) : String :=
  "contacted_at,external_message_id\n" ++
    String.join (messages.map (fun m => m.1 ++ "," ++ m.2 ++ "\n"))

def first : List (String × String) := [("2024-01-01", "m-1")]

/-- The message of the first file on another day. -/
def corrected : List (String × String) := [("2024-01-02", "m-1")]

def both : List (String × String) := first ++ corrected

/-- The language and the parser for these files. -/
def sampleEnvironment : Environment where
  toLowerCase := id
  toUpperCase := id
  parseDate := fun s => if s = "2024-01-01" then some 1704067200000
    else if s = "2024-01-02" then some 1704153600000 else none
  toISOString := fun _ => ""
  sha256 := fun s =>
    if s = fileOf first then "05e47fc7853d67e51cbba4e8f37906a75f57ab843d2e018a6cb3fdfe08f8890d"
    else if s = fileOf corrected then
      "8dc52e0bbe7dedb6806ec43d978fd9f5a6b214b5e9bf26f47f3623603fbf5568"
    else if s = fileOf both then "578ea53704d22ebcc1b34765410a36c89af251b57da4e110e49deb992302dd56"
    else ""
  sha256_hex := by
    intro s
    split
    · decide
    · split
      · decide
      · split <;> decide
  parse := fun csv => ([first, corrected, both].find? (fun messages => fileOf messages = csv)).map
    (fun messages => messages.map
      (fun m => { contactedAt := some m.1, externalMessageId := some m.2 }))

end tiktok_outreach.history_import
