-- The tables of the creators and of the rows that belong to a creator
-- (packages/db/prisma/schema.prisma), with the columns that the identity
-- resolver reads or writes, under the primary keys of the schema.
import TiktokOutreach.Schema

open tables
open tiktok_outreach.schema (Direction DeliveryState FactStatus FactResolution)

namespace tiktok_outreach.identity_schema

/-! ## Rows -/

/-- `Creator` -/
structure Creator where
  creatorOpenId : Option String := none
  creatorUserId : Option String := none
  creatorImId : Option String := none
  username : Option String := none
  nickname : Option String := none
  avatarUrl : Option String := none
  profileUri : Option String := none
  selectionRegion : String := "ID"
  deriving DecidableEq, Repr

inductive IdentityType
  | TIKTOK_CREATOR_OPEN_ID
  | TIKTOK_CREATOR_USER_ID
  | TIKTOK_CREATOR_IM_ID
  deriving DecidableEq, Repr

def IdentityType.text : IdentityType → String
  | .TIKTOK_CREATOR_OPEN_ID => "TIKTOK_CREATOR_OPEN_ID"
  | .TIKTOK_CREATOR_USER_ID => "TIKTOK_CREATOR_USER_ID"
  | .TIKTOK_CREATOR_IM_ID => "TIKTOK_CREATOR_IM_ID"

inductive LinkState
  | VERIFIED
  | UNRESOLVED
  deriving DecidableEq, Repr

/-- `CreatorProviderIdentity`, of the provider `TIKTOK_SHOP` -/
structure ProviderIdentity where
  creatorId : Nat
  linkState : LinkState
  evidenceType : String
  deriving DecidableEq, Repr

/-- `CreatorIdentityAudit` -/
structure IdentityAudit where
  action : String
  sourceCreatorId : Nat
  targetCreatorId : Option Nat := none
  evidenceType : String
  mappingReference : Option String := none
  deriving DecidableEq, Repr

/-- `CreatorShopContactState` -/
structure Contact where
  firstContactedAt : Option Int := none
  lastContactedAt : Option Int := none
  contactCount : Nat := 0
  lastCampaignId : Option Nat := none
  lastDeliveryId : Option Nat := none
  doNotContact : Bool := false
  unresolvedDelivery : Bool := false
  latestReplyStatus : String := "NONE"
  historyCoverageStart : Option Int := none
  deriving DecidableEq, Repr

/-- `CreatorMetricSnapshot` -/
structure Snapshot where
  creatorId : Nat
  sourcePageKey : Option String := none
  deriving DecidableEq, Repr

/-- `Conversation` -/
structure Conversation where
  shopId : Nat
  creatorId : Nat
  deriving DecidableEq, Repr

/-- `ConversationMessage`, under its unique `externalMessageId` -/
structure Message where
  conversationId : Nat
  direction : Direction
  providerCreatedAt : Int
  deriving DecidableEq, Repr

/-- `Campaign` -/
structure Campaign where
  shopId : Nat
  deriving DecidableEq, Repr

/-- `CampaignRecipient` -/
structure Recipient where
  campaignId : Nat
  creatorId : Nat
  deriving DecidableEq, Repr

/-- `OutreachReservation` -/
structure Reservation where
  shopId : Nat
  creatorId : Nat
  campaignRecipientId : Nat
  deriving DecidableEq, Repr

/-- `OutreachDelivery` -/
structure Delivery where
  campaignId : Nat
  campaignRecipientId : Nat
  state : DeliveryState
  externalMessageId : Option String := none
  sentAt : Option Int := none
  firstDispatchedAt : Option Int := none
  deriving DecidableEq, Repr

/-- `HistoricalContactFact`, under its shop and its `identityKey` -/
structure Fact where
  externalMessageId : Option String := none
  creatorOpenId : Option String
  contactedAt : Int
  sendStatus : FactStatus
  resolutionState : FactResolution
  deriving DecidableEq, Repr

/-! ## The database -/

structure Db where
  creators : Table Nat Creator := Table.empty
  identities : Table (IdentityType × String) ProviderIdentity := Table.empty
  audits : List IdentityAudit := []
  /-- Under the shop and the creator. -/
  contacts : Table (Nat × Nat) Contact := Table.empty
  snapshots : Table Nat Snapshot := Table.empty
  conversations : Table Nat Conversation := Table.empty
  messages : Table String Message := Table.empty
  campaigns : Table Nat Campaign := Table.empty
  recipients : Table Nat Recipient := Table.empty
  reservations : Table Nat Reservation := Table.empty
  deliveries : Table Nat Delivery := Table.empty
  facts : Table (Nat × String) Fact := Table.empty

inductive Failure
  | badRequest (message : String)
  | notFound
  | uniqueViolation
  deriving DecidableEq, Repr

/-- A transaction leaves nothing behind when it fails. -/
abbrev Tx (α : Type) := Db → Except Failure (α × Db)

def commit {α : Type} (tx : Tx α) (db : Db) : Db :=
  match tx db with
  | .ok r => r.2
  | .error _ => db

/-- `if (condition) throw failure` -/
def refuse (condition : Bool) (failure : Failure) : Except Failure Unit :=
  if condition then .error failure else .ok ()

def orThrow {α : Type} (failure : Failure) : Option α → Except Failure α
  | some a => .ok a
  | none => .error failure

/-- A text that counts as true: one that is there and not empty. -/
def given (s : Option String) : Option String := s.filter (fun text => !text.isEmpty)

/-! ## Creators -/

def Db.creatorWith (db : Db) (p : Creator → Bool) : Option (Nat × Creator) :=
  (db.creators.findMany (fun _ c => p c)).head?

def Db.creatorByOpenId (db : Db) (openId : String) : Option (Nat × Creator) :=
  db.creatorWith (fun c => c.creatorOpenId = some openId)

def Db.creatorByUserId (db : Db) (userId : String) : Option (Nat × Creator) :=
  db.creatorWith (fun c => c.creatorUserId = some userId)

def Db.creatorByImId (db : Db) (imId : String) : Option (Nat × Creator) :=
  db.creatorWith (fun c => c.creatorImId = some imId)

/-- Both are there and equal. -/
def sameId (a b : Option String) : Bool := a.isSome && a = b

/-- Another creator has one of the unique ids. -/
def Db.clashes (db : Db) (id : Nat) (creator : Creator) : Bool :=
  db.creators.any (fun other c => other ≠ id && (sameId creator.creatorOpenId c.creatorOpenId ||
    sameId creator.creatorUserId c.creatorUserId || sameId creator.creatorImId c.creatorImId))

def Db.setCreator (db : Db) (id : Nat) (creator : Creator) : Db :=
  { db with creators := db.creators.set id creator }

def createCreator (id : Nat) (creator : Creator) (db : Db) : Except Failure Db := do
  refuse ((db.creators.get id).isSome || db.clashes id creator) .uniqueViolation
  return db.setCreator id creator

def updateCreator (id : Nat) (data : Creator → Creator) (db : Db) : Except Failure Db := do
  let creator ← orThrow .notFound (db.creators.get id)
  refuse (db.clashes id (data creator)) .uniqueViolation
  return db.setCreator id (data creator)

/-- The delete of a creator, with what the schema deletes along with it. -/
def Db.deleteCreator (db : Db) (id : Nat) : Db :=
  let owned := fun recipientId => (db.recipients.get recipientId).any (fun r => r.creatorId = id)
  { db with
    creators := db.creators.deleteMany (fun k _ => k = id)
    identities := db.identities.deleteMany (fun _ i => i.creatorId = id)
    contacts := db.contacts.deleteMany (fun k _ => k.2 = id)
    snapshots := db.snapshots.deleteMany (fun _ s => s.creatorId = id)
    conversations := db.conversations.deleteMany (fun _ c => c.creatorId = id)
    messages := db.messages.deleteMany (fun _ m =>
      (db.conversations.get m.conversationId).any (fun c => c.creatorId = id))
    recipients := db.recipients.deleteMany (fun _ r => r.creatorId = id)
    reservations := db.reservations.deleteMany (fun _ r =>
      r.creatorId = id || owned r.campaignRecipientId)
    deliveries := db.deliveries.deleteMany (fun _ d => owned d.campaignRecipientId) }

/-! ## What a transaction does -/

theorem bind_eq_ok {α β : Type} {x : Except Failure α} {f : α → Except Failure β} {b : β} :
    (x >>= f) = .ok b ↔ ∃ a, x = .ok a ∧ f a = .ok b := by
  cases x with
  | error e =>
    constructor
    · intro h
      cases h
    · rintro ⟨a, ha, _⟩
      cases ha
  | ok a =>
    constructor
    · intro h
      exact ⟨a, rfl, h⟩
    · rintro ⟨a', ha, h⟩
      cases ha
      exact h

@[simp] theorem refuse_eq_ok {condition : Bool} {failure : Failure} {u : Unit} :
    refuse condition failure = .ok u ↔ condition = false := by
  unfold refuse
  cases condition <;> simp

@[simp] theorem orThrow_eq_ok {α : Type} {failure : Failure} {o : Option α} {a : α} :
    orThrow failure o = .ok a ↔ o = some a := by
  cases o <;> simp [orThrow]

theorem createCreator_eq_ok {id : Nat} {creator : Creator} {db db' : Db}
    (h : createCreator id creator db = .ok db') :
    db.creators.get id = none ∧ db.clashes id creator = false ∧
      db' = db.setCreator id creator := by
  unfold createCreator at h
  obtain ⟨_, hfree, h⟩ := bind_eq_ok.1 h
  rw [refuse_eq_ok, Bool.or_eq_false_iff] at hfree
  cases h
  exact ⟨by simpa using hfree.1, hfree.2, rfl⟩

theorem updateCreator_eq_ok {id : Nat} {data : Creator → Creator} {db db' : Db}
    (h : updateCreator id data db = .ok db') :
    ∃ creator, db.creators.get id = some creator ∧ db.clashes id (data creator) = false ∧
      db' = db.setCreator id (data creator) := by
  unfold updateCreator at h
  obtain ⟨creator, hget, h⟩ := bind_eq_ok.1 h
  obtain ⟨_, hfree, h⟩ := bind_eq_ok.1 h
  cases h
  exact ⟨creator, orThrow_eq_ok.1 hget, refuse_eq_ok.1 hfree, rfl⟩

theorem updateCreator_of_free {id : Nat} {data : Creator → Creator} {db : Db} {creator : Creator}
    (hget : db.creators.get id = some creator) (hfree : db.clashes id (data creator) = false) :
    updateCreator id data db = .ok (db.setCreator id (data creator)) := by
  unfold updateCreator
  exact bind_eq_ok.2 ⟨creator, orThrow_eq_ok.2 hget,
    bind_eq_ok.2 ⟨(), refuse_eq_ok.2 hfree, rfl⟩⟩

theorem of_creatorWith {db : Db} {p : Creator → Bool} {id : Nat} {creator : Creator}
    (h : db.creatorWith p = some (id, creator)) :
    db.creators.get id = some creator ∧ p creator = true := by
  have hmem := List.mem_of_mem_head? (Option.mem_def.2 h)
  exact (db.creators.mem_findMany _ id creator).1 hmem

/-! ## The constraints of the schema -/

/-- The two creators share one of the unique ids. -/
def SharesId (c c' : Creator) : Prop :=
  sameId c.creatorOpenId c'.creatorOpenId = true ∨ sameId c.creatorUserId c'.creatorUserId = true ∨
    sameId c.creatorImId c'.creatorImId = true

/-- The ids of the creators are unique, and an identity belongs to a creator. -/
structure Constraints (db : Db) : Prop where
  unique : ∀ id c id' c', db.creators.get id = some c → db.creators.get id' = some c' →
    SharesId c c' → id = id'
  owned : ∀ key row, db.identities.get key = some row →
    ∃ creator, db.creators.get row.creatorId = some creator

theorem sameId_comm (a b : Option String) : sameId a b = sameId b a := by
  unfold sameId
  by_cases h : a = b
  · rw [h]
  · have h' : ¬ b = a := fun hb => h hb.symm
    simp [h, h']

theorem SharesId.symm {c c' : Creator} (h : SharesId c c') : SharesId c' c := by
  unfold SharesId at *
  rw [sameId_comm c'.creatorOpenId, sameId_comm c'.creatorUserId, sameId_comm c'.creatorImId]
  exact h

theorem not_clashes_iff {db : Db} {id : Nat} {creator : Creator} :
    db.clashes id creator = false ↔ ∀ id' c', db.creators.get id' = some c' →
      SharesId creator c' → id = id' := by
  unfold Db.clashes SharesId
  rw [Table.any_eq_false_iff]
  constructor
  · intro h id' c' hget hshares
    by_contra hne
    have := h id' c' hget
    have hne' : id' ≠ id := fun hid => hne hid.symm
    simp only [hne', ne_eq, not_false_eq_true, decide_true, Bool.true_and, Bool.or_eq_false_iff]
      at this
    simp_all
  · intro h id' c' hget
    by_contra hclash
    rw [Bool.not_eq_false, Bool.and_eq_true, decide_eq_true_eq, Bool.or_eq_true, Bool.or_eq_true,
      or_assoc] at hclash
    exact hclash.1 (h id' c' hget hclash.2).symm

theorem Constraints.setCreator {db : Db} (h : Constraints db) {id : Nat} {creator : Creator}
    (hfree : db.clashes id creator = false) : Constraints (db.setCreator id creator) := by
  rw [not_clashes_iff] at hfree
  unfold Db.setCreator
  constructor
  · intro id₁ c₁ id₂ c₂ h₁ h₂ hshares
    simp only [Table.get_set] at h₁ h₂
    split_ifs at h₁ h₂ with hid₁ hid₂ hid₂
    · rw [hid₁, hid₂]
    · rw [Option.some.injEq] at h₁
      subst h₁
      rw [hid₁, hfree id₂ c₂ h₂ hshares]
    · rw [Option.some.injEq] at h₂
      subst h₂
      rw [hid₂, hfree id₁ c₁ h₁ hshares.symm]
    · exact h.unique id₁ c₁ id₂ c₂ h₁ h₂ hshares
  · intro key row hrow
    obtain ⟨owner, howner⟩ := h.owned key row hrow
    by_cases hid : row.creatorId = id
    · exact ⟨creator, by simp [hid]⟩
    · exact ⟨owner, by simp [hid, howner]⟩

end tiktok_outreach.identity_schema
