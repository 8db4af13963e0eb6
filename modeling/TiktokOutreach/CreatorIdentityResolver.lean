-- The resolver of creator identities
-- (apps/api/src/identity/creator-identity-resolver.service.ts): a creator that
-- the Marketplace or a conversation shows, and the link of two creators that
-- are one. Locks order the calls only and are left out.
import TiktokOutreach.IdentitySchema

open tables tiktok_outreach.identity_schema

namespace tiktok_outreach.creator_identity_resolver

/-- `ExactLinkEvidence` -/
inductive EvidenceType
  | CONVERSATION_RETURNED_BOTH_IDENTIFIERS
  | DOCUMENTED_PROVIDER_MAPPING
  deriving DecidableEq, Repr

def EvidenceType.text : EvidenceType → String
  | .CONVERSATION_RETURNED_BOTH_IDENTIFIERS => "CONVERSATION_RETURNED_BOTH_IDENTIFIERS"
  | .DOCUMENTED_PROVIDER_MAPPING => "DOCUMENTED_PROVIDER_MAPPING"

structure ExactLinkEvidence where
  evidenceType : EvidenceType
  creatorImId : String
  creatorOpenId : String
  mappingReference : Option String := none
  deriving DecidableEq, Repr

/-- The fields of a `CreatorCandidate` that the resolver reads. -/
structure CreatorCandidate where
  creatorOpenId : String
  creatorUserId : Option String := none
  username : Option String := none
  nickname : Option String := none
  avatarUrl : Option String := none
  selectionRegion : String
  deriving DecidableEq, Repr

/-- The fields of a `ProviderConversation` that the resolver reads. -/
structure ProviderConversation where
  creatorOpenId : Option String := none
  creatorImId : String
  username : Option String := none
  avatarUrl : Option String := none
  deriving DecidableEq, Repr

/-! ## Observations -/

def identity (creatorId : Nat) (identityType : IdentityType) (identifier : String)
    (linkState : LinkState) (evidenceType : String) (db : Db) : Except Failure Db := do
  let existing := db.identities.get (identityType, identifier)
  refuse (existing.any (fun row => row.creatorId ≠ creatorId))
    (.badRequest ("Creator identity conflict for " ++ identityType.text))
  return { db with
    identities := db.identities.set (identityType, identifier) ⟨creatorId, linkState, evidenceType⟩ }

/-- A column that the call gives no value stays as it is. -/
def CreatorCandidate.data (candidate : CreatorCandidate) (creator : Creator) : Creator :=
  { creator with
    creatorOpenId := some candidate.creatorOpenId
    creatorUserId := candidate.creatorUserId.or creator.creatorUserId
    username := candidate.username.or creator.username
    nickname := candidate.nickname.or creator.nickname
    avatarUrl := candidate.avatarUrl.or creator.avatarUrl
    selectionRegion := candidate.selectionRegion }

/-- `existing ?? await tx.creator.create(...)`, where `fresh` is the id of a creator that
is created. -/
def existingOrCreate (existing : Option Nat) (fresh : Nat) (creator : Creator) : Tx Nat :=
  fun db =>
    match existing with
    | some id => .ok (id, db)
    | none => do
      let db ← createCreator fresh creator db
      return (fresh, db)

def ensureMarketplaceCreatorInTransaction (candidate : CreatorCandidate) (fresh : Nat) :
    Tx Nat := fun db => do
  refuse candidate.creatorOpenId.isEmpty (.badRequest "Marketplace creator_open_id is required")
  let byOpen := db.creatorByOpenId candidate.creatorOpenId
  let byUser := (given candidate.creatorUserId).bind db.creatorByUserId
  refuse (byOpen.any (fun o => byUser.any (fun u => o.1 ≠ u.1)))
    (.badRequest "Conflicting exact Marketplace creator identifiers")
  refuse ((given (byUser.bind (fun u => u.2.creatorOpenId))).any (· ≠ candidate.creatorOpenId))
    (.badRequest "Creator User ID is already linked to a different Creator Open ID")
  refuse ((given candidate.creatorUserId).any (fun userId =>
      (given (byOpen.bind (fun o => o.2.creatorUserId))).any (· ≠ userId)))
    (.badRequest "Creator Open ID is already linked to a different Creator User ID")
  let (id, db) ← existingOrCreate ((byOpen.or byUser).map Prod.fst) fresh (candidate.data {}) db
  let db ← updateCreator id candidate.data db
  let db ← identity id .TIKTOK_CREATOR_OPEN_ID candidate.creatorOpenId .VERIFIED
    "MARKETPLACE_EXACT_FIELD" db
  match given candidate.creatorUserId with
  | some userId => do
    let db ← identity id .TIKTOK_CREATOR_USER_ID userId .VERIFIED "MARKETPLACE_EXACT_FIELD" db
    .ok (id, db)
  | none => .ok (id, db)

def ensureMarketplaceCreator (candidate : CreatorCandidate) (fresh : Nat) : Tx Nat := fun db => do
  refuse candidate.creatorOpenId.isEmpty (.badRequest "Marketplace creator_open_id is required")
  ensureMarketplaceCreatorInTransaction candidate fresh db

/-! ## The link of two creators -/

/-- The rows that a rebuild of a contact row reads. -/
structure Facts where
  deliveries : List (Nat × Delivery)
  messages : List (String × Message)
  facts : List ((Nat × String) × Fact)
  unknownDeliveries : Nat

/-- `orderBy: { sentAt: "desc" }`, which puts nulls first. -/
def sentAtDesc (a b : Nat × Delivery) : Prop :=
  match a.2.sentAt, b.2.sentAt with
  | none, _ => True
  | some _, none => False
  | some s, some t => t ≤ s

instance : DecidableRel sentAtDesc := fun a b => by
  unfold sentAtDesc
  split <;> infer_instance

/-- `recipient: { creatorId }, campaign: { shopId }` -/
def deliveredTo (db : Db) (shopId creatorId : Nat) (delivery : Delivery) : Bool :=
  (db.recipients.get delivery.campaignRecipientId).any (fun r => r.creatorId = creatorId) &&
    (db.campaigns.get delivery.campaignId).any (fun c => c.shopId = shopId)

def unknownDelivery (delivery : Delivery) : Bool :=
  delivery.state = .DELIVERY_UNKNOWN || delivery.state = .DELIVERY_UNKNOWN_UNRESOLVED

def readFacts (db : Db) (shopId creatorId : Nat) (creator : Creator) : Facts where
  deliveries := (db.deliveries.findMany (fun _ d =>
    d.state = .SENT && deliveredTo db shopId creatorId d)).insertionSort sentAtDesc
  messages := db.messages.findMany (fun _ m => m.direction = .OUTBOUND &&
    (db.conversations.get m.conversationId).any (fun c =>
      c.shopId = shopId && c.creatorId = creatorId))
  facts := match given creator.creatorOpenId with
    | some openId => db.facts.findMany (fun key f =>
        key.1 = shopId && f.creatorOpenId = some openId)
    | none => []
  unknownDeliveries := db.deliveries.count (fun _ d =>
    unknownDelivery d && deliveredTo db shopId creatorId d)

/-- The keys of the map `contacts`. -/
inductive ContactKey
  | provider (externalMessageId : String)
  | delivery (id : Nat)
  | historical (identityKey : String)
  deriving DecidableEq, Repr

/-- `externalMessageId ? provider key : other key` -/
def providerOr (externalMessageId : Option String) (other : ContactKey) : ContactKey :=
  match given externalMessageId with
  | some id => .provider id
  | none => other

def deliveryContact (d : Nat × Delivery) : ContactKey × Int :=
  (providerOr d.2.externalMessageId (.delivery d.1), (d.2.sentAt.or d.2.firstDispatchedAt).getD 0)

def messageContact (m : String × Message) : ContactKey × Int :=
  (.provider m.1, m.2.providerCreatedAt)

def factContact (f : (Nat × String) × Fact) : ContactKey × Int :=
  (providerOr f.2.externalMessageId (.historical f.1.2), f.2.contactedAt)

namespace Facts

/-- What is set in the map `contacts`, in this order. -/
def entries (e : Facts) : List (ContactKey × Int) :=
  e.deliveries.map deliveryContact ++ e.messages.map messageContact ++
    (e.facts.filter (fun f => f.2.sendStatus = .SENT && f.2.resolutionState = .MATCHED)).map
      factContact

def contacts (e : Facts) : Table ContactKey Int := Table.ofList e.entries

def dates (e : Facts) : List Int :=
  ((e.contacts.rows.map Prod.snd).filter (fun date => decide (0 < date))).insertionSort (· ≤ ·)

def factDates (e : Facts) : List Int :=
  (e.facts.filter (fun f => f.2.resolutionState = .MATCHED)).map (fun f => f.2.contactedAt)

def unresolved (e : Facts) : Bool :=
  decide (0 < e.unknownDeliveries) ||
    e.facts.any (fun f => f.2.sendStatus = .UNKNOWN && f.2.resolutionState = .MATCHED)

end Facts

/-- What is kept of the contact rows of one shop. -/
structure Preserved where
  doNotContact : Bool
  unresolvedDelivery : Bool
  latestReplyStatus : String
  historyCoverageStart : Option Int
  deriving DecidableEq, Repr

/-- One turn of the loop that fills `preserved`. -/
def Preserved.note (current : Option Preserved) (state : Contact) : Preserved where
  doNotContact := current.any (·.doNotContact) || state.doNotContact
  unresolvedDelivery := current.any (·.unresolvedDelivery) || state.unresolvedDelivery
  latestReplyStatus :=
    if current.any (fun c => c.latestReplyStatus = "REPLIED") || state.latestReplyStatus = "REPLIED"
    then "REPLIED" else state.latestReplyStatus
  historyCoverageStart :=
    match current.bind (·.historyCoverageStart), state.historyCoverageStart with
    | none, start => start
    | some start, none => some start
    | some start, some start' => if start' < start then some start' else some start

def preserve (contacts : List ((Nat × Nat) × Contact)) : Table Nat Preserved :=
  contacts.foldl (fun t row => t.set row.1.1 (Preserved.note (t.get row.1.1) row.2)) Table.empty

/-- The row that a rebuild creates. -/
def rebuilt (e : Facts) (preserved : Preserved) : Contact where
  firstContactedAt := e.dates.head?
  lastContactedAt := e.dates.getLast?
  contactCount := e.contacts.rows.length
  historyCoverageStart :=
    ((e.factDates ++ preserved.historyCoverageStart.toList).insertionSort (· ≤ ·)).head?
  doNotContact := preserved.doNotContact
  unresolvedDelivery := preserved.unresolvedDelivery || e.unresolved
  latestReplyStatus := preserved.latestReplyStatus
  lastCampaignId := e.deliveries.head?.map (fun d => d.2.campaignId)
  lastDeliveryId := e.deliveries.head?.map (fun d => d.1)

def rebuildContactState (creatorId : Nat) (shop : Nat × Preserved) (db : Db) :
    Except Failure Db := do
  let creator ← orThrow .notFound (db.creators.get creatorId)
  refuse (db.contacts.get (shop.1, creatorId)).isSome .uniqueViolation
  return { db with
    contacts := db.contacts.set (shop.1, creatorId)
      (rebuilt (readFacts db shop.1 creatorId creator) shop.2) }

/-- Both creators are recipients of one campaign. -/
def duplicateCampaign (db : Db) (sourceId targetId : Nat) : Bool :=
  db.recipients.any (fun _ r => r.creatorId = sourceId &&
    db.recipients.any (fun _ r' => r'.creatorId = targetId && r'.campaignId = r.campaignId))

/-- Both creators are reserved for one shop. -/
def duplicateReservation (db : Db) (sourceId targetId : Nat) : Bool :=
  db.reservations.any (fun _ r => r.creatorId = sourceId &&
    db.reservations.any (fun _ r' => r'.creatorId = targetId && r'.shopId = r.shopId))

/-- The two creators have a snapshot of one page. -/
def duplicateSnapshot (db : Db) (sourceId targetId : Nat) : Bool :=
  db.snapshots.any (fun _ s => s.creatorId = sourceId &&
    db.snapshots.any (fun _ s' => s'.creatorId = targetId &&
      sameId s'.sourcePageKey s.sourcePageKey))

/-- The updates that point the rows of the source at the target, and the deletes. -/
def Db.moved (db : Db) (sourceId targetId : Nat) (evidenceType : String) : Db :=
  { db with
    identities := db.identities.updateMany (fun _ i => i.creatorId = sourceId)
      (fun _ => ⟨targetId, .VERIFIED, evidenceType⟩)
    snapshots := db.snapshots.updateMany (fun _ s => s.creatorId = sourceId)
      (fun s => { s with creatorId := targetId })
    conversations := db.conversations.updateMany (fun _ c => c.creatorId = sourceId)
      (fun c => { c with creatorId := targetId })
    recipients := db.recipients.updateMany (fun _ r => r.creatorId = sourceId)
      (fun r => { r with creatorId := targetId })
    reservations := db.reservations.updateMany (fun _ r => r.creatorId = sourceId)
      (fun r => { r with creatorId := targetId })
    contacts := db.contacts.deleteMany (fun key _ => key.2 = sourceId || key.2 = targetId) }

/-- The update of the target. -/
def merged (source target : Creator) : Creator :=
  { target with
    creatorImId := source.creatorImId
    username := target.username.or source.username
    nickname := target.nickname.or source.nickname
    avatarUrl := target.avatarUrl.or source.avatarUrl
    profileUri := target.profileUri.or source.profileUri }

/-- What `trim` takes off a text. -/
def isWhiteSpace (c : Char) : Bool :=
  c.toNat ∈ [0x20, 0xA0, 0x1680, 0x2028, 0x2029, 0x202F, 0x205F, 0x3000, 0xFEFF] ||
    (0x09 ≤ c.toNat && c.toNat ≤ 0x0D) || (0x2000 ≤ c.toNat && c.toNat ≤ 0x200A)

/-- `!mappingReference?.trim()` -/
def blank (mappingReference : Option String) : Bool :=
  (mappingReference.getD "").toList.all isWhiteSpace

/-- The checks of the evidence, and of what the two creators have in common. -/
def checkLink (db : Db) (sourceId targetId : Nat) (source target : Creator)
    (evidence : ExactLinkEvidence) : Except Failure Unit := do
  refuse (source.creatorImId ≠ some evidence.creatorImId ||
      target.creatorOpenId ≠ some evidence.creatorOpenId)
    (.badRequest "Exact provider identity evidence does not match the stored identities")
  refuse ((given source.creatorOpenId).isSome && source.creatorOpenId ≠ target.creatorOpenId)
    (.badRequest "Source creator already has a conflicting Open ID")
  refuse ((given target.creatorImId).isSome && target.creatorImId ≠ source.creatorImId)
    (.badRequest "Target creator already has a conflicting IM ID")
  refuse (evidence.evidenceType = .DOCUMENTED_PROVIDER_MAPPING && blank evidence.mappingReference)
    (.badRequest "A documented provider mapping reference is required")
  refuse (duplicateCampaign db sourceId targetId)
    (.badRequest "Identity merge conflicts with existing campaign history")
  refuse (duplicateReservation db sourceId targetId)
    (.badRequest "Identity merge conflicts with an active creator reservation")

/-- The writes of the link of two creators, after its checks. -/
def mergeCreators (sourceId targetId : Nat) (source target : Creator)
    (evidence : ExactLinkEvidence) (db : Db) : Except Failure Db := do
  let contacts := db.contacts.findMany (fun key _ => key.2 = sourceId) ++
    db.contacts.findMany (fun key _ => key.2 = targetId)
  refuse (duplicateSnapshot db sourceId targetId) .uniqueViolation
  let db := (Db.moved db sourceId targetId evidence.evidenceType.text).deleteCreator sourceId
  let db ← updateCreator targetId (fun _ => merged source target) db
  let db ← (preserve contacts).rows.foldlM (fun db shop => rebuildContactState targetId shop db) db
  return { db with
    audits := db.audits ++ [{
      action := "EXACT_PROVIDER_IDENTITIES_LINKED", sourceCreatorId := sourceId
      targetCreatorId := some targetId, evidenceType := evidence.evidenceType.text
      mappingReference := evidence.mappingReference }] }

def linkExactProviderIdentities (sourceCreatorId targetCreatorId : Nat)
    (evidence : ExactLinkEvidence) : Tx Nat := fun db => do
  let target ← orThrow .notFound (db.creators.get targetCreatorId)
  match db.creators.get sourceCreatorId with
  | none => do
    let alreadyLinked := (db.creatorByImId evidence.creatorImId).map Prod.fst
    refuse (!(alreadyLinked = some targetCreatorId &&
        target.creatorOpenId = some evidence.creatorOpenId))
      (.badRequest "Source creator identity no longer exists and is not linked to the target")
    return (targetCreatorId, db)
  | some source =>
    if sourceCreatorId = targetCreatorId then do
      let db ← identity targetCreatorId .TIKTOK_CREATOR_IM_ID evidence.creatorImId .VERIFIED
        evidence.evidenceType.text db
      return (targetCreatorId, db)
    else do
      checkLink db sourceCreatorId targetCreatorId source target evidence
      let db ← mergeCreators sourceCreatorId targetCreatorId source target evidence db
      return (targetCreatorId, db)

/-! ## Conversations -/

/-- The data of a creator that a conversation shows, without its ids. -/
def ProviderConversation.profile (conversation : ProviderConversation) (creator : Creator) :
    Creator :=
  { creator with
    username := conversation.username.or creator.username
    avatarUrl := conversation.avatarUrl.or creator.avatarUrl }

def ProviderConversation.data (conversation : ProviderConversation) (openId : String)
    (creator : Creator) : Creator :=
  { conversation.profile creator with
    creatorOpenId := some openId
    creatorImId := some conversation.creatorImId }

/-- The transaction for a conversation that shows both ids of one creator. -/
def ensureBothIds (conversation : ProviderConversation) (openId : String)
    (existing : Option Nat) (fresh : Nat) : Tx Nat := fun db => do
  let (id, db) ← existingOrCreate existing fresh (conversation.data openId {}) db
  let db ← updateCreator id (conversation.data openId) db
  let db ← identity id .TIKTOK_CREATOR_OPEN_ID openId .VERIFIED "CONVERSATION_EXACT_FIELD" db
  let db ← identity id .TIKTOK_CREATOR_IM_ID conversation.creatorImId .VERIFIED
    "CONVERSATION_RETURNED_BOTH_IDENTIFIERS" db
  return (id, db)

/-- The creator of a conversation without an Open ID. -/
def updateOrCreate (conversation : ProviderConversation) (existingByIm : Option Nat)
    (fresh : Nat) : Tx Nat := fun db =>
  match existingByIm with
  | some id => do
    let db ← updateCreator id conversation.profile db
    return (id, db)
  | none => do
    let db ← createCreator fresh
      { conversation.profile {} with creatorImId := some conversation.creatorImId } db
    return (fresh, db)

/-- The transaction for a conversation without an Open ID. -/
def ensureImOnly (conversation : ProviderConversation) (existingByIm : Option Nat)
    (fresh : Nat) : Tx Nat := fun db => do
  let (id, db) ← updateOrCreate conversation existingByIm fresh db
  let prior := db.identities.get (.TIKTOK_CREATOR_IM_ID, conversation.creatorImId)
  let db ← identity id .TIKTOK_CREATOR_IM_ID conversation.creatorImId .UNRESOLVED
    "CONVERSATION_IM_ONLY" db
  let audits := if prior.isNone then [{
      action := "UNRESOLVED_IDENTITY_OBSERVED", sourceCreatorId := id
      evidenceType := "CONVERSATION_IM_ONLY" }] else []
  return (id, { db with
    audits := db.audits ++ audits })

def ensureConversationCreator (conversation : ProviderConversation) (fresh : Nat) :
    Tx Nat := fun db => do
  refuse conversation.creatorImId.isEmpty (.badRequest "Conversation creator_im_id is required")
  let existingByIm := db.creatorByImId conversation.creatorImId
  match given conversation.creatorOpenId with
  | none => ensureImOnly conversation (existingByIm.map Prod.fst) fresh db
  | some openId => do
    let existingByOpen := db.creatorByOpenId openId
    refuse ((given (existingByIm.bind (fun c => c.2.creatorOpenId))).any (· ≠ openId))
      (.badRequest "Creator IM ID is already linked to a different Creator Open ID")
    refuse ((given (existingByOpen.bind (fun c => c.2.creatorImId))).any
        (· ≠ conversation.creatorImId))
      (.badRequest "Creator Open ID is already linked to a different Creator IM ID")
    match existingByIm.map Prod.fst, existingByOpen.map Prod.fst with
    | some byIm, some byOpen =>
      if byIm = byOpen then ensureBothIds conversation openId (some byIm) fresh db
      else linkExactProviderIdentities byIm byOpen {
        evidenceType := .CONVERSATION_RETURNED_BOTH_IDENTIFIERS
        creatorImId := conversation.creatorImId, creatorOpenId := openId } db
    | byIm, byOpen => ensureBothIds conversation openId (byIm.or byOpen) fresh db

end tiktok_outreach.creator_identity_resolver
