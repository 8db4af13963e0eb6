-- The rows of the outreach tables (packages/db/prisma/schema.prisma), with the
-- columns that the modelled operations read. A row never changes its parent,
-- so an id carries the ids of its parents. A column with a unique index stands
-- for the id of its row where there is one.
import TiktokOutreach.Lib.Transactions
import TiktokOutreach.OutboundThrottle

open tables transactions

namespace tiktok_outreach.schema

/-! ## Ids -/

structure CampaignId where
  uuid : Nat
  shopId : Nat
  deriving DecidableEq, Repr

/-- The id of a `CampaignRecipient`. Its delivery, its reservation and its outbox entry have a
unique column with this id, so the id stands for their ids too. -/
structure RecipientId where
  uuid : Nat
  campaignId : CampaignId
  creatorId : Nat
  deriving DecidableEq, Repr

abbrev DeliveryId := RecipientId

def RecipientId.shopId (id : RecipientId) : Nat := id.campaignId.shopId

/-! ## States -/

inductive CampaignState
  | DRAFT
  | DISCOVERING
  | PREVIEW_READY
  | PREVIEW_EXPIRED
  | FROZEN
  | QUEUED
  | RUNNING
  | PAUSE_REQUESTED
  | PAUSED
  | SAFETY_PAUSED
  | COMPLETED
  | COMPLETED_WITH_ERRORS
  | CANCELLED
  deriving DecidableEq, Repr

inductive Eligibility
  | ELIGIBLE
  | EXCLUDED
  deriving DecidableEq, Repr

inductive RecipientState
  | DISCOVERED
  | ELIGIBLE
  | SELECTED
  | RESERVED
  | QUEUED
  | PROCESSING
  | SENT
  | FAILED
  | RESTRICTED
  | DELIVERY_UNKNOWN
  | DELIVERY_UNKNOWN_UNRESOLVED
  | CANCELLED
  deriving DecidableEq, Repr

inductive DeliveryState
  | PENDING
  | DISPATCHING
  | SENT
  | FAILED_RETRYABLE
  | FAILED_TERMINAL
  | RESTRICTED
  | DELIVERY_UNKNOWN
  | DELIVERY_UNKNOWN_UNRESOLVED
  | CANCELLED
  deriving DecidableEq, Repr

inductive OutboxState
  | PENDING
  | ENQUEUED
  | SAFETY_PAUSED
  | COMPLETED
  deriving DecidableEq, Repr

inductive AttemptOutcome
  | STARTED
  | SENT
  | DELIVERY_UNKNOWN
  | FAILED_RETRYABLE
  | FAILED_TERMINAL
  deriving DecidableEq, Repr

inductive ReconciliationState
  | PENDING
  | MATCHED
  | UNRESOLVED
  deriving DecidableEq, Repr

inductive Direction
  | OUTBOUND
  | INBOUND
  deriving DecidableEq, Repr

inductive DiscoveryRunState
  | QUEUED
  | RUNNING
  | BACKING_OFF
  | COMPLETE
  | FAILED
  | CANCELLED
  deriving DecidableEq, Repr

inductive RankingDirection
  | ASC
  | DESC
  deriving DecidableEq, Repr

/-! ## Rows -/

/-- The summary of `campaignCompletionSummary`. -/
structure Completion where
  completedSuccessfully : Bool
  sent : Nat
  restricted : Nat
  failed : Nat
  safetyCancelled : Nat
  unresolved : Nat
  otherTerminal : Nat
  terminalRecipients : Nat
  deriving DecidableEq, Repr

structure Campaign where
  name : String
  productName : String
  targetCount : Int
  cooldownDays : Int
  messageTemplate : String
  rankingDirection : RankingDirection := .DESC
  state : CampaignState := .DRAFT
  version : Int := 1
  /-- The numbers of the `summary` column. -/
  summary : List (String × Int) := []
  completion : Option Completion := none
  frozenAt : Option Int := none
  freezeExpiresAt : Option Int := none
  dispatchCount : Int := 0
  safetyPauseReason : Option String := none
  deriving DecidableEq, Repr

structure Recipient where
  eligibility : Eligibility
  skipReason : Option String := none
  rankingValue : Int
  discoveryOrdinal : Int
  selected : Bool := false
  frozenMessage : Option String := none
  contentHash : Option String := none
  creatorOpenIdSnapshot : Option String := none
  frozenRank : Option Nat := none
  state : RecipientState := .DISCOVERED
  deriving DecidableEq, Repr

structure Reservation where
  shopId : Nat
  creatorId : Nat
  expiresAt : Int
  deriving DecidableEq, Repr

structure Delivery where
  conversationId : Option String := none
  contentHash : String
  state : DeliveryState := .PENDING
  externalMessageId : Option String := none
  attemptCount : Int := 0
  lastAttemptedAt : Option Int := none
  firstDispatchedAt : Option Int := none
  sentAt : Option Int := none
  deriving DecidableEq, Repr

structure Outbox where
  state : OutboxState := .PENDING
  availableAt : Int
  deriving DecidableEq, Repr

structure Attempt where
  outcome : AttemptOutcome
  startedAt : Int
  completedAt : Option Int := none
  deriving DecidableEq, Repr

structure ReconciliationRun where
  state : ReconciliationState := .PENDING
  matchedMessageId : Option String := none
  scheduledFor : Int
  completedAt : Option Int := none
  deriving DecidableEq, Repr

structure DispatchEvent where
  campaignId : CampaignId
  deliveryId : DeliveryId
  dispatchedAt : Int
  deriving DecidableEq, Repr

/-- A `CreatorShopContactState`. -/
structure Contact where
  firstContactedAt : Option Int := none
  lastContactedAt : Option Int := none
  contactCount : Int := 0
  lastCampaignId : Option CampaignId := none
  lastDeliveryId : Option DeliveryId := none
  doNotContact : Bool := false
  unresolvedDelivery : Bool := false
  deriving DecidableEq, Repr

structure Creator where
  creatorOpenId : Option String
  username : Option String
  nickname : Option String
  creatorImId : Option String := none
  deriving DecidableEq, Repr

/-- The unique `externalConversationId` is the key of the row. -/
structure Conversation where
  shopId : Nat
  creatorId : Nat
  deriving DecidableEq, Repr

/-- The unique `externalMessageId` is the key of the row. -/
structure ConversationMessage where
  conversationId : String
  direction : Direction
  contentHash : String
  providerCreatedAt : Int
  deriving DecidableEq, Repr

inductive FactStatus
  | SENT
  | UNKNOWN
  /-- Any other text of `sendStatus`. -/
  | OTHER (text : String)
  deriving DecidableEq, Repr

inductive FactResolution
  | MATCHED
  /-- Any other text of `resolutionState`. -/
  | OTHER (text : String)
  deriving DecidableEq, Repr

/-- A `HistoricalContactFact`, under its shop and its `identityKey`. -/
structure HistoricalContactFact where
  externalMessageId : Option String
  creatorOpenId : Option String
  conversationId : Option String := none
  contactedAt : Int
  sendStatus : FactStatus
  resolutionState : FactResolution
  deriving DecidableEq, Repr

/-! ## The database -/

structure Db where
  campaigns : Table CampaignId Campaign := Table.empty
  recipients : Table RecipientId Recipient := Table.empty
  reservations : Table RecipientId Reservation := Table.empty
  deliveries : Table DeliveryId Delivery := Table.empty
  outbox : Table RecipientId Outbox := Table.empty
  attempts : Table (DeliveryId × Int) Attempt := Table.empty
  reconciliations : Table (DeliveryId × Int) ReconciliationRun := Table.empty
  dispatchEvents : List DispatchEvent := []
  /-- `dispatchCount` of the daily usage, by shop and date. -/
  dailyUsage : Table (Nat × Int) Int := Table.empty
  contacts : Table (Nat × Nat) Contact := Table.empty
  creators : Table Nat Creator := Table.empty
  conversations : Table String Conversation := Table.empty
  messages : Table String ConversationMessage := Table.empty
  facts : Table (Nat × String) HistoricalContactFact := Table.empty
  discoveryRuns : Table CampaignId DiscoveryRunState := Table.empty
  /-- The limiters, permits and events of the outbound governor. -/
  governor : outbound_throttle.Store := outbound_throttle.Store.empty

/-- The row locks of a transaction, and those of the unique indexes it inserts into. -/
inductive RowId
  | campaign (id : CampaignId)
  | recipient (id : RecipientId)
  | reservation (id : RecipientId)
  | reservedCreator (shopId creatorId : Nat)
  | delivery (id : DeliveryId)
  | externalMessage (id : String)
  | outbox (id : RecipientId)
  | attempt (id : DeliveryId × Int)
  | reconciliation (id : DeliveryId × Int)
  | dailyUsage (key : Nat × Int)
  | contact (key : Nat × Nat)
  | creator (id : Nat)
  | conversation (id : String)
  | message (id : String)
  | fact (key : Nat × String)
  | discoveryRun (id : CampaignId)
  /-- All rows of the outbound governor, which its own advisory locks guard. -/
  | governor
  deriving DecidableEq, Repr

/-- The advisory locks: `lockCreatorEligibility` takes the first kind. -/
inductive LockKey
  | creator (shopId creatorId : Nat)
  | outbound (shopId : Nat)
  | historicalIdentity (shopId : Nat) (identityKey : String)
  | creatorIdentity (first second : Nat)
  deriving DecidableEq, Repr

namespace table

@[simp] def campaigns : TableOf Db RowId CampaignId Campaign :=
  ⟨Db.campaigns, fun db t => { db with campaigns := t }, .campaign⟩
@[simp] def recipients : TableOf Db RowId RecipientId Recipient :=
  ⟨Db.recipients, fun db t => { db with recipients := t }, .recipient⟩
@[simp] def reservations : TableOf Db RowId RecipientId Reservation :=
  ⟨Db.reservations, fun db t => { db with reservations := t }, .reservation⟩
@[simp] def deliveries : TableOf Db RowId DeliveryId Delivery :=
  ⟨Db.deliveries, fun db t => { db with deliveries := t }, .delivery⟩
@[simp] def outbox : TableOf Db RowId RecipientId Outbox :=
  ⟨Db.outbox, fun db t => { db with outbox := t }, .outbox⟩
@[simp] def attempts : TableOf Db RowId (DeliveryId × Int) Attempt :=
  ⟨Db.attempts, fun db t => { db with attempts := t }, .attempt⟩
@[simp] def reconciliations : TableOf Db RowId (DeliveryId × Int) ReconciliationRun :=
  ⟨Db.reconciliations, fun db t => { db with reconciliations := t }, .reconciliation⟩
@[simp] def dailyUsage : TableOf Db RowId (Nat × Int) Int :=
  ⟨Db.dailyUsage, fun db t => { db with dailyUsage := t }, .dailyUsage⟩
@[simp] def contacts : TableOf Db RowId (Nat × Nat) Contact :=
  ⟨Db.contacts, fun db t => { db with contacts := t }, .contact⟩
@[simp] def creators : TableOf Db RowId Nat Creator :=
  ⟨Db.creators, fun db t => { db with creators := t }, .creator⟩
@[simp] def conversations : TableOf Db RowId String Conversation :=
  ⟨Db.conversations, fun db t => { db with conversations := t }, .conversation⟩
@[simp] def messages : TableOf Db RowId String ConversationMessage :=
  ⟨Db.messages, fun db t => { db with messages := t }, .message⟩
@[simp] def facts : TableOf Db RowId (Nat × String) HistoricalContactFact :=
  ⟨Db.facts, fun db t => { db with facts := t }, .fact⟩
@[simp] def discoveryRuns : TableOf Db RowId CampaignId DiscoveryRunState :=
  ⟨Db.discoveryRuns, fun db t => { db with discoveryRuns := t }, .discoveryRun⟩

end table

/-! ## Errors -/

inductive TikTokOutboundErrorKind
  | AUTH
  | PERMISSION
  | QUOTA
  | RESTRICTED
  | RETRYABLE
  | PROVIDER
  | MALFORMED_RESPONSE
  deriving DecidableEq, Repr

structure TikTokOutboundError where
  kind : TikTokOutboundErrorKind
  providerCode : Option Int := none
  retryAfterMs : Option ℚ := none
  httpStatus : Option Int := none
  deriving DecidableEq, Repr

/-- What a function of the source can throw. -/
inductive Failure
  | outbound (error : TikTokOutboundError)
  /-- `P2002`: a unique constraint failed. -/
  | uniqueViolation
  /-- `P2025`: a required row does not exist. -/
  | notFound
  | badRequest (message : String)
  /-- BullMQ's `DelayedError`. -/
  | delayed
  | other (message : String)
  deriving DecidableEq, Repr

abbrev Transaction (α : Type) := Tx Db LockKey RowId Failure α

/-- One lock for each creator, in a fixed order. -/
def lockCreatorEligibility (shopId : Nat) (creatorIds : List Nat) : Transaction Unit :=
  (creatorIds.dedup.insertionSort (· ≤ ·)).foldr
    (fun creatorId rest => Tx.lock (LockKey.creator shopId creatorId) rest) (Tx.ret ())

@[simp] theorem run_lockCreatorEligibility (shopId : Nat) (creatorIds : List Nat) (db : Db) :
    (lockCreatorEligibility shopId creatorIds).run db = .ok ((), db) := by
  unfold lockCreatorEligibility
  induction creatorIds.dedup.insertionSort (· ≤ ·) with
  | nil => rfl
  | cons creatorId rest ih => exact ih

@[simp] theorem keeps_lockCreatorEligibility {τ : Type} (π : Db → τ) (shopId : Nat)
    (creatorIds : List Nat) : (lockCreatorEligibility shopId creatorIds).Keeps π := by
  unfold lockCreatorEligibility
  induction creatorIds.dedup.insertionSort (· ≤ ·) with
  | nil => trivial
  | cons creatorId rest ih => exact ih

end tiktok_outreach.schema
