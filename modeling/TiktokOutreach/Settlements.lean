-- The transactions by which the worker settles a delivery, completes a campaign
-- and reconciles an unknown delivery (apps/worker/src/main.ts,
-- campaign-completion.ts and reconcileUnknownDelivery of packages/domain).
import TiktokOutreach.DispatchSafety

open tables transactions tiktok_outreach.schema tiktok_outreach.dispatch_safety

namespace tiktok_outreach.settlements

/-! ## The settlements of one delivery -/

def unknownState : DeliveryState → Bool
  | .DELIVERY_UNKNOWN | .DELIVERY_UNKNOWN_UNRESOLVED => true
  | _ => false

def markSent (id : RecipientId) (creatorOpenId : Option String)
    (conversationId externalMessageId : String) (now : Int) : Transaction Unit := do
  lockCreatorEligibility id.shopId [id.creatorId]
  let previous ← Tx.read (fun db => db.contacts.get (id.shopId, id.creatorId))
  Tx.updateUnique table.deliveries .notFound .uniqueViolation [.externalMessage externalMessageId]
    (fun db => db.deliveries.any (fun id' d =>
      id' ≠ id && d.externalMessageId = some externalMessageId)) id
    (fun delivery => { delivery with
      state := .SENT
      conversationId := some conversationId
      externalMessageId := some externalMessageId
      sentAt := some now })
  Tx.update table.recipients .notFound id (fun recipient => { recipient with state := .SENT })
  let otherUnknownDeliveries ← Tx.read (fun db => db.deliveries.count (fun id' d =>
    id' ≠ id && unknownState d.state && id'.creatorId = id.creatorId && id'.shopId = id.shopId))
  let historicalUnknownFacts ← Tx.read (fun db => db.facts.count (fun key f =>
    key.1 = id.shopId && f.creatorOpenId = creatorOpenId && f.sendStatus = .UNKNOWN &&
      f.resolutionState = .MATCHED))
  let unresolvedDelivery := decide (0 < otherUnknownDeliveries) || decide (0 < historicalUnknownFacts)
  Tx.upsert table.contacts (id.shopId, id.creatorId)
    (fun contact => { contact with
      firstContactedAt := some ((previous.bind (·.firstContactedAt)).getD now)
      lastContactedAt := some now
      contactCount := contact.contactCount + 1
      lastCampaignId := some id.campaignId
      lastDeliveryId := some id
      unresolvedDelivery })
    { firstContactedAt := some now
      lastContactedAt := some now
      contactCount := 1
      lastCampaignId := some id.campaignId
      lastDeliveryId := some id
      unresolvedDelivery }
  Tx.deleteMany table.reservations (fun _ id' _ => id' = id)
  completeOutbox id

/-- The four writes that `markTerminalFailure` and `markRestricted` share. -/
def settleWithout (id : RecipientId) (deliveryState : DeliveryState)
    (recipientState : RecipientState) (errorCode : String) : Transaction Unit := do
  Tx.update table.deliveries .notFound id (fun delivery =>
    { delivery with state := deliveryState })
  Tx.update table.recipients .notFound id (fun recipient =>
    { recipient with state := recipientState, skipReason := some errorCode })
  Tx.deleteMany table.reservations (fun _ id' _ => id' = id)
  completeOutbox id

def markTerminalFailure (id : RecipientId) (errorCode : String) : Transaction Unit :=
  settleWithout id .FAILED_TERMINAL .FAILED errorCode

def markRestricted (id : RecipientId) (errorCode : String) : Transaction Unit :=
  settleWithout id .RESTRICTED .RESTRICTED errorCode

/-- The transaction of `markDeliveryUnknown`, without the scheduling that follows it. -/
def markDeliveryUnknown (id : RecipientId) (attemptNumber : Int) (now : Int) :
    Transaction Unit := do
  lockCreatorEligibility id.shopId [id.creatorId]
  Tx.update table.attempts .notFound (id, attemptNumber) (fun attempt =>
    { attempt with outcome := .DELIVERY_UNKNOWN, completedAt := some now })
  Tx.update table.deliveries .notFound id (fun delivery =>
    { delivery with state := .DELIVERY_UNKNOWN })
  Tx.update table.recipients .notFound id (fun recipient =>
    { recipient with state := .DELIVERY_UNKNOWN })
  markUnresolved id
  completeOutbox id

def makeDeliveryRetryable (id : RecipientId) : Transaction Unit := do
  Tx.update table.deliveries .notFound id (fun delivery =>
    { delivery with state := .FAILED_RETRYABLE })
  Tx.update table.recipients .notFound id (fun recipient => { recipient with state := .QUEUED })

/-! ## The pauses -/

/-- The writes that `pauseShopForProviderFailure` and `pauseShopForProviderQuota` share. -/
def pauseShop (shopId : Nat) (reason : String) : Transaction Unit := do
  let _ ← Tx.updateMany table.campaigns
    (fun _ id campaign => id.shopId = shopId && dispatching campaign.state)
    (fun campaign => { campaign with
      state := .SAFETY_PAUSED, safetyPauseReason := some reason, version := campaign.version + 1 })
  let _ ← Tx.updateMany table.outbox
    (fun _ id entry => id.shopId = shopId && (entry.state = .PENDING || entry.state = .ENQUEUED))
    (fun entry => { entry with state := .SAFETY_PAUSED })

def kindText : TikTokOutboundErrorKind → String
  | .AUTH => "auth"
  | .PERMISSION => "permission"
  | .QUOTA => "quota"
  | .RESTRICTED => "restricted"
  | .RETRYABLE => "retryable"
  | .PROVIDER => "provider"
  | .MALFORMED_RESPONSE => "malformed_response"

def pauseShopForProviderFailure (shopId : Nat) (kind : TikTokOutboundErrorKind) :
    Transaction Unit :=
  pauseShop shopId
    ("TikTok " ++ kindText kind ++ " failure paused outbound; operator action is required")

def pauseShopForProviderQuota (shopId : Nat) (errorCode : String) : Transaction Unit :=
  pauseShop shopId ("TikTok outbound IM quota " ++ errorCode ++
    " blocked outbound; provider recovery or operator action is required")

/-! ## The completion of a campaign -/

def terminalRecipientState : RecipientState → Bool
  | .SENT | .RESTRICTED | .FAILED | .DELIVERY_UNKNOWN_UNRESOLVED | .CANCELLED => true
  | _ => false

def allFrozenRecipientsTerminal (states : List RecipientState) : Bool :=
  decide (0 < states.length) && states.all terminalRecipientState

def campaignCompletionSummary (states : List RecipientState) : Completion :=
  let sent := states.count .SENT
  let failed := states.count .FAILED
  let restricted := states.count .RESTRICTED
  let safetyCancelled := states.count .CANCELLED
  let unresolved := states.count .DELIVERY_UNKNOWN_UNRESOLVED
  { completedSuccessfully := decide (0 < states.length) && decide (sent = states.length)
    sent, restricted, failed, safetyCancelled, unresolved
    otherTerminal := states.length - sent - failed - restricted - safetyCancelled - unresolved
    terminalRecipients := states.length }

/-- The states that `completeCampaignIfDone` reads. -/
def frozenRecipientStates (campaignId : CampaignId) : Transaction (List RecipientState) :=
  Tx.read (fun db => (db.recipients.findMany (fun id r =>
    id.campaignId = campaignId && r.selected && r.frozenMessage.isSome)).map (·.2.state))

def completeCampaign (campaignId : CampaignId) (completion : Completion) : Transaction Unit :=
  Tx.update table.campaigns .notFound campaignId (fun campaign => { campaign with
    state := if completion.completedSuccessfully then .COMPLETED else .COMPLETED_WITH_ERRORS
    completion := some completion })

/-! ## The reconciliation of an unknown delivery -/

inductive Reconciliation
  | MATCHED (messageId : String)
  | UNRESOLVED
  deriving DecidableEq, Repr

def reconcileUnknownDelivery (contentHash : String) (dispatchedAt : Int)
    (messages : List (String × ConversationMessage)) (alreadyLinked : List String) :
    Reconciliation :=
  let windowStart := dispatchedAt - 30000
  let windowEnd := dispatchedAt + 2 * 60 * 60 * 1000
  let found := messages.filter (fun m =>
    m.2.direction = .OUTBOUND && m.2.contentHash = contentHash &&
      decide (windowStart ≤ m.2.providerCreatedAt) && decide (m.2.providerCreatedAt ≤ windowEnd) &&
      !alreadyLinked.contains m.1)
  match found with
  | [m] => .MATCHED m.1
  | _ => .UNRESOLVED

/-- What `processReconciliation` reads of a delivery. -/
structure UnknownDelivery where
  state : DeliveryState
  contentHash : String
  firstDispatchedAt : Option Int
  conversationId : Option String
  messages : List (String × ConversationMessage)
  creatorOpenId : Option String
  deriving DecidableEq, Repr

def findUnknownDelivery (id : DeliveryId) : Transaction (Option UnknownDelivery) :=
  Tx.read (fun db => (db.deliveries.get id).map (fun d => {
    state := d.state
    contentHash := d.contentHash
    firstDispatchedAt := d.firstDispatchedAt
    conversationId := d.conversationId
    messages := db.messages.findMany (fun _ m => some m.conversationId = d.conversationId)
    creatorOpenId := (db.creators.get id.creatorId).bind (·.creatorOpenId) }))

def linkedMessageIds : Transaction (List String) :=
  Tx.read (fun db => db.deliveries.rows.filterMap (·.2.externalMessageId))

def updateReconciliationRun (id : DeliveryId) (attemptNumber : Int) (state : ReconciliationState)
    (matchedMessageId : Option String) (now : Int) : Transaction Unit :=
  Tx.update table.reconciliations .notFound (id, attemptNumber) (fun run => { run with
    state, matchedMessageId := matchedMessageId.or run.matchedMessageId, completedAt := some now })

/-- The last transaction of a reconciliation that found nothing. -/
def giveUpReconciliation (id : DeliveryId) (attemptNumber : Int) (now : Int) :
    Transaction Unit := do
  updateReconciliationRun id attemptNumber .UNRESOLVED none now
  Tx.update table.deliveries .notFound id (fun delivery =>
    { delivery with state := .DELIVERY_UNKNOWN_UNRESOLVED })
  Tx.update table.recipients .notFound id (fun recipient =>
    { recipient with state := .DELIVERY_UNKNOWN_UNRESOLVED })
  Tx.deleteMany table.reservations (fun _ id' _ => id' = id)

def scheduleReconciliationRun (id : DeliveryId) (attemptNumber : Int) (scheduledFor : Int) :
    Transaction Unit :=
  Tx.upsert table.reconciliations (id, attemptNumber)
    (fun run => { run with scheduledFor }) { scheduledFor }

/-! ## What `processSend` reads and writes besides -/

structure DeliverySnapshot where
  state : DeliveryState
  attemptCount : Int
  deriving DecidableEq, Repr

/-- What `processSend` reads of its recipient, once, at its start. -/
structure SendRecipient where
  id : RecipientId
  frozenMessage : Option String
  contentHash : Option String
  creatorOpenIdSnapshot : Option String
  creatorOpenId : Option String
  campaignState : CampaignState
  delivery : Option DeliverySnapshot
  deriving DecidableEq, Repr

def findSendRecipient (id : RecipientId) : Transaction (Option SendRecipient) :=
  Tx.read (fun db => do
    let recipient ← db.recipients.get id
    let campaign ← db.campaigns.get id.campaignId
    let creator ← db.creators.get id.creatorId
    return {
      id
      frozenMessage := recipient.frozenMessage
      contentHash := recipient.contentHash
      creatorOpenIdSnapshot := recipient.creatorOpenIdSnapshot
      creatorOpenId := creator.creatorOpenId
      campaignState := campaign.state
      delivery := (db.deliveries.get id).map (fun d => ⟨d.state, d.attemptCount⟩) })

/-- What the first read of `processSend` shows. -/
theorem run_findSendRecipient {id : RecipientId} {recipient : SendRecipient} {db db' : Db}
    (h : (findSendRecipient id).run db = .ok (some recipient, db')) :
    db' = db ∧ recipient.id = id ∧
      (db.campaigns.get id.campaignId).map (·.state) = some recipient.campaignState ∧
      recipient.delivery = (db.deliveries.get id).map (fun d => ⟨d.state, d.attemptCount⟩) := by
  cases hr : db.recipients.get id with
  | none => simp [findSendRecipient, hr] at h
  | some row =>
    cases hc : db.campaigns.get id.campaignId with
    | none => simp [findSendRecipient, hr, hc] at h
    | some campaign =>
      cases hcreator : db.creators.get id.creatorId with
      | none => simp [findSendRecipient, hr, hc, hcreator] at h
      | some creator =>
        simp [findSendRecipient, hr, hc, hcreator] at h
        obtain ⟨rfl, rfl⟩ := h
        exact ⟨rfl, rfl, rfl, rfl⟩

/-- The acknowledgement of a pause by its id alone. -/
def pauseCampaign (campaignId : CampaignId) : Transaction Unit :=
  Tx.update table.campaigns .notFound campaignId (fun campaign => { campaign with state := .PAUSED })

/-- The acknowledgement of a pause that is still requested. -/
def acknowledgePause (campaignId : CampaignId) : Transaction Unit := do
  let _ ← Tx.updateMany table.campaigns
    (fun _ id campaign => id = campaignId && campaign.state = .PAUSE_REQUESTED)
    (fun campaign => { campaign with state := .PAUSED })

def campaignState (campaignId : CampaignId) : Transaction CampaignState :=
  Tx.readOrThrow .notFound (fun db => (db.campaigns.get campaignId).map (·.state))

def createAttempt (id : DeliveryId) (attemptNumber : Int) (now : Int) : Transaction Unit :=
  Tx.create table.attempts .uniqueViolation [] (fun _ => false) (id, attemptNumber)
    { outcome := .STARTED, startedAt := now }

def updateAttempt (id : DeliveryId) (attemptNumber : Int) (outcome : AttemptOutcome) (now : Int) :
    Transaction Unit :=
  Tx.update table.attempts .notFound (id, attemptNumber) (fun attempt =>
    { attempt with outcome, completedAt := some now })

def upsertConversation (id : RecipientId) (conversationId : String) : Transaction Unit :=
  Tx.upsert table.conversations conversationId (fun conversation => conversation)
    ⟨id.shopId, id.creatorId⟩

def setConversation (id : DeliveryId) (conversationId : String) : Transaction Unit :=
  Tx.update table.deliveries .notFound id (fun delivery =>
    { delivery with conversationId := some conversationId })

/-- The message that the mock provider writes for a delivery it will reconcile. -/
def createMockMessage (externalMessageId conversationId contentHash : String) (now : Int) : Transaction Unit :=
  Tx.create table.messages .uniqueViolation [] (fun _ => false) externalMessageId
    { conversationId, direction := .OUTBOUND, contentHash, providerCreatedAt := now }

end tiktok_outreach.settlements
