-- The calls that the programs of the system make. A command is one database
-- transaction with the arguments it is called with, and the other calls go to
-- the provider, the queue and the clock.
import TiktokOutreach.QueueOutbox
import TiktokOutreach.OutreachService
import TiktokOutreach.Lib.Executions

open tables transactions executions tiktok_outreach.schema tiktok_outreach.dispatch_safety
  tiktok_outreach.settlements tiktok_outreach.outreach_service tiktok_outreach.outbound_throttle

namespace tiktok_outreach.commands

/-- A call of the database. Where a function of the source is one transaction, the command has
its name. -/
inductive Command
  | findSendRecipient (id : RecipientId)
  | recoverDispatchingDelivery (id : RecipientId)
  | reserveDispatchSlot (id : RecipientId)
  | createAttempt (id : DeliveryId) (attemptNumber : Int)
  | updateAttempt (id : DeliveryId) (attemptNumber : Int) (outcome : AttemptOutcome)
  | upsertConversation (id : RecipientId) (conversationId : String)
  | setConversation (id : DeliveryId) (conversationId : String)
  | createMockMessage (externalMessageId conversationId contentHash : String)
  | markSent (id : RecipientId) (creatorOpenId : Option String)
      (conversationId externalMessageId : String)
  | markTerminalFailure (id : RecipientId) (errorCode : String)
  | markRestricted (id : RecipientId) (errorCode : String)
  | markDeliveryUnknown (id : RecipientId) (attemptNumber : Int)
  | makeDeliveryRetryable (id : RecipientId)
  | pauseCampaign (id : CampaignId)
  | acknowledgePause (id : CampaignId)
  | pauseShopForProviderFailure (shopId : Nat) (kind : TikTokOutboundErrorKind)
  | pauseShopForProviderQuota (shopId : Nat) (errorCode : String)
  | campaignState (id : CampaignId)
  | frozenRecipientStates (id : CampaignId)
  | completeCampaign (id : CampaignId) (completion : Completion)
  | scheduleReconciliationRun (id : DeliveryId) (attemptNumber scheduledFor : Int)
  | findUnknownDelivery (id : DeliveryId)
  | linkedMessageIds
  | updateReconciliationRun (id : DeliveryId) (attemptNumber : Int) (state : ReconciliationState)
      (matchedMessageId : Option String)
  | giveUpReconciliation (id : DeliveryId) (attemptNumber : Int)
  | acquire (shopId : Nat) (operation : OutboundProviderOperation) (owner : String)
  | healthy (permit : Permit) (outcome : String) (meta_ : ResponseMeta)
  | throttle (permit : Permit) (meta_ : ResponseMeta) (retryAfterMs : Option ℚ)
  | transientFailure (permit : Permit) (meta_ : ResponseMeta)
  | quotaBlocked (permit : Permit) (code detail : String) (meta_ : ResponseMeta)
  | release (permit : Permit) (outcome : String) (meta_ : ResponseMeta)
  | expireFrozenCampaigns
  | requiredCampaign (id : CampaignId)
  | freeze (id : CampaignId) (version : Int) (campaign : Campaign) (expiresAt : Int)
  | queueFrozen (id : CampaignId) (version : Int)
  | requestPause (id : CampaignId)
  | resume (id : CampaignId) (quotaRecovery : Bool)
  | cancel (id : CampaignId)
  | findDiscoveryRun (id : CampaignId)
  | rebuild (id : CampaignId) (retained : List RetainedCreator) (summary : List (String × Int))
  | completeSettledOutbox
  | queuedRecipients (limit : Nat)
  | upsertOutbox (id : RecipientId)
  | openOutbox (limit : Nat)
  | markEnqueued (id : RecipientId)
  | requeueOutbox (id : RecipientId) (backoffMs : Option Int)

/-- What a command returns. -/
def Command.Result : Command → Type
  | findSendRecipient _ => Option SendRecipient
  | reserveDispatchSlot _ => DispatchClaim
  | campaignState _ => CampaignState
  | frozenRecipientStates _ => List RecipientState
  | findUnknownDelivery _ => Option UnknownDelivery
  | linkedMessageIds => List String
  | acquire _ _ _ => PermitResult
  | throttle _ _ _ => ThrottleResult
  | transientFailure _ _ => TransientResult
  | expireFrozenCampaigns => Nat
  | requiredCampaign _ => Campaign
  | findDiscoveryRun _ => Option DiscoveryRunState
  | queuedRecipients _ => List RecipientId
  | upsertOutbox _ => Outbox
  | openOutbox _ => List RecipientId
  | _ => Unit

/-- What the code takes from outside while a transaction runs: the values of its calls of
`new Date()`, in order, and of `Math.random()`. -/
structure Ambient where
  now : Nat → Int
  random : ℚ

/-- A transaction of the governor, on its own tables. -/
def governed {α : Type} (f : Store → Except DbError (α × Store)) : Transaction α :=
  Tx.stmt (fun _ => [.governor])
    (fun v db => match f v.governor with
      | .ok r => { db with governor := r.2 }
      | .error _ => db)
    (fun v => match f v.governor with
      | .ok r => Tx.ret r.1
      | .error .uniqueViolation => Tx.throw .uniqueViolation
      | .error .notFound => Tx.throw .notFound)

def settled (f : Store → Except DbError Store) : Store → Except DbError (Unit × Store) :=
  fun s => (f s).map (fun s' => ((), s'))

/-- The transaction of a command. -/
def Command.body (env : Environment) (options : Options) (ambient : Ambient) :
    (c : Command) → Transaction c.Result
  | findSendRecipient id => settlements.findSendRecipient id
  | recoverDispatchingDelivery id => dispatch_safety.recoverDispatchingDelivery id
  | reserveDispatchSlot id =>
    dispatch_safety.reserveDispatchSlot env.shopDate id (ambient.now 0)
  | createAttempt id n => settlements.createAttempt id n (ambient.now 0)
  | updateAttempt id n outcome => settlements.updateAttempt id n outcome (ambient.now 0)
  | upsertConversation id conversationId => settlements.upsertConversation id conversationId
  | setConversation id conversationId => settlements.setConversation id conversationId
  | createMockMessage messageId conversationId contentHash =>
    settlements.createMockMessage messageId conversationId contentHash (ambient.now 0)
  | markSent id creatorOpenId conversationId messageId =>
    settlements.markSent id creatorOpenId conversationId messageId (ambient.now 0)
  | markTerminalFailure id errorCode => settlements.markTerminalFailure id errorCode
  | markRestricted id errorCode => settlements.markRestricted id errorCode
  | markDeliveryUnknown id n => settlements.markDeliveryUnknown id n (ambient.now 0)
  | makeDeliveryRetryable id => settlements.makeDeliveryRetryable id
  | pauseCampaign id => settlements.pauseCampaign id
  | acknowledgePause id => settlements.acknowledgePause id
  | pauseShopForProviderFailure shopId kind =>
    settlements.pauseShopForProviderFailure shopId kind
  | pauseShopForProviderQuota shopId errorCode =>
    settlements.pauseShopForProviderQuota shopId errorCode
  | campaignState id => settlements.campaignState id
  | frozenRecipientStates id => settlements.frozenRecipientStates id
  | completeCampaign id completion => settlements.completeCampaign id completion
  | scheduleReconciliationRun id n scheduledFor =>
    settlements.scheduleReconciliationRun id n scheduledFor
  | findUnknownDelivery id => settlements.findUnknownDelivery id
  | linkedMessageIds => settlements.linkedMessageIds
  | updateReconciliationRun id n state matched =>
    settlements.updateReconciliationRun id n state matched (ambient.now 0)
  | giveUpReconciliation id n => settlements.giveUpReconciliation id n (ambient.now 0)
  | acquire shopId operation owner =>
    governed (outbound_throttle.acquire options shopId operation owner (ambient.now 0))
  | healthy permit outcome meta_ =>
    governed (settled (outbound_throttle.healthy permit outcome meta_ (ambient.now 0)))
  | throttle permit meta_ retryAfterMs =>
    governed (outbound_throttle.throttle permit meta_ retryAfterMs ambient.random (ambient.now 0))
  | transientFailure permit meta_ =>
    governed (outbound_throttle.transientFailure permit meta_ ambient.random (ambient.now 0))
  | quotaBlocked permit code detail meta_ =>
    governed (settled (outbound_throttle.quotaBlocked permit code detail meta_ (ambient.now 0)))
  | release permit outcome meta_ =>
    governed (settled (outbound_throttle.release permit outcome meta_ (ambient.now 0)))
  | expireFrozenCampaigns => outreach_service.expireFrozenCampaigns (ambient.now 0)
  | requiredCampaign id => Tx.readOrThrow .notFound (fun db => db.campaigns.get id)
  | freeze id version campaign expiresAt =>
    outreach_service.freeze env id version campaign expiresAt (ambient.now 0) (ambient.now 1)
      (ambient.now 2)
  | queueFrozen id version => outreach_service.queueFrozen id version (ambient.now 0)
  | requestPause id => outreach_service.requestPause id
  | resume id quotaRecovery => outreach_service.resume id quotaRecovery (ambient.now 0)
  | cancel id => outreach_service.cancel id
  | findDiscoveryRun id => Tx.read (fun db => db.discoveryRuns.get id)
  | rebuild id retained summary => outreach_service.rebuild id retained summary
  | completeSettledOutbox => queue_outbox.completeSettledOutbox
  | queuedRecipients limit => queue_outbox.queuedRecipients limit
  | upsertOutbox id => queue_outbox.upsertOutbox id (ambient.now 0)
  | openOutbox limit => queue_outbox.openOutbox limit (ambient.now 0)
  | markEnqueued id => queue_outbox.markEnqueued id
  | requeueOutbox id backoffMs => queue_outbox.requeueOutbox id backoffMs (ambient.now 0)

/-! ## All calls -/

/-- The job that `scheduleReconciliation` adds to the queue. -/
structure ReconciliationJob where
  deliveryId : DeliveryId
  attemptNumber : Int
  deriving DecidableEq, Repr

/-- What `adapter.sendMessage` can report. -/
inductive SendMessageResult
  | SENT (messageId : String) (httpStatus : Option Int)
  | DELIVERY_UNKNOWN (httpStatus : Option Int)
  | RESTRICTED (errorCode : String) (httpStatus : Option Int)
  | QUOTA_LIMITED (errorCode : String) (httpStatus : Option Int)
  | RETRYABLE_ERROR (errorCode : String) (retryAfterMs : Option ℚ) (httpStatus : Option Int)
  deriving DecidableEq, Repr

inductive Call
  | db (c : Command)
  | createOrGetConversation (creatorOpenId : String)
  /-- The call of `adapter.sendMessage`, up to its `await`. -/
  | sendMessage (id : DeliveryId) (conversationId creatorOpenId content : String)
  /-- The `await` of `adapter.sendMessage`. -/
  | awaitSend (id : DeliveryId)
  | addJob (job : ReconciliationJob)
  /-- The worker takes a reconciliation job from the queue. -/
  | takeJob (job : ReconciliationJob)
  /-- `queue.getJob` for the send job of a recipient: whether it exists. -/
  | getJob (id : RecipientId)
  | getJobState (id : RecipientId)
  | removeJob (id : RecipientId)
  | addSendJob (id : RecipientId)
  /-- `queues.reconcile()`, which puts the pending entries of the outbox into the queue. -/
  | reconcileOutbox
  | moveToDelayed (delayMs : Int)
  | sleep (ms : Int)
  | outboundCapability
  /-- The reads of the creator database and the preview built from them. -/
  | buildPreview (id : CampaignId)
  | dateNow
  /-- A wait that does not end. -/
  | forever

def Call.Result : Call → Type
  | db c => c.Result
  | createOrGetConversation _ => String
  | awaitSend _ => SendMessageResult
  | outboundCapability => Bool
  | getJob _ => Bool
  | getJobState _ => String
  | buildPreview _ => List RetainedCreator × List (String × Int)
  | dateNow => Int
  | forever => Empty
  | _ => Unit

/-- The answer of a call: a result, or what it throws. -/
abbrev Call.Answer (c : Call) : Type := Except Failure c.Result

/-- A program of the system over the local variables `L`. -/
abbrev Program (L α : Type) : Type := Js Call Call.Result Failure L α

/-- `s.includes(t)` -/
def includes (s t : String) : Bool := s.toList.tails.any (fun rest => t.toList.isPrefixOf rest)

def query {L : Type} (c : Command) : Program L c.Result := Js.call (Call.db c)

end tiktok_outreach.commands
