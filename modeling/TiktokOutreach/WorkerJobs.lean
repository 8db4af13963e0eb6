-- The jobs of the outbound worker (apps/worker/src/main.ts), as programs whose
-- calls are the awaits of the source.
import TiktokOutreach.Commands

open executions tiktok_outreach.schema tiktok_outreach.dispatch_safety tiktok_outreach.settlements
  tiktok_outreach.outbound_throttle tiktok_outreach.commands

namespace tiktok_outreach.worker

structure WorkerConfig where
  workerInstanceId : String
  /-- `configuredOutboundCapability(config).mutationCapability` -/
  mutationCapability : Bool
  reconciliationDelays : List Int
  /-- The deliveries of the mock mode that get a message to reconcile with. -/
  mockReconciles : String → Bool

structure SendJob where
  recipientId : RecipientId
  attemptsMade : Int
  attempts : Option Int
  hasToken : Bool

/-- The variables that the `finally` block of `processSend` reads. -/
structure SendLocals where
  createPermitSettled : Bool := false
  sendPermit : Option Permit := none
  sendPermitSettled : Bool := false

/-! ## Helpers -/

section Helpers

variable {L : Type}

def delayJob {α : Type} (job : SendJob) (delayMs : Int) : Program L α :=
  if !job.hasToken then Js.throw (.other "Active job has no token")
  else do
    Js.call (Call.moveToDelayed delayMs)
    Js.throw .delayed

def scheduleReconciliation (config : WorkerConfig) (id : DeliveryId) (attemptNumber : Int) :
    Program L Unit := do
  let index := min (attemptNumber - 1) (config.reconciliationDelays.length - 1)
  let delay := if index < 0 then 300000 else (config.reconciliationDelays[index.toNat]?).getD 300000
  let now : Int ← Js.call Call.dateNow
  query (.scheduleReconciliationRun id attemptNumber (now + delay))
  Js.call (Call.addJob ⟨id, attemptNumber⟩)

def completeCampaignIfDone (campaignId : CampaignId) : Program L Unit := do
  let states : List RecipientState ← query (.frozenRecipientStates campaignId)
  if !allFrozenRecipientsTerminal states then pure ()
  else do
    let state : CampaignState ← query (.campaignState campaignId)
    if state = .CANCELLED then pure ()
    else query (.completeCampaign campaignId (campaignCompletionSummary states))

/-- A wait of more than `rounds` rounds does not end. -/
def waitForSendPermitWhileCampaignActive (id : RecipientId) (owner : String) :
    Nat → Program L (Option Permit)
  | 0 => do
    let never : Empty ← Js.call Call.forever
    nomatch never
  | rounds + 1 => do
    let result : PermitResult ← query (.acquire id.shopId .SEND_MESSAGE owner)
    match result with
    | .acquired permit _ => pure (some permit)
    | .refused delayMs _ _ _ => do
      let state : CampaignState ← query (.campaignState id.campaignId)
      if !dispatching state then pure none
      else do
        Js.call (Call.sleep (min 1000 delayMs))
        waitForSendPermitWhileCampaignActive id owner rounds

end Helpers

def kindName : TikTokOutboundErrorKind → String
  | .AUTH => "AUTH"
  | .PERMISSION => "PERMISSION"
  | .QUOTA => "QUOTA"
  | .RESTRICTED => "RESTRICTED"
  | .RETRYABLE => "RETRYABLE"
  | .PROVIDER => "PROVIDER"
  | .MALFORMED_RESPONSE => "MALFORMED_RESPONSE"

/-- `String(error.providerCode ?? fallback)` -/
def codeOr (error : TikTokOutboundError) (fallback : String) : String :=
  match error.providerCode with
  | some code => toString code
  | none => fallback

def throttled (error : TikTokOutboundError) : Bool :=
  error.kind = .RETRYABLE && isProviderThrottle error.httpStatus (error.providerCode.map toString)

def createPermitIsSettled : Program SendLocals Unit :=
  Js.modifyLocals fun l => { l with createPermitSettled := true }

def sendPermitIsSettled : Program SendLocals Unit :=
  Js.modifyLocals fun l => { l with sendPermitSettled := true }

def finalAttempt (job : SendJob) : Bool := decide (job.attempts.getD 1 ≤ job.attemptsMade + 1)

/-! ## The conversation -/

/-- The end of the failure path of `createOrGetConversation` for errors that are not one of the
special kinds. -/
def conversationRetry (job : SendJob) (recipient : SendRecipient) (attemptNumber : Int)
    (isThrottled : Bool) (providerDelayMs : Option Int) (error : Failure) : Program SendLocals Unit := do
  query (.updateAttempt recipient.id attemptNumber
    (if isThrottled || !finalAttempt job then .FAILED_RETRYABLE else .FAILED_TERMINAL))
  if !isThrottled && finalAttempt job then do
    query (.markTerminalFailure recipient.id "CONVERSATION_SETUP_FAILED")
    completeCampaignIfDone recipient.id.campaignId
  else do
    query (.makeDeliveryRetryable recipient.id)
    if isThrottled then delayJob job (providerDelayMs.getD 1000)
    else Js.throw error

/-- The `catch` of `createOrGetConversation`. -/
def conversationFailed (job : SendJob) (recipient : SendRecipient) (attemptNumber : Int)
    (createPermit : Permit) (error : Failure) : Program SendLocals Unit :=
  match error with
  | .outbound e =>
    let providerCode := codeOr e (kindName e.kind)
    let meta_ : ResponseMeta := ⟨e.httpStatus, some providerCode⟩
    match e.kind with
    | .QUOTA => do
      query (.quotaBlocked createPermit providerCode
        "TikTok reported that the shop has reached its IM quota" meta_)
      createPermitIsSettled
      query (.updateAttempt recipient.id attemptNumber .FAILED_RETRYABLE)
      query (.makeDeliveryRetryable recipient.id)
      query (.pauseShopForProviderQuota recipient.id.shopId providerCode)
    | .AUTH | .PERMISSION => do
      query (.release createPermit "AUTH_OR_PERMISSION" meta_)
      createPermitIsSettled
      query (.updateAttempt recipient.id attemptNumber .FAILED_RETRYABLE)
      query (.makeDeliveryRetryable recipient.id)
      query (.pauseShopForProviderFailure recipient.id.shopId e.kind)
    | .RESTRICTED => do
      query (.healthy createPermit "RESTRICTED" meta_)
      createPermitIsSettled
      query (.updateAttempt recipient.id attemptNumber .FAILED_TERMINAL)
      query (.markRestricted recipient.id (codeOr e "RESTRICTED"))
      completeCampaignIfDone recipient.id.campaignId
    | .RETRYABLE =>
      if throttled e then do
        let result : ThrottleResult ← query (.throttle createPermit meta_ e.retryAfterMs)
        createPermitIsSettled
        conversationRetry job recipient attemptNumber true (some result.delayMs) error
      else do
        let result : TransientResult ← query (.transientFailure createPermit meta_)
        createPermitIsSettled
        conversationRetry job recipient attemptNumber false (some result.delayMs) error
    | .PROVIDER | .MALFORMED_RESPONSE => do
      query (.healthy createPermit "RESTRICTED" meta_)
      createPermitIsSettled
      conversationRetry job recipient attemptNumber false none error
  | _ => do
    let result : TransientResult ← query (.transientFailure createPermit {})
    createPermitIsSettled
    conversationRetry job recipient attemptNumber false (some result.delayMs) error

/-- The conversation, or `none` when its failure ended the job. -/
def openConversation (job : SendJob) (recipient : SendRecipient) (attemptNumber : Int)
    (createPermit : Permit) (creatorOpenId : String) : Program SendLocals (Option String) :=
  Js.tryCatch
    (do
      let conversationId : String ← Js.call (Call.createOrGetConversation creatorOpenId)
      query (.healthy createPermit "ACCEPTED" { businessCode := some "0" })
      createPermitIsSettled
      return some conversationId)
    (fun error => do
      conversationFailed job recipient attemptNumber createPermit error
      return none)

def persistConversation (recipient : SendRecipient) (attemptNumber : Int)
    (conversationId : String) : Program SendLocals Unit :=
  Js.tryCatch
    (do
      query (.upsertConversation recipient.id conversationId)
      query (.setConversation recipient.id conversationId))
    (fun error => do
      query (.updateAttempt recipient.id attemptNumber .FAILED_RETRYABLE)
      query (.makeDeliveryRetryable recipient.id)
      Js.throw error)

/-! ## The message -/

def pausedBeforeSend (recipient : SendRecipient) (attemptNumber : Int) :
    Program SendLocals Unit := do
  query (.updateAttempt recipient.id attemptNumber .FAILED_RETRYABLE)
  query (.makeDeliveryRetryable recipient.id)
  query (.acknowledgePause recipient.id.campaignId)

/-- The `catch` of `sendMessage`. -/
def sendFailed (config : WorkerConfig) (recipient : SendRecipient) (attemptNumber : Int)
    (sendPermit : Permit) (error : Failure) : Program SendLocals Unit :=
  match error with
  | .outbound e =>
    let code := codeOr e (kindName e.kind)
    match e.kind with
    | .AUTH | .PERMISSION => do
      query (.release sendPermit "AUTH_OR_PERMISSION" ⟨e.httpStatus, some code⟩)
      sendPermitIsSettled
      query (.updateAttempt recipient.id attemptNumber .FAILED_RETRYABLE)
      query (.makeDeliveryRetryable recipient.id)
      query (.pauseShopForProviderFailure recipient.id.shopId e.kind)
    | .QUOTA => do
      let quotaCode := codeOr e "PROVIDER_IM_QUOTA"
      query (.quotaBlocked sendPermit quotaCode "TikTok reported a shop IM quota"
        ⟨e.httpStatus, some quotaCode⟩)
      sendPermitIsSettled
      query (.updateAttempt recipient.id attemptNumber .FAILED_RETRYABLE)
      query (.makeDeliveryRetryable recipient.id)
      query (.pauseShopForProviderQuota recipient.id.shopId quotaCode)
    | .RESTRICTED | .RETRYABLE | .PROVIDER | .MALFORMED_RESPONSE => do
      query (.healthy sendPermit "RESTRICTED" ⟨e.httpStatus, some code⟩)
      sendPermitIsSettled
      query (.updateAttempt recipient.id attemptNumber .FAILED_TERMINAL)
      query (.markTerminalFailure recipient.id code)
      completeCampaignIfDone recipient.id.campaignId
  | _ => do
    query (.release sendPermit "DELIVERY_UNKNOWN" {})
    sendPermitIsSettled
    query (.markDeliveryUnknown recipient.id attemptNumber)
    scheduleReconciliation config recipient.id 1
    completeCampaignIfDone recipient.id.campaignId

/-- The settlement of what `sendMessage` reports. -/
def settleResult (config : WorkerConfig) (job : SendJob) (recipient : SendRecipient)
    (attemptNumber : Int) (sendPermit : Permit) (creatorOpenId conversationId : String) :
    SendMessageResult → Program SendLocals Unit
  | .SENT messageId httpStatus => do
    query (.healthy sendPermit "ACCEPTED" ⟨httpStatus, some "0"⟩)
    sendPermitIsSettled
    query (.updateAttempt recipient.id attemptNumber .SENT)
    query (.markSent recipient.id recipient.creatorOpenId conversationId messageId)
    completeCampaignIfDone recipient.id.campaignId
  | .DELIVERY_UNKNOWN httpStatus => do
    query (.release sendPermit "DELIVERY_UNKNOWN" ⟨httpStatus, none⟩)
    sendPermitIsSettled
    query (.markDeliveryUnknown recipient.id attemptNumber)
    scheduleReconciliation config recipient.id 1
    if config.mockReconciles creatorOpenId then
      query (.createMockMessage ("mock_reconciled_" ++ toString recipient.id.uuid) conversationId
        (recipient.contentHash.getD ""))
    completeCampaignIfDone recipient.id.campaignId
  | .RESTRICTED errorCode httpStatus => do
    query (.healthy sendPermit "RESTRICTED" ⟨httpStatus, some errorCode⟩)
    sendPermitIsSettled
    query (.updateAttempt recipient.id attemptNumber .FAILED_TERMINAL)
    query (.markRestricted recipient.id errorCode)
    completeCampaignIfDone recipient.id.campaignId
  | .QUOTA_LIMITED errorCode httpStatus => do
    query (.quotaBlocked sendPermit errorCode "TikTok reported that outbound IM quota is blocked"
      ⟨httpStatus, some errorCode⟩)
    sendPermitIsSettled
    query (.updateAttempt recipient.id attemptNumber .FAILED_RETRYABLE)
    query (.makeDeliveryRetryable recipient.id)
    query (.pauseShopForProviderQuota recipient.id.shopId errorCode)
  | .RETRYABLE_ERROR errorCode retryAfterMs httpStatus => do
    let isThrottled := isProviderThrottle httpStatus (some errorCode)
    let delayMs : Int ← if isThrottled then do
        let result : ThrottleResult ←
          query (.throttle sendPermit ⟨httpStatus, some errorCode⟩ retryAfterMs)
        pure result.delayMs
      else do
        let result : TransientResult ←
          query (.transientFailure sendPermit ⟨httpStatus, some errorCode⟩)
        pure result.delayMs
    sendPermitIsSettled
    query (.updateAttempt recipient.id attemptNumber
      (if isThrottled || !finalAttempt job then .FAILED_RETRYABLE else .FAILED_TERMINAL))
    if !isThrottled && finalAttempt job then do
      query (.markTerminalFailure recipient.id errorCode)
      completeCampaignIfDone recipient.id.campaignId
    else do
      query (.makeDeliveryRetryable recipient.id)
      if isThrottled then delayJob job delayMs
      else Js.throw (.other errorCode)

/-- The send of the message with a permit, and its settlement. -/
def sendWithPermit (config : WorkerConfig) (job : SendJob) (recipient : SendRecipient)
    (attemptNumber : Int) (sendPermit : Permit) (creatorOpenId conversationId : String) :
    Program SendLocals Unit := do
  Js.modifyLocals fun l => { l with sendPermit := some sendPermit }
  let result ← Js.tryCatch
    (do
      Js.call (Call.sendMessage recipient.id conversationId creatorOpenId
        (recipient.frozenMessage.getD ""))
      let result : SendMessageResult ← Js.call (Call.awaitSend recipient.id)
      return some result)
    (fun error => do
      sendFailed config recipient attemptNumber sendPermit error
      return none)
  match result with
  | none => pure ()
  | some result =>
    settleResult config job recipient attemptNumber sendPermit creatorOpenId conversationId result

/-! ## The job -/

/-- The body of the `try` that follows a claim. -/
def dispatch (config : WorkerConfig) (job : SendJob) (rounds : Nat) (recipient : SendRecipient)
    (attemptNumber : Int) (createPermit : Permit) (creatorOpenId : String) :
    Program SendLocals Unit := do
  query (.createAttempt recipient.id attemptNumber)
  let conversation ← openConversation job recipient attemptNumber createPermit creatorOpenId
  match conversation with
  | none => pure ()
  | some conversationId => do
    persistConversation recipient attemptNumber conversationId
    let workerInstanceId := config.workerInstanceId
    let deliveryId := recipient.id.uuid
    let sendPermit ← waitForSendPermitWhileCampaignActive recipient.id
      s!"{workerInstanceId}:{deliveryId}:{attemptNumber}:send" rounds
    match sendPermit with
    | none => pausedBeforeSend recipient attemptNumber
    | some sendPermit =>
      sendWithPermit config job recipient attemptNumber sendPermit creatorOpenId conversationId

/-- The `finally` block: errors of its releases are swallowed. -/
def releasePermits (createPermit : Permit) : Program SendLocals Unit := do
  let locals ← Js.getLocals
  if !locals.createPermitSettled then
    Js.tryCatch (query (.release createPermit "LOCAL_FAILURE" {})) (fun _ => pure ())
  match locals.sendPermit with
  | some sendPermit =>
    if !locals.sendPermitSettled then
      Js.tryCatch (query (.release sendPermit "LOCAL_FAILURE" {})) (fun _ => pure ())
    else pure ()
  | none => pure ()

/-- The claim, with the permit of the conversation in hand. -/
def claimAndDispatch (config : WorkerConfig) (job : SendJob) (rounds : Nat)
    (recipient : SendRecipient) (createPermit : Permit) (creatorOpenId : String) :
    Program SendLocals Unit := do
  let claim : DispatchClaim ← Js.tryCatch (query (.reserveDispatchSlot recipient.id))
    (fun error => do
      query (.release createPermit "NOT_DISPATCHED" {})
      createPermitIsSettled
      Js.throw error)
  match claim with
  | .notClaimed cancelled _ => do
    query (.release createPermit "NOT_DISPATCHED" {})
    createPermitIsSettled
    if cancelled then completeCampaignIfDone recipient.id.campaignId
    else pure ()
  | .claimed attemptNumber =>
    Js.tryFinally
      (dispatch config job rounds recipient attemptNumber createPermit creatorOpenId)
      (releasePermits createPermit)

/-- The path of a delivery that is pending or retryable. -/
def startDispatch (config : WorkerConfig) (job : SendJob) (rounds : Nat)
    (recipient : SendRecipient) (delivery : DeliverySnapshot) : Program SendLocals Unit :=
  match recipient.campaignState with
  | .PAUSE_REQUESTED => do
    query (.pauseCampaign recipient.id.campaignId)
    delayJob job 5000
  | .PAUSED => delayJob job 5000
  | .SAFETY_PAUSED => pure ()
  | _ =>
    let creatorOpenId := recipient.creatorOpenIdSnapshot.getD ""
    if creatorOpenId = "" then do
      query (.markTerminalFailure recipient.id "INVALID_MESSAGING_ID")
      completeCampaignIfDone recipient.id.campaignId
    else do
      let workerInstanceId := config.workerInstanceId
      let deliveryId := recipient.id.uuid
      let attempt := delivery.attemptCount + 1
      let result : PermitResult ← query (.acquire recipient.id.shopId .CREATE_CONVERSATION
        s!"{workerInstanceId}:{deliveryId}:{attempt}:create")
      match result with
      | .refused delayMs _ _ _ => delayJob job delayMs
      | .acquired createPermit _ =>
        claimAndDispatch config job rounds recipient createPermit creatorOpenId

/-- `rounds` bounds the wait for a send permit; a run is the run of the source when it is large
enough. -/
def processSend (config : WorkerConfig) (job : SendJob) (rounds : Nat) :
    Program SendLocals Unit :=
  if !config.mutationCapability then
    Js.throw (.other "OUTBOUND_DISABLED: worker dispatch is unavailable")
  else do
    let found : Option SendRecipient ← query (.findSendRecipient job.recipientId)
    match found with
    | none => pure ()
    | some recipient =>
      match recipient.delivery with
      | none => pure ()
      | some delivery =>
        if recipient.frozenMessage.getD "" = "" || recipient.contentHash.getD "" = "" then pure ()
        else match deliveryAction delivery.state with
          | .SKIP => pure ()
          | .RECOVER_AS_UNKNOWN => do
            query (.recoverDispatchingDelivery recipient.id)
            scheduleReconciliation config recipient.id 1
          | .DISPATCH => startDispatch config job rounds recipient delivery

/-! ## The reconciliation job -/

def processReconciliation (config : WorkerConfig) (job : ReconciliationJob) :
    Program Unit Unit := do
  let id := job.deliveryId
  let found : Option UnknownDelivery ← query (.findUnknownDelivery id)
  match found with
  | none => pure ()
  | some delivery =>
    if delivery.state ≠ .DELIVERY_UNKNOWN then pure ()
    else match delivery.conversationId, delivery.firstDispatchedAt with
      | some conversationId, some dispatchedAt => do
        let linked : List String ← query .linkedMessageIds
        match reconcileUnknownDelivery delivery.contentHash dispatchedAt delivery.messages
            linked with
        | .MATCHED messageId => do
          query (.updateReconciliationRun id job.attemptNumber .MATCHED (some messageId))
          query (.markSent id delivery.creatorOpenId conversationId messageId)
          completeCampaignIfDone id.campaignId
        | .UNRESOLVED =>
          if job.attemptNumber < 3 then do
            query (.updateReconciliationRun id job.attemptNumber .UNRESOLVED none)
            scheduleReconciliation config id (job.attemptNumber + 1)
            completeCampaignIfDone id.campaignId
          else do
            query (.giveUpReconciliation id job.attemptNumber)
            completeCampaignIfDone id.campaignId
      | _, _ => pure ()

end tiktok_outreach.worker
