-- The operator's actions on a campaign (apps/api/src/outreach/
-- outreach.service.ts), as programs whose calls are the awaits of the source.
-- What an action shows of the campaign at its end is left out.
import TiktokOutreach.Commands

open executions tiktok_outreach.schema tiktok_outreach.outreach_service tiktok_outreach.commands

namespace tiktok_outreach.outreach_service

abbrev Action (α : Type) : Type := Program Unit α

/-- The states of a campaign that was queued. -/
def started : CampaignState → Bool
  | .QUEUED | .RUNNING | .PAUSE_REQUESTED | .PAUSED | .SAFETY_PAUSED | .COMPLETED
  | .COMPLETED_WITH_ERRORS | .CANCELLED => true
  | .DRAFT | .DISCOVERING | .PREVIEW_READY | .PREVIEW_EXPIRED | .FROZEN => false

def requiredCampaign (id : CampaignId) : Action Campaign := query (.requiredCampaign id)

def requireOutboundAvailable : Action Unit := do
  let available : Bool ← Js.call Call.outboundCapability
  if available then pure ()
  else Js.throw (.other "OUTBOUND_UNAVAILABLE: outbound capability is unavailable")

/-! ## `send` -/

def freezeCampaign (id : CampaignId) (version : Int) : Action Unit := do
  requireOutboundAvailable
  let _ : Nat ← query .expireFrozenCampaigns
  let campaign ← requiredCampaign id
  if campaign.state ≠ .PREVIEW_READY ∨ campaign.version ≠ version then
    Js.throw (.badRequest "Preview is stale; refresh it before freezing")
  else do
    let now : Int ← Js.call Call.dateNow
    query (.freeze id version campaign (now + 30 * 60000))

def queueFrozenCampaign (id : CampaignId) (version : Int) : Action Unit := do
  let _ : Nat ← query .expireFrozenCampaigns
  let campaign ← requiredCampaign id
  let now : Int ← Js.call Call.dateNow
  if campaign.state ≠ .FROZEN ∨ campaign.version ≠ version ∨
      ¬ campaign.freezeExpiresAt.any (now < ·) then
    Js.throw (.badRequest "Frozen preview is stale or expired")
  else do
    query (.queueFrozen id version)
    Js.call Call.reconcileOutbox

/-- The error that `send` shows for an error of a freeze or of a queueing. -/
def safeSendFailure (error : Failure) (state : CampaignState) : Failure :=
  match error with
  | .badRequest message =>
    if includes message "stale" || includes message "already queued" then
      .other ("Campaign is no longer in the expected preview state. " ++
        "Refresh the campaign before retrying.")
    else if includes message "No eligible recipients" || includes message "No frozen recipients" then
      .other "No eligible recipients could be frozen."
    else error
  | _ =>
    if state = .FROZEN then
      .other ("Unable to start campaign. Recipients and messages are safely frozen, " ++
        "but deliveries were not queued. Retrying Send is safe.")
    else
      .other ("Unable to start campaign. No deliveries were queued or sent. " ++
        "Retrying Send is safe.")

/-- The queueing of a frozen campaign, whose failure does not matter once it is queued. -/
def materialize (id : CampaignId) (version : Int) : Action Unit :=
  Js.tryCatch (queueFrozenCampaign id version) (fun error => do
    let current ← requiredCampaign id
    if started current.state then pure ()
    else Js.throw (safeSendFailure error current.state))

def send (id : CampaignId) (version : Int) : Action Unit := do
  let _ : Nat ← query .expireFrozenCampaigns
  let campaign ← requiredCampaign id
  if started campaign.state then pure ()
  else do
    requireOutboundAvailable
    match campaign.state with
    | .PREVIEW_READY => do
      Js.tryCatch (freezeCampaign id version) (fun error => do
        let current ← requiredCampaign id
        if current.state ≠ .FROZEN then Js.throw (safeSendFailure error current.state)
        else pure ())
      let frozen ← requiredCampaign id
      if frozen.state ≠ .FROZEN then pure ()
      else materialize id frozen.version
    | .FROZEN => materialize id version
    | _ => Js.throw (.badRequest "Campaign preview is not ready to send")

/-! ## `pause`, `resume` and `cancel` -/

def pauseCampaign (id : CampaignId) : Action Unit := do
  let campaign ← requiredCampaign id
  if campaign.state = .QUEUED ∨ campaign.state = .RUNNING then query (.requestPause id)
  else Js.throw (.badRequest "Campaign is not running")

def resumeCampaign (id : CampaignId) : Action Unit := do
  let campaign ← requiredCampaign id
  if campaign.state = .PAUSED ∨ campaign.state = .PAUSE_REQUESTED ∨
      campaign.state = .SAFETY_PAUSED then do
    let quotaRecovery := campaign.state = .SAFETY_PAUSED &&
      campaign.safetyPauseReason.any (includes · "IM quota")
    if campaign.state = .SAFETY_PAUSED && !quotaRecovery then
      Js.throw (.badRequest ("This provider safety pause requires its authorization or " ++
        "permission issue to be resolved first"))
    else do
      query (.resume id quotaRecovery)
      Js.call Call.reconcileOutbox
  else Js.throw (.badRequest "Campaign is not paused")

def cancellable : CampaignState → Bool
  | .FROZEN | .QUEUED | .RUNNING | .PAUSE_REQUESTED | .PAUSED | .SAFETY_PAUSED => true
  | _ => false

def cancelCampaign (id : CampaignId) : Action Unit := do
  let campaign ← requiredCampaign id
  if cancellable campaign.state then query (.cancel id)
  else if campaign.state = .CANCELLED then pure ()
  else Js.throw (.badRequest "Campaign cannot be cancelled in its current state")

/-- The sweep of expired freezes. -/
def expirySweep : Action Unit := do
  let _ : Nat ← query .expireFrozenCampaigns

/-! ## `discover` -/

/-- `buildPreview` stands for the reads of the creator database and for the ranking of the
creators, which write nothing. -/
def rebuildFromCreatorDatabase (id : CampaignId) : Action Unit := do
  let preview : List RetainedCreator × List (String × Int) ← Js.call (Call.buildPreview id)
  query (.rebuild id preview.1 preview.2)

def rediscoverable : CampaignState → Bool
  | .DRAFT | .PREVIEW_READY | .PREVIEW_EXPIRED => true
  | _ => false

def discover (id : CampaignId) : Action Unit := do
  let _ : Nat ← query .expireFrozenCampaigns
  let campaign ← requiredCampaign id
  let existing : Option DiscoveryRunState ← query (.findDiscoveryRun id)
  if existing = some .COMPLETE ∧ campaign.state = .PREVIEW_READY then pure ()
  else if !rediscoverable campaign.state then
    Js.throw (.badRequest "Campaign cannot be rediscovered in its current state")
  else Js.tryCatch (rebuildFromCreatorDatabase id) (fun error => match error with
    | .badRequest message => Js.throw (.badRequest message)
    | _ => Js.throw (.other ("The local Creator Database preview could not be built. " ++
      "No messages were queued or sent; retrying this campaign is safe.")))

end tiktok_outreach.outreach_service
