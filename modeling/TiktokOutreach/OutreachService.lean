-- The transactions of the outreach service (apps/api/src/outreach/
-- outreach.service.ts and shared.ts): expiry, freeze, queue, pause, resume,
-- cancel and the rebuild of a preview.
import TiktokOutreach.DispatchSafety

open tables transactions tiktok_outreach.schema tiktok_outreach.dispatch_safety

namespace tiktok_outreach.outreach_service

/-- The pure functions of other packages that a freeze calls. -/
structure Environment where
  renderMessage : String → String → String → String → Except String String
  sha256 : String → String
  /-- The date of an instant in the time zone of a shop. -/
  shopDate : Nat → Int → Int

/-! ## The expiry of frozen campaigns -/

def freezeExpired (campaign : Campaign) (now : Int) : Bool :=
  campaign.state = .FROZEN && campaign.freezeExpiresAt.any (· ≤ now)

def expireCampaign (id : CampaignId) (now : Int) : Transaction Unit := do
  let changed ← Tx.updateMany table.campaigns
    (fun _ id' campaign => id' = id && freezeExpired campaign now)
    (fun campaign => { campaign with state := .PREVIEW_EXPIRED, version := campaign.version + 1 })
  if changed = 0 then return ()
  else
    Tx.deleteMany table.reservations (fun _ id' _ => id'.campaignId = id)
    let _ ← Tx.updateMany table.recipients
      (fun _ id' recipient => id'.campaignId = id && recipient.state = .RESERVED)
      (fun recipient =>
        { recipient with state := .SELECTED, frozenMessage := none, contentHash := none })

def expireFrozenCampaigns (now : Int) : Transaction Nat := do
  let expired ← Tx.read (fun db =>
    db.campaigns.findMany (fun _ campaign => freezeExpired campaign now))
  let _ ← Tx.traverse (fun r => expireCampaign r.1 now) expired
  return expired.length

/-! ## `freeze` -/

/-- A selected recipient with what the freeze includes of its creator. -/
structure SelectedRecipient where
  id : RecipientId
  recipient : Recipient
  creator : Creator
  contact : Option Contact

def selectedRecipients (db : Db) (id : CampaignId) (direction : RankingDirection) :
    List SelectedRecipient :=
  let rows := (db.recipients.findMany (fun id' r => id'.campaignId = id && r.selected)).filterMap
    (fun r => (db.creators.get r.1.creatorId).map (fun creator =>
      (⟨r.1, r.2, creator, db.contacts.get (id.shopId, r.1.creatorId)⟩ : SelectedRecipient)))
  match direction with
  | .ASC => rows.insertionSort (fun a b => a.recipient.rankingValue ≤ b.recipient.rankingValue)
  | .DESC => rows.insertionSort (fun a b => b.recipient.rankingValue ≤ a.recipient.rankingValue)

def freezeSkipReason (contact : Option Contact) (cutoff : Int) (activelyReserved : Bool) :
    Option String :=
  if contact.any (·.doNotContact) then some "DO_NOT_CONTACT"
  else if contact.any (·.unresolvedDelivery) then some "DELIVERY_UNKNOWN"
  else if contact.any (fun c => c.lastContactedAt.any (cutoff < ·)) then
    if contact.any (·.lastCampaignId.isSome) then some "CONTACTED_BY_APP_WITHIN_COOLDOWN"
    else some "COOLDOWN"
  else if activelyReserved then some "ACTIVE_RESERVATION"
  else none

/-- The freeze of one recipient. It gives the reason when the recipient is skipped. -/
def freezeRecipient (env : Environment) (campaign : Campaign) (cutoff expiresAt : Int)
    (activelyReserved : List Nat) (selected : SelectedRecipient) (frozenIndex : Nat) :
    Transaction (Option String) :=
  match freezeSkipReason selected.contact cutoff
      (activelyReserved.contains selected.id.creatorId) with
  | some reason => do
    Tx.update table.recipients .notFound selected.id (fun recipient => { recipient with
      selected := false, eligibility := .EXCLUDED, skipReason := some reason
      state := .DISCOVERED, frozenMessage := none, contentHash := none })
    return some reason
  | none =>
    let displayName := (selected.creator.nickname.or selected.creator.username).getD "there"
    match env.renderMessage campaign.messageTemplate displayName campaign.productName
        campaign.name with
    | .error message => Tx.throw (.other message)
    | .ok frozenMessage =>
      if selected.creator.creatorOpenId.getD "" = "" then
        Tx.throw (.badRequest "Every frozen recipient requires an exact TikTok Creator Open ID")
      else do
        Tx.create table.reservations .uniqueViolation
          [.reservedCreator selected.id.shopId selected.id.creatorId]
          (fun db => db.reservations.any (fun _ r =>
            r.shopId = selected.id.shopId && r.creatorId = selected.id.creatorId))
          selected.id ⟨selected.id.shopId, selected.id.creatorId, expiresAt⟩
        Tx.update table.recipients .notFound selected.id (fun recipient => { recipient with
          frozenMessage := some frozenMessage
          contentHash := some (env.sha256 frozenMessage)
          state := .RESERVED
          creatorOpenIdSnapshot := selected.creator.creatorOpenId
          frozenRank := some (frozenIndex + 1) })
        return none

def numberValue (summary : List (String × Int)) (key : String) : Int :=
  (summary.lookup key).getD 0

/-- `{ ...previous, key: value }` -/
def withValue (summary : List (String × Int)) (key : String) (value : Int) :
    List (String × Int) :=
  summary.filter (fun entry => entry.1 ≠ key) ++ [(key, value)]

/-- The summary after a freeze that skipped recipients for the reasons `skipped`. -/
def finalSummary (previous : List (String × Int)) (targetCount : Int) (selected : Nat)
    (skipped : List String) : List (String × Int) :=
  let finalSelected : Int := selected - skipped.length
  let counted := fun (key reason : String) => numberValue previous key + skipped.count reason
  [("selected", finalSelected),
    ("eligible", max 0 (numberValue previous "eligible" - skipped.length)),
    ("shortfall", max 0 (targetCount - finalSelected)),
    ("skippedDoNotContact", counted "skippedDoNotContact" "DO_NOT_CONTACT"),
    ("skippedUnknownDelivery", counted "skippedUnknownDelivery" "DELIVERY_UNKNOWN"),
    ("skippedCooldown", counted "skippedCooldown" "COOLDOWN"),
    ("skippedActiveReservation", counted "skippedActiveReservation" "ACTIVE_RESERVATION"),
    ("freezeAdjustment", selected - finalSelected)].foldl
    (fun summary entry => withValue summary entry.1 entry.2) previous

/-- The transaction of `freeze`, for the campaign row that it read before. The three instants
are its three calls of `new Date()`. -/
def freeze (env : Environment) (id : CampaignId) (version : Int) (campaign : Campaign)
    (expiresAt deletedAt eligibilityCheckedAt frozenAt : Int) : Transaction Unit := do
  let selectedCreatorIds ← Tx.read (fun db =>
    (db.recipients.findMany (fun id' r => id'.campaignId = id && r.selected)).map (·.1.creatorId))
  if selectedCreatorIds.isEmpty then Tx.throw (.badRequest "No eligible recipients to freeze")
  else
    lockCreatorEligibility id.shopId selectedCreatorIds
    let current ← Tx.readOrThrow .notFound (fun db => db.campaigns.get id)
    if current.state ≠ .PREVIEW_READY ∨ current.version ≠ version then
      Tx.throw (.badRequest "Preview is stale; refresh it before freezing")
    else
      Tx.deleteMany table.reservations
        (fun _ _ r => r.shopId = id.shopId && decide (r.expiresAt ≤ deletedAt))
      let selected ← Tx.read (fun db => selectedRecipients db id current.rankingDirection)
      if selected.isEmpty then Tx.throw (.badRequest "No eligible recipients to freeze")
      else
        let activelyReserved ← Tx.read (fun db => (db.reservations.findMany (fun _ r =>
          r.shopId = id.shopId && selected.any (fun s => s.id.creatorId = r.creatorId) &&
            decide (eligibilityCheckedAt < r.expiresAt))).map (·.2.creatorId))
        let cutoff := eligibilityCheckedAt - current.cooldownDays * 86400000
        let reasons ← Tx.traverse (fun s =>
          freezeRecipient env campaign cutoff expiresAt activelyReserved s.1 s.2) selected.zipIdx
        let skipped := reasons.filterMap (fun reason => reason)
        let summary := finalSummary current.summary current.targetCount selected.length skipped
        if skipped.length = selected.length then
          Tx.deleteMany table.reservations (fun _ id' _ => id'.campaignId = id)
          Tx.update table.campaigns .notFound id (fun campaign => { campaign with
            state := .PREVIEW_EXPIRED, frozenAt := none, freezeExpiresAt := none, summary
            version := campaign.version + 1 })
        else
          Tx.update table.campaigns .notFound id (fun campaign => { campaign with
            state := .FROZEN, frozenAt := some frozenAt, freezeExpiresAt := some expiresAt, summary
            version := campaign.version + 1 })

/-! ## `queueFrozen` -/

/-- 9999-12-31T23:59:59.999Z -/
def FAR_FUTURE : Int := 253402300799999

def queueRecipient (id : RecipientId) (contentHash : String) (now : Int) : Transaction Unit := do
  Tx.upsert table.deliveries id (fun delivery => delivery) { contentHash }
  Tx.upsert table.outbox id (fun _ => { state := .PENDING, availableAt := now })
    { availableAt := now }
  Tx.update table.recipients .notFound id (fun recipient => { recipient with state := .QUEUED })

def queueFrozen (id : CampaignId) (version now : Int) : Transaction Unit := do
  let changed ← Tx.updateMany table.campaigns
    (fun _ id' campaign => id' = id && campaign.state = .FROZEN && campaign.version = version)
    (fun campaign => { campaign with state := .QUEUED, version := campaign.version + 1 })
  if changed ≠ 1 then
    Tx.throw (.badRequest "Campaign was already queued; refresh the campaign")
  else
    let recipients ← Tx.read (fun db => db.recipients.findMany (fun id' r =>
      id'.campaignId = id && r.selected && r.state = .RESERVED))
    if recipients.isEmpty then
      Tx.throw (.badRequest "No frozen recipients remain; rediscover and freeze again")
    else
      let _ ← Tx.updateMany table.reservations
        (fun db id' _ => id'.campaignId = id && (db.recipients.get id').any (·.selected))
        (fun reservation => { reservation with expiresAt := FAR_FUTURE })
      let _ ← Tx.traverse (fun r => queueRecipient r.1 (r.2.contentHash.getD "") now) recipients

/-! ## `pause`, `resume` and `cancel` -/

def requestPause (id : CampaignId) : Transaction Unit :=
  Tx.update table.campaigns .notFound id (fun campaign =>
    { campaign with state := .PAUSE_REQUESTED, version := campaign.version + 1 })

def resume (id : CampaignId) (quotaRecovery : Bool) (now : Int) : Transaction Unit := do
  if quotaRecovery then
    Tx.stmt (fun _ => [.governor])
      (fun _ db => { db with governor := outbound_throttle.quotaRecovery id.shopId db.governor })
      (fun _ => Tx.ret ())
    let _ ← Tx.updateMany table.outbox
      (fun _ id' entry => id'.campaignId = id && entry.state = .SAFETY_PAUSED)
      (fun _ => { state := .PENDING, availableAt := now })
    Tx.update table.campaigns .notFound id (fun campaign => { campaign with
      state := .QUEUED, safetyPauseReason := none, version := campaign.version + 1 })
  else
    Tx.update table.campaigns .notFound id (fun campaign => { campaign with
      state := .QUEUED, safetyPauseReason := none, version := campaign.version + 1 })

/-- The recipients that `cancel` cancels are read first and written by their ids. -/
def cancel (id : CampaignId) : Transaction Unit := do
  let ids ← Tx.read (fun db => (db.recipients.findMany (fun id' r =>
    id'.campaignId = id && (r.state = .RESERVED || r.state = .QUEUED))).map (·.1))
  if ids.isEmpty then
    Tx.update table.campaigns .notFound id (fun campaign =>
      { campaign with state := .CANCELLED, version := campaign.version + 1 })
  else
    let _ ← Tx.updateMany table.deliveries
      (fun _ id' delivery => ids.contains id' && claimable delivery.state)
      (fun delivery => { delivery with state := .CANCELLED })
    let _ ← Tx.updateMany table.recipients (fun _ id' _ => ids.contains id')
      (fun recipient => { recipient with state := .CANCELLED })
    let _ ← Tx.updateMany table.outbox (fun _ id' _ => ids.contains id')
      (fun entry => { entry with state := .COMPLETED })
    Tx.deleteMany table.reservations (fun _ id' _ => ids.contains id')
    Tx.update table.campaigns .notFound id (fun campaign =>
      { campaign with state := .CANCELLED, version := campaign.version + 1 })

/-! ## The rebuild of a preview -/

/-- A recipient row that `rebuildFromCreatorDatabase` writes. -/
structure RetainedCreator where
  uuid : Nat
  creatorId : Nat
  eligibility : Eligibility
  skipReason : Option String
  rankingValue : Int
  discoveryOrdinal : Int
  selected : Bool

def RetainedCreator.recipient (r : RetainedCreator) : Recipient where
  eligibility := r.eligibility
  skipReason := r.skipReason
  rankingValue := r.rankingValue
  discoveryOrdinal := r.discoveryOrdinal
  selected := r.selected
  state := if r.selected then .SELECTED
    else if r.eligibility = .ELIGIBLE then .ELIGIBLE else .DISCOVERED

/-- The delete of the recipients of a campaign, with the rows that go with them by
`onDelete: Cascade`. -/
def deleteRecipients (id : CampaignId) : Transaction Unit := do
  Tx.deleteMany table.recipients (fun _ id' _ => id'.campaignId = id)
  Tx.deleteMany table.reservations (fun _ id' _ => id'.campaignId = id)
  Tx.deleteMany table.deliveries (fun _ id' _ => id'.campaignId = id)
  Tx.deleteMany table.outbox (fun _ id' _ => id'.campaignId = id)
  Tx.deleteMany table.attempts (fun _ key _ => key.1.campaignId = id)
  Tx.deleteMany table.reconciliations (fun _ key _ => key.1.campaignId = id)

def createRecipient (id : CampaignId) (r : RetainedCreator) : Transaction Unit :=
  Tx.create table.recipients .uniqueViolation []
    (fun db => db.recipients.any (fun id' _ => id'.campaignId = id && id'.creatorId = r.creatorId))
    ⟨r.uuid, id, r.creatorId⟩ r.recipient

/-- The transaction of `rebuildFromCreatorDatabase`. -/
def rebuild (id : CampaignId) (retained : List RetainedCreator) (summary : List (String × Int)) :
    Transaction Unit := do
  Tx.deleteMany table.discoveryRuns (fun _ id' _ => id' = id)
  deleteRecipients id
  Tx.update table.campaigns .notFound id (fun campaign =>
    { campaign with state := .DISCOVERING, version := campaign.version + 1 })
  Tx.create table.discoveryRuns .uniqueViolation [] (fun _ => false) id .RUNNING
  let _ ← Tx.traverse (createRecipient id) retained
  Tx.update table.campaigns .notFound id (fun campaign =>
    { campaign with state := .PREVIEW_READY, summary, version := campaign.version + 1 })
  Tx.update table.discoveryRuns .notFound id (fun _ => .COMPLETE)

end tiktok_outreach.outreach_service
