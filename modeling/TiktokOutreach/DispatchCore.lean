-- The abstract model of dispatch safety: what is left of the database when one
-- looks only at the states of campaigns, recipients and deliveries and at the
-- reservations. Every command is an action of this model; which branch a
-- command takes may depend on rows that the model does not have.
import TiktokOutreach.Commands

open tables transactions tiktok_outreach.schema tiktok_outreach.dispatch_safety
  tiktok_outreach.settlements tiktok_outreach.outreach_service tiktok_outreach.commands

namespace tiktok_outreach.dispatch_core

structure RecipientCore where
  state : RecipientState
  selected : Bool
  frozen : Bool
  deriving DecidableEq, Repr

@[ext] structure Core where
  campaign : CampaignId → Option CampaignState
  recipient : RecipientId → Option RecipientCore
  reservation : RecipientId → Option Reservation
  delivery : DeliveryId → Option DeliveryState

def recipientCore (r : Recipient) : RecipientCore := ⟨r.state, r.selected, r.frozenMessage.isSome⟩

def coreOf (db : Db) : Core where
  campaign id := (db.campaigns.get id).map (·.state)
  recipient id := (db.recipients.get id).map recipientCore
  reservation id := db.reservations.get id
  delivery id := (db.deliveries.get id).map (·.state)

@[simp] theorem coreOf_campaign (db : Db) (c : CampaignId) :
    (coreOf db).campaign c = (db.campaigns.get c).map (·.state) := rfl

@[simp] theorem coreOf_recipient (db : Db) (id : RecipientId) :
    (coreOf db).recipient id = (db.recipients.get id).map recipientCore := rfl

@[simp] theorem coreOf_reservation (db : Db) (id : RecipientId) :
    (coreOf db).reservation id = db.reservations.get id := rfl

@[simp] theorem coreOf_delivery (db : Db) (id : DeliveryId) :
    (coreOf db).delivery id = (db.deliveries.get id).map (·.state) := rfl

namespace Core

/-! ## The writes -/

def setCampaign (k : Core) (id : CampaignId) (s : CampaignState) : Core :=
  { k with campaign := fun id' =>
      if id' = id then (k.campaign id').map (fun _ => s) else k.campaign id' }

def setRecipient (k : Core) (id : RecipientId) (s : RecipientState) : Core :=
  { k with recipient := fun id' =>
      if id' = id then (k.recipient id').map (fun r => { r with state := s })
      else k.recipient id' }

def setDelivery (k : Core) (id : DeliveryId) (s : DeliveryState) : Core :=
  { k with delivery := fun id' =>
      if id' = id then (k.delivery id').map (fun _ => s) else k.delivery id' }

def release (k : Core) (p : RecipientId → Bool) : Core :=
  { k with reservation := fun id => if p id then none else k.reservation id }

theorem setDelivery_self {k : Core} {id : DeliveryId} {s s' : DeliveryState}
    (h : k.delivery id = some s) : (k.setDelivery id s').delivery id = some s' := by
  simp [setDelivery, h]

/-- The rows that exist for a delivery. -/
def Stored (k : Core) (id : DeliveryId) : Prop :=
  (k.delivery id).isSome ∧ (k.recipient id).isSome

/-- The reservation of a recipient is its own and has not expired. -/
def ReservedAt (k : Core) (id : RecipientId) (now : Int) : Prop :=
  ∃ r, k.reservation id = some r ∧ now < r.expiresAt ∧ r.shopId = id.shopId ∧
    r.creatorId = id.creatorId

end Core

/-! ## The actions -/

inductive Action
  | nothing
  | settle (id : DeliveryId) (delivery : DeliveryState) (recipient : RecipientState)
      (releases : Bool)
  | claim (id : DeliveryId) (now : Int)
  | setCampaign (id : CampaignId) (state : CampaignState)
  | pauseShop (shopId : Nat)
  | acknowledgePause (id : CampaignId)
  | expire
  | freeze (id : CampaignId) (expiresAt deletedAt : Int)
  | queue (id : CampaignId)
  | cancel (id : CampaignId)
  | rebuild (id : CampaignId)

/-- The recipients that a cancel cancels. -/
def unsent (k : Core) (c : CampaignId) (id : RecipientId) : Bool :=
  id.campaignId = c &&
    (k.recipient id).any (fun r => r.state = .RESERVED || r.state = .QUEUED)

/-- The recipients that a freeze looks at. -/
def selectedFor (k : Core) (c : CampaignId) (id : RecipientId) : Bool :=
  id.campaignId = c && (k.recipient id).any (·.selected)

/-- The recipients that `queueFrozen` queues. -/
def queueable (k : Core) (c : CampaignId) (id : RecipientId) : Bool :=
  id.campaignId = c && (k.recipient id).any (fun r => r.selected && r.state = .RESERVED)

/-- The frozen campaigns `gone` expire. -/
structure Expires (gone : CampaignId → Bool) (k k' : Core) : Prop where
  frozen : ∀ c, gone c = true → k.campaign c = some .FROZEN
  campaign : ∀ c, k'.campaign c = if gone c then some .PREVIEW_EXPIRED else k.campaign c
  reservation : ∀ id, k'.reservation id = if gone id.campaignId then none else k.reservation id
  recipient : ∀ id, k'.recipient id = (k.recipient id).map (fun r =>
    if gone id.campaignId && r.state = .RESERVED then ⟨.SELECTED, r.selected, false⟩ else r)
  delivery : k'.delivery = k.delivery

/-- The freeze of a campaign that keeps the recipients `kept`. -/
structure Freezes (c : CampaignId) (expiresAt deletedAt : Int) (kept : RecipientId → Bool)
    (k k' : Core) : Prop where
  ready : k.campaign c = some .PREVIEW_READY
  selected : ∀ id, kept id = true → selectedFor k c id = true
  campaign : ∃ s, (s = .FROZEN ∨ s = .PREVIEW_EXPIRED ∧ ∀ id, kept id = false) ∧
    k'.campaign = (k.setCampaign c s).campaign
  frozen : ∀ id, kept id = true → k'.recipient id = some ⟨.RESERVED, true, true⟩
  skipped : ∀ id, kept id = false → k'.recipient id = k.recipient id ∨
    selectedFor k c id = true ∧ k'.recipient id = some ⟨.DISCOVERED, false, false⟩
  created : ∀ id, kept id = true →
    k'.reservation id = some ⟨id.shopId, id.creatorId, expiresAt⟩
  others : ∀ id r, kept id = false → k'.reservation id = some r →
    k.reservation id = some r ∧ ¬ (r.shopId = c.shopId ∧ r.expiresAt ≤ deletedAt)
  unexpired : ∀ id r, id.campaignId ≠ c → k.reservation id = some r →
    ¬ (r.shopId = c.shopId ∧ r.expiresAt ≤ deletedAt) → k'.reservation id = some r
  unique : ∀ id id' r, kept id = true → id' ≠ id → k'.reservation id' = some r →
    ¬ (r.shopId = id.shopId ∧ r.creatorId = id.creatorId)
  delivery : k'.delivery = k.delivery

def Action.Step : Action → Core → Core → Prop
  | nothing, k, k' => k' = k
  | settle id ds rs releases, k, k' => k.Stored id ∧
    k' = ((k.setDelivery id ds).setRecipient id rs).release (fun id' => releases && id' = id)
  | claim id now, k, k' => k.Stored id ∧
    (∃ s, k.delivery id = some s ∧ claimable s = true) ∧
    (∃ s, k.campaign id.campaignId = some s ∧ dispatching s = true) ∧ k.ReservedAt id now ∧
    k' = ((k.setCampaign id.campaignId .RUNNING).setDelivery id .DISPATCHING).setRecipient id
      .PROCESSING
  | setCampaign c s, k, k' => (k.campaign c).isSome ∧ k' = k.setCampaign c s
  | pauseShop shopId, k, k' => k' = { k with campaign := fun c => (k.campaign c).map (fun s =>
      if c.shopId = shopId && dispatching s then .SAFETY_PAUSED else s) }
  | acknowledgePause c, k, k' => k' = { k with campaign := fun c' => (k.campaign c').map (fun s =>
      if c' = c && s = .PAUSE_REQUESTED then .PAUSED else s) }
  | expire, k, k' => ∃ gone, Expires gone k k'
  | freeze c expiresAt deletedAt, k, k' => ∃ kept, Freezes c expiresAt deletedAt kept k k'
  | queue c, k, k' => k.campaign c = some .FROZEN ∧
    k' = { campaign := (k.setCampaign c .QUEUED).campaign
           recipient := fun id => if queueable k c id then
              (k.recipient id).map (fun r => { r with state := .QUEUED }) else k.recipient id
           reservation := fun id => (k.reservation id).map (fun r =>
              if selectedFor k c id then { r with expiresAt := FAR_FUTURE } else r)
           delivery := fun id => if queueable k c id then some ((k.delivery id).getD .PENDING)
              else k.delivery id }
  | cancel c, k, k' => (k.campaign c).isSome ∧
    k' = { campaign := (k.setCampaign c .CANCELLED).campaign
           recipient := fun id => if unsent k c id then
              (k.recipient id).map (fun r => { r with state := .CANCELLED }) else k.recipient id
           reservation := fun id => if unsent k c id then none else k.reservation id
           delivery := fun id => (k.delivery id).map (fun s =>
              if unsent k c id && claimable s then .CANCELLED else s) }
  | rebuild c, k, k' => (k.campaign c).isSome ∧
    k'.campaign = (k.setCampaign c .PREVIEW_READY).campaign ∧
    (∀ id, k'.reservation id = if id.campaignId = c then none else k.reservation id) ∧
    (∀ id, k'.delivery id = if id.campaignId = c then none else k.delivery id) ∧
    (∀ id, id.campaignId ≠ c → k'.recipient id = k.recipient id)

/-- The action of a command that returned. -/
def actionOf (ambient : Ambient) : (c : Command) → c.Result → Action
  | .recoverDispatchingDelivery id, _ => .settle id .DELIVERY_UNKNOWN .DELIVERY_UNKNOWN false
  | .reserveDispatchSlot id, .claimed _ => .claim id (ambient.now 0)
  | .reserveDispatchSlot id, .notClaimed true _ => .settle id .FAILED_TERMINAL .CANCELLED true
  | .reserveDispatchSlot _, .notClaimed false _ => .nothing
  | .markSent id _ _ _, _ => .settle id .SENT .SENT true
  | .markTerminalFailure id _, _ => .settle id .FAILED_TERMINAL .FAILED true
  | .markRestricted id _, _ => .settle id .RESTRICTED .RESTRICTED true
  | .markDeliveryUnknown id _, _ => .settle id .DELIVERY_UNKNOWN .DELIVERY_UNKNOWN false
  | .makeDeliveryRetryable id, _ => .settle id .FAILED_RETRYABLE .QUEUED false
  | .giveUpReconciliation id _, _ =>
    .settle id .DELIVERY_UNKNOWN_UNRESOLVED .DELIVERY_UNKNOWN_UNRESOLVED true
  | .pauseCampaign c, _ => .setCampaign c .PAUSED
  | .acknowledgePause c, _ => .acknowledgePause c
  | .pauseShopForProviderFailure shopId _, _ => .pauseShop shopId
  | .pauseShopForProviderQuota shopId _, _ => .pauseShop shopId
  | .completeCampaign c completion, _ =>
    .setCampaign c (if completion.completedSuccessfully then .COMPLETED else .COMPLETED_WITH_ERRORS)
  | .expireFrozenCampaigns, _ => .expire
  | .freeze c _ _ expiresAt, _ => .freeze c expiresAt (ambient.now 0)
  | .queueFrozen c _, _ => .queue c
  | .requestPause c, _ => .setCampaign c .PAUSE_REQUESTED
  | .resume c _, _ => .setCampaign c .QUEUED
  | .cancel c, _ => .cancel c
  | .rebuild c _ _, _ => .rebuild c
  | _, _ => .nothing

/-! ## Deliveries that cannot be claimed -/

/-- The delivery exists, and no claim takes it. -/
def Core.Blocked (k : Core) (d : DeliveryId) : Prop :=
  ∃ s, k.delivery d = some s ∧ claimable s = false

/-- The actions that can make a delivery claimable again. -/
def Action.Unblocks (d : DeliveryId) : Action → Prop
  | .settle id ds _ _ => id = d ∧ claimable ds = true
  | .rebuild _ => True
  | _ => False

theorem command_of_unblocks {ambient : Ambient} {c : Command} {r : c.Result} {d : DeliveryId}
    (h : (actionOf ambient c r).Unblocks d) :
    c = .makeDeliveryRetryable d ∨ ∃ id retained summary, c = .rebuild id retained summary := by
  cases c with
  | makeDeliveryRetryable id => exact Or.inl (congrArg _ h.1)
  | rebuild id retained summary => exact Or.inr ⟨id, retained, summary, rfl⟩
  | reserveDispatchSlot id =>
    cases r with
    | claimed attemptNumber => exact h.elim
    | notClaimed cancelled reason =>
      cases cancelled <;> simp [actionOf, Action.Unblocks, claimable] at h
  | _ => simp [actionOf, Action.Unblocks, claimable] at h

theorem blocked_of_delivery_eq {k k' : Core} {d : DeliveryId} (h : k'.delivery = k.delivery)
    (hb : k.Blocked d) : k'.Blocked d := by
  unfold Core.Blocked
  rwa [h]

theorem blocked_step {a : Action} {k k' : Core} {d : DeliveryId} (hstep : a.Step k k')
    (ha : ¬ a.Unblocks d) (hb : k.Blocked d) : k'.Blocked d := by
  obtain ⟨s, hs, hclaimable⟩ := hb
  cases a with
  | nothing =>
    cases hstep
    exact ⟨s, hs, hclaimable⟩
  | settle id ds rs releases =>
    obtain ⟨_, rfl⟩ := hstep
    by_cases hid : d = id
    · refine ⟨ds, by simp [Core.release, Core.setRecipient, Core.setDelivery, ← hid, hs], ?_⟩
      rw [← Bool.not_eq_true]
      exact fun h => ha ⟨hid.symm, h⟩
    · exact ⟨s, by simp [Core.release, Core.setRecipient, Core.setDelivery, hid, hs], hclaimable⟩
  | claim id now =>
    obtain ⟨_, _, _, _, rfl⟩ := hstep
    by_cases hid : d = id
    · subst hid
      exact ⟨.DISPATCHING, Core.setDelivery_self (k := k.setCampaign _ _) hs, rfl⟩
    · exact ⟨s, by simp [Core.setRecipient, Core.setDelivery, Core.setCampaign, hid, hs], hclaimable⟩
  | setCampaign c state =>
    obtain ⟨_, rfl⟩ := hstep
    exact ⟨s, hs, hclaimable⟩
  | pauseShop shopId =>
    cases hstep
    exact ⟨s, hs, hclaimable⟩
  | acknowledgePause c =>
    cases hstep
    exact ⟨s, hs, hclaimable⟩
  | expire =>
    obtain ⟨gone, h⟩ := hstep
    exact blocked_of_delivery_eq h.delivery ⟨s, hs, hclaimable⟩
  | freeze c expiresAt deletedAt =>
    obtain ⟨kept, h⟩ := hstep
    exact blocked_of_delivery_eq h.delivery ⟨s, hs, hclaimable⟩
  | queue c =>
    obtain ⟨_, rfl⟩ := hstep
    refine ⟨s, ?_, hclaimable⟩
    by_cases hid : queueable k c d = true <;> simp [hid, hs]
  | cancel c =>
    obtain ⟨_, rfl⟩ := hstep
    exact ⟨s, by simp [hs, hclaimable], hclaimable⟩
  | rebuild c => exact absurd trivial ha

end tiktok_outreach.dispatch_core
