-- The tables that each command writes. A command leaves the rest of the
-- database as it is.
import TiktokOutreach.Commands

open tables transactions tiktok_outreach.schema tiktok_outreach.dispatch_safety
  tiktok_outreach.settlements tiktok_outreach.outreach_service tiktok_outreach.queue_outbox
  tiktok_outreach.commands

namespace tiktok_outreach.footprints

/-- A set of tables. -/
structure Footprint where
  campaigns : Bool := false
  recipients : Bool := false
  reservations : Bool := false
  deliveries : Bool := false
  outbox : Bool := false
  attempts : Bool := false
  reconciliations : Bool := false
  /-- The dispatch events and the daily usage. -/
  dispatches : Bool := false
  contacts : Bool := false
  /-- The conversations and their messages. -/
  conversations : Bool := false
  discoveryRuns : Bool := false
  governor : Bool := false

/-- The database without the tables of a footprint. -/
def erase (f : Footprint) (db : Db) : Db where
  campaigns := if f.campaigns then Table.empty else db.campaigns
  recipients := if f.recipients then Table.empty else db.recipients
  reservations := if f.reservations then Table.empty else db.reservations
  deliveries := if f.deliveries then Table.empty else db.deliveries
  outbox := if f.outbox then Table.empty else db.outbox
  attempts := if f.attempts then Table.empty else db.attempts
  reconciliations := if f.reconciliations then Table.empty else db.reconciliations
  dispatchEvents := if f.dispatches then [] else db.dispatchEvents
  dailyUsage := if f.dispatches then Table.empty else db.dailyUsage
  contacts := if f.contacts then Table.empty else db.contacts
  creators := db.creators
  conversations := if f.conversations then Table.empty else db.conversations
  messages := if f.conversations then Table.empty else db.messages
  facts := db.facts
  discoveryRuns := if f.discoveryRuns then Table.empty else db.discoveryRuns
  governor := if f.governor then outbound_throttle.Store.empty else db.governor

/-- The tables that a command writes. -/
def footprint : Command → Footprint
  | .recoverDispatchingDelivery _ =>
    { deliveries := true, recipients := true, contacts := true, outbox := true }
  | .reserveDispatchSlot _ =>
    { campaigns := true, deliveries := true, recipients := true, reservations := true
      outbox := true, dispatches := true }
  | .createAttempt _ _ | .updateAttempt _ _ _ => { attempts := true }
  | .upsertConversation _ _ | .createMockMessage _ _ _ => { conversations := true }
  | .setConversation _ _ => { deliveries := true }
  | .markSent _ _ _ _ =>
    { deliveries := true, recipients := true, contacts := true, reservations := true
      outbox := true }
  | .markTerminalFailure _ _ | .markRestricted _ _ =>
    { deliveries := true, recipients := true, reservations := true, outbox := true }
  | .markDeliveryUnknown _ _ =>
    { attempts := true, deliveries := true, recipients := true, contacts := true, outbox := true }
  | .makeDeliveryRetryable _ => { deliveries := true, recipients := true }
  | .pauseCampaign _ | .acknowledgePause _ | .completeCampaign _ _ | .requestPause _ =>
    { campaigns := true }
  | .pauseShopForProviderFailure _ _ | .pauseShopForProviderQuota _ _ =>
    { campaigns := true, outbox := true }
  | .scheduleReconciliationRun _ _ _ | .updateReconciliationRun _ _ _ _ =>
    { reconciliations := true }
  | .giveUpReconciliation _ _ =>
    { reconciliations := true, deliveries := true, recipients := true, reservations := true }
  | .acquire _ _ _ | .healthy _ _ _ | .throttle _ _ _ | .transientFailure _ _
  | .quotaBlocked _ _ _ _ | .release _ _ _ => { governor := true }
  | .expireFrozenCampaigns => { campaigns := true, recipients := true, reservations := true }
  | .freeze _ _ _ _ => { campaigns := true, recipients := true, reservations := true }
  | .queueFrozen _ _ =>
    { campaigns := true, recipients := true, reservations := true, deliveries := true
      outbox := true }
  | .resume _ _ => { campaigns := true, outbox := true, governor := true }
  | .cancel _ =>
    { campaigns := true, recipients := true, reservations := true, deliveries := true
      outbox := true }
  | .rebuild _ _ _ =>
    { campaigns := true, recipients := true, reservations := true, deliveries := true
      outbox := true, attempts := true, reconciliations := true, discoveryRuns := true }
  | .completeSettledOutbox | .upsertOutbox _ | .markEnqueued _ | .requeueOutbox _ _ =>
    { outbox := true }
  | .findSendRecipient _ | .campaignState _ | .frozenRecipientStates _ | .findUnknownDelivery _
  | .linkedMessageIds | .requiredCampaign _ | .findDiscoveryRun _ | .queuedRecipients _
  | .openOutbox _ => {}

theorem expireFrozenCampaigns_frame {π : Db → Db} (now : Int)
    (hc : ∀ db t, π { db with campaigns := t } = π db)
    (hr : ∀ db t, π { db with recipients := t } = π db)
    (hv : ∀ db t, π { db with reservations := t } = π db) :
    (expireFrozenCampaigns now).Keeps π := by
  unfold expireFrozenCampaigns
  refine Tx.keeps_bind (by simp) fun expired => Tx.keeps_bind ?_ fun _ => trivial
  apply Tx.keeps_traverse
  intro r _
  unfold expireCampaign
  refine Tx.keeps_bind (by simp [hc]) fun changed => ?_
  split
  · trivial
  · refine Tx.keeps_bind (by simp [hv]) fun _ => Tx.keeps_bind (by simp [hr]) fun _ => trivial

theorem freezeRecipient_frame {π : Db → Db} (env : Environment) (campaign : Campaign)
    (cutoff expiresAt : Int) (activelyReserved : List Nat) (selected : SelectedRecipient)
    (index : Nat) (hr : ∀ db t, π { db with recipients := t } = π db)
    (hv : ∀ db t, π { db with reservations := t } = π db) :
    (freezeRecipient env campaign cutoff expiresAt activelyReserved selected index).Keeps π := by
  unfold freezeRecipient
  split
  · exact Tx.keeps_bind (by simp [hr]) fun _ => trivial
  · dsimp only
    split
    · trivial
    · split
      · trivial
      · exact Tx.keeps_bind (by simp [hv]) fun _ => Tx.keeps_bind (by simp [hr]) fun _ => trivial

theorem governed_frame {α : Type} (f : outbound_throttle.Store →
    Except outbound_throttle.DbError (α × outbound_throttle.Store)) {π : Db → Db}
    (h : ∀ db t, π { db with governor := t } = π db) : (governed f).Keeps π := by
  unfold governed
  refine ⟨fun db => ?_, fun v => ?_⟩
  · dsimp only
    split
    · exact h db _
    · rfl
  · dsimp only
    split <;> trivial

/-- A command writes the tables of its footprint alone. -/
theorem command_frame (env : Environment) (options : outbound_throttle.Options) (ambient : Ambient)
    (c : Command) : (c.body env options ambient).Keeps (erase (footprint c)) := by
  cases c with
  | markSent id creatorOpenId conversationId messageId =>
    show (markSent id creatorOpenId conversationId messageId (ambient.now 0)).Keeps _
    unfold markSent completeOutbox
    repeat' first
      | apply Tx.keeps_bind
      | intro _
    all_goals simp [erase, footprint]
  | recoverDispatchingDelivery id =>
    show (recoverDispatchingDelivery id).Keeps _
    unfold recoverDispatchingDelivery markUnresolved completeOutbox
    repeat' first
      | apply Tx.keeps_bind
      | intro _
    all_goals simp [erase, footprint]
  | markDeliveryUnknown id attemptNumber =>
    show (markDeliveryUnknown id attemptNumber (ambient.now 0)).Keeps _
    unfold markDeliveryUnknown markUnresolved completeOutbox
    repeat' first
      | apply Tx.keeps_bind
      | intro _
    all_goals simp [erase, footprint]
  | markTerminalFailure id errorCode =>
    show (markTerminalFailure id errorCode).Keeps _
    unfold markTerminalFailure settleWithout completeOutbox
    repeat' first
      | apply Tx.keeps_bind
      | intro _
    all_goals simp [erase, footprint]
  | markRestricted id errorCode =>
    show (markRestricted id errorCode).Keeps _
    unfold markRestricted settleWithout completeOutbox
    repeat' first
      | apply Tx.keeps_bind
      | intro _
    all_goals simp [erase, footprint]
  | makeDeliveryRetryable id =>
    show (makeDeliveryRetryable id).Keeps _
    unfold makeDeliveryRetryable
    repeat' first
      | apply Tx.keeps_bind
      | intro _
    all_goals simp [erase, footprint]
  | giveUpReconciliation id attemptNumber =>
    show (giveUpReconciliation id attemptNumber (ambient.now 0)).Keeps _
    unfold giveUpReconciliation updateReconciliationRun
    repeat' first
      | apply Tx.keeps_bind
      | intro _
    all_goals simp [erase, footprint]
  | reserveDispatchSlot id =>
    show (reserveDispatchSlot env.shopDate id (ambient.now 0)).Keeps _
    unfold reserveDispatchSlot cancelBeforeDispatch claimDispatch completeOutbox
    repeat' first
      | apply Tx.keeps_bind
      | intro _
      | split
    all_goals first
      | exact ⟨fun _ => rfl, fun _ => trivial⟩
      | simp [erase, footprint]
  | pauseCampaign id => exact (Tx.keeps_update _ _ _ _ _).2 (fun _ => rfl)
  | requestPause id => exact (Tx.keeps_update _ _ _ _ _).2 (fun _ => rfl)
  | completeCampaign id completion => exact (Tx.keeps_update _ _ _ _ _).2 (fun _ => rfl)
  | acknowledgePause id =>
    refine Tx.keeps_bind ?_ fun _ => trivial
    simp [erase, footprint]
  | pauseShopForProviderFailure shopId kind =>
    refine Tx.keeps_bind ?_ fun _ => Tx.keeps_bind ?_ fun _ => trivial
    · simp [erase, footprint]
    · simp [erase, footprint]
  | pauseShopForProviderQuota shopId errorCode =>
    refine Tx.keeps_bind ?_ fun _ => Tx.keeps_bind ?_ fun _ => trivial
    · simp [erase, footprint]
    · simp [erase, footprint]
  | createAttempt id attemptNumber => exact (Tx.keeps_create _ _ _ _ _ _ _).2 (fun _ => rfl)
  | updateAttempt id attemptNumber outcome => exact (Tx.keeps_update _ _ _ _ _).2 (fun _ => rfl)
  | createMockMessage messageId conversationId contentHash =>
    exact (Tx.keeps_create _ _ _ _ _ _ _).2 (fun _ => rfl)
  | upsertConversation id conversationId => exact (Tx.keeps_upsert _ _ _ _ _).2 (fun _ => rfl)
  | setConversation id conversationId => exact (Tx.keeps_update _ _ _ _ _).2 (fun _ => rfl)
  | scheduleReconciliationRun id attemptNumber scheduledFor =>
    exact (Tx.keeps_upsert _ _ _ _ _).2 (fun _ => rfl)
  | updateReconciliationRun id attemptNumber state matched =>
    exact (Tx.keeps_update _ _ _ _ _).2 (fun _ => rfl)
  | acquire shopId operation owner => exact governed_frame _ (fun _ _ => rfl)
  | healthy permit outcome meta_ => exact governed_frame _ (fun _ _ => rfl)
  | throttle permit meta_ retryAfterMs => exact governed_frame _ (fun _ _ => rfl)
  | transientFailure permit meta_ => exact governed_frame _ (fun _ _ => rfl)
  | quotaBlocked permit code detail meta_ => exact governed_frame _ (fun _ _ => rfl)
  | release permit outcome meta_ => exact governed_frame _ (fun _ _ => rfl)
  | expireFrozenCampaigns =>
    exact expireFrozenCampaigns_frame _ (fun _ _ => rfl) (fun _ _ => rfl) (fun _ _ => rfl)
  | freeze id version campaign expiresAt =>
    show (freeze env id version campaign expiresAt (ambient.now 0) (ambient.now 1)
      (ambient.now 2)).Keeps _
    unfold freeze
    repeat' first
      | apply Tx.keeps_bind
      | apply Tx.keeps_traverse
      | intro _
      | exact freezeRecipient_frame _ _ _ _ _ _ _ (fun _ _ => rfl) (fun _ _ => rfl)
      | split
      | dsimp only
    all_goals simp [erase, footprint]
  | queueFrozen id version =>
    show (queueFrozen id version (ambient.now 0)).Keeps _
    unfold queueFrozen queueRecipient
    repeat' first
      | apply Tx.keeps_bind
      | apply Tx.keeps_traverse
      | intro _
      | split
    all_goals simp [erase, footprint]
  | resume id quotaRecovery =>
    show (resume id quotaRecovery (ambient.now 0)).Keeps _
    unfold resume
    split
    · refine Tx.keeps_bind ⟨fun _ => rfl, fun _ => trivial⟩ fun _ => Tx.keeps_bind ?_ fun _ => ?_
      · simp [erase, footprint]
      · simp [erase, footprint]
    · simp [erase, footprint]
  | cancel id =>
    show (cancel id).Keeps _
    unfold cancel
    repeat' first
      | apply Tx.keeps_bind
      | intro _
      | split
    all_goals simp [erase, footprint]
  | rebuild id retained summary =>
    show (rebuild id retained summary).Keeps _
    unfold rebuild deleteRecipients createRecipient
    repeat' first
      | apply Tx.keeps_bind
      | apply Tx.keeps_traverse
      | intro _
    all_goals simp [erase, footprint]
  | completeSettledOutbox => exact completeSettledOutbox_keeps (fun _ _ => rfl)
  | upsertOutbox id => exact upsertOutbox_keeps (fun _ _ => rfl) _ _
  | markEnqueued id => exact markEnqueued_keeps (fun _ _ => rfl) _
  | requeueOutbox id backoffMs => exact requeueOutbox_keeps (fun _ _ => rfl) _ _ _
  | findSendRecipient id => exact Tx.keeps_read _ _
  | findUnknownDelivery id => exact Tx.keeps_read _ _
  | linkedMessageIds => exact Tx.keeps_read _ _
  | frozenRecipientStates id => exact Tx.keeps_read _ _
  | findDiscoveryRun id => exact Tx.keeps_read _ _
  | queuedRecipients limit => exact Tx.keeps_read _ _
  | openOutbox limit => exact Tx.keeps_read _ _
  | campaignState id => exact Tx.keeps_readOrThrow _ _ _
  | requiredCampaign id => exact Tx.keeps_readOrThrow _ _ _

section Frame

variable {env : Environment} {options : outbound_throttle.Options} {ambient : Ambient}
  {c : Command} {r : c.Result} {db db' : Db}
  (hrun : (c.body env options ambient).run db = .ok (r, db'))

include hrun

theorem erase_eq : erase (footprint c) db' = erase (footprint c) db :=
  Tx.run_of_keeps (command_frame env options ambient c) hrun

theorem deliveries_eq (h : (footprint c).deliveries = false) : db'.deliveries = db.deliveries := by
  simpa [erase, h] using congrArg Db.deliveries (erase_eq hrun)

theorem recipients_eq (h : (footprint c).recipients = false) : db'.recipients = db.recipients := by
  simpa [erase, h] using congrArg Db.recipients (erase_eq hrun)

theorem outbox_eq (h : (footprint c).outbox = false) : db'.outbox = db.outbox := by
  simpa [erase, h] using congrArg Db.outbox (erase_eq hrun)

end Frame

end tiktok_outreach.footprints
