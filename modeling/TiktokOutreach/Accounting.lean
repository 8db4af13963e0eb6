-- The accounts of the dispatches: the counters of campaigns, deliveries and
-- shops against the dispatch events, over every run of committed transactions.
import TiktokOutreach.Commands
import TiktokOutreach.AtomicSystem

open runs tables transactions tiktok_outreach.schema tiktok_outreach.dispatch_safety
  tiktok_outreach.settlements tiktok_outreach.outreach_service tiktok_outreach.commands

namespace tiktok_outreach.accounting

/-! ## The counters -/

/-- All that counts dispatches. -/
structure Counters where
  dispatchCount : CampaignId → Option Int
  attemptCount : DeliveryId → Int
  attempts : CampaignId → Int
  usage : Nat → Int
  events : List DispatchEvent

def counters (db : Db) : Counters where
  dispatchCount c := (db.campaigns.get c).map (·.dispatchCount)
  attemptCount d := ((db.deliveries.get d).map (·.attemptCount)).getD 0
  attempts c := db.deliveries.sum (fun d => d.campaignId = c) (·.attemptCount)
  usage shopId := db.dailyUsage.sum (fun key => key.1 = shopId) (fun n => n)
  events := db.dispatchEvents

/-- The number of dispatch events of a campaign. -/
def Counters.campaignEvents (k : Counters) (c : CampaignId) : Nat :=
  k.events.countP (fun e => e.campaignId = c)

/-- The number of dispatch events of a shop. -/
def Counters.shopEvents (k : Counters) (shopId : Nat) : Nat :=
  k.events.countP (fun e => e.campaignId.shopId = shopId)

/-! ## What the other transactions keep -/

@[simp] theorem counters_recipients (db : Db) (t : Table RecipientId Recipient) :
    counters { db with recipients := t } = counters db := rfl

@[simp] theorem counters_reservations (db : Db) (t : Table RecipientId Reservation) :
    counters { db with reservations := t } = counters db := rfl

@[simp] theorem counters_outbox (db : Db) (t : Table RecipientId Outbox) :
    counters { db with outbox := t } = counters db := rfl

@[simp] theorem counters_attempts (db : Db) (t : Table (DeliveryId × Int) Attempt) :
    counters { db with attempts := t } = counters db := rfl

@[simp] theorem counters_reconciliations (db : Db) (t : Table (DeliveryId × Int) ReconciliationRun) :
    counters { db with reconciliations := t } = counters db := rfl

@[simp] theorem counters_contacts (db : Db) (t : Table (Nat × Nat) Contact) :
    counters { db with contacts := t } = counters db := rfl

@[simp] theorem counters_conversations (db : Db) (t : Table String Conversation) :
    counters { db with conversations := t } = counters db := rfl

@[simp] theorem counters_messages (db : Db) (t : Table String ConversationMessage) :
    counters { db with messages := t } = counters db := rfl

theorem counters_campaigns (db : Db) (p : CampaignId → Campaign → Bool) {f : Campaign → Campaign}
    (hf : ∀ a, (f a).dispatchCount = a.dispatchCount) :
    counters { db with campaigns := db.campaigns.updateMany p f } = counters db := by
  unfold counters
  congr 1
  funext c
  rw [Table.map_get_updateMany]
  simp [hf]

theorem counters_deliveries (db : Db) (p : DeliveryId → Delivery → Bool) {f : Delivery → Delivery}
    (hf : ∀ a, (f a).attemptCount = a.attemptCount) :
    counters { db with deliveries := db.deliveries.updateMany p f } = counters db := by
  unfold counters
  congr 1
  · funext d
    rw [Table.map_get_updateMany]
    simp [hf]
  · funext c
    exact Table.sum_updateMany _ _ _ hf

/-- A new delivery has no attempts. -/
theorem counters_create (db : Db) {d : DeliveryId} (hd : db.deliveries.get d = none)
    {delivery : Delivery} (h : delivery.attemptCount = 0) :
    counters { db with deliveries := db.deliveries.set d delivery } = counters db := by
  unfold counters
  congr 1
  · funext d'
    by_cases hd' : d' = d
    · simp [hd', hd, h]
    · simp [hd']
  · funext c
    rw [Table.sum_set_new hd]
    simp [h]

theorem expireFrozenCampaigns_keeps (now : Int) :
    (expireFrozenCampaigns now).Keeps counters := by
  unfold expireFrozenCampaigns
  refine Tx.keeps_bind (by simp) fun expired => Tx.keeps_bind ?_ fun _ => trivial
  apply Tx.keeps_traverse
  intro r _
  unfold expireCampaign
  refine Tx.keeps_bind ?_ fun changed => ?_
  · simp [counters_campaigns]
  split
  · trivial
  · refine Tx.keeps_bind (by simp) fun _ => Tx.keeps_bind (by simp) fun _ => trivial

theorem freezeRecipient_keeps (env : Environment) (campaign : Campaign) (cutoff expiresAt : Int)
    (activelyReserved : List Nat) (selected : SelectedRecipient) (index : Nat) :
    (freezeRecipient env campaign cutoff expiresAt activelyReserved selected index).Keeps counters := by
  unfold freezeRecipient
  split
  · exact Tx.keeps_bind (by simp) fun _ => trivial
  · dsimp only
    split
    · trivial
    · split
      · trivial
      · exact Tx.keeps_bind (by simp) fun _ => Tx.keeps_bind (by simp) fun _ => trivial

theorem freeze_keeps (env : Environment) (id : CampaignId) (version : Int) (campaign : Campaign)
    (expiresAt deletedAt eligibilityCheckedAt frozenAt : Int) :
    (outreach_service.freeze env id version campaign expiresAt deletedAt eligibilityCheckedAt
      frozenAt).Keeps counters := by
  unfold outreach_service.freeze
  refine Tx.keeps_bind (by simp) fun selectedCreatorIds => ?_
  split
  · trivial
  refine Tx.keeps_bind (keeps_lockCreatorEligibility _ _ _) fun _ =>
    Tx.keeps_bind (by simp) fun current => ?_
  split
  · trivial
  refine Tx.keeps_bind (by simp) fun _ => Tx.keeps_bind (by simp) fun selected => ?_
  split
  · trivial
  refine Tx.keeps_bind (by simp) fun activelyReserved => ?_
  refine Tx.keeps_bind (Tx.keeps_traverse fun s _ => freezeRecipient_keeps _ _ _ _ _ _ _)
    fun reasons => ?_
  dsimp only
  split
  · exact Tx.keeps_bind (by simp) fun _ => by simp [counters_campaigns]
  · simp [counters_campaigns]

theorem queueRecipient_keeps (id : RecipientId) (contentHash : String) (now : Int) :
    (queueRecipient id contentHash now).Keeps counters := by
  unfold queueRecipient
  refine Tx.keeps_bind ?_ fun _ => Tx.keeps_bind (by simp) fun _ => by simp
  rw [Tx.keeps_upsert]
  intro db
  dsimp only [table.deliveries]
  split
  · exact counters_deliveries db _ (fun _ => rfl)
  · rename_i h
    exact counters_create db h rfl

theorem queueFrozen_keeps (id : CampaignId) (version now : Int) :
    (outreach_service.queueFrozen id version now).Keeps counters := by
  unfold outreach_service.queueFrozen
  refine Tx.keeps_bind (by simp [counters_campaigns]) fun changed => ?_
  split
  · trivial
  refine Tx.keeps_bind (by simp) fun recipients => ?_
  split
  · trivial
  refine Tx.keeps_bind (by simp) fun _ => ?_
  exact Tx.keeps_bind (Tx.keeps_traverse fun r _ => queueRecipient_keeps _ _ _) fun _ => trivial

theorem resume_keeps (id : CampaignId) (quotaRecovery : Bool) (now : Int) :
    (outreach_service.resume id quotaRecovery now).Keeps counters := by
  unfold outreach_service.resume
  split
  · refine Tx.keeps_bind ⟨fun _ => rfl, fun _ => trivial⟩ fun _ => ?_
    exact Tx.keeps_bind (by simp) fun _ => by simp [counters_campaigns]
  · simp [counters_campaigns]

theorem cancel_keeps (id : CampaignId) : (outreach_service.cancel id).Keeps counters := by
  unfold outreach_service.cancel
  refine Tx.keeps_bind (by simp) fun ids => ?_
  split
  · simp [counters_campaigns]
  · repeat' first | apply Tx.keeps_bind | intro _
    all_goals simp [counters_campaigns, counters_deliveries]

theorem markSent_keeps (id : RecipientId) (creatorOpenId : Option String)
    (conversationId externalMessageId : String) (now : Int) :
    (settlements.markSent id creatorOpenId conversationId externalMessageId now).Keeps counters := by
  unfold settlements.markSent completeOutbox
  repeat' first | apply Tx.keeps_bind | intro _
  all_goals simp [counters_deliveries]

theorem settleWithout_keeps (id : RecipientId) (ds : DeliveryState) (rs : RecipientState)
    (errorCode : String) : (settleWithout id ds rs errorCode).Keeps counters := by
  unfold settleWithout completeOutbox
  repeat' first | apply Tx.keeps_bind | intro _
  all_goals simp [counters_deliveries]

theorem unknown_keeps (id : RecipientId) : (markUnresolved id).Keeps counters := by
  simp [markUnresolved]

theorem governed_keeps {α : Type} (f : outbound_throttle.Store →
    Except outbound_throttle.DbError (α × outbound_throttle.Store)) :
    (governed f).Keeps counters := by
  refine ⟨fun db => ?_, fun db => ?_⟩
  · dsimp only
    split <;> rfl
  · dsimp only
    split <;> trivial

theorem pauseShop_keeps (shopId : Nat) (reason : String) :
    (pauseShop shopId reason).Keeps counters := by
  unfold pauseShop
  refine Tx.keeps_bind ?_ fun _ => Tx.keeps_bind (by simp) fun _ => trivial
  simp [counters_campaigns]

/-- The commands that move no counter: all but the claim and the rebuild. -/
def uncounted : Command → Bool
  | .reserveDispatchSlot _ | .rebuild _ _ _ => false
  | _ => true

theorem command_keeps {env : Environment} {options : outbound_throttle.Options} {ambient : Ambient}
    {c : Command} (hc : uncounted c = true) : (c.body env options ambient).Keeps counters := by
  cases c with
  | reserveDispatchSlot id => cases hc
  | rebuild id retained summary => cases hc
  | recoverDispatchingDelivery id =>
    refine Tx.keeps_bind (keeps_lockCreatorEligibility _ _ _) fun _ => Tx.keeps_bind ?_ fun _ =>
      Tx.keeps_bind ?_ fun _ => Tx.keeps_bind (unknown_keeps id) fun _ => ?_
    · simp [counters_deliveries]
    · simp
    · exact Tx.keeps_bind (by simp) fun _ => trivial
  | markSent id creatorOpenId conversationId messageId => exact markSent_keeps _ _ _ _ _
  | markTerminalFailure id errorCode => exact settleWithout_keeps _ _ _ _
  | markRestricted id errorCode => exact settleWithout_keeps _ _ _ _
  | markDeliveryUnknown id attemptNumber =>
    refine Tx.keeps_bind (keeps_lockCreatorEligibility _ _ _) fun _ => Tx.keeps_bind ?_ fun _ =>
      Tx.keeps_bind ?_ fun _ => Tx.keeps_bind ?_ fun _ => Tx.keeps_bind (unknown_keeps id) fun _ => ?_
    · simp
    · simp [counters_deliveries]
    · simp
    · exact Tx.keeps_bind (by simp) fun _ => trivial
  | makeDeliveryRetryable id =>
    refine Tx.keeps_bind ?_ fun _ => ?_
    · simp [counters_deliveries]
    · exact (Tx.keeps_update _ _ _ _ _).2 (fun _ => rfl)
  | giveUpReconciliation id attemptNumber =>
    refine Tx.keeps_bind ?_ fun _ => Tx.keeps_bind ?_ fun _ => Tx.keeps_bind ?_ fun _ => ?_
    · simp [updateReconciliationRun]
    · simp [counters_deliveries]
    · simp
    · exact (Tx.keeps_deleteMany _ _ _).2 (fun _ => rfl)
  | setConversation id conversationId =>
    exact (Tx.keeps_update _ _ _ _ _).2 (fun db => counters_deliveries db _ (fun _ => rfl))
  | pauseCampaign id =>
    exact (Tx.keeps_update _ _ _ _ _).2 (fun db => counters_campaigns db _ (fun _ => rfl))
  | requestPause id =>
    exact (Tx.keeps_update _ _ _ _ _).2 (fun db => counters_campaigns db _ (fun _ => rfl))
  | completeCampaign id completion =>
    exact (Tx.keeps_update _ _ _ _ _).2 (fun db => counters_campaigns db _ (fun _ => rfl))
  | acknowledgePause id =>
    refine Tx.keeps_bind ?_ fun _ => trivial
    simp [counters_campaigns]
  | pauseShopForProviderFailure shopId kind => exact pauseShop_keeps _ _
  | pauseShopForProviderQuota shopId errorCode => exact pauseShop_keeps _ _
  | createAttempt id attemptNumber => exact (Tx.keeps_create _ _ _ _ _ _ _).2 (fun _ => rfl)
  | updateAttempt id attemptNumber outcome => exact (Tx.keeps_update _ _ _ _ _).2 (fun _ => rfl)
  | createMockMessage messageId conversationId contentHash =>
    exact (Tx.keeps_create _ _ _ _ _ _ _).2 (fun _ => rfl)
  | upsertConversation id conversationId => exact (Tx.keeps_upsert _ _ _ _ _).2 (fun _ => rfl)
  | scheduleReconciliationRun id attemptNumber scheduledFor =>
    exact (Tx.keeps_upsert _ _ _ _ _).2 (fun _ => rfl)
  | updateReconciliationRun id attemptNumber state matched =>
    exact (Tx.keeps_update _ _ _ _ _).2 (fun _ => rfl)
  | acquire shopId operation owner => exact governed_keeps _
  | healthy permit outcome meta_ => exact governed_keeps _
  | throttle permit meta_ retryAfterMs => exact governed_keeps _
  | transientFailure permit meta_ => exact governed_keeps _
  | quotaBlocked permit code detail meta_ => exact governed_keeps _
  | release permit outcome meta_ => exact governed_keeps _
  | expireFrozenCampaigns => exact expireFrozenCampaigns_keeps _
  | freeze id version campaign expiresAt => exact freeze_keeps _ _ _ _ _ _ _ _
  | queueFrozen id version => exact queueFrozen_keeps _ _ _
  | completeSettledOutbox => exact queue_outbox.completeSettledOutbox_keeps (fun _ _ => rfl)
  | upsertOutbox id => exact queue_outbox.upsertOutbox_keeps (fun _ _ => rfl) _ _
  | markEnqueued id => exact queue_outbox.markEnqueued_keeps (fun _ _ => rfl) _
  | requeueOutbox id backoffMs => exact queue_outbox.requeueOutbox_keeps (fun _ _ => rfl) _ _ _
  | queuedRecipients limit => exact Tx.keeps_read _ _
  | openOutbox limit => exact Tx.keeps_read _ _
  | resume id quotaRecovery => exact resume_keeps _ _ _
  | cancel id => exact cancel_keeps _
  | findSendRecipient id => exact Tx.keeps_read _ _
  | findUnknownDelivery id => exact Tx.keeps_read _ _
  | linkedMessageIds => exact Tx.keeps_read _ _
  | frozenRecipientStates id => exact Tx.keeps_read _ _
  | findDiscoveryRun id => exact Tx.keeps_read _ _
  | campaignState id => exact Tx.keeps_readOrThrow _ _ _
  | requiredCampaign id => exact Tx.keeps_readOrThrow _ _ _

/-! ## What a claim adds -/

/-- The counters after a claim at `now` that was granted. -/
def Counters.add (k : Counters) (id : DeliveryId) (now : Int) : Counters where
  dispatchCount c := if c = id.campaignId then (k.dispatchCount c).map (· + 1) else k.dispatchCount c
  attemptCount d := if d = id then k.attemptCount d + 1 else k.attemptCount d
  attempts c := if c = id.campaignId then k.attempts c + 1 else k.attempts c
  usage shopId := if shopId = id.shopId then k.usage shopId + 1 else k.usage shopId
  events := k.events ++ [⟨id.campaignId, id, now⟩]

theorem claimDispatch_counts {shopDate : Nat → Int → Int} {id : RecipientId} {d : Delivery}
    {now : Int} {claim : DispatchClaim} {db db' : Db} (hd : db.deliveries.get id = some d)
    (h : (claimDispatch shopDate id d now).run db = .ok (claim, db')) :
    claim = .claimed ((counters db).attemptCount id + 1) ∧
      counters db' = (counters db).add id now := by
  simp [claimDispatch] at h
  obtain ⟨hc, _, ⟨hr, rfl⟩, rfl⟩ := h
  refine ⟨by simp [counters, hd], ?_⟩
  unfold counters Counters.add
  congr 1
  · funext c
    rw [Table.map_get_updateOne]
    by_cases hcid : c = id.campaignId <;> simp [hcid, Function.comp_def]
  · funext d'
    rw [Table.map_get_updateOne]
    by_cases hd' : d' = id
    · subst hd'
      simp [hd]
    · simp [hd']
  · funext c
    rw [Table.sum_updateOne hd]
    simp [eq_comm]
    split <;> simp
  · funext shopId
    cases hu : db.dailyUsage.get (id.shopId, shopDate id.shopId now) with
    | none =>
      refine (Table.sum_set_new hu _ _ _).trans ?_
      by_cases hs : shopId = id.shopId <;> simp [hs, eq_comm]
    | some n =>
      dsimp only [Option.elim]
      refine (Table.sum_updateOne hu (· + 1) (fun key => key.1 = shopId) (fun n => n)).trans ?_
      by_cases hs : shopId = id.shopId <;> simp [hs, eq_comm]

/-- A claim that is not granted moves no counter. -/
theorem cancelBeforeDispatch_keeps (id : RecipientId) (reason : String) :
    (cancelBeforeDispatch id reason).Keeps counters := by
  unfold cancelBeforeDispatch completeOutbox
  repeat' first | apply Tx.keeps_bind | intro _
  all_goals simp [counters_deliveries]

theorem reserveDispatchSlot_counts {shopDate : Nat → Int → Int} {id : RecipientId} {now : Int}
    {claim : DispatchClaim} {db db' : Db}
    (h : (reserveDispatchSlot shopDate id now).run db = .ok (claim, db')) :
    (claim = .claimed ((counters db).attemptCount id + 1) ∧
      counters db' = (counters db).add id now ∧
      (db.campaigns.get id.campaignId).isSome) ∨
    (∃ cancelled reason, claim = .notClaimed cancelled reason) ∧ counters db' = counters db := by
  obtain ⟨campaign, delivery, hc, hd, ⟨rfl, rfl⟩ | ⟨_, _, h⟩⟩ := dispatch_core.reserveDispatchSlot_cases h
  · exact Or.inr ⟨⟨_, _, rfl⟩, rfl⟩
  · split at h
    · refine Or.inr ⟨?_, Tx.run_of_keeps (cancelBeforeDispatch_keeps id _) h⟩
      exact ⟨_, _, (dispatch_core.cancelBeforeDispatch_settles h).1⟩
    · obtain ⟨hclaim, hcounters⟩ := claimDispatch_counts hd h
      exact Or.inl ⟨hclaim, hcounters, by simp [hc]⟩

/-! ## The books -/

/-- The counters agree with the events. -/
structure Balanced (k : Counters) : Prop where
  campaigns : ∀ c n, k.dispatchCount c = some n → n = k.campaignEvents c
  attempts : ∀ c, k.attempts c = k.campaignEvents c
  usage : ∀ shopId, k.usage shopId = k.shopEvents shopId

theorem campaignEvents_add (k : Counters) (id : DeliveryId) (now : Int) (c : CampaignId) :
    (k.add id now).campaignEvents c = k.campaignEvents c + if c = id.campaignId then 1 else 0 := by
  simp [Counters.campaignEvents, Counters.add, List.countP_cons, eq_comm]

theorem shopEvents_add (k : Counters) (id : DeliveryId) (now : Int) (shopId : Nat) :
    (k.add id now).shopEvents shopId = k.shopEvents shopId + if shopId = id.shopId then 1 else 0 := by
  by_cases hs : shopId = id.campaignId.shopId <;>
    simp [Counters.shopEvents, Counters.add, eq_comm, RecipientId.shopId, hs]

theorem balanced_add {k : Counters} (h : Balanced k) (id : DeliveryId) (now : Int) :
    Balanced (k.add id now) := by
  constructor
  · intro c n hn
    rw [campaignEvents_add]
    by_cases hc : c = id.campaignId
    · simp only [Counters.add, hc, if_true, Option.map_eq_some_iff] at hn
      obtain ⟨m, hm, rfl⟩ := hn
      have := h.campaigns _ m hm
      simp [hc, this]
    · have := h.campaigns c n (by simpa [Counters.add, hc] using hn)
      simp [hc, this]
  · intro c
    rw [campaignEvents_add]
    have := h.attempts c
    by_cases hc : c = id.campaignId
    · subst hc
      simp [Counters.add, this]
    · simp [Counters.add, hc, this]
  · intro shopId
    rw [shopEvents_add]
    have := h.usage shopId
    by_cases hs : shopId = id.shopId
    · subst hs
      simp [Counters.add, this]
    · simp [Counters.add, hs, this]

/-! ## The runs -/

section Runs

variable {env : Environment} {options : outbound_throttle.Options}

/-- A committed transaction and what it returned. -/
abbrev Commit := Σ c : Command, c.Result

variable (env options) in
/-- The transaction commits at some time. -/
def Committed (db : Db) (l : Commit) (db' : Db) : Prop :=
  ∃ ambient, (l.1.body env options ambient).run db = .ok (l.2, db')

/-- The transactions that delete no rows of a campaign. -/
def keepsRows : Commit → Bool
  | ⟨.rebuild _ _ _, _⟩ => false
  | _ => true

/-- The attempt number of a claim of `d` that was granted. -/
def attemptNumber (d : DeliveryId) : Commit → Option Int
  | ⟨.reserveDispatchSlot id, .claimed n⟩ => if id = d then some n else none
  | _ => none

/-- A claim that was refused, or that found the recipient excluded. -/
def refused : Commit → Bool
  | ⟨.reserveDispatchSlot _, .notClaimed _ _⟩ => true
  | _ => false

/-- What one transaction does to the counters. -/
theorem committed_counts {db db' : Db} {l : Commit} (h : Committed env options db l db')
    (hkeeps : keepsRows l = true) :
    (∃ id now, l = ⟨.reserveDispatchSlot id, .claimed ((counters db).attemptCount id + 1)⟩ ∧
      counters db' = (counters db).add id now) ∨
    (∀ d, attemptNumber d l = none) ∧ counters db' = counters db := by
  obtain ⟨ambient, hrun⟩ := h
  obtain ⟨c, r⟩ := l
  by_cases hc : uncounted c = true
  · refine Or.inr ⟨?_, Tx.run_of_keeps (command_keeps hc) hrun⟩
    intro d
    cases c <;> first | rfl | cases hc
  · cases c with
    | reserveDispatchSlot id =>
      rcases reserveDispatchSlot_counts hrun with ⟨rfl, hcounters, _⟩ | ⟨⟨cancelled, reason, rfl⟩, hcounters⟩
      · exact Or.inl ⟨id, _, rfl, hcounters⟩
      · exact Or.inr ⟨fun _ => rfl, hcounters⟩
    | rebuild id retained summary => cases hkeeps
    | _ => exact absurd rfl hc

theorem run_balanced {db db' : Db} {ls : List Commit} (hrun : Run (Committed env options) db ls db')
    (hkeeps : ∀ l ∈ ls, keepsRows l = true) (h : Balanced (counters db)) :
    Balanced (counters db') := by
  apply hrun.invariant (fun db => Balanced (counters db)) _ h
  intro s l t hl hstep hs
  rcases committed_counts hstep (hkeeps l hl) with ⟨id, now, _, hcounters⟩ | ⟨_, hcounters⟩
  · rw [hcounters]
    exact balanced_add hs id now
  · rwa [hcounters]

/-- The claims of a delivery count up from its stored attempts. -/
theorem run_attemptNumbers {db db' : Db} {ls : List Commit}
    (hrun : Run (Committed env options) db ls db') (hkeeps : ∀ l ∈ ls, keepsRows l = true)
    (d : DeliveryId) : ∃ k : Nat,
      ls.filterMap (attemptNumber d) =
        (List.range k).map (fun i : Nat => (counters db).attemptCount d + (i : Int) + 1) ∧
      (counters db').attemptCount d = (counters db).attemptCount d + k := by
  induction hrun with
  | nil => exact ⟨0, rfl, by simp⟩
  | @cons s t u l ls hstep _ ih =>
    obtain ⟨k, hnumbers, hcount⟩ := ih (fun l' hl' => hkeeps l' (List.mem_cons_of_mem _ hl'))
    rcases committed_counts hstep (hkeeps l List.mem_cons_self) with
      ⟨id, now, rfl, hcounters⟩ | ⟨hnone, hcounters⟩
    · by_cases hid : id = d
      · subst hid
        have hadd : (counters t).attemptCount id = (counters s).attemptCount id + 1 := by
          rw [hcounters]
          simp [Counters.add]
        refine ⟨k + 1, ?_, by rw [hcount, hadd]; push_cast; omega⟩
        rw [List.filterMap_cons_some (b := (counters s).attemptCount id + 1) (by simp [attemptNumber]),
          hnumbers, hadd, List.range_succ_eq_map, List.map_cons, List.map_map]
        simp only [Nat.cast_zero, add_zero]
        congr 1
        apply List.map_congr_left
        intro i _
        simp only [Function.comp_apply]
        push_cast
        omega
      · have hsame : (counters t).attemptCount d = (counters s).attemptCount d := by
          rw [hcounters]
          simp [Counters.add, Ne.symm hid]
        refine ⟨k, ?_, by rw [hcount, hsame]⟩
        rw [List.filterMap_cons_none (by simp [attemptNumber, hid]), hnumbers, hsame]
    · refine ⟨k, ?_, by rw [hcount, hcounters]⟩
      rw [List.filterMap_cons_none (hnone d), hnumbers, hcounters]

/-- Nothing was dispatched yet. -/
structure Undispatched (db : Db) : Prop where
  events : db.dispatchEvents = []
  usage : db.dailyUsage = Table.empty
  campaigns : ∀ c campaign, db.campaigns.get c = some campaign → campaign.dispatchCount = 0
  deliveries : ∀ d delivery, db.deliveries.get d = some delivery → delivery.attemptCount = 0

theorem balanced_of_undispatched {db : Db} (h : Undispatched db) : Balanced (counters db) := by
  constructor
  · intro c n hn
    obtain ⟨campaign, hcampaign, rfl⟩ := Option.map_eq_some_iff.1 hn
    simp [Counters.campaignEvents, counters, h.events, h.campaigns c campaign hcampaign]
  · intro c
    simp only [counters, Counters.campaignEvents, h.events, List.countP_nil, Nat.cast_zero]
    exact Table.sum_eq_zero h.deliveries _
  · intro shopId
    simp [Counters.shopEvents, counters, h.events, h.usage]

/-- In every run the counters of the campaigns, of their deliveries and of the shops equal the
numbers of dispatch events, the claims of a delivery are numbered 1, 2, ..., `attemptCount`,
and a claim that is not granted moves none of these numbers. -/
theorem dispatches_are_accounted {db db' : Db} {ls : List Commit}
    (hrun : Run (Committed env options) db ls db') (hkeeps : ∀ l ∈ ls, keepsRows l = true)
    (h : Undispatched db) :
    (∀ c campaign, db'.campaigns.get c = some campaign →
      campaign.dispatchCount = (counters db').campaignEvents c ∧
      campaign.dispatchCount = (counters db').attempts c) ∧
    (∀ shopId, (counters db').usage shopId = (counters db').shopEvents shopId) ∧
    (∀ d delivery, db'.deliveries.get d = some delivery → ∃ k : Nat, delivery.attemptCount = k ∧
      ls.filterMap (attemptNumber d) = (List.range k).map (fun i : Nat => (i : Int) + 1)) ∧
    (∀ before after l s t, ls = before ++ l :: after → refused l = true →
      Run (Committed env options) db before s → Committed env options s l t →
      counters t = counters s) := by
  have hbalanced := run_balanced hrun hkeeps (balanced_of_undispatched h)
  refine ⟨?_, hbalanced.usage, ?_, ?_⟩
  · intro c campaign hcampaign
    have hn : (counters db').dispatchCount c = some campaign.dispatchCount := by
      simp [counters, hcampaign]
    have := hbalanced.campaigns c _ hn
    exact ⟨this, by rw [this, hbalanced.attempts]⟩
  · intro d delivery hdelivery
    obtain ⟨k, hnumbers, hcount⟩ := run_attemptNumbers hrun hkeeps d
    have hzero : (counters db).attemptCount d = 0 := by
      cases hd : db.deliveries.get d with
      | none => simp [counters, hd]
      | some a => simp [counters, hd, h.deliveries d a hd]
    have hcount' : (counters db').attemptCount d = delivery.attemptCount := by
      simp [counters, hdelivery]
    refine ⟨k, by rw [← hcount', hcount, hzero, zero_add], ?_⟩
    rw [hnumbers, hzero]
    simp only [zero_add]
  · intro before after l s t hls hrefused _ hstep
    rcases committed_counts hstep (hkeeps l (by rw [hls]; simp)) with ⟨id, now, rfl, _⟩ | ⟨_, hcounters⟩
    · cases hrefused
    · exact hcounters

end Runs

theorem a_claim_is_accounted : ∃ db',
    Run (Committed system.sampleEnvironment system.sampleOptions) system.queuedDb
      [⟨.reserveDispatchSlot system.sampleRecipient, .claimed 1⟩] db' ∧
    (counters db').usage 1 = (counters db').shopEvents 1 := by
  have hrun : ((reserveDispatchSlot system.sampleEnvironment.shopDate system.sampleRecipient 5).run
      system.queuedDb).toOption.map (·.1) = some (.claimed 1) := by
    decide +kernel
  obtain ⟨⟨claim, db'⟩, hclaim, rfl⟩ := Option.map_eq_some_iff.1 hrun
  have hcommitted : Run (Committed system.sampleEnvironment system.sampleOptions) system.queuedDb
      [⟨.reserveDispatchSlot system.sampleRecipient, .claimed 1⟩] db' := by
    refine Run.cons ⟨⟨fun _ => 5, 0⟩, ?_⟩ (Run.nil _)
    cases h : (reserveDispatchSlot system.sampleEnvironment.shopDate system.sampleRecipient 5).run
      system.queuedDb with
    | ok r =>
      rw [h] at hclaim
      cases hclaim
      exact h
    | error e =>
      rw [h] at hclaim
      cases hclaim
  have hnew : Undispatched system.queuedDb := by
    refine ⟨rfl, rfl, ?_, ?_⟩
    · intro c campaign hcampaign
      simp only [system.queuedDb, Table.get_set] at hcampaign
      split at hcampaign
      · cases hcampaign
        rfl
      · simp at hcampaign
    · intro d delivery hdelivery
      simp only [system.queuedDb, Table.get_set] at hdelivery
      split at hdelivery
      · cases hdelivery
        rfl
      · simp at hdelivery
  exact ⟨db', hcommitted, (dispatches_are_accounted hcommitted (by simp [keepsRows]) hnew).2.1 1⟩

end tiktok_outreach.accounting
