-- The states of the outbox entries, and every transition between them.
import TiktokOutreach.Footprints
import TiktokOutreach.StateTransitions
import TiktokOutreach.DispatchRefinement

open tables transactions tiktok_outreach.schema tiktok_outreach.dispatch_safety
  tiktok_outreach.settlements tiktok_outreach.outreach_service tiktok_outreach.queue_outbox
  tiktok_outreach.commands tiktok_outreach.dispatch_core tiktok_outreach.footprints

namespace tiktok_outreach.outbox_transitions

def entry (db : Db) (id : RecipientId) : Option OutboxState := (db.outbox.get id).map (·.state)

/-- The recipient is queued, and its delivery can be claimed. -/
def Waiting (k : Core) (id : RecipientId) : Prop :=
  (∃ r, k.recipient id = some r ∧ r.state = .QUEUED) ∧ ∃ s, k.delivery id = some s ∧ claimable s = true

/-- A recipient waits since it was queued, or since its delivery was given back. -/
theorem waiting_step {a : Action} {k k' : Core} {id : RecipientId} (hstep : a.Step k k')
    (h : Waiting k' id) : Waiting k id ∨ a.Unblocks id ∨
      a = .queue id.campaignId ∧ queueable k id.campaignId id = true := by
  obtain ⟨⟨r, hr, hqueued⟩, s, hs, hclaimable⟩ := h
  cases a with
  | nothing =>
    cases hstep
    exact Or.inl ⟨⟨r, hr, hqueued⟩, s, hs, hclaimable⟩
  | settle id0 ds rs releases =>
    by_cases hid : id = id0
    · subst hid
      rw [settled_delivery hstep] at hs
      cases hs
      exact Or.inr (Or.inl ⟨rfl, hclaimable⟩)
    · obtain ⟨_, rfl⟩ := hstep
      simp only [Core.release, Core.setRecipient, Core.setDelivery, if_neg hid] at hr hs
      exact Or.inl ⟨⟨r, hr, hqueued⟩, s, hs, hclaimable⟩
  | claim id0 now =>
    obtain ⟨_, _, _, _, rfl⟩ := hstep
    by_cases hid : id = id0
    · simp only [Core.setRecipient, if_pos hid, Option.map_eq_some_iff] at hr
      obtain ⟨_, _, rfl⟩ := hr
      cases hqueued
    · simp only [Core.setRecipient, Core.setDelivery, Core.setCampaign, if_neg hid] at hr hs
      exact Or.inl ⟨⟨r, hr, hqueued⟩, s, hs, hclaimable⟩
  | setCampaign c s' =>
    obtain ⟨_, rfl⟩ := hstep
    exact Or.inl ⟨⟨r, hr, hqueued⟩, s, hs, hclaimable⟩
  | pauseShop shopId =>
    cases hstep
    exact Or.inl ⟨⟨r, hr, hqueued⟩, s, hs, hclaimable⟩
  | acknowledgePause c =>
    cases hstep
    exact Or.inl ⟨⟨r, hr, hqueued⟩, s, hs, hclaimable⟩
  | expire =>
    obtain ⟨gone, hexpires⟩ := hstep
    rw [hexpires.recipient, Option.map_eq_some_iff] at hr
    rw [hexpires.delivery] at hs
    obtain ⟨r0, hr0, rfl⟩ := hr
    split at hqueued
    · cases hqueued
    · exact Or.inl ⟨⟨r0, hr0, hqueued⟩, s, hs, hclaimable⟩
  | freeze c expiresAt deletedAt =>
    obtain ⟨kept, hfreezes⟩ := hstep
    rw [hfreezes.delivery] at hs
    cases hkept : kept id with
    | true =>
      rw [hfreezes.frozen id hkept] at hr
      cases hr
      cases hqueued
    | false =>
      rcases hfreezes.skipped id hkept with hsame | ⟨_, hskipped⟩
      · exact Or.inl ⟨⟨r, hsame ▸ hr, hqueued⟩, s, hs, hclaimable⟩
      · rw [hskipped] at hr
        cases hr
        cases hqueued
  | queue c =>
    obtain ⟨_, rfl⟩ := hstep
    by_cases hqueueable : queueable k c id = true
    · have hc : id.campaignId = c := by
        simp only [queueable, Bool.and_eq_true, decide_eq_true_eq] at hqueueable
        exact hqueueable.1
      subst hc
      exact Or.inr (Or.inr ⟨rfl, hqueueable⟩)
    · simp only [if_neg hqueueable] at hr hs
      exact Or.inl ⟨⟨r, hr, hqueued⟩, s, hs, hclaimable⟩
  | cancel c =>
    obtain ⟨_, rfl⟩ := hstep
    by_cases hunsent : unsent k c id = true
    · simp only [if_pos hunsent, Option.map_eq_some_iff] at hr
      obtain ⟨_, _, rfl⟩ := hr
      cases hqueued
    · simp only [if_neg hunsent, Option.map_eq_some_iff] at hr hs
      obtain ⟨s0, hs0, rfl⟩ := hs
      simp only [Bool.not_eq_true] at hunsent
      simp only [hunsent, Bool.false_and, Bool.false_eq_true, if_false] at hclaimable
      exact Or.inl ⟨⟨r, hr, hqueued⟩, s0, hs0, hclaimable⟩
  | rebuild c => exact Or.inr (Or.inl trivial)

/-- An action, with the state after it, takes the entry of a recipient from one state to
another. -/
inductive EntryTransition (id : RecipientId) (a : Action) (k' : Core) :
    Option OutboxState → Option OutboxState → Prop
  | keep (s : Option OutboxState) : EntryTransition id a k' s s
  | enqueue (s : Option OutboxState) (s' : OutboxState) (hs : enqueueable s' = true) :
      EntryTransition id a k' s (some s')
  | complete (s : Option OutboxState) (hid : ¬ Waiting k' id) :
      EntryTransition id a k' s (some .COMPLETED)
  | pause (s : Option OutboxState) (ha : a = .pauseShop id.shopId) :
      EntryTransition id a k' s (some .SAFETY_PAUSED)

/-- An update of the entries takes each through a transition when it does so for those that it
changes. -/
theorem entry_updateMany {id : RecipientId} {a : Action} {k' : Core} {p : RecipientId → Outbox → Bool}
    {f : Outbox → Outbox} {db db' : Db} (h : db'.outbox = db.outbox.updateMany p f)
    (hf : ∀ e, db.outbox.get id = some e → p id e = true →
      EntryTransition id a k' (some e.state) (some (f e).state)) :
    EntryTransition id a k' (entry db id) (entry db' id) := by
  unfold entry
  rw [h, Table.get_updateMany]
  cases he : db.outbox.get id with
  | none => exact .keep _
  | some e =>
    by_cases hp : p id e = true
    · simpa [hp] using hf e he hp
    · simpa [hp] using EntryTransition.keep (some e.state)

/-! ## The settlements -/

/-- The entry of the recipient is completed, and no other one changes. -/
def Completes (id : RecipientId) (db db' : Db) : Prop :=
  db'.outbox = db.outbox.updateMany (fun id' _ => id' = id) (fun e => { e with state := .COMPLETED })

theorem entry_of_completes {id : RecipientId} {db db' : Db} {a : Action} (h : Completes id db db')
    (hid : ¬ Waiting (coreOf db') id) (id' : RecipientId) :
    EntryTransition id' a (coreOf db') (entry db id') (entry db' id') := by
  have hentry : entry db' id' =
      if id' = id then (entry db id').map (fun _ => .COMPLETED) else entry db id' := by
    unfold entry
    rw [show db'.outbox = _ from h, Table.map_get_updateOne, Option.map_map]
    rfl
  rw [hentry]
  by_cases heq : id' = id
  · subst heq
    rw [if_pos rfl]
    cases hs : entry db id' with
    | none => exact .keep _
    | some s => exact .complete _ hid
  · rw [if_neg heq]
    exact .keep _

theorem not_waiting_of_settle {id : DeliveryId} {ds : DeliveryState} {rs : RecipientState}
    {releases : Bool} {k k' : Core} (h : (Action.settle id ds rs releases).Step k k')
    (hds : claimable ds = false) : ¬ Waiting k' id := by
  rintro ⟨_, s, hs, hclaimable⟩
  rw [settled_delivery h] at hs
  cases hs
  rw [hds] at hclaimable
  cases hclaimable

theorem recoverDispatchingDelivery_completes {id : RecipientId} {db db' : Db}
    (h : (recoverDispatchingDelivery id).run db = .ok ((), db')) : Completes id db db' := by
  simp [recoverDispatchingDelivery, markUnresolved, completeOutbox] at h
  obtain ⟨_, _, rfl⟩ := h
  rfl

theorem settleWithout_completes {id : RecipientId} {ds : DeliveryState} {rs : RecipientState}
    {errorCode : String} {db db' : Db}
    (h : (settleWithout id ds rs errorCode).run db = .ok ((), db')) : Completes id db db' := by
  simp [settleWithout, completeOutbox] at h
  obtain ⟨_, _, rfl⟩ := h
  rfl

theorem markSent_completes {id : RecipientId} {creatorOpenId : Option String}
    {conversationId messageId : String} {now : Int} {db db' : Db}
    (h : (markSent id creatorOpenId conversationId messageId now).run db = .ok ((), db')) :
    Completes id db db' := by
  simp [markSent, completeOutbox] at h
  obtain ⟨_, _, _, _, rfl⟩ := h
  rfl

theorem markDeliveryUnknown_completes {id : RecipientId} {attemptNumber now : Int} {db db' : Db}
    (h : (markDeliveryUnknown id attemptNumber now).run db = .ok ((), db')) :
    Completes id db db' := by
  simp [markDeliveryUnknown, markUnresolved, completeOutbox] at h
  obtain ⟨_, _, _, rfl⟩ := h
  rfl

theorem cancelBeforeDispatch_completes {id : RecipientId} {reason : String} {claim : DispatchClaim}
    {db db' : Db} (h : (cancelBeforeDispatch id reason).run db = .ok (claim, db')) :
    Completes id db db' := by
  simp [cancelBeforeDispatch, completeOutbox] at h
  obtain ⟨_, _, _, rfl⟩ := h
  rfl

theorem claimDispatch_outbox {shopDate : Nat → Int → Int} {id : RecipientId} {d : Delivery}
    {now : Int} {claim : DispatchClaim} {db db' : Db}
    (h : (claimDispatch shopDate id d now).run db = .ok (claim, db')) : db'.outbox = db.outbox := by
  apply Tx.run_of_keeps (π := Db.outbox) _ h
  unfold claimDispatch
  repeat' first
    | apply Tx.keeps_bind
    | intro _
  all_goals first
    | exact ⟨fun _ => rfl, fun _ => trivial⟩
    | simp

theorem reserveDispatchSlot_entry {env : Environment} {options : outbound_throttle.Options}
    {ambient : Ambient} {id : RecipientId} {claim : DispatchClaim} {db db' : Db}
    (h : ((Command.reserveDispatchSlot id).body env options ambient).run db = .ok (claim, db'))
    (id' : RecipientId) :
    EntryTransition id' (actionOf ambient (.reserveDispatchSlot id) claim) (coreOf db')
      (entry db id') (entry db' id') := by
  obtain ⟨campaign, delivery, _, _, ⟨_, rfl⟩ | ⟨_, _, hwrites⟩⟩ := reserveDispatchSlot_cases h
  · exact .keep _
  · split at hwrites
    · obtain ⟨_, hsettles⟩ := cancelBeforeDispatch_settles hwrites
      exact entry_of_completes (cancelBeforeDispatch_completes hwrites)
        (not_waiting_of_settle (settles_step hsettles) rfl) id'
    · rw [entry, entry, claimDispatch_outbox hwrites]
      exact .keep _

/-! ## The pauses and the resume -/

theorem pauseShop_entry {shopId : Nat} {reason : String} {db db' : Db}
    (h : (pauseShop shopId reason).run db = .ok ((), db')) (id : RecipientId) :
    EntryTransition id (.pauseShop shopId) (coreOf db') (entry db id) (entry db' id) := by
  have hout : db'.outbox = db.outbox.updateMany
      (fun id e => id.shopId = shopId && (e.state = .PENDING || e.state = .ENQUEUED))
      (fun e => { e with state := .SAFETY_PAUSED }) := by
    simp [pauseShop] at h
    subst h
    rfl
  apply entry_updateMany hout
  intro e _ hp
  simp only [Bool.and_eq_true, decide_eq_true_eq] at hp
  exact .pause _ (by rw [hp.1])

/-- The resume of a quota recovery leaves no entry of the campaign paused. -/
theorem resume_entry {c : CampaignId} {quotaRecovery : Bool} {now : Int} {db db' : Db} {a : Action}
    (h : (resume c quotaRecovery now).run db = .ok ((), db')) (id : RecipientId) :
    EntryTransition id a (coreOf db') (entry db id) (entry db' id) ∧
      (quotaRecovery = true → id.campaignId = c → entry db' id ≠ some .SAFETY_PAUSED) := by
  cases quotaRecovery with
  | false =>
    simp [resume] at h
    obtain ⟨_, rfl⟩ := h
    exact ⟨.keep _, fun hrecovery => by cases hrecovery⟩
  | true =>
    have hout : db'.outbox = db.outbox.updateMany
        (fun id' e => id'.campaignId = c && e.state = .SAFETY_PAUSED)
        (fun _ => { state := .PENDING, availableAt := now }) := by
      simp [resume] at h
      obtain ⟨_, rfl⟩ := h
      rfl
    refine ⟨entry_updateMany hout fun e _ _ => .enqueue _ _ rfl, ?_⟩
    rintro _ rfl
    unfold entry
    rw [hout, Table.get_updateMany]
    cases he : db.outbox.get id with
    | none => simp
    | some e =>
      by_cases hs : e.state = .SAFETY_PAUSED <;> simp [hs]

/-! ## The queueing -/

theorem traverse_entry {now : Int} {rows : List (RecipientId × Recipient)} {us : List Unit}
    {db db' : Db}
    (h : (Tx.traverse (fun r => queueRecipient r.1 (r.2.contentHash.getD "") now) rows).run db =
      .ok (us, db')) (id : RecipientId) :
    entry db' id = if id ∈ rows.map (·.1) then some .PENDING else entry db id := by
  induction rows generalizing db us with
  | nil =>
    cases h
    simp
  | cons r rows ih =>
    simp only [Tx.traverse, Tx.run_bind, Tx.bind_eq_ok, Tx.run_ret] at h
    obtain ⟨⟨_, db1⟩, h1, ⟨_, db2⟩, h2, h3⟩ := h
    cases h3
    have hone : entry db1 id = if id = r.1 then some .PENDING else entry db id := by
      simp [queueRecipient] at h1
      obtain ⟨_, rfl⟩ := h1
      unfold entry
      by_cases hid : id = r.1
      · subst hid
        cases he : db.outbox.get r.1 <;> simp [he]
      · cases he : db.outbox.get r.1 <;> simp [hid]
    rw [ih h2, hone]
    by_cases hid : id = r.1
    · simp [hid]
    · simp only [List.map_cons, List.mem_cons, hid, false_or, if_false]

/-- The queueing opens the entries of the recipients that it queues. -/
theorem queueFrozen_entry {c : CampaignId} {version now : Int} {db db' : Db}
    (h : (queueFrozen c version now).run db = .ok ((), db')) (id : RecipientId) :
    entry db' id = if queueable (coreOf db) c id then some .PENDING else entry db id := by
  simp only [queueFrozen, Tx.run_bind, Tx.run_updateMany, Except.bind] at h
  split at h
  · cases h
  simp only [Tx.run_bind, Tx.run_read, Except.bind] at h
  split at h
  · cases h
  simp only [Tx.run_bind, Tx.run_updateMany, Except.bind] at h
  split at h
  · cases h
  rename_i htraverse
  cases h
  rw [traverse_entry htraverse]
  have hqueueable := mem_queueable db c id
  by_cases hid : queueable (coreOf db) c id = true
  · rw [if_pos hid]
    exact if_pos (hqueueable.2 hid)
  · rw [if_neg hid]
    exact if_neg (mt hqueueable.1 hid)

theorem cancel_entry {c : CampaignId} {db db' : Db} (h : (cancel c).run db = .ok ((), db'))
    (id : RecipientId) :
    EntryTransition id (.cancel c) (coreOf db') (entry db id) (entry db' id) := by
  have hcancel := cancel_step h
  simp only [cancel, Tx.run_bind, Tx.run_read, Except.bind] at h
  have hunsent := mem_unsent db c
  generalize (db.recipients.findMany (fun id' r =>
    id'.campaignId = c && (r.state = .RESERVED || r.state = .QUEUED))).map (·.1) = ids at h hunsent
  split at h
  · simp at h
    obtain ⟨_, rfl⟩ := h
    exact .keep _
  · have hout : db'.outbox = db.outbox.updateMany (fun id' _ => ids.contains id')
        (fun e => { e with state := .COMPLETED }) := by
      simp at h
      obtain ⟨_, rfl⟩ := h
      simp
    apply entry_updateMany hout
    intro e _ hp
    apply EntryTransition.complete
    rintro ⟨⟨r, hr, hstate⟩, _⟩
    -- the cancelled recipients are not queued any more
    obtain ⟨_, hafter⟩ := hcancel
    rw [hafter] at hr
    have hid : unsent (coreOf db) c id = true := (hunsent id).1 (by simpa using hp)
    simp only [hid, if_true, Option.map_eq_some_iff] at hr
    obtain ⟨_, _, rfl⟩ := hr
    cases hstate

/-! ## The sweeps -/

theorem completeSettledOutbox_entry {a : Action} {db db' : Db}
    (h : completeSettledOutbox.run db = .ok ((), db')) (id : RecipientId) :
    EntryTransition id a (coreOf db') (entry db id) (entry db' id) := by
  simp [completeSettledOutbox] at h
  subst h
  have hout : ∀ p f, ({ db with outbox := db.outbox.updateMany p f } : Db).outbox =
      db.outbox.updateMany p f := fun _ _ => rfl
  apply entry_updateMany (hout _ _)
  intro e _ hp
  apply EntryTransition.complete
  rintro ⟨_, s, hs, hclaimable⟩
  obtain ⟨delivery, hdelivery, rfl⟩ := Option.map_eq_some_iff.1 hs
  have hdb : db.deliveries.get id = some delivery := hdelivery
  simp only [hdb, Option.any_some, Bool.and_eq_true] at hp
  have hsettled := hp.2
  revert hsettled hclaimable
  cases delivery.state <;> simp [settledState, claimable]

theorem upsertOutbox_entry {a : Action} {id : RecipientId} {now : Int} {row : Outbox} {db db' : Db}
    (h : (upsertOutbox id now).run db = .ok (row, db')) (id' : RecipientId) :
    EntryTransition id' a (coreOf db') (entry db id') (entry db' id') := by
  simp only [upsertOutbox, Tx.run_bind, Tx.run_read, Except.bind] at h
  cases he : db.outbox.get id with
  | some e =>
    simp [he] at h
    obtain ⟨_, rfl⟩ := h
    exact .keep _
  | none =>
    have hout : db'.outbox = db.outbox.set id { availableAt := now } := by
      simp [he] at h
      obtain ⟨_, ⟨_, _⟩, rfl⟩ := h
      rfl
    unfold entry
    rw [hout, Table.get_set]
    by_cases hid : id' = id
    · rw [if_pos hid]
      exact .enqueue _ _ rfl
    · rw [if_neg hid]
      exact .keep _

theorem markEnqueued_entry {a : Action} {id : RecipientId} {db db' : Db}
    (h : (markEnqueued id).run db = .ok ((), db')) (id' : RecipientId) :
    EntryTransition id' a (coreOf db') (entry db id') (entry db' id') := by
  simp [markEnqueued] at h
  subst h
  have hout : ∀ p f, ({ db with outbox := db.outbox.updateMany p f } : Db).outbox =
      db.outbox.updateMany p f := fun _ _ => rfl
  apply entry_updateMany (hout _ _)
  intro e _ _
  exact .enqueue _ _ rfl

theorem requeueOutbox_entry {a : Action} {id : RecipientId} {backoffMs : Option Int} {now : Int}
    {db db' : Db} (h : (requeueOutbox id backoffMs now).run db = .ok ((), db')) (id' : RecipientId) :
    EntryTransition id' a (coreOf db') (entry db id') (entry db' id') := by
  simp [requeueOutbox] at h
  obtain ⟨_, rfl⟩ := h
  have hout : ∀ p f, ({ db with outbox := db.outbox.updateMany p f } : Db).outbox =
      db.outbox.updateMany p f := fun _ _ => rfl
  apply entry_updateMany (hout _ _)
  intro e _ _
  exact .enqueue _ _ rfl

/-! ## All commands -/

/-- A command takes each entry through one of the transitions. -/
theorem entry_transition {env : Environment} {options : outbound_throttle.Options}
    {ambient : Ambient} {command : Command} {r : command.Result} {db db' : Db}
    (h : (command.body env options ambient).run db = .ok (r, db'))
    (hrebuild : ∀ c retained summary, command ≠ .rebuild c retained summary) (id : RecipientId) :
    EntryTransition id (actionOf ambient command r) (coreOf db') (entry db id) (entry db' id) := by
  by_cases hfoot : (footprint command).outbox = false
  · rw [entry, entry, outbox_eq h hfoot]
    exact .keep _
  · cases command with
    | recoverDispatchingDelivery id =>
      exact entry_of_completes (recoverDispatchingDelivery_completes h)
        (not_waiting_of_settle (refines h) rfl) _
    | reserveDispatchSlot id => exact reserveDispatchSlot_entry h _
    | markSent id creatorOpenId conversationId messageId =>
      exact entry_of_completes (markSent_completes h) (not_waiting_of_settle (refines h) rfl) _
    | markTerminalFailure id errorCode =>
      exact entry_of_completes (settleWithout_completes h) (not_waiting_of_settle (refines h) rfl) _
    | markRestricted id errorCode =>
      exact entry_of_completes (settleWithout_completes h) (not_waiting_of_settle (refines h) rfl) _
    | markDeliveryUnknown id attemptNumber =>
      exact entry_of_completes (markDeliveryUnknown_completes h)
        (not_waiting_of_settle (refines h) rfl) _
    | pauseShopForProviderFailure shopId kind => exact pauseShop_entry h _
    | pauseShopForProviderQuota shopId errorCode => exact pauseShop_entry h _
    | resume c quotaRecovery => exact (resume_entry h _).1
    | queueFrozen c version =>
      rw [queueFrozen_entry h]
      split
      · exact .enqueue _ _ rfl
      · exact .keep _
    | cancel c => exact cancel_entry h _
    | rebuild c retained summary => exact absurd rfl (hrebuild c retained summary)
    | completeSettledOutbox => exact completeSettledOutbox_entry h _
    | upsertOutbox id => exact upsertOutbox_entry h _
    | markEnqueued id => exact markEnqueued_entry h _
    | requeueOutbox id backoffMs => exact requeueOutbox_entry h _
    | _ => exact absurd rfl hfoot

end tiktok_outreach.outbox_transitions
