-- Every command, run as one step, is its action of the abstract model.
import TiktokOutreach.DispatchCore

open tables transactions tiktok_outreach.schema tiktok_outreach.dispatch_safety
  tiktok_outreach.settlements tiktok_outreach.outreach_service tiktok_outreach.queue_outbox
  tiktok_outreach.commands

namespace tiktok_outreach.dispatch_core

/-! ## The settlements -/

/-- A settlement, as it shows in the tables. -/
structure Settles (id : DeliveryId) (ds : DeliveryState) (rs : RecipientState) (releases : Bool)
    (db db' : Db) : Prop where
  stored : (db.deliveries.get id).isSome ∧ (db.recipients.get id).isSome
  campaigns : db'.campaigns = db.campaigns
  deliveries : ∀ id', (db'.deliveries.get id').map (·.state) =
    if id' = id then (db.deliveries.get id').map (fun _ => ds)
    else (db.deliveries.get id').map (·.state)
  recipients : ∀ id', (db'.recipients.get id').map recipientCore =
    if id' = id then (db.recipients.get id').map (fun r => { recipientCore r with state := rs })
    else (db.recipients.get id').map recipientCore
  reservations : db'.reservations =
    if releases then db.reservations.deleteMany (fun id' _ => id' = id) else db.reservations

theorem settles_step {id : DeliveryId} {ds : DeliveryState} {rs : RecipientState}
    {releases : Bool} {db db' : Db} (h : Settles id ds rs releases db db') :
    (Action.settle id ds rs releases).Step (coreOf db) (coreOf db') := by
  refine ⟨⟨by simpa [coreOf] using h.stored.1, by simpa [coreOf] using h.stored.2⟩, ?_⟩
  apply Core.ext
  · simp [coreOf, Core.release, Core.setRecipient, Core.setDelivery, h.campaigns]
  · funext id'
    refine (h.recipients id').trans ?_
    simp [coreOf, Core.release, Core.setRecipient, Core.setDelivery, Function.comp_def]
  · funext id'
    simp only [coreOf, h.reservations, Core.release, Core.setRecipient, Core.setDelivery]
    cases releases with
    | false => simp
    | true =>
      by_cases hid : id' = id
      · cases db.reservations.get id' <;> simp [hid]
      · cases hr : db.reservations.get id' <;> simp [hid, hr]
  · funext id'
    refine (h.deliveries id').trans ?_
    simp [coreOf, Core.release, Core.setRecipient, Core.setDelivery, Function.comp_def]

theorem recoverDispatchingDelivery_settles {id : RecipientId} {db db' : Db}
    (h : (recoverDispatchingDelivery id).run db = .ok ((), db')) :
    Settles id .DELIVERY_UNKNOWN .DELIVERY_UNKNOWN false db db' := by
  simp [recoverDispatchingDelivery, markUnresolved, completeOutbox] at h
  obtain ⟨hd, hr, rfl⟩ := h
  exact ⟨⟨hd, hr⟩, rfl, Table.map_get_updateOne _ _ _ _, Table.map_get_updateOne _ _ _ _, rfl⟩

theorem settleWithout_settles {id : RecipientId} {ds : DeliveryState} {rs : RecipientState}
    {errorCode : String} {db db' : Db}
    (h : (settleWithout id ds rs errorCode).run db = .ok ((), db')) :
    Settles id ds rs true db db' := by
  simp [settleWithout, completeOutbox] at h
  obtain ⟨hd, hr, rfl⟩ := h
  exact ⟨⟨hd, hr⟩, rfl, Table.map_get_updateOne _ _ _ _, Table.map_get_updateOne _ _ _ _, rfl⟩

theorem markSent_settles {id : RecipientId} {creatorOpenId : Option String}
    {conversationId messageId : String} {now : Int} {db db' : Db}
    (h : (markSent id creatorOpenId conversationId messageId now).run db = .ok ((), db')) :
    Settles id .SENT .SENT true db db' := by
  simp [markSent, completeOutbox] at h
  obtain ⟨⟨hd, _⟩, hr, _, _, rfl⟩ := h
  exact ⟨⟨hd, hr⟩, rfl, Table.map_get_updateOne _ _ _ _, Table.map_get_updateOne _ _ _ _, rfl⟩

theorem markDeliveryUnknown_settles {id : RecipientId} {attemptNumber now : Int} {db db' : Db}
    (h : (markDeliveryUnknown id attemptNumber now).run db = .ok ((), db')) :
    Settles id .DELIVERY_UNKNOWN .DELIVERY_UNKNOWN false db db' := by
  simp [markDeliveryUnknown, markUnresolved, completeOutbox] at h
  obtain ⟨_, hd, hr, rfl⟩ := h
  exact ⟨⟨hd, hr⟩, rfl, Table.map_get_updateOne _ _ _ _, Table.map_get_updateOne _ _ _ _, rfl⟩

theorem makeDeliveryRetryable_settles {id : RecipientId} {db db' : Db}
    (h : (makeDeliveryRetryable id).run db = .ok ((), db')) :
    Settles id .FAILED_RETRYABLE .QUEUED false db db' := by
  simp [makeDeliveryRetryable] at h
  obtain ⟨hd, hr, rfl⟩ := h
  exact ⟨⟨hd, hr⟩, rfl, Table.map_get_updateOne _ _ _ _, Table.map_get_updateOne _ _ _ _, rfl⟩

theorem giveUpReconciliation_settles {id : DeliveryId} {attemptNumber now : Int} {db db' : Db}
    (h : (giveUpReconciliation id attemptNumber now).run db = .ok ((), db')) :
    Settles id .DELIVERY_UNKNOWN_UNRESOLVED .DELIVERY_UNKNOWN_UNRESOLVED true db db' := by
  simp [giveUpReconciliation, updateReconciliationRun] at h
  obtain ⟨_, hd, hr, rfl⟩ := h
  exact ⟨⟨hd, hr⟩, rfl, Table.map_get_updateOne _ _ _ _, Table.map_get_updateOne _ _ _ _, rfl⟩

theorem cancelBeforeDispatch_settles {id : RecipientId} {reason : String} {claim : DispatchClaim}
    {db db' : Db} (h : (cancelBeforeDispatch id reason).run db = .ok (claim, db')) :
    claim = .notClaimed true (some reason) ∧ Settles id .FAILED_TERMINAL .CANCELLED true db db' := by
  simp [cancelBeforeDispatch, completeOutbox] at h
  obtain ⟨hd, hr, rfl, rfl⟩ := h
  exact ⟨rfl, ⟨hd, hr⟩, rfl, Table.map_get_updateOne _ _ _ _, Table.map_get_updateOne _ _ _ _, rfl⟩

/-! ## The claim -/

theorem not_excluded {id : RecipientId} {campaign : Campaign} {reservation : Option Reservation}
    {contact : Option Contact} {now : Int}
    (h : exclusionReason id campaign reservation contact now = none) :
    ∃ r, reservation = some r ∧ now < r.expiresAt ∧ r.shopId = id.shopId ∧
      r.creatorId = id.creatorId := by
  unfold exclusionReason at h
  split at h
  · cases h
  split at h
  · cases h
  split at h
  · cases h
  rename_i hr
  cases reservation with
  | none => simp at hr
  | some r => exact ⟨r, rfl, by simpa [and_assoc] using hr⟩

theorem claimDispatch_step {shopDate : Nat → Int → Int} {id : RecipientId} {d : Delivery}
    {now : Int} {claim : DispatchClaim} {db db' : Db}
    (h : (claimDispatch shopDate id d now).run db = .ok (claim, db')) :
    claim = .claimed (d.attemptCount + 1) ∧ (coreOf db).Stored id ∧
    coreOf db' = (((coreOf db).setCampaign id.campaignId .RUNNING).setDelivery id
      .DISPATCHING).setRecipient id .PROCESSING := by
  simp [claimDispatch] at h
  obtain ⟨hc, hd, ⟨hr, rfl⟩, rfl⟩ := h
  refine ⟨rfl, ⟨by simpa [coreOf] using hd, by simpa [coreOf] using hr⟩, ?_⟩
  apply Core.ext
  · funext c
    refine (Table.map_get_updateOne _ _ _ _ c).trans ?_
    simp [coreOf, Core.setRecipient, Core.setDelivery, Core.setCampaign, Function.comp_def]
  · funext id'
    refine (Table.map_get_updateOne _ _ _ _ id').trans ?_
    simp [coreOf, Core.setRecipient, Core.setDelivery, Core.setCampaign, Function.comp_def,
      recipientCore]
  · rfl
  · funext id'
    refine (Table.map_get_updateOne _ _ _ _ id').trans ?_
    simp [coreOf, Core.setRecipient, Core.setDelivery, Core.setCampaign, Function.comp_def]

/-- The ways a claim can go. -/
theorem reserveDispatchSlot_cases {shopDate : Nat → Int → Int} {id : RecipientId} {now : Int}
    {claim : DispatchClaim} {db db' : Db}
    (h : (reserveDispatchSlot shopDate id now).run db = .ok (claim, db')) :
    ∃ campaign delivery, db.campaigns.get id.campaignId = some campaign ∧
      db.deliveries.get id = some delivery ∧
      ((claim = .notClaimed false none ∧ db' = db) ∨
        claimable delivery.state = true ∧ dispatching campaign.state = true ∧
          match exclusionReason id campaign (db.reservations.get id)
            (db.contacts.get (id.shopId, id.creatorId)) now with
          | some reason => (cancelBeforeDispatch id reason).run db = .ok (claim, db')
          | none => (claimDispatch shopDate id delivery now).run db = .ok (claim, db')) := by
  simp [reserveDispatchSlot] at h
  obtain ⟨campaign, hc, delivery, hd, h⟩ := h
  refine ⟨campaign, delivery, hc, hd, ?_⟩
  split at h
  · simp at h
    exact Or.inl ⟨h.1.symm, h.2.symm⟩
  split at h
  · simp at h
    exact Or.inl ⟨h.1.symm, h.2.symm⟩
  rename_i hclaimable hdispatching
  simp only [Tx.run_bind, Tx.bind_eq_ok, Tx.run_readOrThrow_eq_ok, Tx.run_read,
    Except.ok.injEq, exists_eq_left'] at h
  obtain ⟨⟨recipient, db1⟩, ⟨_, hdb⟩, h⟩ := h
  obtain rfl : db1 = db := hdb
  refine Or.inr ⟨by simpa using hclaimable, by simpa using hdispatching, ?_⟩
  cases hreason : exclusionReason id campaign (db1.reservations.get id)
      (db1.contacts.get (id.shopId, id.creatorId)) now with
  | some reason =>
    rw [hreason] at h
    exact h
  | none =>
    rw [hreason] at h
    exact h

theorem reserveDispatchSlot_step {shopDate : Nat → Int → Int} {id : RecipientId} {ambient : Ambient}
    {claim : DispatchClaim} {db db' : Db}
    (h : (reserveDispatchSlot shopDate id (ambient.now 0)).run db = .ok (claim, db')) :
    (actionOf ambient (.reserveDispatchSlot id) claim).Step (coreOf db) (coreOf db') := by
  obtain ⟨campaign, delivery, hc, hd, ⟨rfl, rfl⟩ | ⟨hclaimable, hdispatching, h⟩⟩ :=
    reserveDispatchSlot_cases h
  · rfl
  · split at h
    · obtain ⟨rfl, hsettles⟩ := cancelBeforeDispatch_settles h
      exact settles_step hsettles
    · rename_i hreason
      obtain ⟨rfl, hstored, hcore⟩ := claimDispatch_step h
      exact ⟨hstored, ⟨_, by simp [coreOf, hd], hclaimable⟩, ⟨_, by simp [coreOf, hc], hdispatching⟩,
        not_excluded hreason, hcore⟩

/-! ## The campaign by its id -/

theorem setsCampaign_step {c : CampaignId} {s : CampaignState} {db db' : Db}
    (hc : (db.campaigns.get c).isSome)
    (hcampaigns : ∀ c', (db'.campaigns.get c').map (·.state) =
      if c' = c then (db.campaigns.get c').map (fun _ => s)
      else (db.campaigns.get c').map (·.state))
    (hrecipients : db'.recipients = db.recipients)
    (hreservations : db'.reservations = db.reservations)
    (hdeliveries : db'.deliveries = db.deliveries) :
    (Action.setCampaign c s).Step (coreOf db) (coreOf db') := by
  refine ⟨by simpa [coreOf] using hc, ?_⟩
  apply Core.ext
  · funext c'
    refine (hcampaigns c').trans ?_
    simp [coreOf, Core.setCampaign, Function.comp_def]
  · simp [coreOf, hrecipients, Core.setCampaign]
  · simp [coreOf, hreservations, Core.setCampaign]
  · simp [coreOf, hdeliveries, Core.setCampaign]

theorem pauseCampaign_step {c : CampaignId} {db db' : Db}
    (h : (pauseCampaign c).run db = .ok ((), db')) :
    (Action.setCampaign c .PAUSED).Step (coreOf db) (coreOf db') := by
  simp [pauseCampaign] at h
  obtain ⟨hc, rfl⟩ := h
  exact setsCampaign_step hc (Table.map_get_updateOne _ _ _ _) rfl rfl rfl

theorem completeCampaign_step {c : CampaignId} {completion : Completion} {db db' : Db}
    (h : (completeCampaign c completion).run db = .ok ((), db')) :
    (Action.setCampaign c (if completion.completedSuccessfully then .COMPLETED
      else .COMPLETED_WITH_ERRORS)).Step (coreOf db) (coreOf db') := by
  simp [completeCampaign] at h
  obtain ⟨hc, rfl⟩ := h
  exact setsCampaign_step hc (Table.map_get_updateOne _ _ _ _) rfl rfl rfl

theorem requestPause_step {c : CampaignId} {db db' : Db}
    (h : (requestPause c).run db = .ok ((), db')) :
    (Action.setCampaign c .PAUSE_REQUESTED).Step (coreOf db) (coreOf db') := by
  simp [requestPause] at h
  obtain ⟨hc, rfl⟩ := h
  exact setsCampaign_step hc (Table.map_get_updateOne _ _ _ _) rfl rfl rfl

theorem resume_step {c : CampaignId} {quotaRecovery : Bool} {now : Int} {db db' : Db}
    (h : (resume c quotaRecovery now).run db = .ok ((), db')) :
    (Action.setCampaign c .QUEUED).Step (coreOf db) (coreOf db') := by
  cases quotaRecovery with
  | true =>
    simp [resume] at h
    obtain ⟨hc, rfl⟩ := h
    exact setsCampaign_step hc (Table.map_get_updateOne _ _ _ _) rfl rfl rfl
  | false =>
    simp [resume] at h
    obtain ⟨hc, rfl⟩ := h
    exact setsCampaign_step hc (Table.map_get_updateOne _ _ _ _) rfl rfl rfl

theorem acknowledgePause_step {c : CampaignId} {db db' : Db}
    (h : (acknowledgePause c).run db = .ok ((), db')) :
    (Action.acknowledgePause c).Step (coreOf db) (coreOf db') := by
  simp [acknowledgePause] at h
  subst h
  apply Core.ext
  · funext c'
    simp only [coreOf, Table.get_updateMany, Option.map_map]
    congr 1
    funext campaign
    simp only [Function.comp_apply, Bool.and_eq_true, decide_eq_true_eq]
    split <;> rfl
  · rfl
  · rfl
  · rfl

theorem pauseShop_step {shopId : Nat} {reason : String} {db db' : Db}
    (h : (pauseShop shopId reason).run db = .ok ((), db')) :
    (Action.pauseShop shopId).Step (coreOf db) (coreOf db') := by
  simp [pauseShop] at h
  subst h
  apply Core.ext
  · funext c'
    simp only [coreOf, Table.get_updateMany, Option.map_map]
    congr 1
    funext campaign
    simp only [Function.comp_apply, Bool.and_eq_true, decide_eq_true_eq]
    split <;> rfl
  · rfl
  · rfl
  · rfl

/-! ## `cancel` -/

theorem mem_unsent (db : Db) (c : CampaignId) (id : RecipientId) :
    id ∈ (db.recipients.findMany (fun id' r =>
      id'.campaignId = c && (r.state = .RESERVED || r.state = .QUEUED))).map (·.1) ↔
      unsent (coreOf db) c id = true := by
  refine (Table.mem_keys_findMany _ _ _).trans ?_
  unfold unsent
  simp only [coreOf]
  cases db.recipients.get id <;> simp [recipientCore]

theorem cancel_step {c : CampaignId} {db db' : Db} (h : (cancel c).run db = .ok ((), db')) :
    (Action.cancel c).Step (coreOf db) (coreOf db') := by
  simp only [cancel, Tx.run_bind, Tx.run_read, Except.bind] at h
  have hunsent := mem_unsent db c
  generalize (db.recipients.findMany (fun id' r =>
    id'.campaignId = c && (r.state = .RESERVED || r.state = .QUEUED))).map (·.1) = ids at h hunsent
  split at h
  · -- with nobody to cancel, the other writes would change nothing
    rename_i hempty
    have hnone : ∀ id, unsent (coreOf db) c id = false := by
      intro id
      rw [← Bool.not_eq_true, ← hunsent, List.isEmpty_iff.1 hempty]
      exact List.not_mem_nil
    simp at h
    obtain ⟨hc, rfl⟩ := h
    refine ⟨by simpa using hc, ?_⟩
    apply Core.ext
    · funext c'
      refine (Table.map_get_updateOne _ _ _ _ c').trans ?_
      simp [Core.setCampaign, Function.comp_def]
    · funext id
      simp [hnone]
    · funext id
      simp [hnone]
    · funext id
      simp [hnone, Function.comp_def]
  · simp at h
    obtain ⟨hc, rfl⟩ := h
    refine ⟨by simpa using hc, ?_⟩
    apply Core.ext
    · funext c'
      refine (Table.map_get_updateOne _ _ _ _ c').trans ?_
      simp [Core.setCampaign, Function.comp_def]
    · funext id
      refine (Table.map_get_updateMany _ _ _ _ id).trans ?_
      by_cases hid : id ∈ ids
      · simp [hid, (hunsent id).1 hid, recipientCore, Function.comp_def]
      · simp [hid, mt (hunsent id).2 hid]
    · funext id
      refine (Table.get_deleteKeys _ _ id).trans ?_
      simp [hunsent]
    · funext id
      refine (Table.map_get_updateMany _ _ _ _ id).trans ?_
      by_cases hid : id ∈ ids
      · simp [hid, (hunsent id).1 hid, Function.comp_def]
      · simp [hid, mt (hunsent id).2 hid, Function.comp_def]

/-! ## `queueFrozen` -/

def queued (k : Core) (ids : List RecipientId) : Core :=
  { k with
    recipient := fun id =>
      if id ∈ ids then (k.recipient id).map (fun r => { r with state := .QUEUED }) else k.recipient id
    delivery := fun id =>
      if id ∈ ids then some ((k.delivery id).getD .PENDING) else k.delivery id }

theorem queueRecipient_queued {id : RecipientId} {contentHash : String} {now : Int} {db db' : Db}
    (h : (queueRecipient id contentHash now).run db = .ok ((), db')) :
    coreOf db' = queued (coreOf db) [id] := by
  simp [queueRecipient] at h
  obtain ⟨_, rfl⟩ := h
  apply Core.ext
  · rfl
  · funext id'
    refine (Table.map_get_updateOne _ _ _ _ id').trans ?_
    simp [queued, recipientCore, Function.comp_def]
  · rfl
  · funext id'
    by_cases hid : id' = id
    · cases hd : db.deliveries.get id <;> simp [queued, hid, hd]
    · cases db.deliveries.get id <;> simp [queued, hid]

theorem queued_queued (k : Core) (id : RecipientId) (ids : List RecipientId) :
    queued (queued k [id]) ids = queued k (id :: ids) := by
  unfold queued
  congr 1
  · funext id'
    by_cases hid : id' = id
    · by_cases hid' : id ∈ ids <;> simp [hid, hid', Function.comp_def]
    · simp [hid]
  · funext id'
    by_cases hid : id' = id
    · by_cases hid' : id ∈ ids <;> simp [hid, hid']
    · simp [hid]

theorem traverse_queued {now : Int} {rows : List (RecipientId × Recipient)} {us : List Unit}
    {db db' : Db}
    (h : (Tx.traverse (fun r => queueRecipient r.1 (r.2.contentHash.getD "") now) rows).run db =
      .ok (us, db')) :
    coreOf db' = queued (coreOf db) (rows.map (·.1)) := by
  induction rows generalizing db us with
  | nil =>
    cases h
    simp only [queued, List.map_nil, List.not_mem_nil, if_false]
  | cons r rows ih =>
    simp only [Tx.traverse, Tx.run_bind, Tx.bind_eq_ok, Tx.run_ret] at h
    obtain ⟨⟨_, db1⟩, h1, ⟨_, db2⟩, h2, h3⟩ := h
    cases h3
    rw [ih h2, queueRecipient_queued h1, queued_queued]
    rfl

theorem mem_queueable (db : Db) (c : CampaignId) (id : RecipientId) :
    id ∈ (db.recipients.findMany (fun id' r =>
      id'.campaignId = c && r.selected && r.state = .RESERVED)).map (·.1) ↔
      queueable (coreOf db) c id = true := by
  refine (Table.mem_keys_findMany _ _ _).trans ?_
  unfold queueable
  cases h : db.recipients.get id <;> simp [recipientCore, h, and_assoc]

theorem queueFrozen_step {c : CampaignId} {version now : Int} {db db' : Db}
    (h : (queueFrozen c version now).run db = .ok ((), db')) :
    (Action.queue c).Step (coreOf db) (coreOf db') := by
  simp only [queueFrozen, Tx.run_bind, Tx.run_updateMany, Except.bind] at h
  split at h
  · cases h
  rename_i hcount
  simp only [Tx.run_bind, Tx.run_read, Except.bind] at h
  split at h
  · cases h
  simp only [Tx.run_bind, Tx.run_updateMany, Except.bind] at h
  split at h
  · cases h
  rename_i htraverse
  cases h
  simp only [table.campaigns, table.reservations] at hcount htraverse
  -- the campaign that the first statement changed
  obtain ⟨campaign, hc, hstate, hversion⟩ : ∃ campaign, db.campaigns.get c = some campaign ∧
      campaign.state = .FROZEN ∧ campaign.version = version := by
    obtain ⟨c', campaign, hc, hp⟩ :=
      Table.mem_of_count_ne_zero (show (db.campaigns.count (fun id' campaign => id' = c &&
        campaign.state = .FROZEN && campaign.version = version)) ≠ 0 by omega)
    simp only [Bool.and_eq_true, decide_eq_true_eq] at hp
    exact ⟨campaign, hp.1.1 ▸ hc, hp.1.2, hp.2⟩
  refine ⟨by simp [hc, hstate], ?_⟩
  rw [traverse_queued htraverse]
  have hqueueable := mem_queueable db c
  apply Core.ext
  · funext c'
    refine (Table.map_get_updateMany _ _ _ _ c').trans ?_
    by_cases hcc : c' = c
    · simp [Core.setCampaign, hcc, hc, hstate, hversion]
    · simp [Core.setCampaign, hcc]
  · funext id
    simp only [queued]
    by_cases hid : queueable (coreOf db) c id = true
    · rw [if_pos ((hqueueable id).2 hid), if_pos hid]
      rfl
    · rw [if_neg (mt (hqueueable id).1 hid), if_neg hid]
      rfl
  · funext id
    refine (Table.get_updateMany _ _ _ id).trans ?_
    have hselected : selectedFor (coreOf db) c id =
        (decide (id.campaignId = c) && (db.recipients.get id).any (·.selected)) := by
      unfold selectedFor
      cases h : db.recipients.get id <;> simp [recipientCore, h]
    simp only [hselected]
    rfl
  · funext id
    simp only [queued]
    by_cases hid : queueable (coreOf db) c id = true
    · rw [if_pos ((hqueueable id).2 hid), if_pos hid]
      rfl
    · rw [if_neg (mt (hqueueable id).1 hid), if_neg hid]
      rfl

/-! ## The expiry of frozen campaigns -/

theorem expires_none (k : Core) : Expires (fun _ => false) k k where
  frozen := by simp
  campaign := by simp
  reservation := by simp
  recipient := by simp
  delivery := rfl

theorem expires_trans {gone gone' : CampaignId → Bool} {k k1 k2 : Core} (h1 : Expires gone k k1)
    (h2 : Expires gone' k1 k2) : Expires (fun c => gone c || gone' c) k k2 where
  frozen := by
    intro c hc
    cases hg : gone c with
    | true => exact h1.frozen c hg
    | false =>
      have := h2.frozen c (by simpa [hg] using hc)
      rwa [h1.campaign, if_neg (by simp [hg])] at this
  campaign := by
    intro c
    rw [h2.campaign, h1.campaign]
    cases gone c <;> cases gone' c <;> simp
  reservation := by
    intro id
    rw [h2.reservation, h1.reservation]
    cases gone id.campaignId <;> cases gone' id.campaignId <;> simp
  recipient := by
    intro id
    rw [h2.recipient, h1.recipient, Option.map_map]
    congr 1
    funext r
    -- a recipient that the first expiry let go is no longer reserved
    cases gone id.campaignId <;> cases gone' id.campaignId <;>
      by_cases hr : r.state = .RESERVED <;> simp [hr]
  delivery := h2.delivery.trans h1.delivery

theorem expireCampaign_expires {c : CampaignId} {now : Int} {db db' : Db}
    (h : (expireCampaign c now).run db = .ok ((), db')) :
    ∃ gone, Expires gone (coreOf db) (coreOf db') := by
  simp only [expireCampaign, Tx.run_bind, Tx.run_updateMany, Except.bind] at h
  split at h
  · -- no row changed
    rename_i hcount
    cases h
    refine ⟨fun _ => false, ?_⟩
    convert expires_none (coreOf db) using 1
    apply Core.ext
    · funext c'
      refine (Table.map_get_updateMany _ _ _ _ c').trans ?_
      cases hc : db.campaigns.get c' with
      | none => simp [hc]
      | some campaign =>
        have := Table.of_count_eq_zero hcount hc
        simp only [table.campaigns, coreOf_campaign, hc, Option.map_some, this]
        rfl
    · rfl
    · rfl
    · rfl
  · rename_i hcount
    simp at h hcount
    subst h
    obtain ⟨c', campaign, hc, hp⟩ := Table.mem_of_count_ne_zero hcount
    simp only [freezeExpired, Bool.and_eq_true, decide_eq_true_eq] at hp
    obtain ⟨rfl, hfrozen, hexpired⟩ := hp
    refine ⟨fun c => c = c', ?_⟩
    constructor
    · rintro c hcc
      obtain rfl : c = c' := by simpa using hcc
      simp [hc, hfrozen]
    · intro c
      refine (Table.map_get_updateMany _ _ _ _ c).trans ?_
      by_cases hcc : c = c'
      · subst hcc
        simp [hc, freezeExpired, hfrozen, hexpired]
      · simp [hcc]
    · intro id
      exact Table.get_deleteKeys _ _ id
    · intro id
      refine (Table.map_get_updateMany _ _ _ _ id).trans ?_
      simp only [coreOf_recipient, Option.map_map]
      rfl
    · rfl

theorem expireFrozenCampaigns_step {now : Int} {n : Nat} {db db' : Db}
    (h : (expireFrozenCampaigns now).run db = .ok (n, db')) :
    Action.expire.Step (coreOf db) (coreOf db') := by
  simp only [expireFrozenCampaigns, Tx.run_bind, Tx.run_read, Tx.bind_eq_ok] at h
  obtain ⟨_, hread, ⟨us, db1⟩, htraverse, hdone⟩ := h
  cases hread
  cases hdone
  apply Tx.traverse_invariant (fun db1 => ∃ gone, Expires gone (coreOf db) (coreOf db1)) _ htraverse
    ⟨_, expires_none _⟩
  rintro r _ u db1 db2 h ⟨gone, hgone⟩
  obtain ⟨gone', hgone'⟩ := expireCampaign_expires h
  exact ⟨_, expires_trans hgone hgone'⟩

/-! ## The rebuild of a preview -/

theorem createRecipients_others {c : CampaignId} {retained : List RetainedCreator} {us : List Unit}
    {db db' : Db} (h : (Tx.traverse (createRecipient c) retained).run db = .ok (us, db')) :
    db'.campaigns = db.campaigns ∧ db'.reservations = db.reservations ∧
      db'.deliveries = db.deliveries ∧
      ∀ id, id.campaignId ≠ c → db'.recipients.get id = db.recipients.get id := by
  apply Tx.traverse_invariant (fun db1 => db1.campaigns = db.campaigns ∧
    db1.reservations = db.reservations ∧ db1.deliveries = db.deliveries ∧
      ∀ id, id.campaignId ≠ c → db1.recipients.get id = db.recipients.get id) _ h
    ⟨rfl, rfl, rfl, fun _ _ => rfl⟩
  rintro r _ u db1 db2 h ⟨hc, hr, hd, hothers⟩
  simp [createRecipient] at h
  obtain ⟨_, rfl⟩ := h
  refine ⟨hc, hr, hd, ?_⟩
  intro id hid
  have hne : id ≠ ⟨r.uuid, c, r.creatorId⟩ := by
    rintro rfl
    exact hid rfl
  simp only [Table.get_set, if_neg hne]
  exact hothers id hid

theorem rebuild_step {c : CampaignId} {retained : List RetainedCreator}
    {summary : List (String × Int)} {db db' : Db}
    (h : (rebuild c retained summary).run db = .ok ((), db')) :
    (Action.rebuild c).Step (coreOf db) (coreOf db') := by
  simp [rebuild, deleteRecipients] at h
  obtain ⟨hc, _, db1, htraverse, _, _, rfl⟩ := h
  obtain ⟨hcampaigns, hreservations, hdeliveries, hothers⟩ := createRecipients_others htraverse
  refine ⟨by simpa using hc, ?_, ?_, ?_, ?_⟩
  · funext c'
    refine (Table.map_get_updateOne _ _ _ _ c').trans ?_
    by_cases hcc : c' = c
    · simp [hcampaigns, Core.setCampaign, hcc, Function.comp_def]
    · simp [hcampaigns, Core.setCampaign, hcc]
  · intro id
    simp only [coreOf_reservation, hreservations]
    refine (Table.get_deleteKeys _ (fun id' => decide (id'.campaignId = c)) id).trans ?_
    simp
  · intro id
    simp only [coreOf_delivery, hdeliveries]
    have := Table.get_deleteKeys db.deliveries (fun id' => decide (id'.campaignId = c)) id
    rw [this]
    by_cases hid : id.campaignId = c <;> simp [hid]
  · intro id hid
    simp only [coreOf_recipient, hothers id hid]
    have := Table.get_deleteKeys db.recipients (fun id' => decide (id'.campaignId = c)) id
    rw [this]
    simp [hid]

/-! ## `freeze` -/

/-- What the freeze of the recipients `ids`, which keeps those of `kept`, writes. -/
structure FreezesEach (expiresAt : Int) (ids : List RecipientId) (kept : RecipientId → Bool)
    (k k' : Core) : Prop where
  among : ∀ id, kept id = true → id ∈ ids
  campaign : k'.campaign = k.campaign
  delivery : k'.delivery = k.delivery
  recipient : ∀ id, k'.recipient id = (k.recipient id).map (fun r =>
    if kept id then ⟨.RESERVED, r.selected, true⟩
    else if id ∈ ids then ⟨.DISCOVERED, false, false⟩ else r)
  reservation : ∀ id, k'.reservation id =
    if kept id then some ⟨id.shopId, id.creatorId, expiresAt⟩ else k.reservation id
  unique : ∀ id id' r, kept id = true → id' ≠ id → k'.reservation id' = some r →
    ¬ (r.shopId = id.shopId ∧ r.creatorId = id.creatorId)

theorem freezesEach_nil (expiresAt : Int) (k : Core) :
    FreezesEach expiresAt [] (fun _ => false) k k where
  among := by simp
  campaign := rfl
  delivery := rfl
  recipient := by simp
  reservation := by simp
  unique := by simp

theorem freezesEach_cons {expiresAt : Int} {id : RecipientId} {ids : List RecipientId}
    {kept kept' : RecipientId → Bool} {k k1 k2 : Core} (hid : id ∉ ids)
    (h1 : FreezesEach expiresAt [id] kept k k1) (h2 : FreezesEach expiresAt ids kept' k1 k2) :
    FreezesEach expiresAt (id :: ids) (fun id' => kept id' || kept' id') k k2 where
  among := by
    intro id' hk
    rcases Bool.or_eq_true_iff.1 hk with hk | hk
    · exact List.mem_cons.2 (Or.inl (List.mem_singleton.1 (h1.among id' hk)))
    · exact List.mem_cons.2 (Or.inr (h2.among id' hk))
  campaign := h2.campaign.trans h1.campaign
  delivery := h2.delivery.trans h1.delivery
  recipient := by
    intro id'
    rw [h2.recipient, h1.recipient, Option.map_map]
    congr 1
    funext r
    by_cases hid' : id' = id
    · subst hid'
      have hkept' : kept' id' = false := by
        rw [← Bool.not_eq_true]
        exact fun hk => hid (h2.among id' hk)
      simp [hkept', hid]
    · have hkept : kept id' = false := by
        rw [← Bool.not_eq_true]
        exact fun hk => hid' (List.mem_singleton.1 (h1.among id' hk))
      simp [hkept, hid']
  reservation := by
    intro id'
    rw [h2.reservation, h1.reservation]
    cases kept id' <;> cases kept' id' <;> rfl
  unique := by
    intro a b r ha hba hr
    cases ha' : kept' a with
    | true => exact h2.unique a b r ha' hba hr
    | false =>
      have hka : kept a = true := by simpa [ha'] using ha
      cases hb : kept' b with
      | true =>
        -- the later reservation was created beside the earlier one
        have hra : k2.reservation a = some ⟨a.shopId, a.creatorId, expiresAt⟩ := by
          rw [h2.reservation, h1.reservation, ha', hka]
          rfl
        rw [h2.reservation, hb] at hr
        cases hr
        rintro ⟨hs, hc⟩
        exact h2.unique b a _ hb (Ne.symm hba) hra ⟨hs.symm, hc.symm⟩
      | false =>
        rw [h2.reservation, hb] at hr
        exact h1.unique a b r hka hba hr

section Freeze

variable {env : Environment} {campaign : Campaign} {cutoff expiresAt : Int}
  {activelyReserved : List Nat}

theorem freezeRecipient_each {s : SelectedRecipient} {index : Nat} {reason : Option String}
    {db db' : Db}
    (h : (freezeRecipient env campaign cutoff expiresAt activelyReserved s index).run db =
      .ok (reason, db')) :
    FreezesEach expiresAt [s.id] (fun id => id = s.id && reason.isNone) (coreOf db)
      (coreOf db') := by
  unfold freezeRecipient at h
  split at h
  · -- skipped
    simp at h
    obtain ⟨⟨_, rfl⟩, rfl⟩ := h
    constructor
    · simp
    · rfl
    · rfl
    · intro id
      refine (Table.map_get_updateOne _ _ _ _ id).trans ?_
      by_cases hid : id = s.id
      · simp [hid, recipientCore, Function.comp_def]
      · simp [hid, Function.comp_def]
    · simp
    · simp
  · dsimp only at h
    split at h
    · cases h
    split at h
    · cases h
    simp [Table.any_eq_false_iff] at h
    obtain ⟨⟨_, hclash⟩, ⟨_, rfl⟩, rfl⟩ := h
    constructor
    · simp
    · rfl
    · rfl
    · intro id
      refine (Table.map_get_updateOne _ _ _ _ id).trans ?_
      by_cases hid : id = s.id
      · simp [hid, recipientCore, Function.comp_def]
      · simp [hid, Function.comp_def]
    · intro id
      by_cases hid : id = s.id <;> simp [hid]
    · intro id id' r hid hne hr
      obtain rfl : id = s.id := by simpa using hid
      simp only [coreOf_reservation, Table.get_set, if_neg hne] at hr
      rintro ⟨hs, hc⟩
      exact hclash id' r hr hs hc

theorem traverse_each {rows : List (SelectedRecipient × Nat)} {reasons : List (Option String)}
    {db db' : Db} (hnodup : (rows.map (·.1.id)).Nodup)
    (h : (Tx.traverse (fun s => freezeRecipient env campaign cutoff expiresAt activelyReserved
      s.1 s.2) rows).run db = .ok (reasons, db')) :
    reasons.length = rows.length ∧
    ∃ kept, FreezesEach expiresAt (rows.map (·.1.id)) kept (coreOf db) (coreOf db') ∧
      ((∀ reason ∈ reasons, reason.isSome) → ∀ id, kept id = false) := by
  induction rows generalizing db reasons with
  | nil =>
    cases h
    exact ⟨rfl, _, freezesEach_nil _ _, fun _ _ => rfl⟩
  | cons s rows ih =>
    simp only [Tx.traverse, Tx.run_bind, Tx.bind_eq_ok, Tx.run_ret] at h
    obtain ⟨⟨reason, db1⟩, h1, ⟨reasons', db2⟩, h2, h3⟩ := h
    cases h3
    obtain ⟨hid, hrows⟩ := List.nodup_cons.1 hnodup
    obtain ⟨hlength, kept, heach, hkept⟩ := ih hrows h2
    refine ⟨by simp [hlength], _, freezesEach_cons hid (freezeRecipient_each h1) heach, ?_⟩
    intro hall id
    have hreason := hall reason List.mem_cons_self
    rw [hkept (fun r hr => hall r (List.mem_cons_of_mem _ hr)) id]
    cases reason with
    | none => cases hreason
    | some reason => simp

theorem all_isSome_of_length {α : Type} {as : List (Option α)}
    (h : (as.filterMap (fun a => a)).length = as.length) : ∀ a ∈ as, a.isSome := by
  induction as with
  | nil => simp
  | cons a as ih =>
    have hle := List.length_filterMap_le (fun a : Option α => a) as
    cases a with
    | none =>
      simp at h
      omega
    | some a =>
      have := ih (by simpa using h)
      simpa using this

theorem mem_selectedRecipients {db : Db} {c : CampaignId} {direction : RankingDirection}
    {s : SelectedRecipient} (h : s ∈ selectedRecipients db c direction) :
    selectedFor (coreOf db) c s.id = true := by
  have h : s ∈ (db.recipients.findMany (fun id' r => id'.campaignId = c && r.selected)).filterMap
      (fun r => (db.creators.get r.1.creatorId).map (fun creator =>
        (⟨r.1, r.2, creator, db.contacts.get (c.shopId, r.1.creatorId)⟩ : SelectedRecipient))) := by
    unfold selectedRecipients at h
    cases direction with
    | ASC => exact (List.mem_insertionSort _).1 h
    | DESC => exact (List.mem_insertionSort _).1 h
  obtain ⟨r, hr, hs⟩ := List.mem_filterMap.1 h
  obtain ⟨_, _, rfl⟩ := Option.map_eq_some_iff.1 hs
  obtain ⟨hget, hp⟩ := (Table.mem_findMany _ _ _ _).1 hr
  simp only [Bool.and_eq_true, decide_eq_true_eq] at hp
  simp [selectedFor, hget, hp.1, hp.2, recipientCore]

theorem filterMap_map_sublist {α β γ : Type} {f : α → Option β} {g : β → γ} {h : α → γ}
    (hf : ∀ a b, f a = some b → g b = h a) (as : List α) :
    ((as.filterMap f).map g).Sublist (as.map h) := by
  induction as with
  | nil => exact List.Sublist.refl _
  | cons a as ih =>
    cases hfa : f a with
    | none =>
      rw [List.filterMap_cons_none hfa]
      exact ih.cons _
    | some b =>
      rw [List.filterMap_cons_some hfa, List.map_cons, List.map_cons, hf a b hfa]
      exact ih.cons_cons _

theorem selectedRecipients_nodup (db : Db) (c : CampaignId) (direction : RankingDirection) :
    ((selectedRecipients db c direction).map (·.id)).Nodup := by
  have h : (((db.recipients.findMany (fun id' r => id'.campaignId = c && r.selected)).filterMap
      (fun r => (db.creators.get r.1.creatorId).map (fun creator =>
        (⟨r.1, r.2, creator, db.contacts.get (c.shopId, r.1.creatorId)⟩ :
          SelectedRecipient)))).map (·.id)).Nodup := by
    have hsub := filterMap_map_sublist (g := fun s : SelectedRecipient => s.id) (h := Prod.fst)
      (f := fun r : RecipientId × Recipient => (db.creators.get r.1.creatorId).map
        (fun creator => (⟨r.1, r.2, creator, db.contacts.get (c.shopId, r.1.creatorId)⟩ :
          SelectedRecipient))) (by
      intro r s hs
      obtain ⟨_, _, rfl⟩ := Option.map_eq_some_iff.1 hs
      rfl) (db.recipients.findMany (fun id' r => id'.campaignId = c && r.selected))
    exact (db.recipients.nodup.sublist (List.filter_sublist.map _)).sublist hsub
  unfold selectedRecipients
  cases direction with
  | ASC => exact ((List.perm_insertionSort _ _).map _).nodup_iff.2 h
  | DESC => exact ((List.perm_insertionSort _ _).map _).nodup_iff.2 h

/-- A freeze of some selected recipients, after the expired reservations of the shop are gone
and before the campaign is written. -/
theorem freezes_of_each {c : CampaignId} {deletedAt : Int} {s : CampaignState}
    {ids : List RecipientId} {kept : RecipientId → Bool} {k k1 k2 k' : Core}
    (hready : k.campaign c = some .PREVIEW_READY)
    (hids : ∀ id ∈ ids, selectedFor k c id = true)
    (hcampaign1 : k1.campaign = k.campaign) (hrecipient1 : k1.recipient = k.recipient)
    (hdelivery1 : k1.delivery = k.delivery)
    (hreservation1 : ∀ id r, k1.reservation id = some r ↔
      k.reservation id = some r ∧ ¬ (r.shopId = c.shopId ∧ r.expiresAt ≤ deletedAt))
    (heach : FreezesEach expiresAt ids kept k1 k2)
    (hs : s = .FROZEN ∨ s = .PREVIEW_EXPIRED ∧ ∀ id, kept id = false)
    (hcampaign : k'.campaign = (k2.setCampaign c s).campaign)
    (hrecipient : k'.recipient = k2.recipient) (hdelivery : k'.delivery = k2.delivery)
    (hreservation : ∀ id, k'.reservation id = k2.reservation id ∨
      s = .PREVIEW_EXPIRED ∧ id.campaignId = c ∧ k'.reservation id = none) :
    Freezes c expiresAt deletedAt kept k k' where
  ready := hready
  selected id hk := hids id (heach.among id hk)
  campaign := by
    refine ⟨s, hs, hcampaign.trans ?_⟩
    simp [Core.setCampaign, heach.campaign, hcampaign1]
  frozen := by
    intro id hk
    have hselected := hids id (heach.among id hk)
    simp only [selectedFor, Bool.and_eq_true, Option.any_eq_true] at hselected
    obtain ⟨_, r, hr, hrselected⟩ := hselected
    rw [hrecipient, heach.recipient, hrecipient1, hr, Option.map_some, if_pos hk, hrselected]
  skipped := by
    intro id hk
    rw [hrecipient, heach.recipient, hrecipient1, hk]
    by_cases hid : id ∈ ids
    · have hselected := hids id hid
      simp only [selectedFor, Bool.and_eq_true, Option.any_eq_true] at hselected
      obtain ⟨_, r, hr, _⟩ := hselected
      exact Or.inr ⟨hids id hid, by simp [hr, hid]⟩
    · left
      simp [hid]
  created := by
    intro id hk
    rcases hreservation id with hr | ⟨hexpired, _⟩
    · rw [hr, heach.reservation, if_pos hk]
    · rcases hs with rfl | ⟨_, hnone⟩
      · cases hexpired
      · rw [hnone] at hk
        cases hk
  others := by
    intro id r hk hr
    rcases hreservation id with h | ⟨_, _, h⟩
    · rw [h, heach.reservation, if_neg (by simp [hk])] at hr
      exact (hreservation1 id r).1 hr
    · rw [h] at hr
      cases hr
  unexpired := by
    intro id r hid hr hnot
    have hk : kept id = false := by
      rw [← Bool.not_eq_true]
      intro hk
      have hselected := hids id (heach.among id hk)
      simp only [selectedFor, Bool.and_eq_true, decide_eq_true_eq] at hselected
      exact hid hselected.1
    rcases hreservation id with h | ⟨_, h, _⟩
    · rw [h, heach.reservation, if_neg (by simp [hk])]
      exact (hreservation1 id r).2 ⟨hr, hnot⟩
    · exact absurd h hid
  unique := by
    intro id id' r hk hne hr
    rcases hreservation id' with h | ⟨_, _, h⟩
    · exact heach.unique id id' r hk hne (h ▸ hr)
    · rw [h] at hr
      cases hr
  delivery := hdelivery.trans (heach.delivery.trans hdelivery1)

theorem freeze_step {c : CampaignId} {version deletedAt eligibilityCheckedAt frozenAt : Int}
    {db db' : Db}
    (h : (freeze env c version campaign expiresAt deletedAt eligibilityCheckedAt frozenAt).run db =
      .ok ((), db')) :
    (Action.freeze c expiresAt deletedAt).Step (coreOf db) (coreOf db') := by
  simp only [freeze, Tx.run_bind, Tx.run_read, Except.bind] at h
  split at h
  · cases h
  simp only [Tx.run_bind, run_lockCreatorEligibility, Except.bind] at h
  split at h
  · cases h
  rename_i current hread
  obtain ⟨hcurrent, hdb⟩ := Tx.run_readOrThrow_eq_ok.1 hread
  obtain ⟨current, db0⟩ := current
  obtain rfl : db0 = db := hdb
  dsimp only at h hcurrent
  split at h
  · cases h
  rename_i hready
  simp only [not_or, not_not] at hready
  simp only [Tx.run_bind, Tx.run_deleteMany, Tx.run_read, Except.bind, table.reservations] at h
  -- the store without the expired reservations
  generalize hdb1 : Db.mk _ _ _ _ _ _ _ _ _ _ _ _ _ _ _ _ = db1 at h
  split at h
  · cases h
  simp only [Tx.run_bind, Tx.run_read, Except.bind] at h
  split at h
  · cases h
  rename_i reasons htraverse
  obtain ⟨reasons, db2⟩ := reasons
  have hrows : (selectedRecipients db1 c current.rankingDirection).zipIdx.map (·.1.id) =
      (selectedRecipients db1 c current.rankingDirection).map (·.id) := by
    conv_rhs => rw [← List.zipIdx_map_fst 0 (selectedRecipients db1 c current.rankingDirection)]
    rw [List.map_map]
    rfl
  obtain ⟨hlength, kept, heach, hkept⟩ :=
    traverse_each (hrows ▸ selectedRecipients_nodup _ _ _) htraverse
  rw [hrows] at heach
  have hids : ∀ id ∈ (selectedRecipients db1 c current.rankingDirection).map (·.id),
      selectedFor (coreOf db0) c id = true := by
    intro id hid
    obtain ⟨s, hs, rfl⟩ := List.mem_map.1 hid
    subst hdb1
    exact mem_selectedRecipients hs
  have hcampaign1 : (coreOf db1).campaign = (coreOf db0).campaign := by rw [← hdb1]; rfl
  have hrecipient1 : (coreOf db1).recipient = (coreOf db0).recipient := by rw [← hdb1]; rfl
  have hdelivery1 : (coreOf db1).delivery = (coreOf db0).delivery := by rw [← hdb1]; rfl
  have hreservation1 : ∀ id r, (coreOf db1).reservation id = some r ↔
      (coreOf db0).reservation id = some r ∧
        ¬ (r.shopId = c.shopId ∧ r.expiresAt ≤ deletedAt) := by
    intro id r
    rw [← hdb1]
    simp only [coreOf_reservation, Table.get_deleteMany, Option.filter_eq_some_iff]
    simp only [Bool.and_eq_true, decide_eq_true_eq]
  have hready' : (coreOf db0).campaign c = some .PREVIEW_READY := by simp [hcurrent, hready.1]
  refine ⟨kept, ?_⟩
  dsimp only at h
  split at h
  · rename_i hall
    have hnone : ∀ id, kept id = false := by
      apply hkept
      apply all_isSome_of_length
      rw [hall, hlength, List.length_zipIdx]
    simp at h
    obtain ⟨_, rfl⟩ := h
    refine freezes_of_each hready' hids hcampaign1 hrecipient1 hdelivery1 hreservation1 heach
      (Or.inr ⟨rfl, hnone⟩) ?_ rfl rfl ?_
    · funext c'
      refine (Table.map_get_updateOne _ _ _ _ c').trans ?_
      by_cases hcc : c' = c <;> simp [Core.setCampaign, hcc, Function.comp_def]
    · intro id
      have := Table.get_deleteKeys db2.reservations (fun id' => decide (id'.campaignId = c)) id
      by_cases hid : id.campaignId = c <;> simp [this, hid]
  · simp at h
    obtain ⟨_, rfl⟩ := h
    refine freezes_of_each hready' hids hcampaign1 hrecipient1 hdelivery1 hreservation1 heach
      (Or.inl rfl) ?_ rfl rfl (fun id => Or.inl rfl)
    funext c'
    refine (Table.map_get_updateOne _ _ _ _ c').trans ?_
    by_cases hcc : c' = c <;> simp [Core.setCampaign, hcc, Function.comp_def]

end Freeze

/-! ## All commands -/

theorem governed_nothing {α : Type} {f : outbound_throttle.Store →
    Except outbound_throttle.DbError (α × outbound_throttle.Store)} {a : α} {db db' : Db}
    (h : (governed f).run db = .ok (a, db')) : coreOf db' = coreOf db := by
  unfold governed at h
  simp only [Tx.run_stmt] at h
  cases hf : f db.governor with
  | ok r =>
    simp [hf] at h
    obtain ⟨_, rfl⟩ := h
    rfl
  | error e => cases e <;> simp [hf] at h

theorem setConversation_nothing {id : DeliveryId} {conversationId : String} {db db' : Db}
    (h : (setConversation id conversationId).run db = .ok ((), db')) :
    coreOf db' = coreOf db := by
  simp [setConversation] at h
  obtain ⟨_, rfl⟩ := h
  apply Core.ext
  · rfl
  · rfl
  · rfl
  · funext id'
    refine (Table.map_get_updateOne _ _ _ _ id').trans ?_
    simp

theorem refines {env : Environment} {options : outbound_throttle.Options} {ambient : Ambient}
    {c : Command} {r : c.Result} {db db' : Db}
    (h : (c.body env options ambient).run db = .ok (r, db')) :
    (actionOf ambient c r).Step (coreOf db) (coreOf db') := by
  cases c with
  | recoverDispatchingDelivery id => exact settles_step (recoverDispatchingDelivery_settles h)
  | reserveDispatchSlot id => exact reserveDispatchSlot_step h
  | markSent id creatorOpenId conversationId messageId => exact settles_step (markSent_settles h)
  | markTerminalFailure id errorCode => exact settles_step (settleWithout_settles h)
  | markRestricted id errorCode => exact settles_step (settleWithout_settles h)
  | markDeliveryUnknown id attemptNumber => exact settles_step (markDeliveryUnknown_settles h)
  | makeDeliveryRetryable id => exact settles_step (makeDeliveryRetryable_settles h)
  | giveUpReconciliation id attemptNumber => exact settles_step (giveUpReconciliation_settles h)
  | pauseCampaign id => exact pauseCampaign_step h
  | acknowledgePause id => exact acknowledgePause_step h
  | pauseShopForProviderFailure shopId kind => exact pauseShop_step h
  | pauseShopForProviderQuota shopId errorCode => exact pauseShop_step h
  | completeCampaign id completion => exact completeCampaign_step h
  | expireFrozenCampaigns => exact expireFrozenCampaigns_step h
  | freeze id version campaign expiresAt => exact freeze_step h
  | queueFrozen id version => exact queueFrozen_step h
  | requestPause id => exact requestPause_step h
  | resume id quotaRecovery => exact resume_step h
  | cancel id => exact cancel_step h
  | rebuild id retained summary => exact rebuild_step h
  | setConversation id conversationId => exact setConversation_nothing h
  | acquire shopId operation owner => exact governed_nothing h
  | healthy permit outcome meta_ => exact governed_nothing h
  | throttle permit meta_ retryAfterMs => exact governed_nothing h
  | transientFailure permit meta_ => exact governed_nothing h
  | quotaBlocked permit code detail meta_ => exact governed_nothing h
  | release permit outcome meta_ => exact governed_nothing h
  | findSendRecipient id =>
    cases h
    rfl
  | frozenRecipientStates id =>
    cases h
    rfl
  | findUnknownDelivery id =>
    cases h
    rfl
  | linkedMessageIds =>
    cases h
    rfl
  | findDiscoveryRun id =>
    cases h
    rfl
  | campaignState id =>
    obtain ⟨_, rfl⟩ := Tx.run_readOrThrow_eq_ok.1 h
    rfl
  | requiredCampaign id =>
    obtain ⟨_, rfl⟩ := Tx.run_readOrThrow_eq_ok.1 h
    rfl
  | upsertConversation id conversationId =>
    cases h
    rfl
  | scheduleReconciliationRun id attemptNumber scheduledFor =>
    cases h
    rfl
  | createAttempt id attemptNumber =>
    have h : (createAttempt id attemptNumber (ambient.now 0)).run db = .ok ((), db') := h
    simp [createAttempt] at h
    obtain ⟨_, rfl⟩ := h
    rfl
  | updateAttempt id attemptNumber outcome =>
    have h : (updateAttempt id attemptNumber outcome (ambient.now 0)).run db = .ok ((), db') := h
    simp [updateAttempt] at h
    obtain ⟨_, rfl⟩ := h
    rfl
  | createMockMessage messageId conversationId contentHash =>
    have h : (createMockMessage messageId conversationId contentHash (ambient.now 0)).run db = .ok ((), db') := h
    simp [createMockMessage] at h
    obtain ⟨_, rfl⟩ := h
    rfl
  | updateReconciliationRun id attemptNumber state matched =>
    have h : (updateReconciliationRun id attemptNumber state matched (ambient.now 0)).run db = .ok ((), db') := h
    simp [updateReconciliationRun] at h
    obtain ⟨_, rfl⟩ := h
    rfl
  | completeSettledOutbox => exact Tx.run_of_keeps (completeSettledOutbox_keeps (fun _ _ => rfl)) h
  | upsertOutbox id => exact Tx.run_of_keeps (upsertOutbox_keeps (fun _ _ => rfl) id _) h
  | markEnqueued id => exact Tx.run_of_keeps (markEnqueued_keeps (fun _ _ => rfl) id) h
  | requeueOutbox id backoffMs =>
    exact Tx.run_of_keeps (requeueOutbox_keeps (fun _ _ => rfl) id backoffMs _) h
  | queuedRecipients limit =>
    cases h
    rfl
  | openOutbox limit =>
    cases h
    rfl

end tiktok_outreach.dispatch_core
