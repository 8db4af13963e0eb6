-- A campaign whose preview is ready has recipients as the preview made them: no
-- command but a freeze reserves a recipient or takes over the open id of its
-- creator, and a freeze takes its campaign out of this state.
import TiktokOutreach.SendRows
import TiktokOutreach.AtomicSystem

open runs tables executions transactions tiktok_outreach.schema tiktok_outreach.dispatch_safety
  tiktok_outreach.settlements tiktok_outreach.outreach_service tiktok_outreach.commands
  tiktok_outreach.dispatch_core tiktok_outreach.footprints tiktok_outreach.send_rows
  tiktok_outreach.send_protocol tiktok_outreach.system

namespace tiktok_outreach.fresh_previews

/-- The recipients of the campaigns whose preview is ready have no reservation and no snapshot. -/
def Fresh (db : Db) : Prop :=
  ∀ c, (coreOf db).campaign c = some .PREVIEW_READY → ∀ id, id.campaignId = c →
    (coreOf db).reservation id = none ∧
      ∀ r, db.recipients.get id = some r → r.creatorOpenIdSnapshot = none

/-! ## The reservations -/

/-- A reservation is added by a freeze of its campaign alone. -/
theorem reservation_step {a : Action} {k k' : Core} {id : RecipientId} (hstep : a.Step k k')
    (hnone : k.reservation id = none) (ha : ∀ expiresAt deletedAt,
      a ≠ .freeze id.campaignId expiresAt deletedAt) : k'.reservation id = none := by
  cases a with
  | nothing =>
    cases hstep
    exact hnone
  | settle id' ds rs releases =>
    obtain ⟨_, rfl⟩ := hstep
    simp [Core.release, Core.setRecipient, Core.setDelivery, hnone]
  | claim id' now =>
    obtain ⟨_, _, _, _, rfl⟩ := hstep
    exact hnone
  | setCampaign c s =>
    obtain ⟨_, rfl⟩ := hstep
    exact hnone
  | pauseShop shopId =>
    cases hstep
    exact hnone
  | acknowledgePause c =>
    cases hstep
    exact hnone
  | expire =>
    obtain ⟨gone, hexpires⟩ := hstep
    rw [hexpires.reservation, hnone, ite_self]
  | freeze c expiresAt deletedAt =>
    obtain ⟨kept, hfreezes⟩ := hstep
    have hkept : kept id = false := by
      rw [← Bool.not_eq_true]
      intro hkept
      have hselected := hfreezes.selected id hkept
      simp only [selectedFor, Bool.and_eq_true, decide_eq_true_eq] at hselected
      exact ha expiresAt deletedAt (by rw [hselected.1])
    cases hr : k'.reservation id with
    | none => rfl
    | some r =>
      rw [(hfreezes.others id r hkept hr).1] at hnone
      cases hnone
  | queue c =>
    obtain ⟨_, rfl⟩ := hstep
    simp [hnone]
  | cancel c =>
    obtain ⟨_, rfl⟩ := hstep
    simp [hnone]
  | rebuild c =>
    obtain ⟨_, _, hreservation, _⟩ := hstep
    rw [hreservation, hnone, ite_self]

/-! ## The snapshots -/

/-- A command keeps the snapshot of a recipient, unless it freezes the campaign. -/
def KeepsSnapshot (command : Command) (id : RecipientId) (r r' : Recipient) : Prop :=
  (∃ version campaign expiresAt, command = .freeze id.campaignId version campaign expiresAt) ∨
    r'.creatorOpenIdSnapshot = r.creatorOpenIdSnapshot

theorem keepsSnapshot_trans {command : Command} (id : RecipientId) (r r' r'' : Recipient)
    (h : KeepsSnapshot command id r r') (h' : KeepsSnapshot command id r' r'') :
    KeepsSnapshot command id r r'' := by
  rcases h with hfreeze | hsame
  · exact Or.inl hfreeze
  · rcases h' with hfreeze | hsame'
    · exact Or.inl hfreeze
    · exact Or.inr (hsame'.trans hsame)

section Commands

variable {env : Environment} {options : outbound_throttle.Options} {ambient : Ambient}
  {command : Command} {r : command.Result} {db db' : Db}

theorem settleWithout_snapshots {f : RecipientId → Recipient → Recipient → Prop}
    {id : RecipientId} {ds : DeliveryState} {rs : RecipientState} {errorCode : String}
    (hf : ∀ r : Recipient, f id r { r with state := rs, skipReason := some errorCode }) :
    (settleWithout id ds rs errorCode).Within (Rewrites f) := by
  unfold settleWithout completeOutbox
  refine Tx.within_bind (within_of_recipients (by simp)) fun _ =>
    Tx.within_bind (within_update hf) fun _ =>
      Tx.within_bind (within_of_recipients (by simp)) fun _ => ?_
  exact Tx.within_bind (within_of_recipients (by simp)) fun _ => trivial

theorem snapshots_kept (hrun : (command.body env options ambient).run db = .ok (r, db'))
    (hrebuild : ∀ id retained summary, command ≠ .rebuild id retained summary) :
    Rewrites (KeepsSnapshot command) db db' := by
  have hsame : ∀ {id : RecipientId} {r r' : Recipient},
      r'.creatorOpenIdSnapshot = r.creatorOpenIdSnapshot → KeepsSnapshot command id r r' := Or.inr
  cases command with
  | rebuild id retained summary => exact absurd rfl (hrebuild id retained summary)
  | freeze c version campaign expiresAt =>
    apply (freeze_rewrites hrun).mono
    rintro id r r' ⟨rfl, _⟩
    exact Or.inl ⟨version, campaign, expiresAt, rfl⟩
  | expireFrozenCampaigns =>
    apply run_of_rewrites keepsSnapshot_trans _ hrun
    show (expireFrozenCampaigns (ambient.now 0)).Within _
    unfold expireFrozenCampaigns expireCampaign
    repeat' first
      | apply Tx.within_bind
      | apply Tx.within_traverse
      | intro _
      | split
    all_goals first
      | trivial
      | exact within_updateMany (fun _ _ _ _ => hsame rfl)
      | exact within_of_recipients (by simp)
  | queueFrozen id version =>
    apply run_of_rewrites keepsSnapshot_trans _ hrun
    show (queueFrozen id version (ambient.now 0)).Within _
    unfold queueFrozen queueRecipient
    repeat' first
      | apply Tx.within_bind
      | apply Tx.within_traverse
      | intro _
      | split
    all_goals first
      | trivial
      | exact within_update (fun _ => hsame rfl)
      | exact within_of_recipients (by simp)
  | cancel id =>
    apply run_of_rewrites keepsSnapshot_trans _ hrun
    show (cancel id).Within _
    unfold cancel
    repeat' first
      | apply Tx.within_bind
      | intro _
      | split
    all_goals first
      | exact within_updateMany (fun _ _ _ _ => hsame rfl)
      | exact within_of_recipients (by simp)
  | reserveDispatchSlot id =>
    apply run_of_rewrites keepsSnapshot_trans _ hrun
    show (reserveDispatchSlot env.shopDate id (ambient.now 0)).Within _
    unfold reserveDispatchSlot cancelBeforeDispatch claimDispatch completeOutbox
    repeat' first
      | apply Tx.within_bind
      | intro _
      | split
    all_goals first
      | trivial
      | exact within_update (fun _ => hsame rfl)
      | exact within_of_recipients ⟨fun _ => rfl, fun _ => trivial⟩
      | exact within_of_recipients (by simp)
  | markSent id creatorOpenId conversationId messageId =>
    apply run_of_rewrites keepsSnapshot_trans _ hrun
    show (markSent id creatorOpenId conversationId messageId (ambient.now 0)).Within _
    unfold markSent completeOutbox
    repeat' first
      | apply Tx.within_bind
      | intro _
    all_goals first
      | exact within_update (fun _ => hsame rfl)
      | exact within_of_recipients (by simp)
  | recoverDispatchingDelivery id =>
    apply run_of_rewrites keepsSnapshot_trans _ hrun
    show (recoverDispatchingDelivery id).Within _
    unfold recoverDispatchingDelivery markUnresolved completeOutbox
    repeat' first
      | apply Tx.within_bind
      | intro _
    all_goals first
      | exact within_update (fun _ => hsame rfl)
      | exact within_of_recipients (by simp)
  | markDeliveryUnknown id attemptNumber =>
    apply run_of_rewrites keepsSnapshot_trans _ hrun
    show (markDeliveryUnknown id attemptNumber (ambient.now 0)).Within _
    unfold markDeliveryUnknown markUnresolved completeOutbox
    repeat' first
      | apply Tx.within_bind
      | intro _
    all_goals first
      | exact within_update (fun _ => hsame rfl)
      | exact within_of_recipients (by simp)
  | markTerminalFailure id errorCode =>
    exact run_of_rewrites keepsSnapshot_trans (settleWithout_snapshots (fun _ => hsame rfl)) hrun
  | markRestricted id errorCode =>
    exact run_of_rewrites keepsSnapshot_trans (settleWithout_snapshots (fun _ => hsame rfl)) hrun
  | makeDeliveryRetryable id =>
    apply run_of_rewrites keepsSnapshot_trans _ hrun
    show (makeDeliveryRetryable id).Within _
    unfold makeDeliveryRetryable
    exact Tx.within_bind (within_of_recipients (by simp)) fun _ =>
      within_update (fun _ => hsame rfl)
  | giveUpReconciliation id attemptNumber =>
    apply run_of_rewrites keepsSnapshot_trans _ hrun
    show (giveUpReconciliation id attemptNumber (ambient.now 0)).Within _
    unfold giveUpReconciliation updateReconciliationRun
    repeat' first
      | apply Tx.within_bind
      | intro _
    all_goals first
      | exact within_update (fun _ => hsame rfl)
      | exact within_of_recipients (by simp)
  | _ => exact rewrites_of_eq (recipients_eq hrun rfl)

/-- A rebuild makes the recipients of its campaign anew. -/
theorem rebuild_recipients {c : CampaignId} {retained : List RetainedCreator}
    {summary : List (String × Int)} (h : (rebuild c retained summary).run db = .ok ((), db'))
    (id : RecipientId) : (id.campaignId ≠ c → db'.recipients.get id = db.recipients.get id) ∧
      (id.campaignId = c → ∀ r, db'.recipients.get id = some r → r.creatorOpenIdSnapshot = none) := by
  simp [rebuild, deleteRecipients] at h
  obtain ⟨_, _, db1, htraverse, _, _, rfl⟩ := h
  change (id.campaignId ≠ c → db1.recipients.get id = db.recipients.get id) ∧
    (id.campaignId = c → ∀ r, db1.recipients.get id = some r → r.creatorOpenIdSnapshot = none)
  refine Tx.traverse_invariant (fun db1 : Db =>
    (id.campaignId ≠ c → db1.recipients.get id = db.recipients.get id) ∧
      (id.campaignId = c → ∀ r, db1.recipients.get id = some r → r.creatorOpenIdSnapshot = none))
    ?_ htraverse ⟨?_, ?_⟩
  · intro r _ u db1 db2 hcreate hdb1
    simp [createRecipient] at hcreate
    obtain ⟨_, rfl⟩ := hcreate
    by_cases hid : id = ⟨r.uuid, c, r.creatorId⟩
    · subst hid
      simp [RetainedCreator.recipient]
    · simpa [hid] using hdb1
  · intro hid
    rw [Table.get_deleteKeys db.recipients (fun id' => decide (id'.campaignId = c)) id]
    simp [hid]
  · intro hid r hr
    simp [hid] at hr

/-- Only a rebuild makes a preview ready. -/
theorem ready_before (hrun : (command.body env options ambient).run db = .ok (r, db'))
    {c : CampaignId} (hrebuild : ∀ retained summary, command ≠ .rebuild c retained summary)
    (h : (coreOf db').campaign c = some .PREVIEW_READY) :
    (coreOf db).campaign c = some .PREVIEW_READY := by
  cases hs : (coreOf db).campaign c with
  | none =>
    rw [campaign_none (refines hrun) hs] at h
    cases h
  | some s =>
    rcases campaign_transition (refines hrun) hs with hsame | ⟨s', hs', htransition⟩
    · rw [← hsame, h]
    · rw [h] at hs'
      cases hs'
      generalize haction : actionOf ambient command r = a at htransition
      cases htransition with
      | write =>
        cases command with
        | completeCampaign id completion =>
          simp only [actionOf, Action.setCampaign.injEq] at haction
          obtain ⟨_, hstate⟩ := haction
          split at hstate <;> cases hstate
        | reserveDispatchSlot id =>
          cases r with
          | claimed attemptNumber => cases haction
          | notClaimed cancelled reason => cases cancelled <;> cases haction
        | _ => cases haction
      | rebuild =>
        obtain ⟨retained, summary, rfl⟩ := command_of_rebuild haction
        exact absurd rfl (hrebuild retained summary)

theorem fresh_step (hrun : (command.body env options ambient).run db = .ok (r, db'))
    (h : Fresh db) : Fresh db' := by
  intro c hready id hid
  by_cases hrebuild : ∃ retained summary, command = .rebuild c retained summary
  · obtain ⟨retained, summary, rfl⟩ := hrebuild
    obtain ⟨_, _, hreservation, _⟩ := refines hrun
    refine ⟨?_, (rebuild_recipients hrun id).2 hid⟩
    rw [hreservation, if_pos hid]
  · simp only [not_exists] at hrebuild
    have hbefore := ready_before hrun hrebuild hready
    obtain ⟨hnone, hsnapshot⟩ := h c hbefore id hid
    -- a freeze of the campaign would have changed its state
    have hfreeze : ∀ expiresAt deletedAt,
        actionOf ambient command r ≠ .freeze id.campaignId expiresAt deletedAt := by
      intro expiresAt deletedAt haction
      have hstep := refines hrun
      rw [haction] at hstep
      obtain ⟨kept, hfreezes⟩ := hstep
      obtain ⟨s, hs, hcampaign⟩ := hfreezes.campaign
      rw [hcampaign, setCampaign_get, hid, if_pos rfl, hbefore] at hready
      rcases hs with rfl | ⟨rfl, _⟩ <;> cases hready
    refine ⟨reservation_step (refines hrun) hnone hfreeze, ?_⟩
    intro row' hrow'
    by_cases hother : ∃ c' retained summary, command = .rebuild c' retained summary
    · obtain ⟨c', retained, summary, rfl⟩ := hother
      have hc : id.campaignId ≠ c' := by
        rintro rfl
        exact hrebuild retained summary (by rw [hid])
      rw [(rebuild_recipients hrun id).1 hc] at hrow'
      exact hsnapshot row' hrow'
    · simp only [not_exists] at hother
      rcases snapshots_kept hrun hother id with hsame | ⟨row, row1, hrow, hrow1, hkept⟩
      · exact hsnapshot row' (hsame ▸ hrow')
      · rw [hrow'] at hrow1
        cases hrow1
        rcases hkept with ⟨version, campaign, expiresAt, rfl⟩ | hsame
        · exact absurd rfl (hfreeze expiresAt _)
        · rw [hsame]
          exact hsnapshot row hrow

end Commands

/-- In every run the previews that are ready are fresh. -/
theorem fresh_run {env : Environment} {options : outbound_throttle.Options} {allowed : Job → Bool}
    {db : Db} {ls : List (Label Call Call.Answer)} {pool : Pool World Call Call.Answer}
    (h : Fresh db) (hrun : SystemRun env options allowed (initial db) ls pool) :
    Fresh pool.world.db := by
  apply hrun.invariant (fun pool => Fresh pool.world.db) _ h
  intro pool l pool' _ hstep hfresh
  rcases db_step hstep with hdb | ⟨_, command, _, _, ambient, r, _, _, hcommit, _⟩
  · rwa [hdb]
  · exact fresh_step hcommit hfresh

end tiktok_outreach.fresh_previews
