-- The advisory locks of the outreach transactions (packages/db/src/index.ts and what calls it): the
-- creators come in their order and the lock of the shop behind them, so that no cycle of waits is
-- one of these locks alone. A cancel and a claim wait for each other all the same, for rows.
import TiktokOutreach.AtomicSystem
import TiktokOutreach.Lib.LockWaits
import Mathlib.Data.Prod.Lex

open tables transactions runs lock_waits tiktok_outreach.schema tiktok_outreach.dispatch_safety
  tiktok_outreach.settlements tiktok_outreach.outreach_service tiktok_outreach.queue_outbox
  tiktok_outreach.commands

namespace tiktok_outreach.lock_order

/-! ## The order of the locks -/

/-- The place of a lock: that of an identity, then the creators of each shop, then the shops. -/
def rank : LockKey → ℕ ×ₗ ℕ ×ₗ ℕ
  | .historicalIdentity _ _ | .creatorIdentity _ _ => toLex (0, toLex (0, 0))
  | .creator shopId creatorId => toLex (1, toLex (shopId, creatorId))
  | .outbound shopId => toLex (2, toLex (shopId, 0))

/-- The transaction of a command as a session runs it. -/
def session (env : Environment) (options : outbound_throttle.Options) (ambient : Ambient)
    (c : Command) : Transaction Unit :=
  c.body env options ambient >>= fun _ => Tx.ret ()

def sampleAmbient : Ambient := ⟨fun _ => 0, 0⟩

section Rows

variable {env : Environment} {options : outbound_throttle.Options} {ambient : Ambient} {db : Db}
  {id : RecipientId} {campaign : Campaign} {recipient : Recipient} {delivery : Delivery}

/-- Before the last statement of a cancel. It has the delivery, and neither a lock nor a row that a
claim takes first. -/
structure Cancelling (id : RecipientId) (s : Session Db LockKey RowId Failure) : Prop where
  rest : ∃ write next, s.rest = .stmt (fun _ => [.campaign id.campaignId]) write next
  keys : s.keys = []
  delivery : .delivery id ∈ s.rows
  rows : ∀ r ∈ s.rows, r ≠ .campaign id.campaignId ∧ ∀ key, r ≠ .dailyUsage key

/-- Before the update of the delivery by a claim, which has the campaign. -/
structure Claiming (id : RecipientId) (s : Session Db LockKey RowId Failure) : Prop where
  rest : ∃ write next, s.rest = .stmt (fun _ => [.delivery id]) write next
  campaign : .campaign id.campaignId ∈ s.rows
  rows : ∀ r ∈ s.rows, r = .campaign id.campaignId ∨ ∃ key, r = .dailyUsage key

/-- The recipients that a cancel cancels. -/
abbrev unsent (db : Db) (campaignId : CampaignId) : List RecipientId :=
  (db.recipients.findMany (fun id r => id.campaignId = campaignId &&
    (r.state = .RESERVED || r.state = .QUEUED))).map (·.1)

theorem comes_cancelling (hrecipient : db.recipients.get id = some recipient)
    (hwaits : recipient.state = .RESERVED ∨ recipient.state = .QUEUED)
    (hdelivery : db.deliveries.get id = some delivery)
    (hclaimable : claimable delivery.state = true) :
    Comes db (Cancelling id) { rest := session env options ambient (.cancel id.campaignId) } := by
  change Comes db _ ⟨(outreach_service.cancel id.campaignId >>= fun _ => Tx.ret () :
    Transaction Unit), [], [], _⟩
  unfold outreach_service.cancel
  rw [bind_assoc]
  apply (goes_read _ _).comes
  have hmem : id ∈ unsent db id.campaignId := by
    rw [Table.mem_keys_findMany, hrecipient]
    simpa using hwaits
  have hids : ¬ (unsent db id.campaignId).isEmpty = true := by
    intro hempty
    rw [List.isEmpty_iff.1 hempty] at hmem
    cases hmem
  dsimp only [id_eq]
  rw [if_neg hids, bind_assoc]
  apply (goes_updateMany _ _ _ _).comes
  rw [bind_assoc]
  apply (goes_updateMany _ _ _ _).comes
  rw [bind_assoc]
  apply (goes_updateMany _ _ _ _).comes
  rw [bind_assoc]
  apply (goes_deleteMany _ _ _).comes
  apply comes_here
  constructor
  · exact ⟨_, _, rfl⟩
  · rfl
  · have hclaimed : id ∈ (db.deliveries.findMany (fun id' delivery =>
        (unsent db id.campaignId).contains id' && claimable delivery.state)).map (·.1) := by
      rw [Table.mem_keys_findMany, hdelivery]
      simpa [hclaimable] using hmem
    obtain ⟨row, hrow, heq⟩ := List.mem_map.1 hclaimed
    refine List.mem_append_right _ (List.mem_append_right _ (List.mem_append_right _ ?_))
    exact List.mem_append_left _ (List.mem_map.2 ⟨row, hrow, by rw [← heq]; rfl⟩)
  · intro r hr
    simp only [List.mem_append, List.mem_map, List.not_mem_nil, or_false] at hr
    rcases hr with ⟨row, _, rfl⟩ | ⟨row, _, rfl⟩ | ⟨row, _, rfl⟩ | ⟨row, _, rfl⟩
    all_goals exact ⟨nofun, nofun⟩

theorem lockCreatorEligibility_one (shopId creatorId : Nat) :
    lockCreatorEligibility shopId [creatorId] = Tx.lock (.creator shopId creatorId) (Tx.ret ()) := by
  simp [lockCreatorEligibility]

theorem comes_claiming (hcampaign : db.campaigns.get id.campaignId = some campaign)
    (hstate : dispatching campaign.state = true)
    (hrecipient : db.recipients.get id = some recipient)
    (hdelivery : db.deliveries.get id = some delivery)
    (hclaimable : claimable delivery.state = true)
    (hsafe : exclusionReason id campaign (db.reservations.get id)
      (db.contacts.get (id.shopId, id.creatorId)) (ambient.now 0) = none) :
    Comes db (Claiming id) { rest := session env options ambient (.reserveDispatchSlot id) } := by
  change Comes db _ ⟨(reserveDispatchSlot env.shopDate id (ambient.now 0) >>= fun _ => Tx.ret () :
    Transaction Unit), [], [], _⟩
  unfold reserveDispatchSlot
  rw [lockCreatorEligibility_one, bind_assoc]
  apply (goes_lock _ _).comes
  rw [bind_assoc]
  apply (goes_lock _ _).comes
  rw [bind_assoc]
  apply (goes_readOrThrow hcampaign _).comes
  rw [bind_assoc]
  apply (goes_readOrThrow hdelivery _).comes
  have hgoes : ¬ (!true) = true := by decide
  rw [hclaimable, hstate, if_neg hgoes, if_neg hgoes, bind_assoc]
  apply (goes_readOrThrow hrecipient _).comes
  rw [bind_assoc]
  apply (goes_read _ _).comes
  rw [bind_assoc]
  apply (goes_read _ _).comes
  dsimp only [id_eq]
  rw [hsafe]
  unfold claimDispatch
  rw [bind_assoc]
  obtain ⟨after, hupsert⟩ := goes_upsert table.dailyUsage
    (id.shopId, env.shopDate id.shopId (ambient.now 0)) (· + 1) 1 _
  apply hupsert.comes
  rw [bind_assoc]
  apply (goes_write _ _).comes
  rw [bind_assoc]
  have hsome : (db.campaigns.get id.campaignId).isSome = true := by
    rw [hcampaign]
    rfl
  apply (goes_update _ hsome _).comes
  rw [bind_assoc]
  apply comes_here
  constructor
  · exact ⟨_, _, rfl⟩
  · exact List.mem_cons_self
  · intro r hr
    simp only [List.mem_cons, List.not_mem_nil, or_false] at hr
    rcases hr with rfl | rfl
    · exact .inl rfl
    · exact .inr ⟨_, rfl⟩

/-- What the two transactions are. -/
def CancelOrClaim (env : Environment) (options : outbound_throttle.Options) (ambient : Ambient)
    (id : RecipientId) (t : Transaction Unit) : Prop :=
  t = session env options ambient (.cancel id.campaignId) ∨
    t = session env options ambient (.reserveDispatchSlot id)

/-- A cancel takes the rows of the deliveries before that of the campaign, and a claim that one
first. So a cancel of a campaign that dispatches and a claim of one of its recipients can come to
wait for each other, and then neither can do anything but end. -/
theorem cancel_and_claim_deadlock {ℓ : Type} {slot : LockKey → ℓ}
    (hcampaign : db.campaigns.get id.campaignId = some campaign)
    (hstate : dispatching campaign.state = true)
    (hrecipient : db.recipients.get id = some recipient)
    (hwaits : recipient.state = .RESERVED ∨ recipient.state = .QUEUED)
    (hdelivery : db.deliveries.get id = some delivery)
    (hclaimable : claimable delivery.state = true)
    (hsafe : exclusionReason id campaign (db.reservations.get id)
      (db.contacts.get (id.shopId, id.creatorId)) (ambient.now 0) = none) :
    ∃ ls p, Run (Step slot (CancelOrClaim env options ambient id)) (Pool.idle db) ls p ∧
      AwaitsRow p 0 1 ∧ AwaitsRow p 1 0 ∧ ∀ i < 2, ∀ p',
        Step slot (CancelOrClaim env options ambient id) p i p' → p'.session i = none := by
  have hcancel : Comes db (Cancelling id)
      { rest := session env options ambient (.cancel id.campaignId) } :=
    comes_cancelling hrecipient hwaits hdelivery hclaimable
  have hclaim : Comes db (Claiming id)
      { rest := session env options ambient (.reserveDispatchSlot id) } :=
    comes_claiming hcampaign hstate hrecipient hdelivery hclaimable hsafe
  obtain ⟨_, ⟨m, rfl⟩, hs⟩ := hcancel
  obtain ⟨_, ⟨n, rfl⟩, ht⟩ := hclaim
  let p0 : Pool Db LockKey RowId Failure := (Pool.idle db).set 0 (some
    { rest := session env options ambient (.cancel id.campaignId) })
  let p1 : Pool Db LockKey RowId Failure := p0.set 0 (some (ahead db m
    { rest := session env options ambient (.cancel id.campaignId) }))
  let p2 : Pool Db LockKey RowId Failure := p1.set 1 (some
    { rest := session env options ambient (.reserveDispatchSlot id) })
  let p3 : Pool Db LockKey RowId Failure := p2.set 1 (some (ahead db n
    { rest := session env options ambient (.reserveDispatchSlot id) }))
  -- the cancel goes alone, up to its last statement
  have halone : ∀ j s, j ≠ 0 → p0.session j = some s → False := by
    intro j s hj hs
    simp [p0, Pool.set, Pool.idle, hj] at hs
  obtain ⟨ls, hcancelled⟩ :
      ∃ ls, Run (Step slot (CancelOrClaim env options ambient id)) p0 ls p1 :=
    run_ahead rfl m (fun _ _ j s hj hs => (halone j s hj hs).elim)
      (fun _ _ j s hj hs => (halone j s hj hs).elim)
  -- the claim goes beside it, up to the delivery
  have hbeside : ∀ j s, j ≠ 1 → p2.session j = some s →
      s = ahead db m { rest := session env options ambient (.cancel id.campaignId) } := by
    intro j s hj hs
    by_cases h0 : j = 0
    · simpa [p2, p1, Pool.set, hj, h0, eq_comm] using hs
    · simp [p2, p1, p0, Pool.set, Pool.idle, hj, h0] at hs
  obtain ⟨ms, hclaimed⟩ :
      ∃ ms, Run (Step slot (CancelOrClaim env options ambient id)) p2 ms p3 := by
    apply run_ahead rfl n
    · intro k _ j s hj hs' k' hk'
      rw [hbeside j s hj hs', hs.keys] at hk'
      cases hk'
    · intro r hr j s hj hs' hr'
      rw [hbeside j s hj hs'] at hr'
      rcases ht.rows r hr with rfl | ⟨key, rfl⟩
      · exact (hs.rows _ hr').1 rfl
      · exact (hs.rows _ hr').2 key rfl
  have hrun := (Run.cons (Step.start (Pool.idle db) 0 _ rfl (.inl rfl)) hcancelled).append
    (Run.cons (Step.start p1 1 _ rfl (.inr rfl)) hclaimed)
  obtain ⟨write, next, hrest⟩ := hs.rest
  obtain ⟨write', next', hrest'⟩ := ht.rest
  have hcancelWaits : AwaitsRow p3 0 1 :=
    ⟨_, _, write, next, _, by decide, rfl, hrest, rfl, _, List.mem_singleton_self _, ht.campaign⟩
  have hclaimWaits : AwaitsRow p3 1 0 :=
    ⟨_, _, write', next', _, by decide, rfl, hrest', rfl, _, List.mem_singleton_self _, hs.delivery⟩
  refine ⟨_, p3, hrun, hcancelWaits, hclaimWaits, ?_⟩
  intro i hi p' hstep
  obtain rfl | rfl : i = 0 ∨ i = 1 := by omega
  · exact ends_of_awaits Nat.zero_ne_one rfl hrest rfl ht.campaign hstep
  · exact ends_of_awaits Nat.one_ne_zero rfl hrest' rfl hs.delivery hstep

end Rows

theorem cancel_and_claim_deadlock_in_the_sample :
    ∃ ls p, Run (Step id (CancelOrClaim system.sampleEnvironment system.sampleOptions
        sampleAmbient system.sampleRecipient)) (Pool.idle system.queuedDb) ls p ∧
      AwaitsRow p 0 1 ∧ AwaitsRow p 1 0 := by
  have hcampaign : system.queuedDb.campaigns.get system.sampleRecipient.campaignId = some
      { name := "spring", productName := "cup", targetCount := 1, cooldownDays := 30
        messageTemplate := "hello", state := .QUEUED } := rfl
  have hrecipient : system.queuedDb.recipients.get system.sampleRecipient = some
      { eligibility := .ELIGIBLE, rankingValue := 1, discoveryOrdinal := 1, selected := true
        frozenMessage := some "hello", contentHash := some "hello", state := .QUEUED } := rfl
  have hdelivery : system.queuedDb.deliveries.get system.sampleRecipient = some
      { contentHash := "hello" } := rfl
  have hsafe : exclusionReason system.sampleRecipient
      { name := "spring", productName := "cup", targetCount := 1, cooldownDays := 30
        messageTemplate := "hello", state := .QUEUED }
      (system.queuedDb.reservations.get system.sampleRecipient)
      (system.queuedDb.contacts.get (system.sampleRecipient.shopId,
        system.sampleRecipient.creatorId)) (sampleAmbient.now 0) = none := by
    decide
  obtain ⟨ls, p, hrun, hcancel, hclaim, _⟩ :=
    cancel_and_claim_deadlock hcampaign rfl hrecipient (.inr rfl) hdelivery rfl hsafe
  exact ⟨ls, p, hrun, hcancel, hclaim⟩

end tiktok_outreach.lock_order
