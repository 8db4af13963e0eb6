-- A send queues a frozen campaign once, whatever other sends and sweeps run:
-- every recipient that the freeze kept gets its delivery and its entry with the
-- hash of its frozen message, and no other recipient gets one.
import TiktokOutreach.AtomicSystem
import TiktokOutreach.OperatorRules
import TiktokOutreach.SendRows

open runs executions executions.Js tables transactions tiktok_outreach.schema
  tiktok_outreach.outreach_service tiktok_outreach.queue_outbox tiktok_outreach.commands
  tiktok_outreach.dispatch_core tiktok_outreach.footprints tiktok_outreach.send_protocol
  tiktok_outreach.outbox_transitions tiktok_outreach.send_rows tiktok_outreach.operator_rules
  tiktok_outreach.system

namespace tiktok_outreach.exactly_once

/-- The sends, their parts and the sweeps. -/
def sending : Job → Bool
  | .send _ _ | .freeze _ _ | .queueFrozen _ _ | .expirySweep | .maintenanceSweep _
  | .reconcileOutbox _ _ => true
  | _ => false

def sends (c : Call) : Bool := sendCalls c || sweepCalls c

/-- The threads make the calls of sends and sweeps alone. -/
def sendingProtocol : Protocol Call Call.Answer Unit where
  ok _ c := sends c = true
  next _ _ _ := ()

theorem sending_allows : Allows sendingProtocol (fun _ => True) sends :=
  fun _ _ hc _ => ⟨hc, fun _ => trivial⟩

theorem startable_sending {p : Prog Call Call.Answer Unit} (hp : Startable sending p) :
    p.Conforms sendingProtocol () (fun _ _ => True) := by
  have hsends : Allows sendingProtocol (fun _ => True) sendCalls :=
    sending_allows.mono (fun c hc => by simp [sends, hc])
  have hsweeps : Allows sendingProtocol (fun _ => True) sweepCalls :=
    sending_allows.mono (fun c hc => by simp [sends, hc])
  obtain ⟨job, hallowed, rfl⟩ := hp
  cases job with
  | send c version => exact conforms_of_lawful (send_lawful hsends c version trivial)
  | freeze c version => exact conforms_of_lawful (freezeCampaign_lawful hsends c version trivial)
  | queueFrozen c version =>
    exact conforms_of_lawful (queueFrozenCampaign_lawful hsends c version trivial)
  | expirySweep => exact conforms_of_lawful (expirySweep_lawful hsweeps trivial)
  | maintenanceSweep limit => exact conforms_of_lawful (maintenanceSweep_lawful hsweeps limit trivial)
  | reconcileOutbox readOnly limit =>
    exact conforms_of_lawful (reconcileOutbox_lawful hsweeps readOnly limit trivial)
  | _ => cases hallowed

/-! ## The steps -/

/-- What the commands of sends and sweeps make of a campaign. -/
inductive Moves (c : CampaignId) (command : Command) : CampaignState → CampaignState → Prop
  | keep (s : CampaignState) : Moves c command s s
  | expire : Moves c command .FROZEN .PREVIEW_EXPIRED
  | freeze (s : CampaignState) (hs : s = .FROZEN ∨ s = .PREVIEW_EXPIRED) :
      Moves c command .PREVIEW_READY s
  | queue (version : Int) (hcommand : command = .queueFrozen c version) :
      Moves c command .FROZEN .QUEUED

/-- What they make of the row of a recipient. -/
def Sends (env : Environment) (db : Db) (id : RecipientId) (r r' : Recipient) : Prop :=
  (r'.selected = true → r.selected = true) ∧ (r'.state = .RESERVED → Hashed env r') ∧
    ((coreOf db).campaign id.campaignId = some .QUEUED → r.state = .QUEUED → r' = r)

section Steps

variable {env : Environment} {options : outbound_throttle.Options} {ambient : Ambient}
  {command : Command} {r : command.Result} {db db' : Db}
  (hrun : (command.body env options ambient).run db = .ok (r, db'))
  (hsends : sends (.db command) = true)

include hrun hsends

theorem campaign_moves {c : CampaignId} {s : CampaignState} (hs : (coreOf db).campaign c = some s) :
    ∃ s', (coreOf db').campaign c = some s' ∧ Moves c command s s' := by
  rcases campaign_transition (refines hrun) hs with hsame | ⟨s', hs', htransition⟩
  · exact ⟨s, hsame, .keep s⟩
  · refine ⟨s', hs', ?_⟩
    cases command with
    | expireFrozenCampaigns =>
      cases htransition
      exact .expire
    | freeze id version campaign expiresAt =>
      cases htransition with
      | freeze => exact .freeze _ (Or.inl rfl)
      | freezeNothing => exact .freeze _ (Or.inr rfl)
    | queueFrozen id version =>
      cases htransition
      exact .queue version rfl
    | requiredCampaign | completeSettledOutbox | queuedRecipients | upsertOutbox | openOutbox
    | markEnqueued | requeueOutbox => cases htransition
    | _ => cases hsends

theorem recipients_rewrites : Rewrites (Sends env db) db db' := by
  cases command with
  | expireFrozenCampaigns =>
    apply (expireFrozenCampaigns_rewrites hrun).mono
    rintro id r r' ⟨hreserved, hstate, hselected⟩
    refine ⟨fun h => hselected ▸ h, ?_, ?_⟩
    · intro h
      rw [hstate] at h
      cases h
    · intro _ h
      rw [hreserved] at h
      cases h
  | freeze c version campaign expiresAt =>
    obtain ⟨_, hfreezes⟩ := refines hrun
    apply (freeze_rewrites hrun).mono
    rintro id r r' ⟨rfl, hselected, hhashed⟩
    refine ⟨hselected, hhashed, ?_⟩
    intro hqueued
    rw [hfreezes.ready] at hqueued
    cases hqueued
  | queueFrozen c version =>
    apply (queueFrozen_rewrites hrun).mono
    rintro id r r' rfl
    refine ⟨fun h => h, ?_, ?_⟩
    · intro h
      cases h
    · intro _ h
      rw [← h]
  | requiredCampaign | completeSettledOutbox | queuedRecipients | upsertOutbox | openOutbox
  | markEnqueued | requeueOutbox => exact rewrites_of_eq (recipients_eq hrun rfl)
  | _ => cases hsends

/-- A delivery is added by the queueing of a selected recipient alone, and it never changes. -/
theorem delivery_step (id : RecipientId) : db'.deliveries.get id = db.deliveries.get id ∨
    db.deliveries.get id = none ∧ (∃ version, command = .queueFrozen id.campaignId version) ∧
      ∃ r, db.recipients.get id = some r ∧ r.selected = true ∧
        db'.deliveries.get id = some { contentHash := r.contentHash.getD "" } := by
  cases command with
  | queueFrozen c version =>
    rcases queueFrozen_delivery hrun id with hsame | ⟨hnone, rfl, hadded⟩
    · exact Or.inl hsame
    · exact Or.inr ⟨hnone, ⟨version, rfl⟩, hadded⟩
  | expireFrozenCampaigns | freeze | requiredCampaign | completeSettledOutbox | queuedRecipients
  | upsertOutbox | openOutbox | markEnqueued | requeueOutbox =>
    exact Or.inl (by rw [deliveries_eq hrun rfl])
  | _ => cases hsends

/-- An entry is added for a delivery alone. -/
theorem entry_added {id : RecipientId} (hnone : entry db id = none) (hsome : entry db' id ≠ none) :
    (db'.deliveries.get id).isSome := by
  cases command with
  | queueFrozen c version =>
    have hstep := (refines hrun).2
    rw [queueFrozen_entry hrun] at hsome
    by_cases hqueueable : queueable (coreOf db) c id = true
    · have hdelivery : (coreOf db').delivery id = some (((coreOf db).delivery id).getD .PENDING) := by
        rw [hstep]
        exact if_pos hqueueable
      rw [coreOf_delivery] at hdelivery
      obtain ⟨d, hd, _⟩ := Option.map_eq_some_iff.1 hdelivery
      rw [hd]
      rfl
    · rw [if_neg hqueueable] at hsome
      exact absurd hnone hsome
  | upsertOutbox id' =>
    rw [deliveries_eq hrun rfl]
    exact upsertOutbox_adds hrun id hnone hsome
  | completeSettledOutbox => exact absurd (completeSettledOutbox_adds hrun id hnone) hsome
  | markEnqueued id' => exact absurd (markEnqueued_adds hrun id hnone) hsome
  | requeueOutbox id' backoffMs => exact absurd (requeueOutbox_adds hrun id hnone) hsome
  | expireFrozenCampaigns | freeze | requiredCampaign | queuedRecipients | openOutbox =>
    rw [entry, outbox_eq hrun rfl] at hsome
    exact absurd hnone hsome
  | _ => cases hsends

/-- An entry that is there stays. -/
theorem entry_stays {id : RecipientId} (hsome : entry db id ≠ none) : entry db' id ≠ none := by
  have hrebuild : ∀ c retained summary, command ≠ .rebuild c retained summary := by
    rintro c retained summary rfl
    cases hsends
  have hentry := entry_transition hrun hrebuild id
  generalize entry db id = e at hentry hsome
  generalize entry db' id = e' at hentry
  cases hentry with
  | keep => exact hsome
  | _ => simp


/-! ## What the steps keep -/

/-- The recipient has neither a delivery nor an entry. -/
def Unqueued (db : Db) (id : RecipientId) : Prop :=
  db.deliveries.get id = none ∧ entry db id = none

/-- The frozen recipients of the campaign have their hashes, and until it is queued none of its
recipients has a delivery or an entry. -/
structure Prepared (env : Environment) (c : CampaignId) (db : Db) : Prop where
  hashed : ∀ id r, id.campaignId = c → db.recipients.get id = some r → r.state = .RESERVED →
    Hashed env r
  unqueued : ∀ s, (coreOf db).campaign c = some s → started s = false →
    ∀ id, id.campaignId = c → Unqueued db id

/-- The recipient was queued with the hash of its frozen message. -/
def Materialized (env : Environment) (db : Db) (id : RecipientId) : Prop :=
  ∃ r d message, db.recipients.get id = some r ∧ r.state = .QUEUED ∧
    r.frozenMessage = some message ∧ r.contentHash = some (env.sha256 message) ∧
    db.deliveries.get id = some d ∧ d.contentHash = env.sha256 message ∧ entry db id ≠ none

theorem unqueued_step {id : RecipientId} (h : Unqueued db id)
    (hqueue : ∀ version, command = .queueFrozen id.campaignId version →
      ∀ r, db.recipients.get id = some r → r.selected = false) : Unqueued db' id := by
  have hdelivery : db'.deliveries.get id = none := by
    rcases delivery_step hrun hsends id with hsame | ⟨_, ⟨version, hcommand⟩, r, hr, hselected, _⟩
    · rw [hsame]
      exact h.1
    · rw [hqueue version hcommand r hr] at hselected
      cases hselected
  refine ⟨hdelivery, ?_⟩
  by_contra hadded
  have hsome := entry_added hrun hsends h.2 hadded
  rw [hdelivery] at hsome
  cases hsome

theorem prepared_step {c : CampaignId} (h : Prepared env c db) : Prepared env c db' where
  hashed := by
    intro id r' hid hr' hreserved
    rcases recipients_rewrites hrun hsends id with hsame | ⟨r, r1, hr, hr1, _, hhashed, _⟩
    · rw [hsame] at hr'
      exact h.hashed id r' hid hr' hreserved
    · rw [hr'] at hr1
      cases hr1
      exact hhashed hreserved
  unqueued := by
    intro s' hs' hunstarted id hid
    cases hs : (coreOf db).campaign c with
    | none =>
      rw [campaign_none (refines hrun) hs] at hs'
      cases hs'
    | some s =>
      obtain ⟨s1, hs1, hmoves⟩ := campaign_moves hrun hsends hs
      rw [hs'] at hs1
      cases hs1
      have hbefore : started s = false := by
        cases hmoves with
        | keep => exact hunstarted
        | queue => cases hunstarted
        | _ => rfl
      apply unqueued_step hrun hsends (h.unqueued s hs hbefore id hid)
      rintro version rfl
      -- the queueing would have started the campaign
      have hqueued := (refines hrun).2
      rw [hqueued, hid, setCampaign_get, if_pos rfl, hs] at hs'
      cases hs'
      cases hunstarted

theorem materialized_step {id : RecipientId} (h : Materialized env db id)
    (hqueued : (coreOf db).campaign id.campaignId = some .QUEUED) : Materialized env db' id := by
  obtain ⟨r, d, message, hr, hstate, hmessage, hhash, hd, hdhash, hentry⟩ := h
  have hr' : db'.recipients.get id = some r := by
    rcases recipients_rewrites hrun hsends id with hsame | ⟨r0, r', hr0, hr', _, _, hkeep⟩
    · rw [hsame, hr]
    · rw [hr] at hr0
      cases hr0
      rw [hr', hkeep hqueued hstate]
  have hd' : db'.deliveries.get id = some d := by
    rcases delivery_step hrun hsends id with hsame | ⟨hnone, _⟩
    · rw [hsame, hd]
    · rw [hd] at hnone
      cases hnone
  exact ⟨r, d, message, hr', hstate, hmessage, hhash, hd', hdhash, entry_stays hrun hsends hentry⟩

/-- The queueing of a prepared campaign queues all its frozen recipients. -/
theorem materialized_of_queue {c : CampaignId} {version : Int} (h : Prepared env c db)
    (hcommand : command = .queueFrozen c version) {id : RecipientId} {row : Recipient}
    (hid : id.campaignId = c) (hrow : db.recipients.get id = some row)
    (hselected : row.selected = true) (hreserved : row.state = .RESERVED) :
    Materialized env db' id := by
  subst hcommand
  obtain ⟨hfrozen, hqueued⟩ := refines hrun
  obtain ⟨message, hmessage, hhash⟩ := h.hashed id row hid hrow hreserved
  have hunqueued := h.unqueued _ hfrozen rfl id hid
  have hqueueable : queueable (coreOf db) c id = true := by
    simp [queueable, hid, hrow, recipientCore, hselected, hreserved]
  have hrow' : db'.recipients.get id = some { row with state := .QUEUED } := by
    have hcore : (coreOf db').recipient id = some { recipientCore row with state := .QUEUED } := by
      rw [hqueued]
      simp [hqueueable, hrow]
    rw [coreOf_recipient] at hcore
    obtain ⟨row', hrow', hstate⟩ := Option.map_eq_some_iff.1 hcore
    rcases queueFrozen_rewrites hrun id with hsame | ⟨r0, r1, hr0, hr1, rfl⟩
    · rw [hsame, hrow] at hrow'
      cases hrow'
      have hsame : row.state = .QUEUED := congrArg RecipientCore.state hstate
      rw [hreserved] at hsame
      cases hsame
    · rw [hrow] at hr0
      cases hr0
      exact hr1
  have hd' : ∃ d, db'.deliveries.get id = some d ∧ d.contentHash = env.sha256 message := by
    have hcore : ((coreOf db').delivery id).isSome := by
      rw [hqueued]
      simp [hqueueable]
    rcases delivery_step hrun hsends id with hsame | ⟨_, _, r0, hr0, _, hadded⟩
    · rw [coreOf_delivery, hsame, hunqueued.1] at hcore
      cases hcore
    · rw [hrow] at hr0
      cases hr0
      exact ⟨_, hadded, by rw [hhash]; rfl⟩
  obtain ⟨d, hd, hdhash⟩ := hd'
  refine ⟨_, d, message, hrow', rfl, hmessage, hhash, hd, hdhash, ?_⟩
  rw [queueFrozen_entry hrun, if_pos hqueueable]
  simp

end Steps

/-! ## The runs -/

section Runs

variable {env : Environment} {options : outbound_throttle.Options} {c : CampaignId}

abbrev Threads : Type := Pool World Call Call.Answer

abbrev SendStep (env : Environment) (options : outbound_throttle.Options) :=
  PoolStep (machine env options) (Startable sending)

/-- A step takes the campaign from the state `a` to the state `b`. -/
def Goes (c : CampaignId) (a b : CampaignState) (s t : Threads) : Prop :=
  (s.world.db.campaigns.get c).map (·.state) = some a ∧
    (t.world.db.campaigns.get c).map (·.state) = some b

def Follows (s : Threads) : Prop := FollowsTo sendingProtocol (fun _ => True) s (fun _ => ())

theorem follows_step {s t : Threads} {l : Label Call Call.Answer} (h : Follows s)
    (hstep : SendStep env options s l t) : Follows t := by
  have hafter : FollowsTo sendingProtocol (fun _ => True) t
      (stage sendingProtocol () () (fun _ => ()) l) :=
    followsTo_step (fun _ hp => startable_sending hp) h hstep
  exact hafter

/-- A step changes nothing, or commits a command of a send or of a sweep. -/
theorem command_of_step {s t : Threads} {l : Label Call Call.Answer} (h : Follows s)
    (hstep : SendStep env options s l t) : t.world.db = s.world.db ∨
      ∃ (command : Command) (ambient : Ambient) (r : command.Result),
        (command.body env options ambient).run s.world.db = .ok (r, t.world.db) ∧
          sends (.db command) = true := by
  rcases db_step hstep with hdb | ⟨i, command, res, next, ambient, r, rfl, hthread, hcommit, _⟩
  · exact Or.inl hdb
  · exact Or.inr ⟨command, ambient, r, hcommit, (h i _ hthread).1⟩

/-- What every command of a send keeps, a run keeps. -/
theorem run_keeps {I : Db → Prop} (hI : ∀ (command : Command) (ambient : Ambient)
      (r : command.Result) (db db' : Db), (command.body env options ambient).run db = .ok (r, db') →
      sends (.db command) = true → I db → I db')
    {s t : Threads} {ls : List (Label Call Call.Answer)} (h : Follows s)
    (hrun : SystemRun env options sending s ls t) (hs : I s.world.db) : Follows t ∧ I t.world.db := by
  apply hrun.invariant (fun pool => Follows pool ∧ I pool.world.db) _ ⟨h, hs⟩
  rintro pool l pool' _ hstep ⟨hfollows, hpool⟩
  refine ⟨follows_step hfollows hstep, ?_⟩
  rcases command_of_step hfollows hstep with hdb | ⟨command, ambient, r, hcommit, hsends⟩
  · rwa [hdb]
  · exact hI command ambient r _ _ hcommit hsends hpool

theorem queued_step {command : Command} {ambient : Ambient} {r : command.Result} {db db' : Db}
    (hrun : (command.body env options ambient).run db = .ok (r, db'))
    (hsends : sends (.db command) = true) (h : (coreOf db).campaign c = some .QUEUED) :
    (coreOf db').campaign c = some .QUEUED := by
  obtain ⟨s', hs', hmoves⟩ := campaign_moves hrun hsends h
  cases hmoves with
  | keep => exact hs'

theorem expired_step {command : Command} {ambient : Ambient} {r : command.Result} {db db' : Db}
    (hrun : (command.body env options ambient).run db = .ok (r, db'))
    (hsends : sends (.db command) = true) (h : (coreOf db).campaign c = some .PREVIEW_EXPIRED) :
    (coreOf db').campaign c = some .PREVIEW_EXPIRED := by
  obtain ⟨s', hs', hmoves⟩ := campaign_moves hrun hsends h
  cases hmoves with
  | keep => exact hs'

/-- The recipient was left out, and it has no rows. -/
def LeftOut (id : RecipientId) (db : Db) : Prop :=
  Unqueued db id ∧ ∀ r, db.recipients.get id = some r → r.selected = false

theorem leftOut_step {command : Command} {ambient : Ambient} {r : command.Result} {db db' : Db}
    (hrun : (command.body env options ambient).run db = .ok (r, db'))
    (hsends : sends (.db command) = true) {id : RecipientId} (h : LeftOut id db) :
    LeftOut id db' := by
  refine ⟨unqueued_step hrun hsends h.1 (fun _ _ => h.2), ?_⟩
  intro r' hr'
  rcases recipients_rewrites hrun hsends id with hsame | ⟨r0, r1, hr0, hr1, hselected, _⟩
  · exact h.2 r' (hsame ▸ hr')
  · rw [hr'] at hr1
    cases hr1
    have hbefore := h.2 r0 hr0
    by_contra hafter
    rw [Bool.not_eq_false] at hafter
    rw [hselected hafter] at hbefore
    cases hbefore

/-- After a queueing the campaign is not queued again, and each recipient that was frozen for it
is materialized. The recipients that a freeze leaves out, and those of a freeze that expires,
have no rows. -/
theorem send_is_exactly_once {db : Db} (h0 : Prepared env c db) {s t u : Threads}
    {l : Label Call Call.Answer} {ls ls' : List (Label Call Call.Answer)}
    (hrun : SystemRun env options sending (initial db) ls s) (hstep : SendStep env options s l t)
    (hrun' : SystemRun env options sending t ls' u) :
    (Goes c .FROZEN .QUEUED s t →
      (∀ l' v, SendStep env options u l' v → ¬ Goes c .FROZEN .QUEUED u v) ∧
      ∀ id row, id.campaignId = c → s.world.db.recipients.get id = some row →
        row.selected = true → row.state = .RESERVED → Materialized env u.world.db id) ∧
    (∀ frozen, Goes c .PREVIEW_READY frozen s t → frozen ≠ .PREVIEW_READY →
      ∀ id row, id.campaignId = c → t.world.db.recipients.get id = some row →
        row.selected = false → Unqueued u.world.db id) ∧
    (Goes c .FROZEN .PREVIEW_EXPIRED s t → ∀ id, id.campaignId = c → Unqueued u.world.db id) := by
  have hstart : Follows (initial db) := fun i p hp => by cases hp
  obtain ⟨hfollows, hprepared⟩ := run_keeps (I := Prepared env c)
    (fun _ _ _ _ _ hcommit hsends h => prepared_step hcommit hsends h) hstart hrun h0
  have hfollows' := follows_step hfollows hstep
  have hmoved : ∀ a b, Goes c a b s t → a ≠ b → ∃ (command : Command) (ambient : Ambient)
      (r : command.Result), (command.body env options ambient).run s.world.db = .ok (r, t.world.db) ∧
        sends (.db command) = true ∧ Moves c command a b := by
    rintro a b ⟨ha, hb⟩ hne
    rcases command_of_step hfollows hstep with hdb | ⟨command, ambient, r, hcommit, hsends⟩
    · rw [hdb, ha] at hb
      cases hb
      exact absurd rfl hne
    · obtain ⟨b', hb', hmoves⟩ := campaign_moves hcommit hsends ha
      rw [coreOf_campaign, hb] at hb'
      cases hb'
      exact ⟨command, ambient, r, hcommit, hsends, hmoves⟩
  refine ⟨?_, ?_, ?_⟩
  · intro hgoes
    obtain ⟨command, ambient, r, hcommit, hsends, hmoves⟩ := hmoved _ _ hgoes (by simp)
    constructor
    · rintro l' v _ ⟨hfrozen, _⟩
      obtain ⟨_, hqueued⟩ := run_keeps (I := fun db => (coreOf db).campaign c = some .QUEUED)
        (fun _ _ _ _ _ => queued_step) hfollows' hrun' hgoes.2
      rw [coreOf_campaign, hfrozen] at hqueued
      cases hqueued
    · intro id row hid hrow hselected hreserved
      cases hmoves with
      | queue version hcommand =>
        have hmaterialized :=
          materialized_of_queue hcommit hsends hprepared hcommand hid hrow hselected hreserved
        obtain ⟨_, _, hkept⟩ := run_keeps
          (I := fun db => (coreOf db).campaign c = some .QUEUED ∧ Materialized env db id)
          (fun _ _ _ _ _ hcommit hsends h => ⟨queued_step hcommit hsends h.1,
            materialized_step hcommit hsends h.2 (hid ▸ h.1)⟩)
          hfollows' hrun' ⟨hgoes.2, hmaterialized⟩
        exact hkept
  · intro frozen hgoes hne id row hid hrow hselected
    obtain ⟨command, ambient, r, hcommit, hsends, hmoves⟩ := hmoved _ _ hgoes hne.symm
    have hunstarted : started frozen = false := by
      cases hmoves with
      | keep => rfl
      | freeze _ hs => rcases hs with rfl | rfl <;> rfl
    have hunqueued := (prepared_step hcommit hsends hprepared).unqueued frozen hgoes.2 hunstarted id hid
    refine (run_keeps (I := LeftOut id) (fun _ _ _ _ _ hcommit hsends h => leftOut_step hcommit hsends h)
      hfollows' hrun' ⟨hunqueued, ?_⟩).2.1
    intro row' hrow'
    rw [hrow] at hrow'
    cases hrow'
    exact hselected
  · intro hgoes id hid
    obtain ⟨command, ambient, r, hcommit, hsends, hmoves⟩ := hmoved _ _ hgoes (by simp)
    obtain ⟨_, hexpired, hkept⟩ := run_keeps
      (I := fun db => (coreOf db).campaign c = some .PREVIEW_EXPIRED ∧ Prepared env c db)
      (fun _ _ _ _ _ hcommit hsends h => ⟨expired_step hcommit hsends h.1,
        prepared_step hcommit hsends h.2⟩)
      hfollows' hrun' ⟨hgoes.2, prepared_step hcommit hsends hprepared⟩
    exact hkept.unqueued _ hexpired rfl id hid

end Runs

/-! ## A send -/

theorem sample_prepared : Prepared sampleEnvironment sampleCampaign sampleDb := by
  constructor
  · intro id r _ hr hreserved
    by_cases hid : id = sampleRecipient
    · subst hid
      simp [sampleDb] at hr
      subst hr
      cases hreserved
    · simp [sampleDb, hid] at hr
  · intro s _ _ id _
    exact ⟨rfl, rfl⟩

/-- The send of the campaign, up to its queueing. -/
def freezeMoves (i : Nat) : List Move :=
  .spawn i (.send sampleCampaign 1) :: transactions i 2 0 ++
    [.capability i true, .capability i true] ++ transactions i 2 0 ++ .clock i 0 ::
    transactions i 4 0 ++ [.clock i 0]

/-- A send freezes its campaign and queues its recipient. -/
theorem a_send_queues_its_recipient : ∃ ls s l t,
    SystemRun sampleEnvironment sampleOptions sending (initial sampleDb) ls s ∧
    SendStep sampleEnvironment sampleOptions s l t ∧ Goes sampleCampaign .FROZEN .QUEUED s t ∧
    (∀ l' v, SendStep sampleEnvironment sampleOptions t l' v →
      ¬ Goes sampleCampaign .FROZEN .QUEUED t v) ∧
    Materialized sampleEnvironment t.world.db sampleRecipient := by
  have hplay : (play sampleEnvironment sampleOptions sending (fun _ _ => true) (freezeMoves 1)
      (initial sampleDb)).map (fun pool => (
        (pool.world.db.campaigns.get sampleCampaign).map (·.state),
        (pool.world.db.recipients.get sampleRecipient).map (fun row => (row.selected, row.state)),
        (move sampleEnvironment sampleOptions sending pool (.transact 1 ⟨fun _ => 0, 0⟩)).map
          (fun r => (r.2.world.db.campaigns.get sampleCampaign).map (·.state)))) =
      some (some .FROZEN, some (true, .RESERVED), some (some .QUEUED)) := by decide +kernel
  obtain ⟨ls, s, hrun, hs⟩ := exists_run_of_play hplay
  simp only [Prod.mk.injEq] at hs
  obtain ⟨hfrozen, hrow, hmove⟩ := hs
  obtain ⟨⟨l, t⟩, hmove, hqueued⟩ := Option.map_eq_some_iff.1 hmove
  obtain ⟨row, hrow, hfields⟩ := Option.map_eq_some_iff.1 hrow
  simp only [Prod.mk.injEq] at hfields
  have hstep : SendStep sampleEnvironment sampleOptions s l t := move_step hmove
  obtain ⟨hsend, _⟩ :=
    send_is_exactly_once sample_prepared (run_of_guarded hrun) hstep (Run.nil t)
  obtain ⟨honce, hmaterialized⟩ := hsend ⟨hfrozen, hqueued⟩
  exact ⟨ls, s, l, t, run_of_guarded hrun, hstep, ⟨hfrozen, hqueued⟩, honce,
    hmaterialized sampleRecipient row rfl hrow hfields.1 hfields.2⟩

end tiktok_outreach.exactly_once
