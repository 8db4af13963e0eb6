-- Queued work is not lost: the entry of a recipient that waits for its dispatch
-- is open, unless a resume leaves it paused or a delivery is given back after
-- its entry was completed.
import TiktokOutreach.AtomicSystem
import TiktokOutreach.OutboxTransitions

open runs executions tables transactions tiktok_outreach.schema tiktok_outreach.dispatch_safety
  tiktok_outreach.settlements tiktok_outreach.outreach_service tiktok_outreach.queue_outbox
  tiktok_outreach.commands tiktok_outreach.dispatch_core tiktok_outreach.send_protocol
  tiktok_outreach.outbox_transitions tiktok_outreach.system

namespace tiktok_outreach.queued_work

/-- The recipient is queued, its delivery can be claimed and its campaign dispatches, but the
sweeps do not enqueue its entry. -/
def lost (db : Db) (id : RecipientId) : Bool :=
  (db.recipients.get id).any (fun r => r.state = .QUEUED) &&
    (db.deliveries.get id).any (fun d => claimable d.state) &&
    (db.campaigns.get id.campaignId).any (fun c => dispatching c.state) &&
    (db.outbox.get id).any (fun e => !enqueueable e.state)

/-- The states of a campaign that was not queued yet. -/
def unstarted (s : CampaignState) : Bool := !started s

/-- The campaigns that were not queued have no deliveries, no entry of a campaign that dispatches
is paused, and no recipient that waits has a completed entry. -/
structure Healthy (db : Db) : Prop where
  unstarted : ∀ c s, (coreOf db).campaign c = some s → unstarted s = true →
    ∀ id, id.campaignId = c → (coreOf db).delivery id = none
  unpaused : ∀ c s, (coreOf db).campaign c = some s → dispatching s = true →
    ∀ id, id.campaignId = c → ((coreOf db).delivery id).isSome →
      entry db id ≠ some .SAFETY_PAUSED
  incomplete : ∀ id, Waiting (coreOf db) id → entry db id ≠ some .COMPLETED

theorem not_lost {db : Db} (h : Healthy db) (id : RecipientId) : lost db id = false := by
  rw [← Bool.not_eq_true]
  intro hlost
  simp only [lost, Bool.and_eq_true, Option.any_eq_true] at hlost
  obtain ⟨⟨⟨⟨r, hr, hqueued⟩, d, hd, hclaimable⟩, c, hc, hdispatching⟩, e, he, hclosed⟩ := hlost
  have hpaused := h.unpaused id.campaignId c.state (by simp [hc]) hdispatching id rfl (by simp [hd])
  have hcomplete := h.incomplete id
    ⟨⟨recipientCore r, by simp [hr], by simpa [recipientCore] using hqueued⟩,
      d.state, by simp [hd], hclaimable⟩
  rw [entry, he] at hpaused hcomplete
  cases hs : e.state with
  | PENDING => simp [hs, enqueueable] at hclosed
  | ENQUEUED => simp [hs, enqueueable] at hclosed
  | SAFETY_PAUSED => exact hpaused (by rw [Option.map_some, hs])
  | COMPLETED => exact hcomplete (by rw [Option.map_some, hs])

/-! ## The steps -/

/-- No resume leaves an entry of its campaign paused, and no delivery is given back whose entry is
completed. -/
def Sound (db : Db) : Command → Prop
  | .resume c false => ∀ id, id.campaignId = c → entry db id ≠ some .SAFETY_PAUSED
  | .makeDeliveryRetryable id => entry db id ≠ some .COMPLETED
  | _ => True

section Steps

variable {env : Environment} {options : outbound_throttle.Options} {ambient : Ambient}
  {command : Command} {r : command.Result} {db db' : Db}
  (hrun : (command.body env options ambient).run db = .ok (r, db'))
  (hrebuild : ∀ c retained summary, command ≠ .rebuild c retained summary)

theorem started_of_write {c : CampaignId} {s : CampaignState}
    (h : actionOf ambient command r = .setCampaign c s) :
    started s = true ∧ (dispatching s = true → ∃ quotaRecovery, command = .resume c quotaRecovery) := by
  cases command with
  | completeCampaign id completion =>
    cases h
    constructor
    · split <;> rfl
    · intro h
      split at h <;> cases h
  | pauseCampaign id =>
    cases h
    exact ⟨rfl, fun h => by cases h⟩
  | requestPause id =>
    cases h
    exact ⟨rfl, fun h => by cases h⟩
  | resume id quotaRecovery =>
    cases h
    exact ⟨rfl, fun _ => ⟨quotaRecovery, rfl⟩⟩
  | reserveDispatchSlot id =>
    cases r with
    | claimed attemptNumber => cases h
    | notClaimed cancelled reason => cases cancelled <;> cases h
  | _ => cases h

include hrun hrebuild

theorem unstarted_step (h : Healthy db) {c : CampaignId} {s : CampaignState}
    (hs : (coreOf db').campaign c = some s) (hunstarted : unstarted s = true) (id : RecipientId)
    (hid : id.campaignId = c) : (coreOf db').delivery id = none := by
  have hstep := refines hrun
  subst hid
  cases hs0 : (coreOf db).campaign id.campaignId with
  | none =>
    rw [campaign_none hstep hs0] at hs
    cases hs
  | some s0 =>
    have hnone : unstarted s0 = true → actionOf ambient command r ≠ .queue id.campaignId →
        (coreOf db').delivery id = none := fun h0 hqueue =>
      delivery_none hstep (h.unstarted _ _ hs0 h0 id rfl) hqueue
    rcases campaign_transition hstep hs0 with hsame | ⟨s', hs', htransition⟩
    · rw [hs] at hsame
      cases hsame
      apply hnone hunstarted
      intro ha
      -- a campaign that is queued is not unstarted any more
      rw [ha] at hstep
      obtain ⟨hfrozen, hafter⟩ := hstep
      rw [hafter, setCampaign_get, if_pos rfl, hs0] at hs
      obtain rfl : .QUEUED = s := Option.some.inj hs
      cases hunstarted
    · rw [hs] at hs'
      cases hs'
      generalize ha : actionOf ambient command r = a at htransition
      rw [ha] at hnone
      cases htransition with
      | write =>
        rw [unstarted, (started_of_write ha).1] at hunstarted
        cases hunstarted
      | expire => exact hnone rfl (by simp)
      | freeze => exact hnone rfl (by simp)
      | freezeNothing => exact hnone rfl (by simp)
      | rebuild =>
        obtain ⟨retained, summary, hcommand⟩ := command_of_rebuild ha
        exact absurd hcommand (hrebuild _ retained summary)
      | _ => cases hunstarted

theorem unpaused_step (h : Healthy db) (hsound : Sound db command) {c : CampaignId}
    {s : CampaignState} (hs : (coreOf db').campaign c = some s) (hdispatching : dispatching s = true)
    (id : RecipientId) (hid : id.campaignId = c) (hd : ((coreOf db').delivery id).isSome) :
    entry db' id ≠ some .SAFETY_PAUSED := by
  have hstep := refines hrun
  subst hid
  intro hpaused
  have hkept : entry db id = some .SAFETY_PAUSED := by
    have hentry := entry_transition hrun hrebuild id
    rw [hpaused] at hentry
    generalize entry db id = e at hentry
    cases hentry with
    | keep => rfl
    | enqueue _ hs' => cases hs'
    | pause ha =>
      rw [ha] at hstep
      rw [not_dispatching_of_pauseShop hstep hs] at hdispatching
      cases hdispatching
  cases hs0 : (coreOf db).campaign id.campaignId with
  | none =>
    rw [campaign_none hstep hs0] at hs
    cases hs
  | some s0 =>
    -- a campaign that dispatched before had no paused entry
    have hbefore : dispatching s0 = true → False := by
      intro h0
      apply h.unpaused _ _ hs0 h0 id rfl _ hkept
      by_contra hnone
      have hafter := delivery_none hstep (by simpa using hnone) (by
        intro ha
        rw [ha] at hstep
        rw [hstep.1] at hs0
        cases hs0
        cases h0)
      rw [hafter] at hd
      cases hd
    rcases campaign_transition hstep hs0 with hsame | ⟨s', hs', htransition⟩
    · rw [hs] at hsame
      cases hsame
      exact hbefore hdispatching
    · rw [hs] at hs'
      cases hs'
      generalize ha : actionOf ambient command r = a at htransition
      cases htransition with
      | write =>
        obtain ⟨quotaRecovery, rfl⟩ := (started_of_write ha).2 hdispatching
        cases quotaRecovery with
        | true => exact (resume_entry (a := .nothing) hrun id).2 rfl rfl hpaused
        | false => exact hsound id rfl hkept
      | claim _ _ _ _ h0 => exact hbefore h0
      | queue =>
        obtain ⟨version, rfl⟩ := command_of_queue ha
        -- the campaign had no deliveries, so the recipient was queued just now
        have hnone := h.unstarted _ _ hs0 rfl id rfl
        obtain ⟨_, hafter⟩ := hstep
        rw [hafter] at hd
        by_cases hqueueable : queueable (coreOf db) id.campaignId id = true
        · rw [queueFrozen_entry hrun, if_pos hqueueable] at hpaused
          cases hpaused
        · dsimp only at hd
          rw [if_neg hqueueable, hnone] at hd
          cases hd
      | rebuild =>
        obtain ⟨retained, summary, hcommand⟩ := command_of_rebuild ha
        exact hrebuild _ retained summary hcommand
      | _ => cases hdispatching

theorem incomplete_step (h : Healthy db) (hsound : Sound db command) (id : RecipientId)
    (hwaiting : Waiting (coreOf db') id) : entry db' id ≠ some .COMPLETED := by
  intro hcompleted
  have hkept : entry db id = some .COMPLETED := by
    have hentry := entry_transition hrun hrebuild id
    rw [hcompleted] at hentry
    generalize entry db id = e at hentry
    cases hentry with
    | keep => rfl
    | enqueue _ hs' => cases hs'
    | complete hid => exact absurd hwaiting hid
  rcases waiting_step (refines hrun) hwaiting with hbefore | hunblocks | ⟨ha, hqueueable⟩
  · exact h.incomplete id hbefore hkept
  · rcases command_of_unblocks hunblocks with rfl | ⟨c, retained, summary, rfl⟩
    · exact hsound hkept
    · exact hrebuild c retained summary rfl
  · obtain ⟨version, rfl⟩ := command_of_queue ha
    rw [queueFrozen_entry hrun, if_pos hqueueable] at hcompleted
    cases hcompleted

theorem healthy_step (h : Healthy db) (hsound : Sound db command) : Healthy db' where
  unstarted _ _ hs hunstarted id hid := unstarted_step hrun hrebuild h hs hunstarted id hid
  unpaused _ _ hs hdispatching id hid hd :=
    unpaused_step hrun hrebuild h hsound hs hdispatching id hid hd
  incomplete := incomplete_step hrun hrebuild h hsound

end Steps

/-! ## The runs -/

section Runs

variable (env : Environment) (options : outbound_throttle.Options)

abbrev Threads : Type := Pool World Call Call.Answer

/-- The commands that commit are sound. -/
def SoundStep (s : Threads) (l : Label Call Call.Answer) (t : Threads) : Prop :=
  ∀ i c res, l = .run i (.db c) res → t.world.db ≠ s.world.db → Sound s.world.db c

abbrev SoundRun := Run (fun s l t =>
  PoolStep (machine env options) (Startable Job.keeps) s l t ∧ SoundStep s l t)

variable {env options}

/-- The database is healthy, and the threads follow the protocol, by which none of them rebuilds
a campaign. -/
def Inv (s : Threads) : Prop :=
  Healthy s.world.db ∧ ∃ roles, FollowsTo sendProtocol (fun _ => True) s roles

theorem inv_step {s t : Threads} {l : Label Call Call.Answer}
    (hstep : PoolStep (machine env options) (Startable Job.keeps) s l t) (hsound : SoundStep s l t)
    (h : Inv s) : Inv t := by
  obtain ⟨hhealthy, roles, hfollows⟩ := h
  have hafter : FollowsTo sendProtocol (fun _ => True) t (stage sendProtocol start start roles l) :=
    followsTo_step (fun p hp => startable_conforms hp) hfollows hstep
  refine ⟨?_, _, hafter⟩
  rcases db_step hstep with hdb | ⟨i, command, res, next, ambient, r, rfl, hthread, hrun, _⟩
  · rwa [hdb]
  · by_cases hdb : t.world.db = s.world.db
    · rwa [hdb]
    · apply healthy_step hrun _ hhealthy (hsound i command res rfl hdb)
      rintro c retained summary rfl
      exact (hfollows i _ hthread).1

/-- No recipient that waits for its dispatch is lost. -/
theorem queued_work_is_not_lost {db : Db} {ls : List (Label Call Call.Answer)} {s : Threads}
    (h0 : Healthy db) (hrun : SoundRun env options (initial db) ls s) (id : RecipientId) :
    lost s.world.db id = false := by
  have hinv : Inv s := by
    apply hrun.invariant Inv (fun s l t _ hstep hs => inv_step hstep.1 hstep.2 hs)
    refine ⟨h0, fun _ => start, ?_⟩
    intro i p hp
    cases hp
  exact not_lost hinv.1 id

end Runs

/-! ## Two runs -/

theorem ready_healthy : Healthy readyDb := by
  have hcampaign : ∀ c s, (coreOf readyDb).campaign c = some s → s = .QUEUED := by
    intro c s hs
    by_cases hc : c = sampleCampaign
    · subst hc
      exact (Option.some.inj hs).symm
    · simp [readyDb, queuedDb, hc] at hs
  have hentry : ∀ id s, entry readyDb id = some s → s = .PENDING := by
    intro id s hs
    by_cases hid : id = sampleRecipient
    · subst hid
      exact (Option.some.inj hs).symm
    · simp [entry, readyDb, queuedDb, hid] at hs
  constructor
  · intro c s hs hunstarted
    rw [hcampaign c s hs] at hunstarted
    cases hunstarted
  · intro c s _ _ id _ _ hs
    cases hentry id _ hs
  · intro id _ hs
    cases hentry id _ hs

/-- Commands that are sound whether they commit or not. -/
def safe (w : World) : Label Call Call.Answer → Bool
  | .run _ (.db (.resume c false)) _ =>
    !w.db.outbox.any (fun id e => id.campaignId = c && e.state = .SAFETY_PAUSED)
  | .run _ (.db (.makeDeliveryRetryable id)) _ => entry w.db id ≠ some .COMPLETED
  | _ => true

theorem sound_of_safe {s t : Threads} {l : Label Call Call.Answer} (h : safe s.world l = true) :
    SoundStep s l t := by
  rintro i c res rfl _
  cases c with
  | resume c quotaRecovery =>
    cases quotaRecovery with
    | true => trivial
    | false =>
      rintro id rfl hs
      simp only [safe, Bool.not_eq_true', Table.any_eq_false_iff] at h
      obtain ⟨e, he, hstate⟩ := Option.map_eq_some_iff.1 hs
      simpa [hstate] using h id e he
  | makeDeliveryRetryable id =>
    intro hs
    simp [safe, hs] at h
  | _ => trivial

/-- A campaign that is paused and resumed keeps its queued recipient. -/
theorem a_resumed_campaign_keeps_its_work : ∃ ls s,
    SoundRun sampleEnvironment sampleOptions (initial readyDb) ls s ∧
    (s.world.db.campaigns.get sampleCampaign).map (·.state) = some .QUEUED ∧
    lost s.world.db sampleRecipient = false := by
  have hplay : (play sampleEnvironment sampleOptions Job.keeps safe
      (.spawn 1 (.pause sampleCampaign) :: transactions 1 2 5 ++
        .spawn 2 (.resume sampleCampaign) :: transactions 2 2 6) (initial readyDb)).map
      (fun pool => (pool.world.db.campaigns.get sampleCampaign).map (·.state)) =
        some (some .QUEUED) := by decide +kernel
  obtain ⟨ls, s, hrun, hstate⟩ := exists_run_of_play hplay
  have hsound : SoundRun sampleEnvironment sampleOptions (initial readyDb) ls s :=
    hrun.mono (fun _ _ _ h => ⟨h.1, sound_of_safe h.2⟩)
  exact ⟨ls, s, hsound, hstate, queued_work_is_not_lost ready_healthy hsound sampleRecipient⟩

/-- The campaign is asked to pause, then a message of it fails with an error of the provider's
authorization, which pauses all entries of the shop, and then the campaign is resumed. -/
theorem a_resume_leaves_queued_work_paused : ∃ ls pool,
    SystemRun sampleEnvironment sampleOptions Job.keeps (initial readyDb) ls pool ∧
    Healthy readyDb ∧ lost pool.world.db sampleRecipient = true := by
  have hplay : (play sampleEnvironment sampleOptions Job.keeps (fun _ _ => true)
      (sampleClaim 1 ++ [.call 1] ++ .spawn 2 (.pause sampleCampaign) :: transactions 2 2 10 ++
        [.awaitSend 1 (.error (.outbound { kind := .AUTH }))] ++ transactions 1 4 20 ++
        .spawn 3 (.resume sampleCampaign) :: transactions 3 2 30) (initial readyDb)).map
      (fun pool => lost pool.world.db sampleRecipient) = some true := by decide +kernel
  obtain ⟨ls, pool, hrun, hlost⟩ := exists_run_of_play hplay
  exact ⟨ls, pool, run_of_guarded hrun, ready_healthy, hlost⟩

end tiktok_outreach.queued_work
