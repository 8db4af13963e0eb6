-- A discovery rebuilds the recipients of its campaign in a transaction that
-- does not look at the state of the campaign any more. It spares a live campaign
-- as long as no freeze commits between its check and that transaction.
import TiktokOutreach.AtomicSystem
import TiktokOutreach.OperatorRules
import TiktokOutreach.StateTransitions

open runs executions executions.Js transactions tiktok_outreach.schema
  tiktok_outreach.outreach_service tiktok_outreach.commands tiktok_outreach.dispatch_core
  tiktok_outreach.send_protocol tiktok_outreach.operator_rules tiktok_outreach.system

namespace tiktok_outreach.rediscovery

/-- The jobs around a discovery. -/
def aroundDiscovery : Job → Bool
  | .discover _ | .send _ _ | .freeze _ _ | .queueFrozen _ _ | .expirySweep => true
  | _ => false

/-! ## Their calls -/

/-- The calls that these jobs make. -/
def makes : Call → Bool
  | .db .expireFrozenCampaigns | .db (.requiredCampaign _) | .db (.findDiscoveryRun _)
  | .db (.freeze _ _ _ _) | .db (.queueFrozen _ _) | .db (.rebuild _ _ _) => true
  | .db _ => false
  | _ => true

/-- The role of a thread is the campaign that it saw in a state that can be rediscovered, until
it has rebuilt it. -/
def discoverProtocol : Protocol Call Call.Answer (Option CampaignId) where
  ok _ c := makes c = true
  next role
    | .db (.requiredCampaign c), .ok campaign =>
      if rediscoverable (Campaign.state campaign) then some c else none
    | .db (.findDiscoveryRun _), .ok _ => role
    | .buildPreview _, .ok _ => role
    | _, _ => none

theorem around_sends : Allows discoverProtocol (fun _ => True) sendCalls := by
  intro c role hc _
  refine ⟨?_, fun _ => trivial⟩
  unfold sendCalls at hc
  split at hc <;> first | rfl | cases hc

theorem around_makes : Allows discoverProtocol (fun _ => True) makes :=
  fun _ _ hc _ => ⟨hc, fun _ => trivial⟩

theorem discover_around (c : CampaignId) (role : Option CampaignId) :
    Lawful discoverProtocol (fun _ => True) (discover c) role := by
  unfold discover
  apply around_makes.bind rfl trivial
  intro _ role1 _
  apply around_makes.bind rfl trivial
  intro (campaign : Campaign) role2 _
  apply around_makes.bind rfl trivial
  intro (existing : Option DiscoveryRunState) role3 _
  apply lawful_ite
  · intro _
    exact lawful_pure trivial
  · intro _
    apply lawful_ite
    · intro _
      exact lawful_throw trivial
    · intro _
      apply lawful_tryCatch
      · apply around_makes.bind rfl trivial
        intro preview role4 _
        exact around_makes.call rfl trivial
      · intro error role4 _
        split
        · exact lawful_throw trivial
        · exact lawful_throw trivial

theorem startable_around {p : Prog Call Call.Answer Unit} (hp : Startable aroundDiscovery p) :
    p.Conforms discoverProtocol none (fun _ _ => True) := by
  obtain ⟨job, hallowed, rfl⟩ := hp
  cases job with
  | discover c => exact conforms_of_lawful (discover_around c none)
  | send c version => exact conforms_of_lawful (send_lawful around_sends c version trivial)
  | freeze c version =>
    exact conforms_of_lawful (freezeCampaign_lawful around_sends c version trivial)
  | queueFrozen c version =>
    exact conforms_of_lawful (queueFrozenCampaign_lawful around_sends c version trivial)
  | expirySweep =>
    apply conforms_of_lawful
    apply around_makes.bind rfl trivial
    intro _ role1 _
    exact lawful_pure trivial
  | _ => cases hallowed

/-! ## What an observer notes -/

abbrev Threads : Type := Observed World Call Call.Answer (Nat → Option CampaignId)

def campaignState (w : World) (c : CampaignId) : Option CampaignState :=
  (w.db.campaigns.get c).map (·.state)

/-- A thread that saw a campaign before it was frozen has seen it too early. -/
def observe (seen : Nat → Option CampaignId) (l : Label Call Call.Answer) (after : World) (j : Nat) :
    Option CampaignId :=
  (stage discoverProtocol none none seen l j).filter (fun c => campaignState after c ≠ some .FROZEN)

/-- A discovery rebuilds a campaign that was not frozen since it checked it. -/
def unfrozen (s : Threads) : Label Call Call.Answer → Bool
  | .run i (.db (.rebuild c _ _)) _ => s.seen i = some c
  | _ => true

/-- The states of a campaign that a discovery must leave alone: frozen, queued, running, paused
and finished. -/
def live : CampaignState → Bool
  | .FROZEN | .QUEUED | .RUNNING | .PAUSE_REQUESTED | .PAUSED | .SAFETY_PAUSED | .COMPLETED
  | .COMPLETED_WITH_ERRORS | .CANCELLED => true
  | .DRAFT | .DISCOVERING | .PREVIEW_READY | .PREVIEW_EXPIRED => false

theorem not_live {s : CampaignState} (h : rediscoverable s = true) : live s = false := by
  cases s <;> first | rfl | cases h

/-! ## The invariant -/

section Runs

variable {env : Environment} {options : outbound_throttle.Options}

theorem stays_rediscoverable {ambient : Ambient} {command : Command} {r : command.Result}
    {db db' : Db} {c : CampaignId} {s : CampaignState} (hmakes : makes (.db command) = true)
    (hrun : (command.body env options ambient).run db = .ok (r, db'))
    (hs : (coreOf db).campaign c = some s) (hre : rediscoverable s = true)
    (hfreeze : (coreOf db').campaign c ≠ some .FROZEN) :
    ∃ s', (coreOf db').campaign c = some s' ∧ rediscoverable s' = true := by
  rcases campaign_transition (refines hrun) hs with h | ⟨s', h, htransition⟩
  · exact ⟨s, h, hre⟩
  · cases command with
    | expireFrozenCampaigns =>
      cases htransition
      cases hre
    | queueFrozen id version =>
      cases htransition
      cases hre
    | rebuild id retained summary =>
      cases htransition
      exact ⟨_, h, rfl⟩
    | freeze id version row expiresAt =>
      cases htransition with
      | freeze => exact absurd h hfreeze
      | freezeNothing => exact ⟨_, h, rfl⟩
    | requiredCampaign id => cases htransition
    | findDiscoveryRun id => cases htransition
    | _ => cases hmakes

/-- What a thread has seen, and not too early, can still be rediscovered. -/
structure Inv (s : Threads) : Prop where
  follows : ∃ roles, FollowsTo discoverProtocol (fun _ => True) s.pool roles
  seen : ∀ j c, s.seen j = some c →
    ∃ st, campaignState s.pool.world c = some st ∧ rediscoverable st = true

/-- What a thread sees at the end of its own step could be rediscovered before the step. -/
theorem seen_self {s : Threads} {pool : Pool World Call Call.Answer} {i : Nat} {call : Call}
    {res : call.Answer} {c : CampaignId} (h : Inv s)
    (hstep : PoolStep (machine env options) (Startable aroundDiscovery) s.pool (.run i call res) pool)
    (hseen : discoverProtocol.next (s.seen i) call res = some c) :
    ∃ st, campaignState s.pool.world c = some st ∧ rediscoverable st = true := by
  have hs := h.seen i
  generalize s.pool = before at hstep hs ⊢
  cases hstep with
  | run _ _ next _ w hthread hexec =>
    cases hexec with
    | commit command ambient r db hrun =>
      cases command with
      | requiredCampaign id =>
        obtain ⟨hread, _⟩ := Tx.run_readOrThrow_eq_ok.1 hrun
        simp only [discoverProtocol] at hseen
        split at hseen
        · rename_i hre
          cases hseen
          exact ⟨Campaign.state r, by rw [campaignState, hread]; rfl, hre⟩
        · cases hseen
      | findDiscoveryRun id => exact hs c hseen
      | _ => cases hseen
    | lost command ambient r db e hrun => cases command <;> cases hseen
    | failed command e => cases command <;> cases hseen
    | other call res hc =>
      cases call with
      | buildPreview id =>
        cases res with
        | ok preview => exact hs c hseen
        | error e => cases hseen
      | db command => cases hc
      | _ => cases hseen
    | _ => cases hseen

/-- What a thread saw before the step could be rediscovered then. -/
theorem seen_before {s : Threads} {pool : Pool World Call Call.Answer}
    {l : Label Call Call.Answer} {j : Nat} {c : CampaignId} (h : Inv s)
    (hstep : PoolStep (machine env options) (Startable aroundDiscovery) s.pool l pool)
    (hj : stage discoverProtocol none none s.seen l j = some c) :
    ∃ st, campaignState s.pool.world c = some st ∧ rediscoverable st = true := by
  cases l with
  | spawn i =>
    by_cases hji : j = i
    · simp [stage, hji] at hj
    · exact h.seen j c (by simpa only [stage, setRole_of_ne _ _ hji] using hj)
  | work i call => exact h.seen j c hj
  | run i call res =>
    by_cases hji : j = i
    · subst hji
      rw [stage, setRole_self] at hj
      exact seen_self h hstep hj
    · exact h.seen j c (by simpa only [stage, setRole_of_ne _ _ hji] using hj)
  | crash i =>
    by_cases hji : j = i
    · simp [stage, hji] at hj
    · exact h.seen j c (by simpa only [stage, setRole_of_ne _ _ hji] using hj)

variable (env options) in
/-- A step of the jobs, noted by the observer. -/
def DiscoverStep (s : Threads) (l : Label Call Call.Answer) (t : Threads) : Prop :=
  PoolStep (machine env options) (Startable aroundDiscovery) s.pool l t.pool ∧
    t.seen = observe s.seen l t.pool.world

theorem inv_step {s t : Threads} {l : Label Call Call.Answer}
    (hstep : DiscoverStep env options s l t) (h : Inv s) : Inv t := by
  obtain ⟨hpool, hseen⟩ := hstep
  obtain ⟨roles, hfollows⟩ := h.follows
  have hafter : FollowsTo discoverProtocol (fun _ => True) t.pool
      (stage discoverProtocol none none roles l) :=
    followsTo_step (fun p hp => startable_around hp) hfollows hpool
  refine ⟨⟨_, hafter⟩, ?_⟩
  intro j c hj
  rw [hseen, observe, Option.filter_eq_some_iff] at hj
  have hunfrozen : campaignState t.pool.world c ≠ some .FROZEN := by simpa using hj.2
  obtain ⟨st, hst, hre⟩ := seen_before h hpool hj.1
  rcases db_step hpool with hdb | ⟨i, command, res, next, ambient, r, rfl, hthread, hrun, _⟩
  · exact ⟨st, by rwa [campaignState, hdb], hre⟩
  · exact stays_rediscoverable (hfollows i _ hthread).1 hrun hst hre hunfrozen

/-! ## The runs -/

variable (env options) in
/-- The runs in which no freeze of a campaign commits between the check of a discovery of it and
its rebuild. -/
abbrev DiscoverRun := Run (Guarded (DiscoverStep env options) (fun s l => unfrozen s l = true))

def initialThreads (db : Db) : Threads := ⟨initial db, fun _ => none⟩

theorem inv_run {db : Db} {ls : List (Label Call Call.Answer)} {s : Threads}
    (hrun : DiscoverRun env options (initialThreads db) ls s) : Inv s := by
  apply hrun.invariant Inv (fun s l t _ hstep hs => inv_step hstep.1 hs)
  refine ⟨⟨fun _ => none, ?_⟩, ?_⟩
  · intro i p hp
    cases hp
  · intro j c hj
    cases hj

/-- A discovery that rebuilds its campaign finds it in a state that can be rediscovered, and no
step of the jobs takes a live campaign back to its discovery or its preview. -/
theorem rediscovery_spares_live_campaigns {db : Db} {ls : List (Label Call Call.Answer)}
    {s t : Threads} {l : Label Call Call.Answer}
    (hrun : DiscoverRun env options (initialThreads db) ls s)
    (hstep : Guarded (DiscoverStep env options) (fun s l => unfrozen s l = true) s l t) :
    (∀ i c retained summary res, l = .run i (.db (.rebuild c retained summary)) res →
      ∃ st, campaignState s.pool.world c = some st ∧ live st = false) ∧
    ∀ c st, campaignState s.pool.world c = some st → live st = true →
      campaignState t.pool.world c ≠ some .DISCOVERING ∧
      campaignState t.pool.world c ≠ some .PREVIEW_READY := by
  have hinv := inv_run hrun
  obtain ⟨⟨hpool, _⟩, hguard⟩ := hstep
  have hrebuild : ∀ i c retained summary res, l = .run i (.db (.rebuild c retained summary)) res →
      ∃ st, campaignState s.pool.world c = some st ∧ live st = false := by
    rintro i c retained summary res rfl
    obtain ⟨st, hst, hre⟩ := hinv.seen i c (by simpa [unfrozen] using hguard)
    exact ⟨st, hst, not_live hre⟩
  refine ⟨hrebuild, ?_⟩
  intro c st hst hlive
  have hkeep : campaignState t.pool.world c = some st →
      campaignState t.pool.world c ≠ some .DISCOVERING ∧
        campaignState t.pool.world c ≠ some .PREVIEW_READY := by
    intro h
    rw [h]
    constructor
    · rintro heq
      cases heq
      cases hlive
    · rintro heq
      cases heq
      cases hlive
  rcases db_step hpool with hdb | ⟨i, command, res, next, ambient, r, rfl, hthread, hcommit, _⟩
  · exact hkeep (by rw [campaignState, hdb]; exact hst)
  · rcases campaign_transition (refines hcommit) hst with h | ⟨st', h, htransition⟩
    · exact hkeep h
    · obtain ⟨roles, hfollows⟩ := hinv.follows
      have hmakes : makes (.db command) = true := (hfollows i _ hthread).1
      have hstate : campaignState t.pool.world c = some st' := h
      rw [hstate]
      cases command with
      | expireFrozenCampaigns =>
        cases htransition
        simp
      | queueFrozen id version =>
        cases htransition
        simp
      | freeze id version row expiresAt =>
        cases htransition <;> cases hlive
      | rebuild id retained summary =>
        cases htransition
        obtain ⟨st0, hst0, hlive0⟩ := hrebuild i _ retained summary res rfl
        rw [hst] at hst0
        cases hst0
        rw [hlive] at hlive0
        cases hlive0
      | requiredCampaign id => cases htransition
      | findDiscoveryRun id => cases htransition
      | _ => cases hmakes

end Runs

/-! ## Two runs -/

/-- The check of a discovery of the campaign, up to the reads of the creators. -/
def checkMoves (i : Nat) : List Move :=
  .spawn i (.discover sampleCampaign) :: transactions i 3 0

/-- Its rebuild, with no creator that can be kept. -/
def rebuildMoves (i : Nat) : List Move := .preview i [] :: transactions i 1 10

/-- The moves of the jobs, noted by the observer. -/
def playDiscover : List Move → Threads → Option Threads
  | [], s => some s
  | m :: ms, s => match move sampleEnvironment sampleOptions aroundDiscovery s.pool m with
    | some (l, pool) =>
      if unfrozen s l then playDiscover ms ⟨pool, observe s.seen l pool.world⟩ else none
    | none => none

theorem playDiscover_run {ms : List Move} {s t : Threads} (h : playDiscover ms s = some t) :
    ∃ ls, DiscoverRun sampleEnvironment sampleOptions s ls t := by
  induction ms generalizing s with
  | nil =>
    cases h
    exact ⟨[], Run.nil _⟩
  | cons m ms ih =>
    unfold playDiscover at h
    split at h
    · rename_i l pool hmove
      split at h
      · rename_i hguard
        obtain ⟨ls, hrun⟩ := ih h
        exact ⟨l :: ls, Run.cons ⟨⟨move_step hmove, rfl⟩, hguard⟩ hrun⟩
      · cases h
    · cases h

/-- A discovery of a campaign that nobody freezes rebuilds a preview. -/
theorem a_preview_is_rebuilt : ∃ ls s l t,
    DiscoverRun sampleEnvironment sampleOptions (initialThreads sampleDb) ls s ∧
    Guarded (DiscoverStep sampleEnvironment sampleOptions) (fun s l => unfrozen s l = true) s l t ∧
    campaignState s.pool.world sampleCampaign = some .PREVIEW_READY ∧
    (s.pool.world.db.recipients.get sampleRecipient).isSome ∧
    t.pool.world.db.recipients.get sampleRecipient = none ∧
    ((∀ i c retained summary res, l = .run i (.db (.rebuild c retained summary)) res →
      ∃ st, campaignState s.pool.world c = some st ∧ live st = false) ∧
    ∀ c st, campaignState s.pool.world c = some st → live st = true →
      campaignState t.pool.world c ≠ some .DISCOVERING ∧
      campaignState t.pool.world c ≠ some .PREVIEW_READY) := by
  have hplay : (playDiscover (checkMoves 1 ++ [.preview 1 []]) (initialThreads sampleDb)).map
      (fun s => (campaignState s.pool.world sampleCampaign,
        (s.pool.world.db.recipients.get sampleRecipient).isSome,
        (move sampleEnvironment sampleOptions aroundDiscovery s.pool (.transact 1 ⟨fun _ => 10, 0⟩)).map
          (fun r => (unfrozen s r.1, (r.2.world.db.recipients.get sampleRecipient).isSome)))) =
        some (some .PREVIEW_READY, true, some (true, false)) := by decide +kernel
  obtain ⟨s, hs, hnext⟩ := Option.map_eq_some_iff.1 hplay
  simp only [Prod.mk.injEq] at hnext
  obtain ⟨hstate, hbefore, hmove⟩ := hnext
  obtain ⟨⟨l, pool⟩, hmove, hguard⟩ := Option.map_eq_some_iff.1 hmove
  simp only [Prod.mk.injEq] at hguard
  obtain ⟨ls, hrun⟩ := playDiscover_run hs
  have hstep : Guarded (DiscoverStep sampleEnvironment sampleOptions)
      (fun s l => unfrozen s l = true) s l ⟨pool, observe s.seen l pool.world⟩ :=
    ⟨⟨move_step hmove, rfl⟩, hguard.1⟩
  exact ⟨ls, s, l, _, hrun, hstep, hstate, hbefore, by simpa using hguard.2,
    rediscovery_spares_live_campaigns hrun hstep⟩

/-- The campaign is sent after the check of a discovery, which then deletes its recipients and
their deliveries and takes it back to its preview. -/
theorem a_rediscovery_deletes_a_queued_campaign : ∃ ls mid ls' pool,
    SystemRun sampleEnvironment sampleOptions aroundDiscovery (initial sampleDb) ls mid ∧
    campaignState mid.world sampleCampaign = some .QUEUED ∧
    (mid.world.db.deliveries.get sampleRecipient).map (·.state) = some .PENDING ∧
    SystemRun sampleEnvironment sampleOptions aroundDiscovery mid ls' pool ∧
    campaignState pool.world sampleCampaign = some .PREVIEW_READY ∧
    pool.world.db.recipients.get sampleRecipient = none ∧
    pool.world.db.deliveries.get sampleRecipient = none := by
  obtain ⟨ls, mid, ls', pool, hrun, hmid, hrun', hpool⟩ := exists_runs_of_play
    (show (play sampleEnvironment sampleOptions aroundDiscovery (fun _ _ => true)
      (checkMoves 1 ++ sampleSend 0) (initial sampleDb)).map
      (fun pool => (campaignState pool.world sampleCampaign,
        (pool.world.db.deliveries.get sampleRecipient).map (·.state))) =
        some (some .QUEUED, some .PENDING) by decide +kernel)
    (show (play sampleEnvironment sampleOptions aroundDiscovery (fun _ _ => true)
      ((checkMoves 1 ++ sampleSend 0) ++ rebuildMoves 1) (initial sampleDb)).map
      (fun pool => (campaignState pool.world sampleCampaign,
        pool.world.db.recipients.get sampleRecipient,
        pool.world.db.deliveries.get sampleRecipient)) =
        some (some .PREVIEW_READY, none, none) by decide +kernel)
  simp only [Prod.mk.injEq] at hmid hpool
  exact ⟨ls, mid, ls', pool, run_of_guarded hrun, hmid.1, hmid.2, run_of_guarded hrun', hpool.1,
    hpool.2.1, hpool.2.2⟩

end tiktok_outreach.rediscovery
