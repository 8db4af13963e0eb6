-- Which refresh tokens are used again: a claim looks only at the version and
-- at a refresh in progress, so a caller that read the connection earlier claims
-- it after an outcome that its reading would have refused.
import TiktokOutreach.TokenGenerations

open runs executions tables tiktok_outreach.tiktok_connection tiktok_outreach.tiktok_service
  tiktok_outreach.tiktok_system tiktok_outreach.token_generations

namespace tiktok_outreach.refresh_replays

/-! ## The condition -/

/-- The states from which the first reading of `refreshToken` goes on to a claim. -/
def accepts (trigger : Trigger) : TokenRefreshState → Bool
  | .IDLE | .IN_PROGRESS => true
  | .FAILED => trigger = .MANUAL
  | .OUTCOME_UNCERTAIN => false

/-- A claim finds a state that its reading would accept too, and a request to TikTok is made
while its refresh still has the connection. -/
def fits (w : World) : SystemLabel → Bool
  | .run _ (.claimRefresh shopId _ _ trigger _ _) _ =>
    (w.connections.get shopId).all (fun c => accepts trigger c.refreshState)
  | .run _ (.refresh shopId tokenVersion leaseId _ _) _ =>
    (w.connections.get shopId).any (fun c => c.underLease (some leaseId) tokenVersion)
  | _ => true

/-! ## Outcomes -/

/-- A generation whose outcome is uncertain is over, or stays uncertain; one that failed is over,
or is not idle again. -/
structure Settled (w : World) : Prop where
  uncertain : ∀ shopId v, .uncertain shopId v ∈ w.events →
    ∃ c, w.connections.get shopId = some c ∧
      (v < c.tokenVersion ∨ c.tokenVersion = v ∧ c.refreshState = .OUTCOME_UNCERTAIN)
  failed : ∀ shopId v, .failed shopId v ∈ w.events →
    ∃ c, w.connections.get shopId = some c ∧
      (v < c.tokenVersion ∨ c.tokenVersion = v ∧ c.refreshState ≠ .IDLE)

section Written

variable {shopId : Nat} {old : Option Connection} {call : Call} {new : Connection} {event : Event}

/-- The write does not claim or refuse a connection whose outcome is uncertain. -/
def Allowed (old : Option Connection) : Call → Prop
  | .claimRefresh _ _ _ _ _ _ => ∀ c, old = some c → c.refreshState ≠ .OUTCOME_UNCERTAIN
  | .failPreparation _ _ refreshState _ _ _ => refreshState = .IDLE ∨ refreshState = .FAILED
  | _ => True

/-- An uncertain connection is written by a new authorization alone. -/
theorem written_uncertain (h : Written shopId old call new event) (hallowed : Allowed old call)
    {c : Connection} (hold : old = some c) (hc : c.refreshState = .OUTCOME_UNCERTAIN) :
    c.tokenVersion < new.tokenVersion := by
  cases h with
  | authorized old data =>
    subst hold
    simp [Connection.authorized]
  | claimed c' tokenVersion leaseId trigger leaseExpiresAt now h =>
    exact absurd hc (hallowed c hold)
  | unprepared c' tokenVersion refreshState ciphertext reason now h =>
    cases hold
    simp only [unchanged, Bool.and_eq_true, decide_eq_true_eq] at h
    rw [hc] at h
    rcases hallowed with hidle | hfailed
    · rw [hidle] at h
      cases h.1.2
    · rw [hfailed] at h
      cases h.1.2
  | uncertain c' leaseId tokenVersion reason now h =>
    cases hold
    have hprogress := (underLease_iff.1 h).1
    rw [hc] at hprogress
    cases hprogress
  | failed c' leaseId tokenVersion code now h =>
    cases hold
    have hprogress := (underLease_iff.1 h).1
    rw [hc] at hprogress
    cases hprogress
  | rotated c' leaseId tokenVersion data h =>
    cases hold
    exact Nat.lt_succ_self _

/-- A write that leaves the version leaves no connection idle. -/
theorem written_idle (h : Written shopId old call new event) {c : Connection}
    (hold : old = some c) : c.tokenVersion < new.tokenVersion ∨
      c.tokenVersion = new.tokenVersion ∧ new.refreshState ≠ .IDLE := by
  cases h with
  | authorized old data =>
    subst hold
    left
    simp [Connection.authorized]
  | rotated c' leaseId tokenVersion data h =>
    cases hold
    exact Or.inl (Nat.lt_succ_self _)
  | _ =>
    cases hold
    exact Or.inr ⟨rfl, by simp [Connection.claimed, Connection.unprepared, Connection.uncertain,
      Connection.refreshFailed]⟩

/-- What is noted of an outcome holds of the connection after the write. -/
theorem written_outcome (h : Written shopId old call new event) {s v : Nat} :
    (event = .uncertain s v → s = shopId ∧ new.tokenVersion = v ∧
      new.refreshState = .OUTCOME_UNCERTAIN) ∧
    (event = .failed s v → s = shopId ∧ new.tokenVersion = v ∧ new.refreshState ≠ .IDLE) := by
  cases h with
  | unprepared c' tokenVersion refreshState ciphertext reason now h =>
    simp only [unchanged, Bool.and_eq_true, decide_eq_true_eq] at h
    constructor
    · intro hevent
      cases hevent
    · intro hevent
      cases hevent
      exact ⟨rfl, h.1.1, by simp [Connection.unprepared]⟩
  | uncertain c' leaseId tokenVersion reason now h =>
    have hversion := (underLease_iff.1 h).2.2
    constructor
    · intro hevent
      cases hevent
      exact ⟨rfl, hversion, rfl⟩
    · intro hevent
      cases hevent
  | failed c' leaseId tokenVersion code now h =>
    have hversion := (underLease_iff.1 h).2.2
    constructor
    · intro hevent
      cases hevent
    · intro hevent
      cases hevent
      exact ⟨rfl, hversion, by simp [Connection.refreshFailed]⟩
  | _ => simp

theorem settled_written {w w' : World} (hsettled : Settled w)
    (hconnections : w'.connections = w.connections.set shopId new)
    (hevents : w'.events = w.events ++ [event])
    (hwritten : Written shopId (w.connections.get shopId) call new event)
    (hallowed : Allowed (w.connections.get shopId) call) : Settled w' where
  uncertain s v hv := by
    rw [hevents] at hv
    rw [hconnections]
    rcases List.mem_append.1 hv with hbefore | hlast
    · obtain ⟨c, hc, hversion⟩ := hsettled.uncertain s v hbefore
      by_cases hs : s = shopId
      · subst hs
        refine ⟨new, by simp, Or.inl ?_⟩
        rcases hversion with hlt | ⟨rfl, hstate⟩
        · have hup := version_of_written hwritten hc
          omega
        · exact written_uncertain hwritten hallowed hc hstate
      · exact ⟨c, by simpa [hs] using hc, hversion⟩
    · obtain ⟨rfl, hv, hstate⟩ := (written_outcome hwritten).1 (List.mem_singleton.1 hlast).symm
      exact ⟨new, by simp, Or.inr ⟨hv, hstate⟩⟩
  failed s v hv := by
    rw [hevents] at hv
    rw [hconnections]
    rcases List.mem_append.1 hv with hbefore | hlast
    · obtain ⟨c, hc, hversion⟩ := hsettled.failed s v hbefore
      by_cases hs : s = shopId
      · subst hs
        refine ⟨new, by simp, ?_⟩
        rcases written_idle hwritten hc with hup | ⟨hsame, hstate⟩
        · left
          rcases hversion with hlt | ⟨rfl, _⟩ <;> omega
        · rcases hversion with hlt | ⟨rfl, _⟩
          · left
            omega
          · exact Or.inr ⟨hsame.symm, hstate⟩
      · exact ⟨c, by simpa [hs] using hc, hversion⟩
    · obtain ⟨rfl, hv, hstate⟩ := (written_outcome hwritten).2 (List.mem_singleton.1 hlast).symm
      exact ⟨new, by simp, Or.inr ⟨hv, hstate⟩⟩

end Written

/-! ## Runs -/

section Runs

variable {env : Environment} {w : World} {ls : List SystemLabel} {pool : SystemPool}

/-- The runs whose claims and requests all fit. -/
abbrev FittingRun (env : Environment) : SystemPool → List SystemLabel → SystemPool → Prop :=
  Run (Guarded (PoolStep machine (Startable env)) (fun pool l => fits pool.world l = true))

theorem allowed_of_fits {i : Nat} {call : Call} {res : Except Failure call.Result} {shopId : Nat}
    {new : Connection} {event : Event} {r : Role} (hok : okCall env r call)
    (hfits : fits w (.run i call res) = true)
    (h : Written shopId (w.connections.get shopId) call new event) :
    Allowed (w.connections.get shopId) call := by
  cases call with
  | failPreparation _ tokenVersion refreshState ciphertext reason now => exact hok
  | claimRefresh shopId' tokenVersion leaseId trigger leaseExpiresAt now =>
    intro c hc hstate
    have hs : shopId' = shopId := by
      generalize w.connections.get shopId = old at h
      cases h
      rfl
    subst hs
    simp [fits, hc, hstate, accepts] at hfits
  | _ => trivial

theorem settled_step {i : Nat} {call : Call} {res : Except Failure call.Result} {w' : World}
    {r : Role} (hsettled : Settled w) (hok : okCall env r call) (h : Exec i w call res w')
    (hfits : fits w (.run i call res) = true) : Settled w' := by
  rcases changed_of_exec h with ⟨hconnections, hevents⟩ | ⟨shopId, new, event, hconnections, hevents, hwritten⟩
  · constructor
    · rw [hconnections, hevents]
      exact hsettled.uncertain
    · rw [hconnections, hevents]
      exact hsettled.failed
  · exact settled_written hsettled hconnections hevents hwritten
      (allowed_of_fits hok hfits hwritten)

theorem settled_run (hw : Settled w) (h : FittingRun env (idle w) ls pool) :
    Settled pool.world := by
  refine (system_invariant (fun w l => fits w l = true) (fun _ w => Settled w) ?_ ?_ h hw).1
  · intro ls w l _ hsettled
    exact hsettled
  · intro ls w i c res w' hsettled hok hexec hfits
    exact settled_step hsettled hok hexec hfits

/-- A request to TikTok that fits is made for a generation whose outcome is not uncertain. -/
theorem not_uncertain_of_fits (hsettled : Settled w) {i shopId v leaseId : Nat} {trigger : Trigger}
    {token : String} {res : Except Failure SellerTokens}
    (hfits : fits w (.run i (.refresh shopId v leaseId trigger token) res) = true) :
    .uncertain shopId v ∉ w.events := by
  intro hevent
  obtain ⟨c, hc, hversion⟩ := hsettled.uncertain shopId v hevent
  have hlease : c.underLease (some leaseId) v = true := by simpa [fits, hc] using hfits
  obtain ⟨hprogress, _, hv⟩ := underLease_iff.1 hlease
  rcases hversion with hlt | ⟨_, hstate⟩
  · omega
  · rw [hstate] at hprogress
    cases hprogress

/-- An automatic claim that fits is made for a generation that did not fail. -/
theorem not_failed_of_fits (hsettled : Settled w) {i shopId v leaseId : Nat}
    {leaseExpiresAt now : Int} {res : Except Failure Nat}
    (hfits : fits w (.run i (.claimRefresh shopId v leaseId .AUTO leaseExpiresAt now) res) = true)
    (hclaim : w.matching shopId (claimable v) = 1) : .failed shopId v ∉ w.events := by
  intro hevent
  obtain ⟨c, hc, hversion⟩ := hsettled.failed shopId v hevent
  have haccepts : accepts .AUTO c.refreshState = true := by simpa [fits, hc] using hfits
  have hclaimable : c.refreshState ≠ .IN_PROGRESS ∧ c.tokenVersion = v := by
    by_contra hnot
    simp [World.matching, hc, claimable, hnot] at hclaim
  rcases hversion with hlt | ⟨_, hstate⟩
  · omega
  · cases hrefresh : c.refreshState with
    | IDLE => exact hstate hrefresh
    | IN_PROGRESS => exact hclaimable.1 hrefresh
    | FAILED =>
      rw [hrefresh] at haccepts
      cases haccepts
    | OUTCOME_UNCERTAIN =>
      rw [hrefresh] at haccepts
      cases haccepts

/-- In every run whose claims and requests fit, before each step: no request is made with the
refresh token of a generation whose outcome is uncertain, and no automatic refresh starts for a
generation that failed. -/
theorem fitting_refreshes_are_not_replayed (hw : Settled w) {before after : List SystemLabel}
    {l : SystemLabel} (h : FittingRun env (idle w) (before ++ l :: after) pool) :
    ∃ s t, FittingRun env (idle w) before s ∧ PoolStep machine (Startable env) s l t ∧
      FittingRun env t after pool ∧
      (∀ i shopId v leaseId trigger token res,
        l = .run i (.refresh shopId v leaseId trigger token) res →
        .uncertain shopId v ∉ s.world.events) ∧
      ∀ i shopId v leaseId leaseExpiresAt now res,
        l = .run i (.claimRefresh shopId v leaseId .AUTO leaseExpiresAt now) res →
        s.world.matching shopId (claimable v) = 1 → .failed shopId v ∉ s.world.events := by
  obtain ⟨s, hbefore, hrest⟩ := h.split
  have hsettled := settled_run hw hbefore
  cases hrest with
  | cons hstep hafter =>
    obtain ⟨hstep, hfits⟩ := hstep
    refine ⟨s, _, hbefore, hstep, hafter, ?_, ?_⟩
    · rintro i shopId v leaseId trigger token res rfl
      exact not_uncertain_of_fits hsettled hfits
    · rintro i shopId v leaseId leaseExpiresAt now res rfl hclaim
      exact not_failed_of_fits hsettled hfits hclaim

end Runs

/-! ## Samples -/

theorem settled_sample : Settled sampleWorld where
  uncertain := by simp [sampleWorld]
  failed := by simp [sampleWorld]

/-- The next call of a thread. -/
def nextCall (pool : SystemPool) (i : Nat) : Option Call :=
  match pool.thread i with
  | some (.call c _) => some c
  | _ => none

theorem thread_of_nextCall {pool : SystemPool} {i : Nat} {c : Call} (h : nextCall pool i = some c) :
    ∃ next, pool.thread i = some (.call c next) := by
  unfold nextCall at h
  split at h
  · next c' next hthread =>
    cases h
    exact ⟨next, hthread⟩
  · cases h

/-- A thread may take the step that is its next call. -/
theorem step_of_nextCall {env : Environment} {pool : SystemPool} {i : Nat} {c : Call}
    (h : nextCall pool i = some c) :
    ∃ res t, PoolStep machine (Startable env) pool (.run i c res) t := by
  obtain ⟨next, hthread⟩ := thread_of_nextCall h
  have hexec : Exec i pool.world c (.error (.error "")) { pool.world with clock := pool.world.clock } :=
    .failed _ c _ _ le_rfl
  exact ⟨_, _, .run pool i c next _ _ hthread hexec⟩

def sampleCall : Call := .refresh 1 1 0 .AUTO "old refresh"

theorem sample_refresh_is_not_replayed : ∃ before s t res,
    FittingRun sampleEnvironment (idle sampleWorld) before s ∧
      PoolStep machine (Startable sampleEnvironment) s (.run 0 sampleCall res) t ∧
      .uncertain 1 1 ∉ s.world.events := by
  have hplay : (playJobs (fun pool l => fits pool.world l) (claimTurns 0 .AUTO [])
      (idle sampleWorld)).map (fun r => (nextCall r.2 0,
        fits r.2.world (.run 0 sampleCall (.ok sampleTokens)))) =
      some (some sampleCall, true) := by decide
  obtain ⟨ls, pool, hrun, hend⟩ := exists_run_of_jobs (starts_claim starts_nil) hplay
  obtain ⟨res, t, hstep⟩ := step_of_nextCall (congrArg Prod.fst hend)
  have hfits : fits pool.world (.run 0 sampleCall res) = true := congrArg Prod.snd hend
  obtain ⟨s, t', hbefore, hstep', _, hrefresh, _⟩ :=
    fitting_refreshes_are_not_replayed settled_sample (hrun.snoc ⟨hstep, hfits⟩)
  exact ⟨ls, s, t', res, hbefore, hstep', hrefresh 0 1 1 0 .AUTO "old refresh" res rfl⟩

/-- The first thread reads the connection, and the second refreshes it meanwhile, with an error of
TikTok. -/
def staleTurns (error : Failure) (turns : List SystemTurn) : List SystemTurn :=
  spawnJob 0 (.refreshToken (some 1) .AUTO) :: .run 0 (.shop sampleShop) ::
    (performed 0 4 ++ claimTurns 1 .MANUAL (.run 1 (.failed error) :: (performed 1 2 ++ turns)))

theorem starts_stale {error : Failure} {turns : List SystemTurn}
    (h : Starts (Startable sampleEnvironment) turns) :
    Starts (Startable sampleEnvironment) (staleTurns error turns) :=
  starts_job (starts_run (starts_runs (starts_claim (starts_run (starts_runs h)))))

/-- What a thread does next, what happened to the connection, and whether it can be claimed. -/
def outcome (pool : SystemPool) : Option Call × List Event × Nat :=
  (nextCall pool 0, pool.world.events, pool.world.matching 1 (claimable 1))

/-- The refresh token of an uncertain generation is sent again, and a failed generation is claimed
by an automatic refresh. -/
theorem stale_callers_replay_refreshes :
    (∃ before s res t, SystemRun sampleEnvironment (idle sampleWorld) before s ∧
      PoolStep machine (Startable sampleEnvironment) s (.run 0 sampleCall res) t ∧
      .uncertain 1 1 ∈ s.world.events) ∧
    ∃ before s res t, SystemRun sampleEnvironment (idle sampleWorld) before s ∧
      PoolStep machine (Startable sampleEnvironment) s
        (.run 0 (.claimRefresh 1 1 0 .AUTO 120000 0) res) t ∧
      s.world.matching 1 (claimable 1) = 1 ∧ .failed 1 1 ∈ s.world.events := by
  constructor
  · have hplay : (playJobs (fun _ _ => true)
        (staleTurns (.authorization "TOKEN_NETWORK_ERROR" "") (performed 0 1 ++ []))
        (idle sampleWorld)).map (fun r => outcome r.2) =
        some (some sampleCall,
          [.started 1 1 1 .MANUAL, .uncertain 1 1, .started 1 1 0 .AUTO], 0) := by decide
    obtain ⟨ls, s, hrun, hend⟩ :=
      exists_run_of_jobs (starts_stale (starts_runs starts_nil)) hplay
    obtain ⟨res, t, hstep⟩ := step_of_nextCall (congrArg Prod.fst hend)
    have hevents : s.world.events = _ := congrArg (fun o => o.2.1) hend
    exact ⟨ls, s, res, t, hrun.mono (fun _ _ _ hstep => hstep.1), hstep, by simp [hevents]⟩
  · have hplay : (playJobs (fun _ _ => true)
        (staleTurns (.authorization "TIKTOK_TOKEN_1" "") [])
        (idle sampleWorld)).map (fun r => outcome r.2) =
        some (some (.claimRefresh 1 1 0 .AUTO 120000 0),
          [.started 1 1 1 .MANUAL, .failed 1 1], 1) := by decide
    obtain ⟨ls, s, hrun, hend⟩ := exists_run_of_jobs (starts_stale starts_nil) hplay
    obtain ⟨res, t, hstep⟩ := step_of_nextCall (congrArg Prod.fst hend)
    have hevents : s.world.events = _ := congrArg (fun o => o.2.1) hend
    have hclaim : s.world.matching 1 (claimable 1) = 1 := congrArg (fun o => o.2.2) hend
    exact ⟨ls, s, res, t, hrun.mono (fun _ _ _ hstep => hstep.1), hstep, hclaim,
      by simp [hevents]⟩

end tiktok_outreach.refresh_replays
