-- A cancelled campaign stays cancelled, unless a thread that checked its state
-- before the cancel writes it afterwards.
import TiktokOutreach.AtomicSystem
import TiktokOutreach.CampaignChecks
import TiktokOutreach.StateTransitions

open runs executions transactions tiktok_outreach.schema tiktok_outreach.outreach_service
  tiktok_outreach.commands tiktok_outreach.dispatch_core tiktok_outreach.send_protocol
  tiktok_outreach.campaign_checks tiktok_outreach.system

namespace tiktok_outreach.cancel_is_final

abbrev Threads : Type := Pool World Call Call.Answer

/-- The next call of a thread writes the state of the campaign by its id alone. -/
def writesNext (c : CampaignId) : Option (Prog Call Call.Answer Unit) → Bool
  | some (.call (.db command) _) => writes command = some c
  | _ => false

/-- When a campaign is cancelled, no other thread is between its check of the campaign and its
write. -/
def NoWriteAhead (pool : Threads) : Label Call Call.Answer → Prop
  | .run i (.db (.cancel c)) _ => ∀ j, j ≠ i → writesNext c (pool.thread j) = false
  | _ => True

def campaignState (pool : Threads) (c : CampaignId) : Option CampaignState :=
  (pool.world.db.campaigns.get c).map (·.state)

/-! ## The two directions of a step -/

section Steps

variable {env : Environment} {options : outbound_throttle.Options} {ambient : Ambient}
  {command : Command} {r : command.Result} {db db' : Db} {c : CampaignId}

theorem writes_of_write {s : CampaignState} (h : actionOf ambient command r = .setCampaign c s) :
    writes command = some c ∧ s ≠ .CANCELLED := by
  cases command with
  | completeCampaign id completion =>
    cases h
    refine ⟨rfl, ?_⟩
    split <;> simp
  | pauseCampaign id =>
    cases h
    exact ⟨rfl, by simp⟩
  | requestPause id =>
    cases h
    exact ⟨rfl, by simp⟩
  | resume id quotaRecovery =>
    cases h
    exact ⟨rfl, by simp⟩
  | reserveDispatchSlot id =>
    cases r with
    | claimed attemptNumber => cases h
    | notClaimed cancelled reason => cases cancelled <;> cases h
  | _ => cases h

/-- A cancelled campaign leaves its state by a write of the four, or by a rebuild. -/
theorem cancelled_step (hrun : (command.body env options ambient).run db = .ok (r, db'))
    (hdb : (coreOf db).campaign c = some .CANCELLED) (hwrites : writes command ≠ some c)
    (hrebuild : ∀ retained summary, command ≠ .rebuild c retained summary) :
    (coreOf db').campaign c = some .CANCELLED := by
  rcases campaign_transition (refines hrun) hdb with h | ⟨s', h, htransition⟩
  · exact h
  · generalize ha : actionOf ambient command r = a at htransition
    cases htransition with
    | write => exact absurd (writes_of_write ha).1 hwrites
    | claim _ _ _ _ hs => cases hs
    | pauseShop _ hs => cases hs
    | cancel => exact h
    | rebuild =>
      obtain ⟨retained, summary, hcommand⟩ := command_of_rebuild ha
      exact absurd hcommand (hrebuild retained summary)

/-- A campaign becomes cancelled by a cancel. -/
theorem step_to_cancelled (hrun : (command.body env options ambient).run db = .ok (r, db'))
    (hdb : (coreOf db).campaign c ≠ some .CANCELLED)
    (hdb' : (coreOf db').campaign c = some .CANCELLED) : command = .cancel c := by
  cases hs : (coreOf db).campaign c with
  | none =>
    rw [campaign_none (refines hrun) hs] at hdb'
    cases hdb'
  | some s =>
    rcases campaign_transition (refines hrun) hs with h | ⟨s', h, htransition⟩
    · rw [hdb'] at h
      exact absurd (hs.trans h.symm) hdb
    · rw [hdb'] at h
      cases h
      generalize ha : actionOf ambient command r = a at htransition
      cases htransition with
      | write => exact absurd rfl (writes_of_write ha).2
      | cancel => exact command_of_cancel ha

/-- What a read shows as not cancelled is not cancelled. -/
theorem shown_live (hrun : (command.body env options ambient).run db = .ok (r, db'))
    (hshown : shown (.db command) (.ok r) = some c) :
    (coreOf db).campaign c ≠ some .CANCELLED := by
  have hunless : ∀ c' s, unlessCancelled c' s = some c → c' = c ∧ s ≠ .CANCELLED := by
    intro c' s h
    unfold unlessCancelled at h
    split at h
    · cases h
    · exact ⟨by cases h; rfl, by assumption⟩
  cases command with
  | requiredCampaign id =>
    obtain ⟨hread, _⟩ := Tx.run_readOrThrow_eq_ok.1 hrun
    obtain ⟨rfl, hs⟩ := hunless _ _ hshown
    rw [coreOf_campaign, hread]
    exact fun h => hs (Option.some.inj h)
  | campaignState id =>
    obtain ⟨hread, _⟩ := Tx.run_readOrThrow_eq_ok.1 hrun
    obtain ⟨rfl, hs⟩ := hunless _ _ hshown
    rw [coreOf_campaign, hread]
    exact fun h => hs (Option.some.inj h)
  | findSendRecipient id =>
    cases r with
    | none => cases hshown
    | some recipient =>
      obtain ⟨_, hid, hread, _⟩ := settlements.run_findSendRecipient hrun
      obtain ⟨rfl, hs⟩ := hunless _ _ hshown
      rw [coreOf_campaign, hid, hread]
      exact fun h => hs (Option.some.inj h)
  | _ => cases hshown

end Steps

/-! ## The invariant -/

section Runs

variable {env : Environment} {options : outbound_throttle.Options} {c : CampaignId}

/-- While the campaign is cancelled, no thread has just seen it in another state. -/
def Inv (c : CampaignId) (pool : Threads) : Prop :=
  ∃ roles, FollowsTo checkProtocol (fun _ => True) pool roles ∧
    (campaignState pool c = some .CANCELLED → ∀ j, roles j ≠ some c)

/-- A thread that will not write the campaign next may forget that it saw it. -/
theorem conforms_forget {p : Prog Call Call.Answer Unit} {role : Option CampaignId}
    (h : p.Conforms checkProtocol role (fun _ _ => True)) (hrole : role = some c)
    (hnext : writesNext c (some p) = false) : p.Conforms checkProtocol none (fun _ _ => True) := by
  cases p with
  | ret u => trivial
  | call call next =>
    refine ⟨?_, h.2⟩
    cases call with
    | db command =>
      have hwrites : ∀ id, writes command ≠ some id := by
        intro id hid
        have := role_of_ok h.1 hid
        rw [hrole] at this
        cases this
        simp [writesNext, hid] at hnext
      cases command with
      | rebuild => exact h.1
      | _ => exact fun id hid => absurd hid (hwrites id)
    | _ => trivial

/-- The roles after the cancel: nobody has seen the campaign alive. -/
theorem inv_cancelled {pool : Threads} {roles : Nat → Option CampaignId}
    (h : FollowsTo checkProtocol (fun _ => True) pool roles)
    (hnext : ∀ j, roles j = some c → writesNext c (pool.thread j) = false) : Inv c pool := by
  refine ⟨fun j => if roles j = some c then none else roles j, ?_, ?_⟩
  · intro j p hp
    by_cases hj : roles j = some c
    · simp only [hj, if_true]
      exact conforms_forget (h j p hp) hj (hp ▸ hnext j hj)
    · simp only [hj, if_false]
      exact h j p hp
  · intro _ j
    dsimp only
    split
    · simp
    · assumption

/-- Nobody but a thread that has just seen the campaign takes it out of its cancelled state. -/
theorem stays_cancelled {pool pool' : Threads} {l : Label Call Call.Answer}
    {roles : Nat → Option CampaignId}
    (hstep : PoolStep (machine env options) (Startable Job.keeps) pool l pool')
    (hfollows : FollowsTo checkProtocol (fun _ => True) pool roles) (hroles : ∀ j, roles j ≠ some c)
    (hc : campaignState pool c = some .CANCELLED) : campaignState pool' c = some .CANCELLED := by
  cases hstep with
  | spawn i p hfree hp => exact hc
  | work i call next w hthread hwork => exact hwork.elim
  | run i call next res w hthread hexec =>
    have hok := (hfollows i _ hthread).1
    cases hexec with
    | commit command ambient r db hrun =>
      exact cancelled_step hrun hc (fun h => hroles i (role_of_ok hok h)) (not_rebuild_of_ok hok c)
    | lost command ambient r db e hrun =>
      exact cancelled_step hrun hc (fun h => hroles i (role_of_ok hok h)) (not_rebuild_of_ok hok c)
    | _ => exact hc
  | crash i p hthread =>
    cases p with
    | ret u => exact hc
    | call call next => cases call <;> exact hc

theorem becomes_cancelled {pool pool' : Threads} {l : Label Call Call.Answer}
    (hstep : PoolStep (machine env options) (Startable Job.keeps) pool l pool')
    (hc : campaignState pool c ≠ some .CANCELLED) (hc' : campaignState pool' c = some .CANCELLED) :
    ∃ i res, l = .run i (.db (.cancel c)) res := by
  cases hstep with
  | spawn i p hfree hp => exact absurd hc' hc
  | work i call next w hthread hwork => exact hwork.elim
  | run i call next res w hthread hexec =>
    cases hexec with
    | commit command ambient r db hrun =>
      obtain rfl := step_to_cancelled hrun hc hc'
      exact ⟨i, _, rfl⟩
    | lost command ambient r db e hrun =>
      obtain rfl := step_to_cancelled hrun hc hc'
      exact ⟨i, _, rfl⟩
    | _ => exact absurd hc' hc
  | crash i p hthread =>
    cases p with
    | ret u => exact absurd hc' hc
    | call call next => cases call <;> exact absurd hc' hc

/-- What an answer shows as alive was alive. -/
theorem live_of_shown {pool pool' : Threads} {i : Nat} {call : Call} {res : call.Answer}
    (hstep : PoolStep (machine env options) (Startable Job.keeps) pool (.run i call res) pool')
    (hshown : shown call res = some c) : campaignState pool c ≠ some .CANCELLED := by
  cases hstep with
  | run _ _ next _ w hthread hexec =>
    cases hexec with
    | commit command ambient r db hrun => exact shown_live hrun hshown
    | lost command ambient r db e hrun => cases (shown_error command e).symm.trans hshown
    | failed command e => cases (shown_error command e).symm.trans hshown
    | other call res h => cases call <;> first | cases hshown | cases h
    | _ => cases hshown

theorem inv_step {pool pool' : Threads} {l : Label Call Call.Answer}
    (hstep : PoolStep (machine env options) (Startable Job.keeps) pool l pool')
    (hguard : NoWriteAhead pool l) (h : Inv c pool) :
    Inv c pool' ∧
      (campaignState pool c = some .CANCELLED → campaignState pool' c = some .CANCELLED) := by
  obtain ⟨roles, hfollows, hcancelled⟩ := h
  have hafter : FollowsTo checkProtocol (fun _ => True) pool'
      (stage checkProtocol none none roles l) :=
    followsTo_step (fun p hp => startable_checks hp none) hfollows hstep
  refine ⟨?_, fun hc => stays_cancelled hstep hfollows (hcancelled hc) hc⟩
  by_cases hc : campaignState pool c = some .CANCELLED
  · refine ⟨_, hafter, fun _ j => ?_⟩
    have hj := hcancelled hc j
    cases l with
    | spawn i =>
      by_cases hji : j = i
      · simp [stage, hji]
      · simpa only [stage, setRole_of_ne _ _ hji] using hj
    | work i call => exact hj
    | run i call res =>
      by_cases hji : j = i
      · subst hji
        rw [stage, setRole_self]
        exact fun hshown => live_of_shown hstep hshown hc
      · simpa only [stage, setRole_of_ne _ _ hji] using hj
    | crash i =>
      by_cases hji : j = i
      · simp [stage, hji]
      · simpa only [stage, setRole_of_ne _ _ hji] using hj
  · by_cases hc' : campaignState pool' c = some .CANCELLED
    · obtain ⟨i, res, rfl⟩ := becomes_cancelled hstep hc hc'
      apply inv_cancelled hafter
      intro j hj
      by_cases hji : j = i
      · subst hji
        rw [stage, setRole_self] at hj
        cases res <;> cases hj
      · have hthread : pool'.thread j = pool.thread j := by
          cases hstep with
          | run _ _ next _ w hthread hexec => simp [Pool.setThread, hji]
        rw [hthread]
        exact hguard j hji
    · exact ⟨_, hafter, fun h => absurd h hc'⟩

/-! ## The runs -/

variable (env options) in
/-- The runs in which no campaign is cancelled between a check of its state and the write that
goes with it. -/
abbrev CheckedRun :=
  Run (Guarded (PoolStep (machine env options) (Startable Job.keeps)) NoWriteAhead)

theorem inv_run {db : Db} {ls : List (Label Call Call.Answer)} {pool : Threads}
    (hrun : CheckedRun env options (initial db) ls pool) : Inv c pool := by
  apply hrun.invariant (Inv c) (fun s l t _ hstep hs => (inv_step hstep.1 hstep.2 hs).1)
  refine ⟨fun _ => none, ?_, ?_⟩
  · intro i p hp
    cases hp
  · intro _ j h
    cases h

/-- Once a campaign is cancelled it stays cancelled, in every run of the worker, the operator and
the sweeps in which no other thread was between its check and its write when the cancel
committed. -/
theorem cancelled_is_final {db : Db} {before after : List (Label Call Call.Answer)}
    {mid pool : Threads} (hbefore : CheckedRun env options (initial db) before mid)
    (hafter : CheckedRun env options mid after pool)
    (hcancel : campaignState mid c = some .CANCELLED ∨
      ∃ i rest, after = .run i (.db (.cancel c)) (.ok ()) :: rest) :
    campaignState pool c = some .CANCELLED := by
  have hstays : ∀ {ls s t}, CheckedRun env options s ls t → Inv c s →
      campaignState s c = some .CANCELLED → campaignState t c = some .CANCELLED := by
    intro ls s t hrun hs hc
    refine (hrun.invariant (fun s => Inv c s ∧ campaignState s c = some .CANCELLED) ?_ ⟨hs, hc⟩).2
    rintro s l t _ ⟨hstep, hguard⟩ ⟨hs, hc⟩
    obtain ⟨ht, hkeep⟩ := inv_step hstep hguard hs
    exact ⟨ht, hkeep hc⟩
  rcases hcancel with hc | ⟨i, rest, rfl⟩
  · exact hstays hafter (inv_run hbefore) hc
  · cases hafter with
    | @cons _ t _ _ _ hstep hrest =>
      apply hstays hrest (inv_step hstep.1 hstep.2 (inv_run hbefore)).1
      cases hstep.1 with
      | run _ _ next _ w hthread hexec =>
        cases hexec with
        | other call res h => cases h
        | commit command ambient r db hrun =>
          obtain ⟨hsome, heq⟩ := refines hrun
          obtain ⟨s, hs⟩ := Option.isSome_iff_exists.1 hsome
          show (coreOf db).campaign c = _
          rw [heq]
          simp only [setCampaign_get, if_true]
          rw [show (coreOf mid.world.db).campaign c = some s from hs]
          rfl

/-- A thread that runs alone is never between another thread's check and write. -/
theorem checked_of_alone {i : Nat} {s t : Threads} {ls : List (Label Call Call.Answer)}
    (h : Run (Guarded (PoolStep (machine env options) (Startable Job.keeps))
      (fun pool _ => Alone i pool)) s ls t) : CheckedRun env options s ls t := by
  apply h.mono
  rintro s l t ⟨hstep, halone⟩
  refine ⟨hstep, ?_⟩
  unfold NoWriteAhead
  split
  · rename_i i' c res
    intro j hj
    by_cases hji : j = i
    · subst hji
      cases hstep with
      | run _ _ next _ w hthread hexec =>
        rw [halone i' (Ne.symm hj)] at hthread
        cases hthread
    · rw [halone j hji]
      rfl
  · trivial

end Runs

/-- A resume that comes after the cancel finds the campaign cancelled. -/
theorem a_cancelled_campaign_is_not_resumed : ∃ before mid after pool,
    CheckedRun sampleEnvironment sampleOptions (initial queuedDb) before mid ∧
    campaignState mid sampleCampaign = some .CANCELLED ∧
    CheckedRun sampleEnvironment sampleOptions mid after pool ∧
    campaignState pool sampleCampaign = some .CANCELLED := by
  have hcancel : (play sampleEnvironment sampleOptions Job.keeps (fun _ _ => true)
      (.spawn 0 (.cancel sampleCampaign) :: transactions 0 2 5) (initial queuedDb)).map
      (fun pool => campaignState pool sampleCampaign) = some (some .CANCELLED) := by decide +kernel
  have hresume : ((play sampleEnvironment sampleOptions Job.keeps (fun _ _ => true)
      (.spawn 0 (.cancel sampleCampaign) :: transactions 0 2 5) (initial queuedDb)).bind
      (play sampleEnvironment sampleOptions Job.keeps (fun _ _ => true)
        (.crash 0 :: .spawn 0 (.resume sampleCampaign) :: transactions 0 1 5))).isSome = true := by
    decide +kernel
  obtain ⟨mid, hmid, hstate⟩ := Option.map_eq_some_iff.1 hcancel
  rw [hmid, Option.bind_some] at hresume
  obtain ⟨pool, hpool⟩ := Option.isSome_iff_exists.1 hresume
  obtain ⟨before, hbefore, halone⟩ := play_alone hmid (by decide) (alone_initial 0 queuedDb)
  obtain ⟨after, hafter, _⟩ := play_alone hpool (by decide) halone
  exact ⟨before, mid, after, pool, checked_of_alone hbefore, hstate, checked_of_alone hafter,
    cancelled_is_final (checked_of_alone hbefore) (checked_of_alone hafter) (Or.inl hstate)⟩

/-- A pause read the campaign before it was cancelled, and writes its state after. -/
theorem a_pause_revives_a_cancelled_campaign : ∃ ls mid ls' pool,
    SystemRun sampleEnvironment sampleOptions Job.keeps (initial queuedDb) ls mid ∧
    campaignState mid sampleCampaign = some .CANCELLED ∧
    SystemRun sampleEnvironment sampleOptions Job.keeps mid ls' pool ∧
    campaignState pool sampleCampaign = some .PAUSE_REQUESTED := by
  obtain ⟨ls, mid, ls', pool, hrun, hmid, hrun', hpool⟩ := exists_runs_of_play
    (show (play sampleEnvironment sampleOptions Job.keeps (fun _ _ => true)
      (.spawn 1 (.pause sampleCampaign) :: transactions 1 1 5 ++
        .spawn 2 (.cancel sampleCampaign) :: transactions 2 2 5) (initial queuedDb)).map
      (fun pool => campaignState pool sampleCampaign) = some (some .CANCELLED) by decide +kernel)
    (show (play sampleEnvironment sampleOptions Job.keeps (fun _ _ => true)
      ((.spawn 1 (.pause sampleCampaign) :: transactions 1 1 5 ++
        .spawn 2 (.cancel sampleCampaign) :: transactions 2 2 5) ++ transactions 1 1 5)
      (initial queuedDb)).map
      (fun pool => campaignState pool sampleCampaign) = some (some .PAUSE_REQUESTED) by
      decide +kernel)
  exact ⟨ls, mid, ls', pool, run_of_guarded hrun, hmid, run_of_guarded hrun', hpool⟩

end tiktok_outreach.cancel_is_final
