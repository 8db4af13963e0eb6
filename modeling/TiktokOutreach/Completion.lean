-- The completion of a campaign. Whoever makes its last recipient terminal
-- completes it, unless it is stopped between the two.
import TiktokOutreach.AtomicSystem
import TiktokOutreach.WorkerDebts
import TiktokOutreach.StateTransitions

open runs executions tables transactions tiktok_outreach.schema tiktok_outreach.dispatch_safety
  tiktok_outreach.settlements tiktok_outreach.outreach_service tiktok_outreach.commands
  tiktok_outreach.dispatch_core tiktok_outreach.send_protocol tiktok_outreach.worker_debts
  tiktok_outreach.system

namespace tiktok_outreach.completion

/-! ## Campaigns that are done -/

/-- The recipients whose ends decide the end of the campaign. -/
def counts (c : CampaignId) (id : RecipientId) (r : Recipient) : Bool :=
  id.campaignId = c && r.selected && r.frozenMessage.isSome

/-- The campaign is queued or running, and all its selected, frozen recipients are terminal. -/
def missed (db : Db) (c : CampaignId) : Bool :=
  (db.campaigns.get c).any (fun campaign => dispatching campaign.state) &&
    !db.recipients.any (fun id r => counts c id r && !terminalRecipientState r.state)

/-! ## In the abstract model -/

def Dispatches (k : Core) (c : CampaignId) : Prop :=
  ∃ s, k.campaign c = some s ∧ dispatching s = true

def Counts (r : RecipientCore) : Prop := r.selected = true ∧ r.frozen = true

/-- Every selected, frozen recipient of the campaign is terminal. -/
def Finished (k : Core) (c : CampaignId) : Prop :=
  ∀ id r, id.campaignId = c → k.recipient id = some r → Counts r → terminalRecipientState r.state = true

/-- A campaign that dispatches has a recipient that counts. -/
def Peopled (k : Core) (c : CampaignId) : Prop :=
  Dispatches k c → ∃ id r, id.campaignId = c ∧ k.recipient id = some r ∧ Counts r

theorem missed_iff {db : Db} {c : CampaignId} :
    missed db c = true ↔ Dispatches (coreOf db) c ∧ Finished (coreOf db) c := by
  unfold missed
  rw [Bool.and_eq_true, Bool.not_eq_true', Table.any_eq_false_iff]
  apply and_congr
  · cases h : db.campaigns.get c <;> simp [Dispatches, h]
  · constructor
    · rintro h id r hid hr ⟨hselected, hfrozen⟩
      obtain ⟨row, hrow, rfl⟩ := Option.map_eq_some_iff.1 hr
      have := h id row hrow
      simp only [recipientCore] at hselected hfrozen ⊢
      simpa [counts, hid, hselected, hfrozen] using this
    · intro h id row hrow
      by_cases hcounts : counts c id row = true
      · have hall := hcounts
        simp only [counts, Bool.and_eq_true, decide_eq_true_eq] at hall
        obtain ⟨⟨hid, hselected⟩, hfrozen⟩ := hall
        have := h id (recipientCore row) hid (by simp [hrow]) ⟨hselected, hfrozen⟩
        simp only [recipientCore] at this
        simp [this]
      · simp [hcounts]

/-! ## The actions of the worker -/

/-- The action gives the recipient a state. -/
inductive Sets (id : RecipientId) : Action → RecipientState → Prop
  | settle (ds : DeliveryState) (rs : RecipientState) (releases : Bool) :
      Sets id (.settle id ds rs releases) rs
  | claim (now : Int) : Sets id (.claim id now) .PROCESSING

/-- A campaign that dispatches after an action of the worker did so before, and a recipient of it
keeps its row or gets a state. -/
theorem worker_step {a : Action} {k k' : Core} {c : CampaignId} (ha : ofWorker a)
    (hstep : a.Step k k') (hafter : Dispatches k' c) :
    Dispatches k c ∧ ∀ id, id.campaignId = c → k'.recipient id = k.recipient id ∨
      ∃ rs, Sets id a rs ∧ k'.recipient id = (k.recipient id).map (fun r => { r with state := rs }) := by
  obtain ⟨s', hs', hdispatching⟩ := hafter
  cases a with
  | nothing =>
    cases hstep
    exact ⟨⟨s', hs', hdispatching⟩, fun id _ => Or.inl rfl⟩
  | settle id0 ds rs releases =>
    obtain ⟨_, rfl⟩ := hstep
    refine ⟨⟨s', hs', hdispatching⟩, ?_⟩
    intro id _
    by_cases hid : id = id0
    · subst hid
      exact Or.inr ⟨rs, .settle ds rs releases, by simp [Core.release, Core.setRecipient, Core.setDelivery]⟩
    · exact Or.inl (by simp [Core.release, Core.setRecipient, Core.setDelivery, hid])
  | claim id0 now =>
    obtain ⟨_, _, hdispatches, _, rfl⟩ := hstep
    constructor
    · by_cases hc : c = id0.campaignId
      · subst hc
        exact hdispatches
      · refine ⟨s', ?_, hdispatching⟩
        simpa [Core.setRecipient, Core.setDelivery, Core.setCampaign, hc] using hs'
    · intro id _
      by_cases hid : id = id0
      · subst hid
        exact Or.inr ⟨_, .claim now, by simp [Core.setRecipient, Core.setDelivery, Core.setCampaign]⟩
      · exact Or.inl (by simp [Core.setRecipient, Core.setDelivery, Core.setCampaign, hid])
  | setCampaign c' s =>
    obtain ⟨_, rfl⟩ := hstep
    refine ⟨?_, fun id _ => Or.inl rfl⟩
    rw [setCampaign_get] at hs'
    by_cases hc : c = c'
    · subst hc
      simp only [if_true, Option.map_eq_some_iff] at hs'
      obtain ⟨_, _, rfl⟩ := hs'
      rw [ha] at hdispatching
      cases hdispatching
    · rw [if_neg hc] at hs'
      exact ⟨s', hs', hdispatching⟩
  | pauseShop shopId =>
    cases hstep
    refine ⟨?_, fun id _ => Or.inl rfl⟩
    simp only [Option.map_eq_some_iff] at hs'
    obtain ⟨s, hs, rfl⟩ := hs'
    refine ⟨s, hs, ?_⟩
    split at hdispatching
    · cases hdispatching
    · exact hdispatching
  | acknowledgePause c' =>
    cases hstep
    refine ⟨?_, fun id _ => Or.inl rfl⟩
    simp only [Option.map_eq_some_iff] at hs'
    obtain ⟨s, hs, rfl⟩ := hs'
    refine ⟨s, hs, ?_⟩
    split at hdispatching
    · cases hdispatching
    · exact hdispatching
  | expire =>
    obtain ⟨gone, h⟩ := hstep
    rw [h.campaign] at hs'
    by_cases hgone : gone c = true
    · rw [if_pos hgone] at hs'
      cases hs'
      cases hdispatching
    · rw [if_neg hgone] at hs'
      refine ⟨⟨s', hs', hdispatching⟩, ?_⟩
      rintro id rfl
      left
      rw [h.recipient]
      simp [hgone]
  | _ => exact ha.elim

/-- A campaign that an action of the worker finishes was finished before, unless the action makes
a recipient of it terminal. -/
theorem finished_step {a : Action} {k k' : Core} {c : CampaignId} (ha : ofWorker a)
    (hstep : a.Step k k') (hafter : Dispatches k' c) (hfinished : Finished k' c) :
    Finished k c ∨ ∃ id rs, id.campaignId = c ∧ Sets id a rs ∧ terminalRecipientState rs = true ∧
      (k.recipient id).any (fun r => terminalRecipientState r.state) = false ∧
      (k'.recipient id).any (fun r => terminalRecipientState r.state) = true := by
  by_cases h : Finished k c
  · exact Or.inl h
  · obtain ⟨_, hrecipients⟩ := worker_step ha hstep hafter
    unfold Finished at h
    push Not at h
    obtain ⟨id, r, hid, hr, hcounts, hterminal⟩ := h
    rcases hrecipients id hid with heq | ⟨rs, hsets, heq⟩
    · exact absurd (hfinished id r hid (heq.trans hr) hcounts) hterminal
    · have hafter : k'.recipient id = some { r with state := rs } := by rw [heq, hr]; rfl
      have hrs : terminalRecipientState rs = true := hfinished id _ hid hafter hcounts
      exact Or.inr ⟨id, rs, hid, hsets, hrs, by simpa [hr] using hterminal, by simpa [hafter] using hrs⟩

theorem peopled_step {a : Action} {k k' : Core} {c : CampaignId} (ha : ofWorker a)
    (hstep : a.Step k k') (hpeopled : Peopled k c) : Peopled k' c := by
  intro hafter
  obtain ⟨hbefore, hrecipients⟩ := worker_step ha hstep hafter
  obtain ⟨id, r, hid, hr, hcounts⟩ := hpeopled hbefore
  rcases hrecipients id hid with heq | ⟨rs, _, heq⟩
  · exact ⟨id, r, hid, heq.trans hr, hcounts⟩
  · exact ⟨id, { r with state := rs }, hid, by rw [heq, hr]; rfl, hcounts⟩

/-! ## The commands of the worker -/

section Commands

variable {env : Environment} {options : outbound_throttle.Options} {ambient : Ambient}
  {command : Command} {r : command.Result} {db db' : Db} {debt : Debt} {c : CampaignId} {states : List RecipientState}

/-- Whoever makes a recipient terminal owes the check of its campaign. -/
theorem owes_of_sets {id : RecipientId} {rs : RecipientState}
    (h : Sets id (actionOf ambient command r) rs) (hrs : terminalRecipientState rs = true) :
    owes debt command r = .completion id.campaignId := by
  generalize ha : actionOf ambient command r = a at h
  cases h with
  | settle ds rs releases =>
    cases command with
    | reserveDispatchSlot id' =>
      cases r with
      | claimed attemptNumber => cases ha
      | notClaimed cancelled reason =>
        cases cancelled with
        | true =>
          cases ha
          rfl
        | false => cases ha
    | _ => first | (cases ha; done) | (cases ha; rfl) | (cases ha; cases hrs)
  | claim now => cases hrs

/-- What the completion check reads of a campaign with recipients that are all terminal. -/
theorem terminal_states (hrun : (frozenRecipientStates c).run db = .ok (states, db'))
    (hpeopled : Peopled (coreOf db) c) (hdispatches : Dispatches (coreOf db) c)
    (hfinished : Finished (coreOf db) c) : allFrozenRecipientsTerminal states = true := by
  simp only [frozenRecipientStates, Tx.run_read, Except.ok.injEq, Prod.mk.injEq] at hrun
  obtain ⟨rfl, rfl⟩ := hrun
  obtain ⟨id, r, hid, hr, hcounts⟩ := hpeopled hdispatches
  obtain ⟨row, hrow, rfl⟩ := Option.map_eq_some_iff.1 hr
  have hmem : (id, row) ∈ db.recipients.findMany (fun id r =>
      id.campaignId = c && r.selected && r.frozenMessage.isSome) := by
    rw [Table.mem_findMany]
    exact ⟨hrow, by simpa [hid, Counts, recipientCore] using hcounts⟩
  simp only [allFrozenRecipientsTerminal, Bool.and_eq_true, decide_eq_true_eq, List.length_map,
    List.all_eq_true, List.mem_map]
  refine ⟨List.length_pos_of_mem hmem, ?_⟩
  rintro _ ⟨⟨id', row'⟩, hmem', rfl⟩
  rw [Table.mem_findMany] at hmem'
  obtain ⟨hrow', hkeys⟩ := hmem'
  simp only [Bool.and_eq_true, decide_eq_true_eq] at hkeys
  exact hfinished id' (recipientCore row') hkeys.1.1 (by simp [hrow']) ⟨hkeys.1.2, hkeys.2⟩

/-- A thread that owes the check of a campaign owes it until the campaign is not done any more. -/
theorem still_owed (hok : debtProtocol.ok (.completion c) (.db command))
    (hrun : (command.body env options ambient).run db = .ok (r, db'))
    (hpeopled : Peopled (coreOf db) c) (hdispatches : Dispatches (coreOf db') c)
    (hfinished : Finished (coreOf db') c) : owes (.completion c) command r = .completion c := by
  cases command with
  | frozenRecipientStates id =>
    obtain rfl : id = c := by simpa [debtProtocol, completes] using hok
    obtain rfl : db' = db := congrArg Prod.snd (Except.ok.inj hrun).symm
    exact if_pos (terminal_states hrun hpeopled hdispatches hfinished)
  | campaignState id =>
    obtain rfl : id = c := by simpa [debtProtocol, completes] using hok
    obtain ⟨hread, rfl⟩ := Tx.run_readOrThrow_eq_ok.1 hrun
    obtain ⟨s, hs, hdispatching⟩ := hdispatches
    apply if_neg
    rintro ⟨rfl, _⟩
    simp only [coreOf_campaign, hread] at hs
    cases hs
    cases hdispatching
  | completeCampaign id completion =>
    obtain rfl : id = c := by simpa [debtProtocol, completes] using hok
    -- the campaign has ended
    obtain ⟨s, hs, hdispatching⟩ := hdispatches
    have hstep := refines hrun
    obtain ⟨_, hafter⟩ : _ ∧ coreOf db' = (coreOf db).setCampaign id _ := hstep
    rw [hafter, setCampaign_get, if_pos rfl, Option.map_eq_some_iff] at hs
    obtain ⟨_, _, rfl⟩ := hs
    split at hdispatching <;> cases hdispatching
  | release permit outcome meta_ => rfl
  | _ => cases hok

end Commands

/-! ## The runs -/

/-- A pool, with what its threads owe by their calls so far. -/
abbrev Threads : Type := Observed World Call Call.Answer (Nat → Debt)

def terminal (w : World) (id : RecipientId) : Bool :=
  (w.db.recipients.get id).any (fun r => terminalRecipientState r.state)

theorem terminal_core (w : World) (id : RecipientId) : terminal w id =
    ((coreOf w.db).recipient id).any (fun r => terminalRecipientState r.state) := by
  cases h : w.db.recipients.get id <;> simp [terminal, h, recipientCore]

/-- No thread that owes a completion check stops or gets an error, and no call that throws has
made a recipient terminal. -/
def Unbroken (s : Threads) (l : Label Call Call.Answer) (t : Threads) : Prop :=
  match l with
  | .crash i => ∀ c, s.seen i ≠ .completion c
  | .run i _ (.error _) => (∀ c, s.seen i ≠ .completion c) ∧
      ∀ id, terminal t.pool.world id = true → terminal s.pool.world id = true
  | _ => True

section Runs

variable (env : Environment) (options : outbound_throttle.Options)

/-- The steps of the worker and the sweeps, with what the threads owe. -/
abbrev WorkerStep : Threads → Label Call Call.Answer → Threads → Prop :=
  ObservedStep (machine env options) (Startable workerJobs) (stage debtProtocol .free .free)

/-- The runs in which nothing stops between the end of a recipient and the completion check. -/
abbrev UnbrokenRun :=
  Run (fun s l t => WorkerStep env options s l t ∧ Unbroken s l t)

def initialThreads (db : Db) : Threads := ⟨initial db, fun _ => .free⟩

variable {env options}

structure Inv (s : Threads) : Prop where
  follows : FollowsTo debtProtocol (· = .free) s.pool s.seen
  gone : ∀ i, s.pool.thread i = none → s.seen i = .free
  peopled : ∀ c, Peopled (coreOf s.pool.world.db) c
  owed : ∀ c, missed s.pool.world.db c = true → ∃ i, s.seen i = .completion c

/-- A thread that owes the check of a campaign that is done after a step still owes it. -/
theorem owed_step {s t : Threads} {l : Label Call Call.Answer} {i : Nat} {c : CampaignId}
    (h : Inv s) (hstep : WorkerStep env options s l t) (hunbroken : Unbroken s l t)
    (hi : s.seen i = .completion c) (hmissed : missed t.pool.world.db c = true) :
    t.seen i = .completion c := by
  obtain ⟨hpool, hseen⟩ := hstep
  rw [hseen]
  by_cases hthread : i = l.thread
  · subst hthread
    cases l with
    | spawn i =>
      have hfree := h.gone i hpool.of_spawn.1
      rw [Label.thread, hfree] at hi
      cases hi
    | work i call => exact hi
    | crash i => exact absurd hi (hunbroken c)
    | run i call res =>
      obtain ⟨⟨next, hprog⟩, hexec⟩ := hpool.of_run
      have hok := (h.follows i _ hprog).1
      rw [show s.seen i = .completion c from hi] at hok
      cases res with
      | error e => exact absurd hi (hunbroken.1 c)
      | ok r =>
        cases call with
        | db command =>
          obtain ⟨ambient, hrun⟩ := commit_of_ok hexec
          obtain ⟨hdispatches, hfinished⟩ := missed_iff.1 hmissed
          rw [Label.thread, stage, setRole_self, show s.seen i = .completion c from hi]
          exact still_owed hok hrun (h.peopled c) hdispatches hfinished
        | _ => cases hok
  · rw [stage_of_ne hthread, hi]

theorem inv_step {s t : Threads} {l : Label Call Call.Answer} (h : Inv s)
    (hstep : WorkerStep env options s l t) (hunbroken : Unbroken s l t) : Inv t := by
  obtain ⟨hpool, hseen⟩ := hstep
  refine ⟨?_, ?_, ?_, ?_⟩
  · rw [hseen]
    exact followsTo_step (fun p hp => startable_pays hp) h.follows hpool
  · rw [hseen]
    exact gone_step h.gone hpool
  · intro c
    rcases db_step hpool with hdb | ⟨i, command, res, next, ambient, r, rfl, hthread, hrun, _⟩
    · rw [hdb]
      exact h.peopled c
    · exact peopled_step (ofWorker_of_works (works_of_ok (h.follows i _ hthread).1)) (refines hrun)
        (h.peopled c)
  · intro c hmissed
    by_cases hbefore : missed s.pool.world.db c = true
    · obtain ⟨i, hi⟩ := h.owed c hbefore
      exact ⟨i, owed_step h ⟨hpool, hseen⟩ hunbroken hi hmissed⟩
    · rcases db_step hpool with hdb | ⟨i, command, res, next, ambient, r, rfl, hthread, hrun, hres⟩
      · rw [hdb] at hmissed
        exact absurd hmissed hbefore
      · have hworker : ofWorker (actionOf ambient command r) :=
          ofWorker_of_works (works_of_ok (h.follows i _ hthread).1)
        obtain ⟨hdispatches, hfinished⟩ := missed_iff.1 hmissed
        rcases finished_step hworker (refines hrun) hdispatches hfinished with
          hold | ⟨id, rs, rfl, hsets, hterminal, hbefore', hafter⟩
        · exact absurd (missed_iff.2
            ⟨(worker_step hworker (refines hrun) hdispatches).1, hold⟩) hbefore
        · rcases hres with rfl | ⟨e, rfl⟩
          · refine ⟨i, ?_⟩
            rw [hseen, stage, setRole_self]
            exact owes_of_sets hsets hterminal
          · have := hunbroken.2 id (by rw [terminal_core]; exact hafter)
            rw [terminal_core, hbefore'] at this
            cases this

theorem inv_initial {db : Db} (h0 : ∀ c, missed db c = false) : Inv (initialThreads db) := by
  refine ⟨?_, fun _ _ => rfl, ?_, ?_⟩
  · intro i p hp
    cases hp
  · intro c hdispatches
    by_contra hnone
    push Not at hnone
    have hmissed : missed db c = true :=
      missed_iff.2 ⟨hdispatches, fun id r hid hr hcounts => absurd hcounts (hnone id r hid hr)⟩
    rw [h0 c] at hmissed
    cases hmissed
  · intro c hmissed
    rw [show missed (initialThreads db).pool.world.db c = false from h0 c] at hmissed
    cases hmissed

/-- When no thread has a step left, every campaign whose recipients are all terminal has ended. -/
theorem completion_is_never_missed {db : Db} {ls : List (Label Call Call.Answer)} {s : Threads}
    (h0 : ∀ c, missed db c = false) (hrun : UnbrokenRun env options (initialThreads db) ls s)
    (hidle : ∀ i p, s.pool.thread i = some p → p = .ret ()) (c : CampaignId) :
    missed s.pool.world.db c = false := by
  have hinv : Inv s :=
    hrun.invariant Inv (fun s l t _ hstep hs => inv_step hs hstep.1 hstep.2) (inv_initial h0)
  rw [← Bool.not_eq_true]
  intro hmissed
  obtain ⟨i, hi⟩ := hinv.owed c hmissed
  cases hthread : s.pool.thread i with
  | none =>
    rw [hinv.gone i hthread] at hi
    cases hi
  | some p =>
    obtain rfl := hidle i p hthread
    have hfree : s.seen i = .free := hinv.follows i _ hthread
    rw [hfree] at hi
    cases hi

end Runs

/-! ## Two runs -/

/-- A job sends its message, up to the settlement. -/
def sentMoves : List Move :=
  sampleClaim 1 ++ [.call 1, .awaitSend 1 (.ok (.SENT "message" none))] ++ transactions 1 3 20

/-- No crash, and no error. -/
def smooth (_ : Threads) : Label Call Call.Answer → Bool
  | .crash _ => false
  | .run _ _ (.error _) => false
  | _ => true

theorem unbroken_of_smooth {s t : Threads} {l : Label Call Call.Answer} (h : smooth s l = true) :
    Unbroken s l t := by
  cases l with
  | crash i => cases h
  | run i call res =>
    cases res with
    | ok r => trivial
    | error e => cases h
  | _ => trivial

/-- The recipient of the campaign still counts when the run starts. -/
theorem nothing_missed_at_first (c : CampaignId) : missed readyDb c = false := by
  by_cases hc : c = sampleCampaign
  · subst hc
    decide
  · simp [missed, readyDb, queuedDb, hc]

/-- A job that is not stopped completes its campaign. -/
theorem a_sent_campaign_is_completed : ∃ ls s,
    UnbrokenRun sampleEnvironment sampleOptions (initialThreads readyDb) ls s ∧
    (∀ i p, s.pool.thread i = some p → p = .ret ()) ∧
    (s.pool.world.db.campaigns.get sampleCampaign).map (·.state) = some .COMPLETED ∧
    ∀ c, missed s.pool.world.db c = false := by
  have hplay : (playObserved sampleEnvironment sampleOptions workerJobs
      (stage debtProtocol .free .free) smooth (sentMoves ++ transactions 1 3 30)
      (initialThreads readyDb)).map (fun s => (idle (s.pool.thread 1),
        (s.pool.world.db.campaigns.get sampleCampaign).map (·.state))) =
        some (true, some .COMPLETED) := by decide +kernel
  obtain ⟨s, hplay, hend⟩ := Option.map_eq_some_iff.1 hplay
  simp only [Prod.mk.injEq] at hend
  obtain ⟨ls, hrun⟩ := playObserved_run hplay
  have hunbroken : UnbrokenRun sampleEnvironment sampleOptions (initialThreads readyDb) ls s :=
    hrun.mono (fun _ _ _ h => ⟨h.1, unbroken_of_smooth h.2⟩)
  have hidle := ret_of_idle (playObserved_alone hplay (by decide) (alone_initial 1 readyDb)) hend.1
  exact ⟨ls, s, hunbroken, hidle, hend.2,
    completion_is_never_missed nothing_missed_at_first hunbroken hidle⟩

/-- The worker stops between the settlement and the completion check. The job that runs again
skips the settled delivery, and the sweep does not look at the campaign. -/
theorem a_crash_misses_the_completion : ∃ ls pool,
    SystemRun sampleEnvironment sampleOptions workerJobs (initial readyDb) ls pool ∧
    (∀ c, missed readyDb c = false) ∧ (∀ i p, pool.thread i = some p → p = .ret ()) ∧
    missed pool.world.db sampleCampaign = true := by
  have hplay : (play sampleEnvironment sampleOptions workerJobs (fun _ _ => true)
      (sentMoves ++ .crash 1 :: .spawn 1 sampleJob :: transactions 1 1 30 ++
        .crash 1 :: .spawn 1 (.maintenanceSweep 10) :: transactions 1 3 40) (initial readyDb)).map
      (fun pool => (idle (pool.thread 1), missed pool.world.db sampleCampaign)) =
        some (true, true) := by decide +kernel
  obtain ⟨pool, hplay, hend⟩ := Option.map_eq_some_iff.1 hplay
  simp only [Prod.mk.injEq] at hend
  obtain ⟨ls, hrun, halone⟩ := play_alone hplay (by decide) (alone_initial 1 readyDb)
  exact ⟨ls, pool, hrun.mono (fun _ _ _ h => h.1), nothing_missed_at_first,
    ret_of_idle halone hend.1, hend.2⟩

end tiktok_outreach.completion
