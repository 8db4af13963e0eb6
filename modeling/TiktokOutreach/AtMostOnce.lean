-- A message is sent at most once: after a call of `sendMessage` that was
-- accepted, or that may have been, no call for the same delivery follows.
import TiktokOutreach.AtomicSystem

open runs executions transactions tiktok_outreach.schema tiktok_outreach.dispatch_safety
  tiktok_outreach.outreach_service tiktok_outreach.commands tiktok_outreach.dispatch_core
  tiktok_outreach.send_protocol tiktok_outreach.system

namespace tiktok_outreach.at_most_once

/-! ## The calls of one delivery -/

inductive CallState
  /-- Every call was rejected. -/
  | clear
  /-- The thread `i` waits for the answer of its call. -/
  | flying (i : Nat)
  /-- A call was accepted or may have been. -/
  | burned
  deriving DecidableEq, Repr

/-- The next event of the delivery `d` after a state, where it may happen. -/
def callStep (d : DeliveryId) (s : CallState) : Event → Option CallState
  | .called i id => if id ≠ d then some s else if s = .clear then some (.flying i) else none
  | .ended i id outcome =>
    if id ≠ d then some s
    else if s = .flying i then some (if outcome = .rejected then .clear else .burned)
    else none

def callState (d : DeliveryId) (log : List Event) : Option CallState :=
  log.foldlM (callStep d) .clear

theorem callState_append (d : DeliveryId) (log log' : List Event) :
    callState d (log ++ log') = (callState d log).bind (fun s => log'.foldlM (callStep d) s) := by
  unfold callState
  rw [List.foldlM_append]
  rfl

theorem callState_snoc {d : DeliveryId} {log : List Event} {s : CallState}
    (h : callState d log = some s) (e : Event) : callState d (log ++ [e]) = callStep d s e := by
  rw [callState_append, h]
  simp

/-- No call follows a call that may have been accepted. -/
theorem not_called_of_burned {d : DeliveryId} {log : List Event} {s : CallState}
    (h : log.foldlM (callStep d) .burned = some s) (j : Nat) : Event.called j d ∉ log := by
  induction log with
  | nil => simp
  | cons e log ih =>
    rw [List.foldlM_cons] at h
    cases e with
    | called i id =>
      by_cases hid : id = d
      · simp [callStep, hid] at h
      · have h' : log.foldlM (callStep d) .burned = some s := by simpa [callStep, hid] using h
        intro hmem
        rcases List.mem_cons.1 hmem with heq | hmem
        · cases heq
          exact hid rfl
        · exact ih h' hmem
    | ended i id outcome =>
      by_cases hid : id = d
      · simp [callStep, hid] at h
      · have h' : log.foldlM (callStep d) .burned = some s := by simpa [callStep, hid] using h
        intro hmem
        rcases List.mem_cons.1 hmem with heq | hmem
        · cases heq
        · exact ih h' hmem

/-- Before the next call, a call in flight ends with a rejection. -/
theorem rejected_of_flying {d : DeliveryId} {i j : Nat} {log after : List Event} {s : CallState}
    (h : (log ++ .called j d :: after).foldlM (callStep d) (.flying i) = some s) :
    Event.ended i d .rejected ∈ log := by
  induction log with
  | nil => simp [callStep] at h
  | cons e log ih =>
    rw [List.cons_append, List.foldlM_cons] at h
    cases e with
    | called i' id =>
      by_cases hid : id = d
      · simp [callStep, hid] at h
      · exact List.mem_cons_of_mem _ (ih (by simpa [callStep, hid] using h))
    | ended i' id outcome =>
      by_cases hid : id = d
      · by_cases hi : i' = i
        · by_cases ho : outcome = .rejected
          · rw [hid, hi, ho]
            exact List.mem_cons_self
          · -- burned, and no call follows
            have h' : (log ++ .called j d :: after).foldlM (callStep d) .burned = some s := by
              simpa [callStep, hid, hi, ho] using h
            exact absurd (List.mem_append_right log List.mem_cons_self)
              (not_called_of_burned h' j)
        · simp [callStep, hid, Ne.symm hi] at h
      · exact List.mem_cons_of_mem _ (ih (by simpa [callStep, hid] using h))

/-! ## The invariant -/

/-- The thread may still send the message of the delivery. -/
def active (phase : Phase) (d : DeliveryId) : Prop := phase = .holder d ∨ phase = .calling d

/-- What the state of the calls of `d` says of the world. -/
def Fits (k : Core) (roles : Nat → Role) (d : DeliveryId) : CallState → Prop
  | .clear => ∀ i, (roles i).phase ≠ .calling d
  | .flying i => k.Blocked d ∧ ∀ j, active (roles j).phase d → j = i ∧ (roles j).phase = .calling d
  | .burned => k.Blocked d ∧ ∀ i, ¬ active (roles i).phase d

structure Inv (w : World) (roles : Nat → Role) : Prop where
  one : ∀ i j d, active (roles i).phase d → active (roles j).phase d → i = j
  blocked : ∀ i d, active (roles i).phase d → (coreOf w.db).Blocked d
  calls : ∀ d, ∃ s, callState d w.log = some s ∧ Fits (coreOf w.db) roles d s

theorem not_active_free (d : DeliveryId) : ¬ active .free d := by
  rintro (h | h) <;> cases h

/-- A step that starts no phase and unblocks no delivery that matters. -/
theorem inv_quiet {w w' : World} {roles roles' : Nat → Role} (h : Inv w roles)
    (hlog : w'.log = w.log)
    (hphase : ∀ j, (roles' j).phase = (roles j).phase ∨ (roles' j).phase = .free)
    (hblocked : ∀ d, (coreOf w.db).Blocked d →
      (∀ j, (roles j).phase = .holder d → (roles' j).phase = .holder d) →
      (coreOf w'.db).Blocked d) :
    Inv w' roles' := by
  have hactive : ∀ j d, active (roles' j).phase d → (roles' j).phase = (roles j).phase := by
    intro j d hj
    rcases hphase j with hp | hp
    · exact hp
    · rw [hp] at hj
      exact absurd hj (not_active_free d)
  constructor
  · intro i j d hi hj
    exact h.one i j d (hactive i d hi ▸ hi) (hactive j d hj ▸ hj)
  · intro i d hi
    have hi' : active (roles i).phase d := hactive i d hi ▸ hi
    apply hblocked d (h.blocked i d hi')
    intro j hj
    obtain rfl := h.one j i d (Or.inl hj) hi'
    rw [hactive j d hi, hj]
  · intro d
    obtain ⟨s, hs, hfits⟩ := h.calls d
    refine ⟨s, by rw [hlog, hs], ?_⟩
    cases s with
    | clear =>
      intro i hi
      exact hfits i (hactive i d (Or.inr hi) ▸ hi)
    | flying i =>
      refine ⟨hblocked d hfits.1 ?_, ?_⟩
      · intro j hj
        have := (hfits.2 j (Or.inl hj)).2
        rw [hj] at this
        cases this
      · intro j hj
        have := hfits.2 j (hactive j d hj ▸ hj)
        exact ⟨this.1, hactive j d hj ▸ this.2⟩
    | burned =>
      refine ⟨hblocked d hfits.1 ?_, ?_⟩
      · intro j hj
        exact absurd (Or.inl hj) (hfits.2 j)
      · intro j hj
        exact hfits.2 j (hactive j d hj ▸ hj)

theorem setRole_phase {roles : Nat → Role} {i : Nat} {r : Role}
    (h : r.phase = (roles i).phase ∨ r.phase = .free) (j : Nat) :
    (setRole roles i r j).phase = (roles j).phase ∨ (setRole roles i r j).phase = .free := by
  by_cases hj : j = i
  · subst hj
    rwa [setRole_self]
  · rw [setRole_of_ne _ _ hj]
    exact Or.inl rfl

/-- A commit that starts no phase. -/
theorem inv_commit {env : Environment} {options : outbound_throttle.Options} {ambient : Ambient}
    {w : World} {roles : Nat → Role} {i : Nat} {c : Command} {r : c.Result} {db : Db} {role : Role}
    (h : Inv w roles) (hok : okCommand (roles i) c)
    (hrun : (c.body env options ambient).run w.db = .ok (r, db))
    (hphase : role.phase = (roles i).phase ∨ role.phase = .free)
    (hsettles : ∀ id, c = .makeDeliveryRetryable id → role.phase = .free) :
    Inv { w with db } (setRole roles i role) := by
  refine @inv_quiet w { w with db } roles _ h rfl (setRole_phase hphase) ?_
  intro d hblocked hholders
  apply blocked_step (refines hrun) _ hblocked
  intro hunblocks
  rcases command_of_unblocks hunblocks with rfl | ⟨id, retained, summary, rfl⟩
  · have := hholders i hok
    rw [setRole_self, hsettles d rfl] at this
    cases this
  · exact hok

theorem nextPhase_quiet {phase : Phase} {c : Command} {r : c.Result}
    (h : ∀ id n, (⟨c, r⟩ : Σ c : Command, c.Result) ≠ ⟨.reserveDispatchSlot id, .claimed n⟩) :
    nextPhase phase c r = phase ∨ nextPhase phase c r = .free := by
  cases c with
  | reserveDispatchSlot id =>
    cases r with
    | claimed attemptNumber => exact absurd rfl (h id attemptNumber)
    | notClaimed cancelled reason => exact Or.inl rfl
  | _ => simp [nextPhase, settles]

/-- A claim finds nobody active on its delivery, and no call of it that may have been accepted. -/
theorem inv_claim {env : Environment} {options : outbound_throttle.Options} {ambient : Ambient}
    {w : World} {roles : Nat → Role} {i : Nat} {d : DeliveryId} {n : Int} {db : Db} {role : Role}
    (h : Inv w roles) (hfree : (roles i).phase = .free) (hrole : role.phase = .holder d)
    (hrun : ((Command.reserveDispatchSlot d).body env options ambient).run w.db =
      .ok (.claimed n, db)) :
    Inv { w with db } (setRole roles i role) := by
  have hstep := refines hrun
  have hkeep : ∀ e, (coreOf w.db).Blocked e → (coreOf db).Blocked e :=
    fun e => blocked_step hstep (fun h => h)
  obtain ⟨_, ⟨s, hs, hclaimable⟩, _, _, hcore⟩ := hstep
  have hnot : ¬ (coreOf w.db).Blocked d := by
    rintro ⟨s', hs', h'⟩
    rw [hs] at hs'
    cases hs'
    rw [hclaimable] at h'
    cases h'
  have hblocked : (coreOf db).Blocked d :=
    ⟨.DISPATCHING, by rw [hcore]; exact Core.setDelivery_self (k := Core.setCampaign _ _ _) hs, rfl⟩
  -- nobody else is active on the delivery
  have hself : ∀ e, active role.phase e → e = d := by
    intro e he
    rw [hrole] at he
    rcases he with he | he <;> cases he
    rfl
  have hother : ∀ j e, active (setRole roles i role j).phase e →
      j = i ∧ e = d ∨ active (roles j).phase e ∧ e ≠ d := by
    intro j e hj
    by_cases hji : j = i
    · subst hji
      rw [setRole_self] at hj
      exact Or.inl ⟨rfl, hself e hj⟩
    · rw [setRole_of_ne _ _ hji] at hj
      refine Or.inr ⟨hj, ?_⟩
      rintro rfl
      exact hnot (h.blocked j e hj)
  constructor
  · intro j j' e hj hj'
    rcases hother j e hj with ⟨rfl, rfl⟩ | ⟨h1, h2⟩
    · rcases hother j' e hj' with ⟨rfl, _⟩ | ⟨_, h2⟩
      · rfl
      · exact absurd rfl h2
    · rcases hother j' e hj' with ⟨_, h3⟩ | ⟨h3, _⟩
      · exact absurd h3 h2
      · exact h.one j j' e h1 h3
  · intro j e hj
    rcases hother j e hj with ⟨_, rfl⟩ | ⟨h1, _⟩
    · exact hblocked
    · exact hkeep e (h.blocked j e h1)
  · intro e
    obtain ⟨s, hcalls, hfits⟩ := h.calls e
    refine ⟨s, hcalls, ?_⟩
    cases s with
    | clear =>
      intro j
      by_cases hji : j = i
      · rw [hji, setRole_self, hrole]
        exact fun h => by cases h
      · rw [setRole_of_ne _ _ hji]
        exact hfits j
    | flying j' =>
      refine ⟨hkeep e hfits.1, ?_⟩
      intro j hj
      rcases hother j e hj with ⟨_, rfl⟩ | ⟨h1, h2⟩
      · exact absurd hfits.1 hnot
      · obtain ⟨rfl, hphase⟩ := hfits.2 j h1
        refine ⟨rfl, ?_⟩
        by_cases hji : j = i
        · rw [hji, hfree] at hphase
          cases hphase
        · rw [setRole_of_ne _ _ hji, hphase]
    | burned =>
      refine ⟨hkeep e hfits.1, ?_⟩
      intro j hj
      rcases hother j e hj with ⟨_, rfl⟩ | ⟨h1, _⟩
      · exact hnot hfits.1
      · exact hfits.2 j h1

/-- The call of `sendMessage` by a holder. -/
theorem inv_called {w : World} {roles : Nat → Role} {i : Nat} {d : DeliveryId} {role : Role}
    (h : Inv w roles) (hholder : (roles i).phase = .holder d) (hrole : role.phase = .calling d) :
    Inv { w with log := w.log ++ [.called i d] } (setRole roles i role) := by
  have hactive : ∀ j e, active (setRole roles i role j).phase e → active (roles j).phase e := by
    intro j e hj
    by_cases hji : j = i
    · subst hji
      rw [setRole_self, hrole] at hj
      rw [hholder]
      rcases hj with hj | hj <;> cases hj
      exact Or.inl rfl
    · rwa [setRole_of_ne _ _ hji] at hj
  constructor
  · exact fun j j' e hj hj' => h.one j j' e (hactive j e hj) (hactive j' e hj')
  · exact fun j e hj => h.blocked j e (hactive j e hj)
  · intro e
    obtain ⟨s, hcalls, hfits⟩ := h.calls e
    by_cases hed : e = d
    · subst hed
      cases s with
      | clear =>
        refine ⟨.flying i, by rw [callState_snoc hcalls]; simp [callStep], ?_⟩
        refine ⟨h.blocked i e (Or.inl hholder), ?_⟩
        intro j hj
        obtain rfl := h.one j i e (hactive j e hj) (Or.inl hholder)
        exact ⟨rfl, by rw [setRole_self, hrole]⟩
      | flying j =>
        have := (hfits.2 i (Or.inl hholder)).2
        rw [hholder] at this
        cases this
      | burned => exact absurd (Or.inl hholder) (hfits.2 i)
    · refine ⟨s, by rw [callState_snoc hcalls]; simp [callStep, Ne.symm hed], ?_⟩
      cases s with
      | clear =>
        intro j
        by_cases hji : j = i
        · rw [hji, setRole_self, hrole]
          exact fun h => hed (by cases h; rfl)
        · rw [setRole_of_ne _ _ hji]
          exact hfits j
      | flying j' =>
        refine ⟨hfits.1, ?_⟩
        intro j hj
        have := hfits.2 j (hactive j e hj)
        refine ⟨this.1, ?_⟩
        by_cases hji : j = i
        · rw [hji, hholder] at this
          cases this.2
        · rw [setRole_of_ne _ _ hji]
          exact this.2
      | burned => exact ⟨hfits.1, fun j hj => hfits.2 j (hactive j e hj)⟩

/-- The end of a call. Only a rejection leaves the thread active. -/
theorem inv_ended {w : World} {roles : Nat → Role} {i : Nat} {d : DeliveryId} {role : Role}
    {outcome : SendOutcome} (h : Inv w roles) (hcalling : (roles i).phase = .calling d)
    (hrole : ∀ e, active role.phase e → outcome = .rejected ∧ role.phase = .holder d) :
    Inv { w with log := w.log ++ [.ended i d outcome] } (setRole roles i role) := by
  have hactive : ∀ j e, active (setRole roles i role j).phase e → active (roles j).phase e := by
    intro j e hj
    by_cases hji : j = i
    · subst hji
      rw [setRole_self] at hj
      rw [(hrole e hj).2] at hj
      rw [hcalling]
      rcases hj with hj | hj <;> cases hj
      exact Or.inr rfl
    · rwa [setRole_of_ne _ _ hji] at hj
  constructor
  · exact fun j j' e hj hj' => h.one j j' e (hactive j e hj) (hactive j' e hj')
  · exact fun j e hj => h.blocked j e (hactive j e hj)
  · intro e
    obtain ⟨s, hcalls, hfits⟩ := h.calls e
    by_cases hed : e = d
    · subst hed
      -- the thread is the one that the calls wait for
      obtain rfl : s = .flying i := by
        cases s with
        | clear => exact absurd hcalling (hfits i)
        | flying j => rw [(hfits.2 i (Or.inr hcalling)).1]
        | burned => exact absurd (Or.inr hcalling) (hfits.2 i)
      have hstep := callState_snoc hcalls (.ended i e outcome)
      by_cases ho : outcome = .rejected
      · refine ⟨.clear, by rw [hstep]; simp [callStep, ho], ?_⟩
        intro j hj
        obtain rfl := h.one j i e (hactive j e (Or.inr hj)) (Or.inr hcalling)
        rw [setRole_self] at hj
        have := (hrole e (Or.inr hj)).2
        rw [hj] at this
        cases this
      · refine ⟨.burned, by rw [hstep]; simp [callStep, ho], hfits.1, ?_⟩
        intro j hj
        obtain rfl := h.one j i e (hactive j e hj) (Or.inr hcalling)
        rw [setRole_self] at hj
        exact ho (hrole e hj).1
    · refine ⟨s, by rw [callState_snoc hcalls]; simp [callStep, Ne.symm hed], ?_⟩
      have hself : ∀ j, active (setRole roles i role j).phase e →
          (setRole roles i role j).phase = (roles j).phase := by
        intro j hj
        by_cases hji : j = i
        · subst hji
          rw [setRole_self] at hj
          rw [(hrole e hj).2] at hj
          rcases hj with hj | hj <;> cases hj
          exact absurd rfl hed
        · rw [setRole_of_ne _ _ hji]
      cases s with
      | clear =>
        intro j hj
        exact hfits j (hself j (Or.inr hj) ▸ hj)
      | flying j' =>
        refine ⟨hfits.1, ?_⟩
        intro j hj
        rw [hself j hj]
        exact hfits.2 j (hactive j e hj)
      | burned => exact ⟨hfits.1, fun j hj => hfits.2 j (hactive j e hj)⟩

/-! ## The runs -/

section Runs

variable (env : Environment) (options : outbound_throttle.Options)

theorem inv_free {w : World} {roles : Nat → Role} {i : Nat} {role : Role} (h : Inv w roles)
    (hrole : role.phase = .free) : Inv w (setRole roles i role) :=
  inv_quiet h rfl (setRole_phase (Or.inr hrole)) (fun _ hb _ => hb)

theorem inv_same {w : World} {roles : Nat → Role} {i : Nat} {role : Role} (h : Inv w roles)
    (hrole : role.phase = (roles i).phase) : Inv w (setRole roles i role) :=
  inv_quiet h rfl (setRole_phase (Or.inl hrole)) (fun _ hb _ => hb)

theorem inv_exec {w w' : World} {roles : Nat → Role} {i : Nat} {c : Call} {answer : c.Answer}
    (h : Inv w roles) (hok : sendProtocol.ok (roles i) c) (hexec : Exec env options i w c answer w') :
    Inv w' (setRole roles i (nextRole (roles i) c answer)) := by
  cases hexec with
  | commit c ambient r db hrun =>
    by_cases hclaim : ∃ id n, (⟨c, r⟩ : Σ c : Command, c.Result) =
        ⟨.reserveDispatchSlot id, .claimed n⟩
    · obtain ⟨id, n, heq⟩ := hclaim
      cases heq
      exact inv_claim h hok rfl hrun
    · simp only [not_exists] at hclaim
      refine inv_commit h hok hrun (nextPhase_quiet hclaim) ?_
      rintro id rfl
      rfl
  | lost c ambient r db e hrun =>
    refine inv_commit h hok hrun (phase_error _ c e) ?_
    rintro id rfl
    rfl
  | failed c e => exact inv_quiet h rfl (setRole_phase (phase_error _ c e)) (fun _ hb _ => hb)
  | sendMessage id conversationId creatorOpenId content => exact inv_called h hok rfl
  | awaitSend id answer =>
    apply inv_ended h hok
    intro e he
    cases ho : sendOutcome answer with
    | rejected => exact ⟨rfl, by simp [nextRole, ho]⟩
    | accepted =>
      simp only [nextRole, ho] at he
      rcases he with he | he <;> cases he
    | unknown =>
      simp only [nextRole, ho] at he
      rcases he with he | he <;> cases he
  | other c answer hc =>
    apply inv_same h
    cases c <;> first | rfl | cases hc

theorem inv_pool : PoolInvariant (machine env options) sendProtocol start start
    (fun _ _ => True) Inv where
  spawn _ _ _ h := inv_free h rfl
  work _ _ _ _ _ _ _ hwork _ := hwork.elim
  run _ _ _ _ _ _ h hok hexec _ := inv_exec env options h hok hexec
  ends _ _ _ h := inv_free h rfl
  crash w roles i c h hok := by
    cases c with
    | awaitSend id =>
      apply inv_ended h hok
      intro e he
      exact absurd he (not_active_free e)
    | _ => exact inv_free h rfl

end Runs

/-- No call of `sendMessage` follows one that was accepted or may have been, and one that is
still in flight is rejected before the next. This holds for any number of jobs, with their
duplicates, retries, stalls and crashes, beside any actions of the operator but `discover`. -/
theorem a_message_is_sent_at_most_once {env : Environment} {options : outbound_throttle.Options}
    {db : Db} {ls : List (Label Call Call.Answer)} {pool : Pool World Call Call.Answer}
    (hrun : SystemRun env options Job.keeps (initial db) ls pool) (d : DeliveryId) :
    (∀ before after i outcome, pool.world.log = before ++ .ended i d outcome :: after →
      outcome ≠ .rejected → ∀ j, Event.called j d ∉ after) ∧
    (∀ before between after i j,
      pool.world.log = before ++ .called i d :: (between ++ .called j d :: after) →
      Event.ended i d .rejected ∈ between) := by
  have hguarded : Run (Guarded (PoolStep (machine env options) (Startable Job.keeps)) (fun _ _ => True)) _ ls
      pool := hrun.mono (fun _ _ _ h => ⟨h, trivial⟩)
  have hinit : Inv ⟨db, []⟩ (fun _ => start) := by
    refine ⟨fun _ _ d h _ => absurd h (not_active_free d),
      fun _ d h => absurd h (not_active_free d), fun d => ⟨.clear, rfl, ?_⟩⟩
    intro i h
    cases h
  obtain ⟨roles, hinv, _⟩ := pool_invariant (inv_pool env options)
    (fun p hp => startable_conforms hp) hguarded ⟨fun _ => start, hinit, fun i p h => by cases h⟩
  obtain ⟨s, hs, _⟩ := hinv.calls d
  constructor
  · intro before after i outcome hlog ho j
    rw [hlog, callState_append] at hs
    obtain ⟨s1, _, hs⟩ := Option.bind_eq_some_iff.1 hs
    rw [List.foldlM_cons] at hs
    obtain ⟨s2, hs2, hs⟩ := Option.bind_eq_some_iff.1 hs
    have hburned : s2 = .burned := by
      by_cases hflying : s1 = .flying i <;> simp [callStep, hflying, ho] at hs2
      exact hs2.symm
    exact not_called_of_burned (hburned ▸ hs) j
  · intro before between after i j hlog
    rw [hlog, callState_append] at hs
    obtain ⟨s1, _, hs⟩ := Option.bind_eq_some_iff.1 hs
    rw [List.foldlM_cons] at hs
    obtain ⟨s2, hs2, hs⟩ := Option.bind_eq_some_iff.1 hs
    have hflying : s2 = .flying i := by
      by_cases hclear : s1 = .clear <;> simp [callStep, hclear] at hs2
      exact hs2.symm
    exact rejected_of_flying (hflying ▸ hs)

/-- A duplicate of the job runs while the message is on its way. It marks the delivery unknown,
and sends nothing. -/
theorem a_duplicate_job_sends_nothing : ∃ ls pool,
    SystemRun sampleEnvironment sampleOptions Job.keeps (initial sampleDb) ls pool ∧
    pool.world.log = [.called 1 sampleRecipient, .ended 1 sampleRecipient .accepted] ∧
    ∀ j, Event.called j sampleRecipient ∉ ([] : List Event) := by
  obtain ⟨ls, pool, hrun, hlog⟩ := exists_run_of_play
    (show (play sampleEnvironment sampleOptions Job.keeps (fun _ _ => true) (sampleSend 0 ++ sampleClaim 1 ++
      [.call 1] ++ .spawn 2 sampleJob :: transactions 2 2 10 ++ .clock 2 10 ::
      transactions 2 1 10 ++ [.awaitSend 1 (.ok (.SENT "message" none))] ++ transactions 1 3 20)
      (initial sampleDb)).map (fun pool => pool.world.log) =
        some [.called 1 sampleRecipient, .ended 1 sampleRecipient .accepted] by decide +kernel)
  exact ⟨ls, pool, run_of_guarded hrun, hlog,
    (a_message_is_sent_at_most_once (run_of_guarded hrun) sampleRecipient).1
    [.called 1 sampleRecipient] [] 1 .accepted hlog (by decide)⟩

end tiktok_outreach.at_most_once
