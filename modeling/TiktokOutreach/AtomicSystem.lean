-- The system with atomic transactions: the database, what happened to the
-- calls of `sendMessage`, and what each call of a program does to both. Every
-- transaction is one step, and a thread may stop between any two of them.
import TiktokOutreach.ProtocolConformance
import TiktokOutreach.DispatchRefinement

open runs tables transactions executions tiktok_outreach.schema tiktok_outreach.outreach_service
  tiktok_outreach.commands tiktok_outreach.worker tiktok_outreach.send_protocol

namespace tiktok_outreach.system

inductive Event
  | called (i : Nat) (id : DeliveryId)
  | ended (i : Nat) (id : DeliveryId) (outcome : SendOutcome)
  deriving DecidableEq, Repr

structure World where
  db : Db
  /-- The calls of `sendMessage` and their ends, oldest first. -/
  log : List Event

/-- The calls that change neither the database nor the log. -/
def elsewhere : Call → Bool
  | .db _ | .sendMessage _ _ _ _ | .awaitSend _ => false
  | _ => true

section Machine

variable (env : Environment) (options : outbound_throttle.Options)

/-- What a call of the thread `i` does. A transaction commits, commits and loses its answer, or
fails and changes nothing; the clock of a transaction may show any time. -/
inductive Exec : Nat → World → (c : Call) → c.Answer → World → Prop
  | commit (i : Nat) (w : World) (c : Command) (ambient : Ambient) (r : c.Result) (db : Db)
      (hrun : (c.body env options ambient).run w.db = .ok (r, db)) :
      Exec i w (.db c) (.ok r) { w with db }
  | lost (i : Nat) (w : World) (c : Command) (ambient : Ambient) (r : c.Result) (db : Db)
      (e : Failure) (hrun : (c.body env options ambient).run w.db = .ok (r, db)) :
      Exec i w (.db c) (.error e) { w with db }
  | failed (i : Nat) (w : World) (c : Command) (e : Failure) : Exec i w (.db c) (.error e) w
  | sendMessage (i : Nat) (w : World) (id : DeliveryId)
      (conversationId creatorOpenId content : String) :
      Exec i w (.sendMessage id conversationId creatorOpenId content) (.ok ())
        { w with log := w.log ++ [.called i id] }
  | awaitSend (i : Nat) (w : World) (id : DeliveryId) (answer : (Call.awaitSend id).Answer) :
      Exec i w (.awaitSend id) answer { w with log := w.log ++ [.ended i id (sendOutcome answer)] }
  | other (i : Nat) (w : World) (c : Call) (answer : c.Answer) (h : elsewhere c = true) :
      Exec i w c answer w

/-- A thread that stops while it waits for the provider leaves the outcome unknown. -/
def onCrash (i : Nat) (c : Call) (w : World) : World :=
  match c with
  | .awaitSend id => { w with log := w.log ++ [.ended i id .unknown] }
  | _ => w

def machine : Machine World Call Call.Answer where
  work _ _ _ _ := False
  exec := Exec env options
  onCrash := onCrash

/-- The pool before its first job. -/
def initial (db : Db) : Pool World Call Call.Answer := ⟨⟨db, []⟩, fun _ => none⟩

/-- The runs of the jobs under a condition. -/
abbrev SystemRun (allowed : Job → Bool) :=
  Run (PoolStep (machine env options) (Startable allowed))

/-- Those whose steps all meet the guard. -/
abbrev GuardedRun (allowed : Job → Bool) (guard : World → Label Call Call.Answer → Bool) :=
  Run (Guarded (PoolStep (machine env options) (Startable allowed))
    (fun pool l => guard pool.world l = true))

variable {env options} in
/-- What a step does to the database: nothing, or the transaction of its call. -/
theorem db_step {startable : Prog Call Call.Answer Unit → Prop}
    {pool pool' : Pool World Call Call.Answer} {l : Label Call Call.Answer}
    (hstep : PoolStep (machine env options) startable pool l pool') :
    pool'.world.db = pool.world.db ∨
      ∃ (i : Nat) (c : Command) (res : (Call.db c).Answer)
        (next : (Call.db c).Answer → Prog Call Call.Answer Unit) (ambient : Ambient) (r : c.Result),
        l = .run i (.db c) res ∧ pool.thread i = some (.call (.db c) next) ∧
        (c.body env options ambient).run pool.world.db = .ok (r, pool'.world.db) ∧
        (res = .ok r ∨ ∃ e, res = .error e) := by
  cases hstep with
  | spawn i p hfree hp => exact Or.inl rfl
  | work i call next w hthread hwork => exact hwork.elim
  | run i call next res w hthread hexec =>
    cases hexec with
    | commit c ambient r db hrun =>
      exact Or.inr ⟨i, c, .ok r, next, ambient, r, rfl, hthread, hrun, Or.inl rfl⟩
    | lost c ambient r db e hrun =>
      exact Or.inr ⟨i, c, .error e, next, ambient, r, rfl, hthread, hrun, Or.inr ⟨e, rfl⟩⟩
    | _ => exact Or.inl rfl
  | crash i p hthread =>
    cases p with
    | ret u => exact Or.inl rfl
    | call call next => cases call <;> exact Or.inl rfl

variable {env options} in
/-- A command that returns has committed. -/
theorem commit_of_ok {i : Nat} {w w' : World} {c : Command} {r : c.Result}
    (h : (machine env options).exec i w (.db c) (.ok r) w') :
    ∃ ambient, (c.body env options ambient).run w.db = .ok (r, w'.db) := by
  cases h with
  | commit c ambient r db hrun => exact ⟨ambient, hrun⟩
  | other call answer hc => cases hc

/-! ## Runs that can be computed -/

/-- A step of a run, with what the world decides. -/
inductive Move
  | spawn (i : Nat) (job : Job)
  /-- The transaction that the thread waits for. -/
  | transact (i : Nat) (ambient : Ambient)
  | awaitSend (i : Nat) (answer : Except Failure SendMessageResult)
  | conversation (i : Nat) (conversationId : String)
  | capability (i : Nat) (available : Bool)
  | preview (i : Nat) (retained : List RetainedCreator)
  | clock (i : Nat) (now : Int)
  /-- A call that only returns. -/
  | call (i : Nat)
  | crash (i : Nat)

/-- The step of a move, if the pool can make it: its label and the pool after it. -/
def move (allowed : Job → Bool) (pool : Pool World Call Call.Answer) :
    Move → Option (Label Call Call.Answer × Pool World Call Call.Answer)
  | .spawn i job =>
    if (pool.thread i).isNone && allowed job then
      some (.spawn i, ⟨pool.world, pool.setThread i (some job.program)⟩)
    else none
  | .transact i ambient => match pool.thread i with
    | some (.call (.db c) next) =>
      match (c.body env options ambient).run pool.world.db with
      | .ok r => some (.run i (.db c) (.ok r.1),
          ⟨{ pool.world with db := r.2 }, pool.setThread i (some (next (.ok r.1)))⟩)
      | .error e => some (.run i (.db c) (.error e),
          ⟨pool.world, pool.setThread i (some (next (.error e)))⟩)
    | _ => none
  | .awaitSend i answer => match pool.thread i with
    | some (.call (.awaitSend id) next) => some (.run i (.awaitSend id) answer,
        ⟨{ pool.world with log := pool.world.log ++ [.ended i id (sendOutcome answer)] },
          pool.setThread i (some (next answer))⟩)
    | _ => none
  | .conversation i conversationId => match pool.thread i with
    | some (.call (.createOrGetConversation openId) next) =>
      some (.run i (.createOrGetConversation openId) (.ok conversationId),
        ⟨pool.world, pool.setThread i (some (next (.ok conversationId)))⟩)
    | _ => none
  | .capability i available => match pool.thread i with
    | some (.call .outboundCapability next) => some (.run i .outboundCapability (.ok available),
        ⟨pool.world, pool.setThread i (some (next (.ok available)))⟩)
    | _ => none
  | .preview i retained => match pool.thread i with
    | some (.call (.buildPreview id) next) => some (.run i (.buildPreview id) (.ok (retained, [])),
        ⟨pool.world, pool.setThread i (some (next (.ok (retained, []))))⟩)
    | _ => none
  | .clock i now => match pool.thread i with
    | some (.call .dateNow next) => some (.run i .dateNow (.ok now),
        ⟨pool.world, pool.setThread i (some (next (.ok now)))⟩)
    | _ => none
  | .call i => match pool.thread i with
    | some (.call (.sendMessage id conversationId openId content) next) =>
      some (.run i (.sendMessage id conversationId openId content) (.ok ()),
        ⟨{ pool.world with log := pool.world.log ++ [.called i id] },
          pool.setThread i (some (next (.ok ())))⟩)
    | some (.call (.addJob job) next) => some (.run i (.addJob job) (.ok ()),
        ⟨pool.world, pool.setThread i (some (next (.ok ())))⟩)
    | some (.call .reconcileOutbox next) => some (.run i .reconcileOutbox (.ok ()),
        ⟨pool.world, pool.setThread i (some (next (.ok ())))⟩)
    | some (.call (.takeJob job) next) => some (.run i (.takeJob job) (.ok ()),
        ⟨pool.world, pool.setThread i (some (next (.ok ())))⟩)
    | _ => none
  | .crash i => match pool.thread i with
    | some p => some (.crash i,
        ⟨(machine env options).crashed i p pool.world, pool.setThread i none⟩)
    | none => none

/-- The pool after some moves, which must all meet the guard. -/
def play (allowed : Job → Bool) (guard : World → Label Call Call.Answer → Bool) :
    List Move → Pool World Call Call.Answer → Option (Pool World Call Call.Answer)
  | [], pool => some pool
  | m :: ms, pool => match move env options allowed pool m with
    | some (l, pool') => if guard pool.world l then play allowed guard ms pool' else none
    | none => none

/-- The moves of an observed pool, under a guard that may look at what was observed. -/
def playObserved {O : Type} (allowed : Job → Bool) (observe : O → Label Call Call.Answer → O)
    (guard : Observed World Call Call.Answer O → Label Call Call.Answer → Bool) :
    List Move → Observed World Call Call.Answer O → Option (Observed World Call Call.Answer O)
  | [], s => some s
  | m :: ms, s => match move env options allowed s.pool m with
    | some (l, pool) =>
      if guard s l then playObserved allowed observe guard ms ⟨pool, observe s.seen l⟩ else none
    | none => none

variable {env options} {allowed : Job → Bool} {guard : World → Label Call Call.Answer → Bool}

theorem move_step {pool pool' : Pool World Call Call.Answer} {m : Move}
    {l : Label Call Call.Answer} (h : move env options allowed pool m = some (l, pool')) :
    PoolStep (machine env options) (Startable allowed) pool l pool' := by
  cases m with
  | spawn i job =>
    simp only [move] at h
    split at h
    · rename_i hfree
      simp only [Bool.and_eq_true, Option.isNone_iff_eq_none] at hfree
      cases h
      exact .spawn pool i _ hfree.1 ⟨job, hfree.2, rfl⟩
    · cases h
  | transact i ambient =>
    simp only [move] at h
    split at h
    · rename_i c next hthread
      split at h
      · rename_i r hrun
        cases h
        exact .run pool i _ next _ _ hthread (.commit i _ c ambient r.1 r.2 hrun)
      · cases h
        exact .run pool i _ next _ _ hthread (.failed i _ c _)
    · cases h
  | awaitSend i answer =>
    simp only [move] at h
    split at h
    · rename_i id next hthread
      cases h
      exact .run pool i _ next _ _ hthread (.awaitSend i _ id answer)
    · cases h
  | conversation i conversationId =>
    simp only [move] at h
    split at h
    · rename_i openId next hthread
      cases h
      exact .run pool i _ next _ _ hthread (.other i _ _ _ rfl)
    · cases h
  | capability i available =>
    simp only [move] at h
    split at h
    · rename_i next hthread
      cases h
      exact .run pool i _ next _ _ hthread (.other i _ _ _ rfl)
    · cases h
  | preview i retained =>
    simp only [move] at h
    split at h
    · rename_i id next hthread
      cases h
      exact .run pool i _ next _ _ hthread (.other i _ _ _ rfl)
    · cases h
  | clock i now =>
    simp only [move] at h
    split at h
    · rename_i next hthread
      cases h
      exact .run pool i _ next _ _ hthread (.other i _ _ _ rfl)
    · cases h
  | call i =>
    simp only [move] at h
    split at h
    · rename_i id conversationId openId content next hthread
      cases h
      exact .run pool i _ next _ _ hthread (.sendMessage i _ id conversationId openId content)
    · rename_i job next hthread
      cases h
      exact .run pool i _ next _ _ hthread (.other i _ _ _ rfl)
    · rename_i next hthread
      cases h
      exact .run pool i _ next _ _ hthread (.other i _ _ _ rfl)
    · rename_i job next hthread
      cases h
      exact .run pool i _ next _ _ hthread (.other i _ _ _ rfl)
    · cases h
  | crash i =>
    simp only [move] at h
    split at h
    · rename_i p hthread
      cases h
      exact .crash pool i p hthread
    · cases h

/-- What is played is a run. -/
theorem play_run {ms : List Move} {pool pool' : Pool World Call Call.Answer}
    (h : play env options allowed guard ms pool = some pool') :
    ∃ ls, GuardedRun env options allowed guard pool ls pool' := by
  induction ms generalizing pool with
  | nil =>
    cases h
    exact ⟨[], Run.nil _⟩
  | cons m ms ih =>
    unfold play at h
    split at h
    · rename_i l pool1 hmove
      split at h
      · rename_i hguard
        obtain ⟨ls, hrun⟩ := ih h
        exact ⟨l :: ls, Run.cons ⟨move_step hmove, hguard⟩ hrun⟩
      · cases h
    · cases h

theorem playObserved_run {O : Type} {observe : O → Label Call Call.Answer → O}
    {guard : Observed World Call Call.Answer O → Label Call Call.Answer → Bool} {ms : List Move}
    {s s' : Observed World Call Call.Answer O}
    (h : playObserved env options allowed observe guard ms s = some s') :
    ∃ ls, Run (Guarded (ObservedStep (machine env options) (Startable allowed) observe)
      (fun s l => guard s l = true)) s ls s' := by
  induction ms generalizing s with
  | nil =>
    cases h
    exact ⟨[], Run.nil _⟩
  | cons m ms ih =>
    unfold playObserved at h
    split at h
    · rename_i l pool hmove
      split at h
      · rename_i hguard
        obtain ⟨ls, hrun⟩ := ih h
        exact ⟨l :: ls, Run.cons ⟨⟨move_step hmove, rfl⟩, hguard⟩ hrun⟩
      · cases h
    · cases h

theorem play_append (ms ms' : List Move) (pool : Pool World Call Call.Answer) :
    play env options allowed guard (ms ++ ms') pool =
      (play env options allowed guard ms pool).bind (play env options allowed guard ms') := by
  induction ms generalizing pool with
  | nil => rfl
  | cons m ms ih =>
    simp only [List.cons_append, play]
    cases move env options allowed pool m with
    | none => rfl
    | some r =>
      dsimp only
      split
      · exact ih r.2
      · rfl

theorem exists_run_of_play {ms : List Move} {pool : Pool World Call Call.Answer} {β : Type}
    {f : Pool World Call Call.Answer → β} {b : β}
    (h : (play env options allowed guard ms pool).map f = some b) :
    ∃ ls pool', GuardedRun env options allowed guard pool ls pool' ∧ f pool' = b := by
  obtain ⟨pool', hplay, hf⟩ := Option.map_eq_some_iff.1 h
  obtain ⟨ls, hrun⟩ := play_run hplay
  exact ⟨ls, pool', hrun, hf⟩

/-- A run that goes on from a state in the middle. -/
theorem exists_runs_of_play {ms ms' : List Move} {pool : Pool World Call Call.Answer} {β γ : Type}
    {f : Pool World Call Call.Answer → β} {g : Pool World Call Call.Answer → γ} {b : β} {c : γ}
    (h : (play env options allowed guard ms pool).map f = some b)
    (h' : (play env options allowed guard (ms ++ ms') pool).map g = some c) :
    ∃ ls mid ls' pool', GuardedRun env options allowed guard pool ls mid ∧ f mid = b ∧
      GuardedRun env options allowed guard mid ls' pool' ∧ g pool' = c := by
  obtain ⟨mid, hplay, hf⟩ := Option.map_eq_some_iff.1 h
  obtain ⟨pool', hplay', hg⟩ := Option.map_eq_some_iff.1 h'
  rw [play_append, hplay] at hplay'
  obtain ⟨ls, hrun⟩ := play_run hplay
  obtain ⟨ls', hrun'⟩ := play_run hplay'
  exact ⟨ls, mid, ls', pool', hrun, hf, hrun', hg⟩

theorem run_of_guarded {pool pool' : Pool World Call Call.Answer}
    {ls : List (Label Call Call.Answer)} (h : GuardedRun env options allowed guard pool ls pool') :
    SystemRun env options allowed pool ls pool' :=
  h.mono (fun _ _ _ h => h.1)

/-! ## A thread that runs alone -/

/-- The thread of a move. -/
def Move.thread : Move → Nat
  | .spawn i _ | .transact i _ | .awaitSend i _ | .conversation i _ | .capability i _
  | .preview i _ | .clock i _ | .call i | .crash i => i

/-- No thread but `i` is there. -/
def Alone (i : Nat) (pool : Pool World Call Call.Answer) : Prop :=
  ∀ j, j ≠ i → pool.thread j = none

theorem alone_initial (i : Nat) (db : Db) : Alone i (initial db) := fun _ _ => rfl

theorem setThread_alone {i : Nat} {pool : Pool World Call Call.Answer} (h : Alone i pool)
    (w : World) (p : Option (Prog Call Call.Answer Unit)) : Alone i ⟨w, pool.setThread i p⟩ := by
  intro j hj
  simp [Pool.setThread, hj, h j hj]

theorem move_alone {pool pool' : Pool World Call Call.Answer} {m : Move}
    {l : Label Call Call.Answer} (h : Alone m.thread pool)
    (hmove : move env options allowed pool m = some (l, pool')) : Alone m.thread pool' := by
  cases m <;> simp only [move] at hmove <;>
    repeat' first
      | (cases hmove; exact setThread_alone h _ _)
      | cases hmove
      | split at hmove

/-- The thread has no step left. -/
def idle : Option (Prog Call Call.Answer Unit) → Bool
  | some (.call _ _) => false
  | _ => true

theorem ret_of_idle {i : Nat} {pool : Pool World Call Call.Answer} (halone : Alone i pool)
    (h : idle (pool.thread i) = true) (j : Nat) (p : Prog Call Call.Answer Unit)
    (hp : pool.thread j = some p) : p = .ret () := by
  by_cases hji : j = i
  · subst hji
    rw [hp] at h
    cases p with
    | ret u => rfl
    | call c next => cases h
  · rw [halone j hji] at hp
    cases hp

/-- What one thread plays alone is a run in which no other thread is ever there. -/
theorem play_alone {i : Nat} {ms : List Move} {pool pool' : Pool World Call Call.Answer}
    (h : play env options allowed guard ms pool = some pool') (hms : ∀ m ∈ ms, m.thread = i)
    (halone : Alone i pool) :
    ∃ ls, Run (Guarded (PoolStep (machine env options) (Startable allowed))
      (fun pool _ => Alone i pool)) pool ls pool' ∧ Alone i pool' := by
  induction ms generalizing pool with
  | nil =>
    cases h
    exact ⟨[], Run.nil _, halone⟩
  | cons m ms ih =>
    unfold play at h
    split at h
    · rename_i l pool1 hmove
      split at h
      · have hthread := hms m List.mem_cons_self
        obtain ⟨ls, hrun, hend⟩ := ih h (fun m' hm' => hms m' (List.mem_cons_of_mem _ hm'))
          (hthread ▸ move_alone (hthread.symm ▸ halone) hmove)
        exact ⟨l :: ls, Run.cons ⟨move_step hmove, halone⟩ hrun, hend⟩
      · cases h
    · cases h

theorem playObserved_alone {O : Type} {observe : O → Label Call Call.Answer → O}
    {guard : Observed World Call Call.Answer O → Label Call Call.Answer → Bool} {i : Nat}
    {ms : List Move} {s s' : Observed World Call Call.Answer O}
    (h : playObserved env options allowed observe guard ms s = some s')
    (hms : ∀ m ∈ ms, m.thread = i) (halone : Alone i s.pool) : Alone i s'.pool := by
  induction ms generalizing s with
  | nil =>
    cases h
    exact halone
  | cons m ms ih =>
    unfold playObserved at h
    split at h
    · rename_i l pool hmove
      split at h
      · have hthread := hms m List.mem_cons_self
        exact ih h (fun m' hm' => hms m' (List.mem_cons_of_mem _ hm'))
          (hthread ▸ move_alone (hthread.symm ▸ halone) hmove)
      · cases h
    · cases h

end Machine

/-! ## A small shop -/

def sampleEnvironment : Environment where
  renderMessage template _ _ _ := .ok template
  sha256 text := text
  shopDate _ now := now / 86400000

def sampleOptions : outbound_throttle.Options := ⟨"TIKTOK_SHOP", "app", 2, 4, 30000, none,
  outbound_throttle.two_le_four⟩

def sampleCampaign : CampaignId := ⟨1, 1⟩

def sampleRecipient : RecipientId := ⟨1, sampleCampaign, 7⟩

/-- One campaign with one selected recipient, before it is frozen. -/
def sampleDb : Db where
  campaigns := Table.empty.set sampleCampaign
    { name := "spring", productName := "cup", targetCount := 1, cooldownDays := 30
      messageTemplate := "hello", state := .PREVIEW_READY }
  recipients := Table.empty.set sampleRecipient
    { eligibility := .ELIGIBLE, rankingValue := 1, discoveryOrdinal := 1, selected := true
      state := .SELECTED }
  creators := Table.empty.set 7
    { creatorOpenId := some "open-7", username := some "seven", nickname := none }

/-- A campaign that was queued with one recipient. -/
def queuedDb : Db where
  campaigns := Table.empty.set sampleCampaign
    { name := "spring", productName := "cup", targetCount := 1, cooldownDays := 30
      messageTemplate := "hello", state := .QUEUED }
  recipients := Table.empty.set sampleRecipient
    { eligibility := .ELIGIBLE, rankingValue := 1, discoveryOrdinal := 1, selected := true
      frozenMessage := some "hello", contentHash := some "hello", state := .QUEUED }
  reservations := Table.empty.set sampleRecipient ⟨1, 7, FAR_FUTURE⟩
  deliveries := Table.empty.set sampleRecipient { contentHash := "hello" }

/-- The same campaign, with all rows that a job needs. -/
def readyDb : Db := { queuedDb with
  recipients := Table.empty.set sampleRecipient
    { eligibility := .ELIGIBLE, rankingValue := 1, discoveryOrdinal := 1, selected := true
      frozenMessage := some "hello", contentHash := some "hello"
      creatorOpenIdSnapshot := some "open-7", state := .QUEUED }
  creators := sampleDb.creators
  outbox := Table.empty.set sampleRecipient { availableAt := 0 } }

def sampleConfig : WorkerConfig := ⟨"worker", true, [300000], fun _ => false⟩

def sampleJob : Job := .processSend sampleConfig ⟨sampleRecipient, 0, some 3, true⟩ 1

/-- The next `n` transactions of the thread `i`, all at the time `now`. -/
def transactions (i n : Nat) (now : Int) : List Move :=
  List.replicate n (.transact i ⟨fun _ => now, 0⟩)

/-- The operator sends the campaign. -/
def sampleSend (i : Nat) : List Move :=
  .spawn i (.send sampleCampaign 1) :: transactions i 2 0 ++
    [.capability i true, .capability i true] ++ transactions i 2 0 ++ .clock i 0 ::
    transactions i 4 0 ++ .clock i 0 :: transactions i 1 0 ++ [.call i]

/-- A job claims the delivery and opens its conversation. -/
def sampleClaim (i : Nat) : List Move :=
  .spawn i sampleJob :: transactions i 4 5 ++ .conversation i "conversation" :: transactions i 4 5

end tiktok_outreach.system
