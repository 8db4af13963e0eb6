-- A player of the reads: the rows of the governor answer for themselves, and a
-- reply says how long a call takes, what TikTok answers, and which calls fail.
import TiktokOutreach.ReadConformance
import TiktokOutreach.Lib.Plays

open runs executions tables tiktok_outreach.read_governor tiktok_outreach.read_only_client

namespace tiktok_outreach.read_system

/-- How a call is answered, and the milliseconds that pass. -/
inductive Reply
  /-- By the rows and the clock. -/
  | performed (ms : Nat)
  | response (response : Response) (ms : Nat)
  /-- The call throws, and was not performed. -/
  | failed (e : Failure)

/-- What the rows and the clock answer to the thread. -/
def World.answer (options : GovernorOptions) (w : World) (i : Nat) :
    (c : Call) → Option (c.Result × World)
  | .now => some (w.clock, w)
  | .newLease => some (w.nextLease, { w with nextLease := w.nextLease + 1 })
  | .upsert key => some ((w.rows.get key).getD {}, w.upsert key)
  | .claim lease now _ =>
    some (if (w.rows.get lease.groupKey).any (usable now) then 1 else 0, w.claim options lease now)
  | .find key => (w.rows.get key).map (fun row => (row, w))
  | .requestStarted lease now => some ((), w.requestStarted options lease now)
  | .clearCooldown lease requestId => some ((), w.clearCooldown lease requestId)
  | .space lease now => some ((), w.space options lease now)
  | .findRetryDelay _ => some (none, w)
  | .storeCooldown lease count nextPermittedAt retryAfterMs requestId =>
    some ((), w.storeCooldown lease count nextPermittedAt retryAfterMs requestId)
  | .release lease => some ((), w.release lease)
  | .jitter => some (0, w)
  | .sleep _ => some ((), w)
  | .send lease startedAt => some ((), w.launch i lease startedAt)
  | .receive _ => none

def World.wait (w : World) (ms : Nat) : World := { w with clock := w.clock + ms }

def player (options : GovernorOptions) :
    Player World Call (fun c => Except Failure c.Result) Reply
  | i, w, c, .performed ms => (w.answer options i c).map fun r => (.ok r.1, r.2.wait ms)
  | i, w, .receive _, .response response ms => some (.ok response, (w.land i).wait ms)
  | _, w, c, .failed e => if statement c then some (.error e, w) else none
  | _, _, _, _ => none

theorem performs_of_answer {options : GovernorOptions} {w w' : World} {i : Nat} {c : Call}
    {a : c.Result} (h : w.answer options i c = some (a, w')) : Performs options i w c a w' := by
  cases c with
  | find key =>
    obtain ⟨row, hget, hrow⟩ := Option.map_eq_some_iff.1 h
    cases hrow
    exact .find w key _ hget
  | receive => cases h
  | findRetryDelay | jitter | sleep =>
    cases h
    exact .other w _ _ rfl
  | _ =>
    cases h
    constructor

theorem player_sound (options : GovernorOptions) : (player options).Sound (machine options) := by
  intro i w c reply res w' h
  cases reply with
  | performed ms =>
    obtain ⟨⟨a, w1⟩, ha, hres⟩ := Option.map_eq_some_iff.1 h
    cases hres
    have hclock : w1.clock ≤ w1.clock + ms := by omega
    exact .done w w1 c a _ (performs_of_answer ha) hclock
  | response response ms =>
    cases c with
    | receive lease =>
      cases h
      have hclock : (w.land i).clock ≤ w.clock + ms := by simp [World.land]
      exact .done w (w.land i) (.receive lease) response _ (.receive w lease response) hclock
    | _ => cases h
  | failed e =>
    simp only [player] at h
    split at h
    · next hc =>
      cases h
      exact .failed w c e w.clock hc le_rfl
    · cases h

/-! ## A sample -/

def sampleOptions : GovernorOptions where
  marketplaceSpacingMs := 3000
  nextLocalDay := fun now => now + 86400000

/-- The reads of a shop's conversations. -/
def conversations : ReadInput := ⟨"TIKTOK", "shop", .LIST_CONVERSATIONS⟩

abbrev SystemTurn := Turn Call (fun c => Except Failure c.Result) Reply

abbrev playJobs (guard : SystemPool → SystemLabel → Bool) (turns : List SystemTurn)
    (pool : SystemPool) : Option (List SystemLabel × SystemPool) :=
  playTurns (player sampleOptions) (machine sampleOptions) guard turns pool

def spawnJob (i : Nat) (job : Job) : SystemTurn := .spawn i (job.thread sampleOptions)

theorem exists_run_of_jobs {guard : SystemPool → SystemLabel → Bool} {turns : List SystemTurn}
    {pool : SystemPool} (hturns : Starts (Startable sampleOptions) turns) {β : Type}
    {f : List SystemLabel × SystemPool → β} {b : β}
    (h : (playJobs guard turns pool).map f = some b) :
    ∃ ls pool', Run (Guarded (PoolStep (machine sampleOptions) (Startable sampleOptions))
      (fun pool l => guard pool l = true)) pool ls pool' ∧ f (ls, pool') = b :=
  exists_run_of_turns (player_sound sampleOptions) hturns h

theorem starts_job {i : Nat} {job : Job} {turns : List SystemTurn}
    (h : Starts (Startable sampleOptions) turns) :
    Starts (Startable sampleOptions) (spawnJob i job :: turns) :=
  starts_spawn ⟨job, rfl⟩ h

/-- The calls of a thread that the rows answer at once. -/
def performed (i n : Nat) : List SystemTurn := List.replicate n (.run i (.performed 0))

end tiktok_outreach.read_system
