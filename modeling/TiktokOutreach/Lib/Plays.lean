-- Runs of a pool that are computed: a player answers the calls, and what is
-- played is a run of every machine that allows those answers.
import TiktokOutreach.Lib.Executions

open runs

namespace executions

/-- A turn starts a thread with a program, has the call of a thread answered, or ends a thread. -/
inductive Turn (C : Type) (R : C → Type) (M : Type)
  | spawn (i : Nat) (p : Prog C R Unit)
  | run (i : Nat) (m : M)
  | crash (i : Nat)

section Plays

variable {W C M : Type} {R : C → Type}

/-- The answer of a player to a call, and the world after it. -/
abbrev Player (W C : Type) (R : C → Type) (M : Type) := Nat → W → (c : C) → M → Option (R c × W)

/-- The answers of the player are answers of the machine. -/
def Player.Sound (player : Player W C R M) (machine : Machine W C R) : Prop :=
  ∀ i w c m res w', player i w c m = some (res, w') → machine.exec i w c res w'

def takeTurn (player : Player W C R M) (machine : Machine W C R) (pool : Pool W C R) :
    Turn C R M → Option (Label C R × Pool W C R)
  | .spawn i p => match pool.thread i with
    | none => some (.spawn i, ⟨pool.world, pool.setThread i (some p)⟩)
    | some _ => none
  | .run i m => match pool.thread i with
    | some (.call c next) => (player i pool.world c m).map fun answer =>
      (.run i c answer.1, ⟨answer.2, pool.setThread i (some (next answer.1))⟩)
    | _ => none
  | .crash i => (pool.thread i).map fun p =>
    (.crash i, ⟨machine.crashed i p pool.world, pool.setThread i none⟩)

/-- The labels of the turns and the pool after them, when every step meets the guard. -/
def playTurns (player : Player W C R M) (machine : Machine W C R)
    (guard : Pool W C R → Label C R → Bool) :
    List (Turn C R M) → Pool W C R → Option (List (Label C R) × Pool W C R)
  | [], pool => some ([], pool)
  | turn :: turns, pool => (takeTurn player machine pool turn).bind fun step =>
    if guard pool step.1 then
      (playTurns player machine guard turns step.2).map fun rest => (step.1 :: rest.1, rest.2)
    else none

/-- The turns start only these programs. -/
def Starts (startable : Prog C R Unit → Prop) (turns : List (Turn C R M)) : Prop :=
  ∀ i p, .spawn i p ∈ turns → startable p

variable {player : Player W C R M} {machine : Machine W C R}
  {startable : Prog C R Unit → Prop} {guard : Pool W C R → Label C R → Bool}

theorem takeTurn_step (hplayer : player.Sound machine) {pool pool' : Pool W C R}
    {turn : Turn C R M} {l : Label C R} (hturn : ∀ i p, turn = .spawn i p → startable p)
    (h : takeTurn player machine pool turn = some (l, pool')) :
    PoolStep machine startable pool l pool' := by
  cases turn with
  | spawn i p =>
    simp only [takeTurn] at h
    split at h
    · next hfree =>
      cases h
      exact .spawn pool i p hfree (hturn i p rfl)
    · cases h
  | run i m =>
    simp only [takeTurn] at h
    split at h
    · next c next hthread =>
      obtain ⟨⟨res, w⟩, hanswer, hpool⟩ := Option.map_eq_some_iff.1 h
      cases hpool
      exact .run pool i c next res w hthread (hplayer _ _ _ _ _ _ hanswer)
    · cases h
  | crash i =>
    obtain ⟨p, hthread, hpool⟩ := Option.map_eq_some_iff.1 h
    cases hpool
    exact .crash pool i p hthread

/-- What is played is a run. -/
theorem playTurns_run (hplayer : player.Sound machine) {turns : List (Turn C R M)}
    {pool pool' : Pool W C R} {ls : List (Label C R)} (hturns : Starts startable turns)
    (h : playTurns player machine guard turns pool = some (ls, pool')) :
    Run (Guarded (PoolStep machine startable) (fun pool l => guard pool l = true)) pool ls pool' := by
  induction turns generalizing pool ls with
  | nil =>
    cases h
    exact Run.nil _
  | cons turn turns ih =>
    obtain ⟨⟨l, mid⟩, hstep, hrest⟩ := Option.bind_eq_some_iff.1 h
    split at hrest
    · next hguard =>
      obtain ⟨⟨ls', pool''⟩, hplay, hout⟩ := Option.map_eq_some_iff.1 hrest
      cases hout
      have hturn : ∀ i p, turn = .spawn i p → startable p := by
        rintro i p rfl
        exact hturns i p List.mem_cons_self
      have hfirst : PoolStep machine startable pool l mid := takeTurn_step hplayer hturn hstep
      apply Run.cons ⟨hfirst, hguard⟩
      apply ih _ hplay
      intro i p hp
      exact hturns i p (List.mem_cons_of_mem _ hp)
    · cases hrest

/-- A property of the end of a play is one of a run. -/
theorem exists_run_of_turns (hplayer : player.Sound machine) {turns : List (Turn C R M)}
    {pool : Pool W C R} (hturns : Starts startable turns) {β : Type}
    {f : List (Label C R) × Pool W C R → β} {b : β}
    (h : (playTurns player machine guard turns pool).map f = some b) :
    ∃ ls pool', Run (Guarded (PoolStep machine startable) (fun pool l => guard pool l = true))
      pool ls pool' ∧ f (ls, pool') = b := by
  obtain ⟨⟨ls, pool'⟩, hplay, hf⟩ := Option.map_eq_some_iff.1 h
  exact ⟨ls, pool', playTurns_run hplayer hturns hplay, hf⟩

/-! ## The programs that turns start -/

theorem starts_nil : Starts startable ([] : List (Turn C R M)) := by
  intro i p hp
  cases hp

theorem starts_spawn {i : Nat} {p : Prog C R Unit} (hp : startable p) {turns : List (Turn C R M)}
    (h : Starts startable turns) : Starts startable (.spawn i p :: turns) := by
  intro j q hq
  rcases List.mem_cons.1 hq with heq | hq
  · cases heq
    exact hp
  · exact h j q hq

theorem starts_run {i : Nat} {m : M} {turns : List (Turn C R M)} (h : Starts startable turns) :
    Starts startable (.run i m :: turns) := by
  intro j q hq
  rcases List.mem_cons.1 hq with heq | hq
  · cases heq
  · exact h j q hq

theorem starts_runs {i n : Nat} {m : M} {turns : List (Turn C R M)} (h : Starts startable turns) :
    Starts startable (List.replicate n (.run i m) ++ turns) := by
  intro j q hq
  rcases List.mem_append.1 hq with hq | hq
  · cases List.eq_of_mem_replicate hq
  · exact h j q hq

end Plays

end executions
