-- The unknown deliveries. Each has a reconciliation job in the queue or a
-- thread that has it in custody, unless such a thread is stopped.
import TiktokOutreach.AtomicSystem
import TiktokOutreach.WorkerDebts
import TiktokOutreach.StateTransitions

open runs executions tables transactions tiktok_outreach.schema tiktok_outreach.dispatch_safety
  tiktok_outreach.settlements tiktok_outreach.outreach_service tiktok_outreach.commands
  tiktok_outreach.dispatch_core tiktok_outreach.send_protocol tiktok_outreach.worker_debts
  tiktok_outreach.system

namespace tiktok_outreach.unknown_deliveries

/-! ## The queue -/

/-- What an observer notes: what the threads owe, the reconciliation jobs that wait in the queue,
and those that a worker took. -/
structure Notes where
  debt : Nat → Debt
  waiting : List ReconciliationJob
  taken : List ReconciliationJob

/-- A job whose id is in use is not added again. -/
def add (notes : Notes) (job : ReconciliationJob) : List ReconciliationJob :=
  if job ∈ notes.waiting ∨ job ∈ notes.taken then notes.waiting else job :: notes.waiting

def observe (notes : Notes) (l : Label Call Call.Answer) : Notes :=
  let debt := stage debtProtocol .free .free notes.debt l
  match l with
  | .run _ (.addJob job) (.ok _) => { notes with debt, waiting := add notes job }
  | .run _ (.takeJob job) (.ok _) =>
    { debt, waiting := notes.waiting.filter (fun job' => job' ≠ job), taken := job :: notes.taken }
  | _ => { notes with debt }

abbrev Threads : Type := Observed World Call Call.Answer Notes

/-- A worker takes only jobs that wait. -/
def delivered (s : Threads) : Label Call Call.Answer → Bool
  | .run _ (.takeJob job) (.ok _) => job ∈ s.seen.waiting
  | _ => true

theorem debt_observe (notes : Notes) (l : Label Call Call.Answer) :
    (observe notes l).debt = stage debtProtocol .free .free notes.debt l := by
  unfold observe
  dsimp only
  split <;> rfl

theorem mem_add (notes : Notes) (job : ReconciliationJob) (h : job ∉ notes.taken) :
    job ∈ add notes job := by
  unfold add
  split
  · rename_i hused
    exact hused.resolve_right h
  · exact List.mem_cons_self

/-- A job waits until a worker takes it. -/
theorem waiting_observe {notes : Notes} {l : Label Call Call.Answer} {job : ReconciliationJob}
    (h : job ∈ notes.waiting) (hl : ∀ i r, l ≠ .run i (.takeJob job) (.ok r)) :
    job ∈ (observe notes l).waiting := by
  unfold observe
  dsimp only
  split
  · unfold add
    split
    · exact h
    · exact List.mem_cons_of_mem _ h
  · rename_i i job' r
    rw [List.mem_filter]
    refine ⟨h, ?_⟩
    simp only [ne_eq, decide_eq_true_eq]
    rintro rfl
    exact hl i r rfl
  · exact h

/-! ## The condition -/

def unknown (w : World) (d : DeliveryId) : Bool :=
  (w.db.deliveries.get d).any (fun delivery => delivery.state = .DELIVERY_UNKNOWN)

/-- The delivery has what its reconciliation needs. -/
def traced (w : World) (d : DeliveryId) : Bool :=
  (w.db.deliveries.get d).all (fun delivery =>
    delivery.conversationId.isSome && delivery.firstDispatchedAt.isSome)

/-- No thread with a delivery in custody stops, gets an error or finds the delivery without its
conversation or dispatch time; no call that throws has made a delivery unknown; and no job is added
whose id a job had that was taken before. -/
def Kept (s : Threads) (l : Label Call Call.Answer) (t : Threads) : Prop :=
  match l with
  | .crash i => ∀ d, s.seen.debt i ≠ .custody d
  | .run i _ (.error _) => (∀ d, s.seen.debt i ≠ .custody d) ∧
      ∀ d, unknown t.pool.world d = true → unknown s.pool.world d = true
  | .run i (.db (.findUnknownDelivery d)) (.ok _) =>
    s.seen.debt i = .custody d → unknown s.pool.world d = true → traced s.pool.world d = true
  | .run _ (.addJob job) (.ok _) => job ∉ s.seen.taken
  | _ => True

theorem unknown_iff {w : World} {d : DeliveryId} :
    unknown w d = true ↔ (coreOf w.db).delivery d = some .DELIVERY_UNKNOWN := by
  cases h : w.db.deliveries.get d <;> simp [unknown, h]

/-! ## The runs -/

section Runs

variable (env : Environment) (options : outbound_throttle.Options)

/-- The steps of the worker and the sweeps, with the queue. -/
def QueueStep (s : Threads) (l : Label Call Call.Answer) (t : Threads) : Prop :=
  ObservedStep (machine env options) (Startable workerJobs) observe s l t ∧ delivered s l = true

def initialThreads (db : Db) : Threads := ⟨initial db, ⟨fun _ => .free, [], []⟩⟩

variable {env options}

/-- A job of the delivery waits, or a thread has it in custody. -/
def Tended (s : Threads) (d : DeliveryId) : Prop :=
  (∃ n, ⟨d, n⟩ ∈ s.seen.waiting) ∨ ∃ i, s.seen.debt i = .custody d

structure Inv (s : Threads) : Prop where
  follows : FollowsTo debtProtocol (· = .free) s.pool s.seen.debt
  gone : ∀ i, s.pool.thread i = none → s.seen.debt i = .free
  tended : ∀ d, unknown s.pool.world d = true → Tended s d

/-- What a thread reads of an unknown delivery that it has in custody can be reconciled. -/
theorem reconcilable_of_traced {w : World} {d : DeliveryId} {found : Option UnknownDelivery} {db' : Db}
    (hrun : (findUnknownDelivery d).run w.db = .ok (found, db')) (hunknown : unknown w d = true)
    (htraced : traced w d = true) : reconcilable found = true := by
  simp only [findUnknownDelivery, Tx.run_read, Except.ok.injEq, Prod.mk.injEq] at hrun
  obtain ⟨rfl, rfl⟩ := hrun
  cases hrow : w.db.deliveries.get d with
  | none => simp [unknown, hrow] at hunknown
  | some row =>
    simp only [unknown, hrow, Option.any_some, decide_eq_true_eq] at hunknown
    simp only [traced, hrow, Option.all_some, Bool.and_eq_true] at htraced
    simp [reconcilable, hunknown, htraced]

/-- A command of a thread that has an unknown delivery in custody leaves it in custody. -/
theorem custody_command {command : Command} {ambient : Ambient} {r : command.Result} {w w' : World}
    {d : DeliveryId} (hok : debtProtocol.ok (.custody d) (.db command))
    (hrun : (command.body env options ambient).run w.db = .ok (r, w'.db))
    (hafter : unknown w' d = true)
    (htraced : ∀ id, command = .findUnknownDelivery id → unknown w id = true → traced w id = true) :
    owes (.custody d) command r = .custody d := by
  have hsettled : ∀ ds rs releases, actionOf ambient command r = .settle d ds rs releases →
      ds = .DELIVERY_UNKNOWN := by
    intro ds rs releases ha
    have hstep := refines hrun
    rw [ha] at hstep
    have := settled_delivery hstep
    rw [unknown_iff.1 hafter] at this
    exact (Option.some.inj this).symm
  cases command with
  | findUnknownDelivery id =>
    obtain rfl : id = d := by simpa [debtProtocol, tends] using hok
    have hdb : w'.db = w.db := congrArg Prod.snd (Except.ok.inj hrun).symm
    have hunknown : unknown w id = true := by rw [unknown_iff, ← hdb, ← unknown_iff]; exact hafter
    exact if_pos (reconcilable_of_traced hrun hunknown (htraced id rfl hunknown))
  | markSent id creatorOpenId conversationId messageId =>
    obtain rfl : id = d := by simpa [debtProtocol, tends] using hok
    cases hsettled _ _ _ rfl
  | giveUpReconciliation id attemptNumber =>
    obtain rfl : id = d := by simpa [debtProtocol, tends] using hok
    cases hsettled _ _ _ rfl
  | updateReconciliationRun id attemptNumber state matched => rfl
  | scheduleReconciliationRun id attemptNumber scheduledFor => rfl
  | linkedMessageIds => rfl
  | _ => cases hok

/-- A delivery that is unknown after a step of a thread that has it in custody is still tended. -/
theorem custody_step {s t : Threads} {l : Label Call Call.Answer} {i : Nat} {d : DeliveryId}
    (h : Inv s) (hstep : QueueStep env options s l t) (hkept : Kept s l t)
    (hi : s.seen.debt i = .custody d) (hafter : unknown t.pool.world d = true) : Tended t d := by
  obtain ⟨⟨hpool, hseen⟩, _⟩ := hstep
  have hdebt : t.seen.debt = stage debtProtocol .free .free s.seen.debt l := by
    rw [hseen, debt_observe]
  by_cases hthread : i = l.thread
  · subst hthread
    cases l with
    | spawn i =>
      have hfree := h.gone i hpool.of_spawn.1
      rw [Label.thread, hfree] at hi
      cases hi
    | work i call => exact Or.inr ⟨i, by rw [hdebt]; exact hi⟩
    | crash i => exact absurd hi (hkept d)
    | run i call res =>
      replace hi : s.seen.debt i = .custody d := hi
      obtain ⟨⟨next, hprog⟩, hexec⟩ := hpool.of_run
      have hok := (h.follows i _ hprog).1
      rw [hi] at hok
      cases res with
      | error e => exact absurd hi (hkept.1 d)
      | ok r =>
        cases call with
        | db command =>
          obtain ⟨ambient, hrun⟩ := commit_of_ok hexec
          refine Or.inr ⟨i, ?_⟩
          rw [hdebt, stage, setRole_self, hi]
          apply custody_command hok hrun hafter
          rintro id rfl hunknown
          obtain rfl : id = d := by simpa [debtProtocol, tends] using hok
          exact hkept hi hunknown
        | addJob job =>
          obtain rfl : job.deliveryId = d := by simpa [debtProtocol, tends] using hok
          refine Or.inl ⟨job.attemptNumber, ?_⟩
          rw [hseen]
          exact mem_add s.seen job hkept
        | dateNow => exact Or.inr ⟨i, by rw [hdebt, stage, setRole_self, hi]; rfl⟩
        | _ => cases hok
  · exact Or.inr ⟨i, by rw [hdebt, stage_of_ne hthread, hi]⟩

theorem unknown_of_settle {command : Command} {ambient : Ambient} {r : command.Result}
    {d : DeliveryId} {rs : RecipientState} {releases : Bool} {debt : Debt}
    (h : actionOf ambient command r = .settle d .DELIVERY_UNKNOWN rs releases) :
    owes debt command r = .custody d := by
  cases command with
  | reserveDispatchSlot id =>
    cases r with
    | claimed attemptNumber => cases h
    | notClaimed cancelled reason => cases cancelled <;> cases h
  | _ => first | (cases h; done) | (cases h; rfl)

/-- A command of the worker that makes a delivery unknown leaves it in custody. -/
theorem unknown_step {command : Command} {ambient : Ambient} {r : command.Result} {w w' : World}
    {d : DeliveryId} {debt : Debt} (hworks : works (.db command) = true)
    (hrun : (command.body env options ambient).run w.db = .ok (r, w'.db))
    (hbefore : unknown w d ≠ true) (hafter : unknown w' d = true) :
    owes debt command r = .custody d := by
  have hworker : ofWorker (actionOf ambient command r) := ofWorker_of_works hworks
  rw [ne_eq, unknown_iff] at hbefore
  rw [unknown_iff] at hafter
  cases hs : (coreOf w.db).delivery d with
  | none =>
    have hnone : (coreOf w'.db).delivery d = none := by
      apply delivery_none (refines hrun) hs
      intro ha
      rw [ha] at hworker
      exact hworker
    rw [hnone] at hafter
    cases hafter
  | some s0 =>
    rcases delivery_transition (refines hrun) hs with h | ⟨s', h, htransition⟩ | h
    · exact absurd (hs.trans (h.symm.trans hafter)) hbefore
    · rw [hafter] at h
      cases h
      generalize ha : actionOf ambient command r = a at htransition
      cases htransition with
      | settle => exact unknown_of_settle ha
    · rw [h] at hworker
      exact hworker.elim

theorem inv_step {s t : Threads} {l : Label Call Call.Answer} (h : Inv s)
    (hstep : QueueStep env options s l t) (hkept : Kept s l t) : Inv t := by
  obtain ⟨⟨hpool, hseen⟩, hdelivered⟩ := hstep
  have hdebt : t.seen.debt = stage debtProtocol .free .free s.seen.debt l := by
    rw [hseen, debt_observe]
  refine ⟨?_, ?_, ?_⟩
  · rw [hdebt]
    exact followsTo_step (fun p hp => startable_pays hp) h.follows hpool
  · rw [hdebt]
    exact gone_step h.gone hpool
  · intro d hafter
    by_cases hbefore : unknown s.pool.world d = true
    · rcases h.tended d hbefore with ⟨n, hwaiting⟩ | ⟨i, hi⟩
      · by_cases htaken : ∃ i r, l = .run i (.takeJob ⟨d, n⟩) (.ok r)
        · obtain ⟨i, r, rfl⟩ := htaken
          exact Or.inr ⟨i, by rw [hdebt, stage, setRole_self]; rfl⟩
        · push Not at htaken
          refine Or.inl ⟨n, ?_⟩
          rw [hseen]
          exact waiting_observe hwaiting htaken
      · exact custody_step h ⟨⟨hpool, hseen⟩, hdelivered⟩ hkept hi hafter
    · rcases db_step hpool with hdb | ⟨i, command, res, next, ambient, r, rfl, hthread, hrun, hres⟩
      · rw [unknown_iff, hdb, ← unknown_iff] at hafter
        exact absurd hafter hbefore
      · -- the command has made the delivery unknown
        rcases hres with rfl | ⟨e, rfl⟩
        · refine Or.inr ⟨i, ?_⟩
          rw [hdebt, stage, setRole_self]
          exact unknown_step (works_of_ok (h.follows i _ hthread).1) hrun hbefore hafter
        · exact absurd (hkept.2 d hafter) hbefore

end Runs

/-! ## Two runs -/

end tiktok_outreach.unknown_deliveries
