-- A player of the history sync: the database answers for itself, a provider that
-- does not change gives the pages, and each turn says what time it is.
import TiktokOutreach.HistorySystem
import TiktokOutreach.Lib.Plays

open tables transactions runs executions tiktok_outreach.history_schema
  tiktok_outreach.history_sync tiktok_outreach.history_worker tiktok_outreach.history_system

namespace tiktok_outreach.history_plays

/-- The answer of a transaction, and the database after it. -/
def settle {α : Type} (w : World) (result : Except Failure (α × Db)) : Except Failure α × World :=
  match result with
  | .ok (a, db) => (.ok a, { w with db })
  | .error e => (.error e, w)

def player (config : Config) (P : Provider) : Player World Call Call.Answer Int
  | _, w, .db c, _ => some (settle w ((c.body config).run w.db))
  | _, w, .claim id candidate now, _ =>
    match (claim config id candidate w.nextLease now).run w.db with
    | .ok (n, db) => some (.ok (w.nextLease, n), { w with db, nextLease := w.nextLease + 1 })
    | .error _ => none
  | _, w, .now, time => some (.ok time, { w with exchanges := w.exchanges ++ [] })
  | _, w, .historyAdapter, _ => some (.ok (), { w with exchanges := w.exchanges ++ [] })
  | _, w, .listConversations token, _ => some (.ok (P.conversations token),
      { w with exchanges := w.exchanges ++ [.conversations token (P.conversations token)] })
  | _, w, .ensureConversationCreator _, _ =>
    some (.ok (0 : Nat), { w with exchanges := w.exchanges ++ [] })
  | _, w, .listMessages id _ token, _ => some (.ok (P.messages id token),
      { w with exchanges := w.exchanges ++ [.messages id token (P.messages id token)] })
  | _, w, .activeShop, _ => some (.ok "shop", { w with exchanges := w.exchanges ++ [] })

theorem player_sound (config : Config) (P : Provider) :
    (player config P).Sound (machine config) := by
  intro i w c time answer w' h
  cases c with
  | db c =>
    have hsettle : settle w ((c.body config).run w.db) = (answer, w') := Option.some.inj h
    cases hrun : (c.body config).run w.db with
    | ok result =>
      obtain ⟨a, db⟩ := result
      rw [hrun] at hsettle
      cases hsettle
      exact .commit w c a db hrun
    | error e =>
      rw [hrun] at hsettle
      cases hsettle
      exact .failed w c e
  | claim id candidate now =>
    simp only [player] at h
    split at h
    · rename_i n db hrun
      cases h
      exact .claimed w id candidate now n db hrun
    · cases h
  | _ =>
    cases h
    exact .other w _ _ rfl

/-! ## A sample -/

/-- One conversation with two messages, on two pages. -/
def sampleProvider : Provider where
  conversations _ := { items := [{ id := "c1", creatorImId := "im" }], hasMore := false }
  messages _ token := match token with
    | none => { items := [⟨"m1", .OUTBOUND, "Hello", 10⟩], nextPageToken := some "next",
                hasMore := true }
    | some _ => { items := [⟨"m2", .INBOUND, "Thanks", 20⟩], hasMore := false }

def calls (i n : Nat) (time : Int) : List (Turn Call Call.Answer Int) :=
  List.replicate n (.run i time)

/-- The start of a sync and four turns of its worker: a page of the list, two pages of messages and
the end of the page. -/
def sampleTurns : List (Turn Call Call.Answer Int) :=
  .spawn 0 (Job.startHistorySync.thread Config.defaults) :: (calls 0 4 0 ++
    .spawn 1 (Job.processNext.thread Config.defaults) :: (calls 1 8 0 ++
      .spawn 2 (Job.processNext.thread Config.defaults) :: (calls 2 13 1000 ++
        .spawn 3 (Job.processNext.thread Config.defaults) :: (calls 3 13 2000 ++
          .spawn 4 (Job.processNext.thread Config.defaults) :: (calls 4 8 3000 ++ [])))))

theorem starts_sample : Starts (Startable Config.defaults) sampleTurns := by
  unfold sampleTurns calls
  refine starts_spawn ⟨.startHistorySync, rfl⟩ (starts_runs ?_)
  refine starts_spawn ⟨.processNext, rfl⟩ (starts_runs ?_)
  refine starts_spawn ⟨.processNext, rfl⟩ (starts_runs ?_)
  refine starts_spawn ⟨.processNext, rfl⟩ (starts_runs ?_)
  exact starts_spawn ⟨.processNext, rfl⟩ (starts_runs starts_nil)

/-- In the sample the first pass is completed. -/
theorem exists_completed : ∃ ls pool job, HonestRun Config.defaults sampleProvider initial ls pool ∧
    pool.world.db.jobs.get 0 = some job ∧ job.initialCompletedAt = some 3000 := by
  have hplay : (playTurns (player Config.defaults sampleProvider) (machine Config.defaults)
      (fun _ l => sampleProvider.Honest l) sampleTurns initial).map
        (fun end' => (end'.2.world.db.jobs.get 0).map (·.initialCompletedAt)) =
      some (some (some 3000)) := by
    decide +kernel
  obtain ⟨ls, pool, hrun, hjob⟩ := exists_run_of_turns (player_sound _ _) starts_sample hplay
  obtain ⟨job, hget, hcompleted⟩ := Option.map_eq_some_iff.1 hjob
  exact ⟨ls, pool, job, hrun.mono (fun _ _ _ hstep => ⟨hstep.1, of_decide_eq_true hstep.2⟩), hget,
    hcompleted⟩

end tiktok_outreach.history_plays
