-- The messages that the history sync counts: a message is counted at most once by
-- the works of its conversation, and at most once by the jobs.
import TiktokOutreach.HistoryPasses

open tables transactions runs executions knowledge tiktok_outreach.history_schema
  tiktok_outreach.history_sync tiktok_outreach.history_worker tiktok_outreach.history_effects
  tiktok_outreach.history_frames tiktok_outreach.history_system tiktok_outreach.history_plays
  tiktok_outreach.history_coverage tiktok_outreach.history_passes

namespace tiktok_outreach.history_accounts

/-! ## Sums -/

/-- What the works of a conversation have counted. -/
def countedByWorks (db : Db) (conversationId : String) : Int :=
  db.works.sum (fun _ => true)
    (fun work => if work.externalConversationId = conversationId then work.messagesImported else 0)

def countedByJobs (db : Db) : Int :=
  db.jobs.sum (fun _ => true) (fun job => job.messagesImported)

def messagesOf (db : Db) (conversationId : String) : Nat :=
  db.messages.count (fun _ message => message.conversationId = conversationId)

def messages (db : Db) : Nat := db.messages.count (fun _ _ => true)

/-- Nobody counts more messages than are stored. -/
structure Accounted (db : Db) : Prop where
  works : ∀ conversationId, countedByWorks db conversationId ≤ messagesOf db conversationId
  jobs : countedByJobs db ≤ messages db

section Tables

variable {κ α : Type}

theorem sum_deleteMany_le (t : Table κ α) (q : κ → α → Bool) (p : κ → Bool) {f : α → Int}
    (hf : ∀ a, 0 ≤ f a) : (t.deleteMany q).sum p f ≤ t.sum p f := by
  unfold Table.sum Table.deleteMany
  refine List.Sublist.sum_le_sum (List.filter_sublist.map _) ?_
  intro n hn
  obtain ⟨r, _, rfl⟩ := List.mem_map.1 hn
  split
  · exact hf _
  · exact le_rfl

/-- An update of one row at most adds what that row gains. -/
theorem sum_updateMany_le [DecidableEq κ] (t : Table κ α) {q : κ → α → Bool} {k : κ} {g : α → α}
    {f : α → Int} {n : Int} (hn : 0 ≤ n) (hq : ∀ k' a, q k' a = true → k' = k)
    (hg : ∀ a, t.get k = some a → f (g a) ≤ f a + n) :
    (t.updateMany q g).sum (fun _ => true) f ≤ t.sum (fun _ => true) f + n := by
  have hone : t.updateMany q g = t.updateMany (fun k' _ => k' = k)
      (fun a => if q k a then g a else a) := by
    unfold Table.updateMany
    simp only [Table.mk.injEq]
    refine List.map_congr_left (fun r _ => ?_)
    by_cases hk : r.1 = k
    · simp [hk]
    · have hnot : q r.1 r.2 = false := by
        cases hr : q r.1 r.2 with
        | false => rfl
        | true => exact absurd (hq _ _ hr) hk
      simp [hk, hnot]
  rw [hone]
  cases hget : t.get k with
  | none =>
    have hkeep : t.updateMany (fun k' _ => k' = k) (fun a => if q k a then g a else a) = t := by
      unfold Table.updateMany
      congr 1
      refine (List.map_congr_left (fun r hr => ?_)).trans (List.map_id _)
      have hne : r.1 ≠ k := by
        rintro rfl
        have hrow := (Table.mem_rows_iff t r.1 r.2).1 hr
        rw [hget] at hrow
        cases hrow
      simp [hne]
    rw [hkeep]
    omega
  | some a =>
    rw [Table.sum_updateOne hget]
    have hrow := hg a hget
    simp only [if_true]
    split
    · omega
    · omega

end Tables

section Messages

variable {config : Config} {db db' : Db} {c : Command}

/-- The new messages of a page are all of its conversation. -/
theorem count_withMessages (conversationId : String) (items : List ProviderMessage) (db : Db)
    {p : String → ConversationMessage → Bool} {b : Bool}
    (hp : ∀ message, p message.id (messageOf conversationId message) = b) :
    (withMessages conversationId db items).messages.count p =
      db.messages.count p + if b then newMessages conversationId db items else 0 := by
  induction items generalizing db with
  | nil => simp [withMessages, newMessages]
  | cons message items ih =>
    refine (ih (withMessage conversationId db message)).trans ?_
    have hfirst : (withMessage conversationId db message).messages.count p =
        db.messages.count p +
          if b then (if (db.messages.get message.id).isSome then 0 else 1) else 0 := by
      unfold withMessage
      cases hget : db.messages.get message.id with
      | some stored => simp
      | none => simp [Table.count_set_new hget, hp]
    rw [hfirst]
    simp only [newMessages]
    split
    · omega
    · omega

theorem countedByWorks_withWorks (jobId pageSequence : Nat) (items : List ProviderConversation)
    {db : Db} (hids : FreshWorks db) (conversationId : String) :
    countedByWorks (withWorks db jobId pageSequence items) conversationId =
      countedByWorks db conversationId := by
  induction items generalizing db with
  | nil => rfl
  | cons item items ih =>
    refine (ih (fresh_withWork hids)).trans ?_
    unfold withWork
    split
    · rfl
    · have hnew : db.works.get db.nextWorkId = none := by
        cases hget : db.works.get db.nextWorkId with
        | none => rfl
        | some work => exact absurd (hids _ work hget) (lt_irrefl _)
      unfold countedByWorks
      rw [Table.sum_set_new hnew]
      simp [newWork]

end Messages

/-! ## Steps -/

section Steps

variable {config : Config} {w w' : World} {db db' : Db} {c : Command}
  {known : Set (Known Call.Result)}

theorem accounted_same (h : Accounted db)
    (hworks : ∀ conversationId, countedByWorks db' conversationId ≤ countedByWorks db conversationId)
    (hjobs : countedByJobs db' ≤ countedByJobs db) (hmessages : db'.messages = db.messages) :
    Accounted db' := by
  refine ⟨fun conversationId => ?_, ?_⟩
  · unfold messagesOf
    rw [hmessages]
    exact (hworks conversationId).trans (h.works conversationId)
  · unfold messages
    rw [hmessages]
    exact hjobs.trans h.jobs

/-- The update of jobs by rows that count nothing new. -/
theorem accounted_jobs (h : Accounted db) {q : Nat → HistorySyncJob → Bool}
    {f : HistorySyncJob → HistorySyncJob}
    (hf : ∀ job, (f job).messagesImported = job.messagesImported) :
    Accounted { db with jobs := db.jobs.updateMany q f } := by
  refine accounted_same h (fun _ => le_rfl) ?_ rfl
  have hsum : (db.jobs.updateMany q f).sum (fun _ => true) (fun job => (job.messagesImported : Int)) =
      db.jobs.sum (fun _ => true) (fun job => (job.messagesImported : Int)) :=
    Table.sum_updateMany _ _ _ (fun job => by rw [hf])
  exact hsum.le

theorem advanced_messagesImported (now : Int) (advance : Advance) (job : HistorySyncJob) :
    (advanced config now advance job).messagesImported = job.messagesImported := by
  cases advance with
  | backfill nextToken pagesSinceHead runHead => cases runHead <;> rfl
  | _ => rfl

theorem restarted_messagesImported (existing job : HistorySyncJob) :
    (restarted existing job).messagesImported = job.messagesImported := by
  unfold restarted
  dsimp only
  split
  · rfl
  · rfl

theorem claimed_messagesImported (candidate : HistorySyncJob) (leaseOwner : Nat) (now : Int)
    (job : HistorySyncJob) :
    (claimed config candidate leaseOwner now job).messagesImported = job.messagesImported := by
  unfold claimed
  dsimp only
  split
  · rfl
  · rfl

/-- A page counts its new messages, for the work of their conversation and under a lease. -/
theorem accounted_stored (h : Accounted db) {id leaseOwner workId : Nat} {conversationId : String}
    {page : ProviderPage ProviderMessage} {imported : Bool} {now : Int}
    (hconversation : ∀ work, db.works.get workId = some work →
      work.externalConversationId = conversationId) :
    Accounted (setJobUnder (setWork (withMessages conversationId db page.items) workId
      (worked page (newMessages conversationId db page.items) now)) id leaseOwner
      (counted config page (newMessages conversationId db page.items) imported now)) := by
  have hjobs := jobs_withMessages conversationId page.items db
  have hworks := (works_withMessages conversationId page.items db).1
  refine ⟨fun conversation => ?_, ?_⟩
  · have hcount : messagesOf (withMessages conversationId db page.items) conversation =
        messagesOf db conversation + if decide (conversationId = conversation) then
          newMessages conversationId db page.items else 0 :=
      count_withMessages conversationId page.items db (fun _ => rfl)
    have hsum : countedByWorks (setWork (withMessages conversationId db page.items) workId
        (worked page (newMessages conversationId db page.items) now)) conversation ≤
        countedByWorks db conversation + (if decide (conversationId = conversation) then
          newMessages conversationId db page.items else 0 : Nat) := by
      unfold countedByWorks setWork
      rw [hworks]
      refine sum_updateMany_le _ (Int.natCast_nonneg _) (fun k' _ hk => of_decide_eq_true hk) ?_
      intro work hwork
      simp only [worked, hconversation work hwork]
      split
      · simp [*]
      · simp [*]
    refine le_trans hsum ?_
    have hold := h.works conversation
    have hgoal : (messagesOf (withMessages conversationId db page.items) conversation : Int) =
        messagesOf db conversation + (if decide (conversationId = conversation) then
          newMessages conversationId db page.items else 0 : Nat) := by
      exact_mod_cast hcount
    refine le_trans ?_ hgoal.ge
    omega
  · have hcount : messages (withMessages conversationId db page.items) =
        messages db + if true then newMessages conversationId db page.items else 0 :=
      count_withMessages conversationId page.items db (fun _ => rfl)
    have hsum : countedByJobs (setJobUnder (setWork (withMessages conversationId db page.items)
        workId (worked page (newMessages conversationId db page.items) now)) id leaseOwner
        (counted config page (newMessages conversationId db page.items) imported now)) ≤
        countedByJobs db + newMessages conversationId db page.items := by
      unfold countedByJobs setJobUnder setWork
      rw [hjobs]
      refine sum_updateMany_le (k := id) _ (Int.natCast_nonneg _) (fun k' _ hk => ?_) ?_
      · rw [Bool.and_eq_true] at hk
        exact of_decide_eq_true hk.1
      · intro job _
        simp [counted]
    refine le_trans hsum ?_
    have hold := h.jobs
    have hgoal : (messages (withMessages conversationId db page.items) : Int) =
        messages db + newMessages conversationId db page.items := by
      exact_mod_cast hcount
    refine le_trans ?_ hgoal.ge
    omega

theorem accounted_command {r : c.Result} (hbacked : Backed w) (hkept : Kept config w)
    (hmeant : Sound Meant w known) (hok : CommandGrounds config known c)
    (heffect : Effect config w.db c r db') (h : Accounted w.db) : Accounted db' := by
  cases c with
  | stageConversations id leaseOwner pageSequence page now =>
    have hstaged : Accounted (withWorks w.db id pageSequence page.items) :=
      accounted_same h
        (fun conversationId => (countedByWorks_withWorks id pageSequence page.items hbacked.workIds
          conversationId).le)
        (by unfold countedByJobs; rw [jobs_withWorks])
        (messages_withWorks id pageSequence page.items w.db)
    rw [heffect]
    exact accounted_jobs hstaged (fun _ => rfl)
  | storeMessages id leaseOwner workId shopId creatorId conversationId page imported now =>
    obtain ⟨job, read, _, _, hfound, hid, _⟩ := hok
    obtain ⟨_, _, _, hconversation⟩ := hmeant _ _ hfound
    rw [heffect.2]
    exact accounted_stored h (fun work hwork => (hconversation work hwork).trans hid)
  | advanceCompletedPage id leaseOwner advance now =>
    rw [heffect]
    exact accounted_jobs h (advanced_messagesImported now advance)
  | recoverCursor id job error now =>
    rw [heffect]
    have hremoved : Accounted (withoutWorks w.db id job.pageSequence) := by
      refine accounted_same h (fun conversationId => ?_) le_rfl rfl
      refine sum_deleteMany_le _ _ _ (fun work => ?_)
      split
      · exact Int.natCast_nonneg _
      · exact le_rfl
    exact accounted_jobs hremoved (fun _ => rfl)
  | backOff =>
    rw [heffect]
    exact accounted_jobs h (fun _ => rfl)
  | fail =>
    rw [heffect]
    exact accounted_jobs h (fun _ => rfl)
  | restart id existing =>
    rw [heffect]
    exact accounted_jobs h (restarted_messagesImported existing)
  | createJob shopId =>
    have hnew : w.db.jobs.get w.db.nextJobId = none := by
      cases hget : w.db.jobs.get w.db.nextJobId with
      | none => rfl
      | some job => exact absurd (hkept.ids _ job hget) (lt_irrefl _)
    rw [heffect.2]
    refine accounted_same h (fun _ => le_rfl) ?_ rfl
    unfold countedByJobs
    rw [Table.sum_set_new hnew]
    simp
  | pause =>
    rw [heffect]
    exact accounted_jobs h (fun _ => rfl)
  | queueIncremental =>
    rw [heffect]
    exact accounted_jobs h (fun _ => rfl)
  | upsertConversation =>
    obtain ⟨conversations, rfl⟩ := heffect
    exact ⟨h.works, h.jobs⟩
  | findWork =>
    rw [heffect.2.2]
    exact h
  | jobUnderLease =>
    rw [heffect.2.2]
    exact h
  | auditEvent =>
    rw [heffect]
    exact h
  | _ =>
    rw [heffect.2]
    exact h

theorem accounted_exec {d : Call} {answer : d.Answer} (hbacked : Backed w) (hkept : Kept config w)
    (hmeant : Sound Meant w known) (hok : Grounds config known d)
    (hexec : Exec config w d answer w') (h : Accounted w.db) : Accounted w'.db := by
  cases hexec with
  | commit c r db hrun => exact accounted_command hbacked hkept hmeant hok (effect_of_run hrun) h
  | lost c r db e hrun => exact accounted_command hbacked hkept hmeant hok (effect_of_run hrun) h
  | failed => exact h
  | claimed id candidate now n db hrun =>
    rw [claim_effect hrun]
    exact accounted_jobs h (claimed_messagesImported candidate w.nextLease now)
  | claimLost id candidate now n db e hrun =>
    rw [claim_effect hrun]
    exact accounted_jobs h (claimed_messagesImported candidate w.nextLease now)
  | claimFailed => exact h
  | other => exact h

theorem accounts_further (config : Config) :
    Further (machine config) (fun known c => Grounds config known c)
      (fun w => Backed w ∧ Kept config w) (fun w => Accounted w.db)
      (fun w c a => Meant w c a ∧ Told config w c a) (fun _ _ _ => True) where
  inv known w c answer w' hact := by
    obtain ⟨i, hexec⟩ := hact.exec
    obtain ⟨⟨hbacked, hkept⟩, haccounted⟩ := hact.inv
    exact accounted_exec hbacked hkept (fun c a ha => (hact.sound c a ha).1.1) hact.ground hexec
      haccounted
  learn _ _ _ _ _ _ := trivial
  retain _ _ _ _ _ _ _ _ _ := trivial

end Steps

/-! ## The main result -/

section Main

variable {config : Config} {pool : Pool World Call Call.Answer} {ls : List (Label Call Call.Answer)}

/-- In every reachable state the works of a conversation count no more messages than are stored of
it, and the jobs no more than are stored at all, whatever workers repeat pages or come late. -/
theorem messages_are_counted_once (h : SystemRun config initial ls pool) :
    Accounted pool.world.db := by
  have hinitial : Accounted initial.world.db := ⟨fun _ => le_rfl, le_rfl⟩
  have hrun := run_stable (quiet_machine config) ((passes_stable config).further
    (accounts_further config)) (fun _ hp => startable_conforms hp) h (fun _ => rfl)
    ⟨⟨backed_initial, kept_initial config⟩, hinitial⟩
  exact hrun.2

theorem messages_are_counted_once_in_the_sample : ∃ ls pool,
    SystemRun Config.defaults initial ls pool ∧ (pool.world.db.jobs.get 0).isSome = true ∧
      countedByWorks pool.world.db "c1" ≤ messagesOf pool.world.db "c1" := by
  obtain ⟨ls, pool, job, hrun, hjob, _⟩ := exists_completed
  have hsystem : SystemRun Config.defaults initial ls pool :=
    hrun.mono (fun _ _ _ hstep => hstep.1)
  exact ⟨ls, pool, hsystem, by rw [hjob]; rfl, (messages_are_counted_once hsystem).works "c1"⟩

end Main

end tiktok_outreach.history_accounts
