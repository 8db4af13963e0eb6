-- The passes of the history sync: how the columns of a job hang together in every
-- reachable state, and what no step of any worker or operator takes back.
import TiktokOutreach.HistoryCoverage

open tables transactions runs executions knowledge tiktok_outreach.history_schema
  tiktok_outreach.history_sync tiktok_outreach.history_worker tiktok_outreach.history_effects
  tiktok_outreach.history_frames tiktok_outreach.history_system tiktok_outreach.history_plays
  tiktok_outreach.history_coverage

namespace tiktok_outreach.history_passes

/-! ## The columns of a job -/

/-- The counters and the kinds of the passes. -/
structure Passes (config : Config) (job : HistorySyncJob) : Prop where
  sequence : job.pageSequence = job.pagesProcessed + job.cursorRecoveryCount
  mode : job.mode = .INCREMENTAL ↔ job.initialCompletedAt.isSome = true
  pass : job.passKind = .INCREMENTAL → job.mode = .INCREMENTAL
  index : job.incrementalPageIndex < max 1 config.incrementalPages
  /-- The newest conversations are reconciled in time, but for the passes that a recovery cut. -/
  head : job.backfillPagesSinceHead ≤
    max 1 config.headEveryBackfillPages + job.cursorRecoveryCount
  backfill : job.passKind = .BACKFILL →
    job.backfillPagesSinceHead < max 1 config.headEveryBackfillPages + job.cursorRecoveryCount

/-- What the state of a job says of its other columns. -/
structure Waits (config : Config) (job : HistorySyncJob) : Prop where
  resting : job.state = .COMPLETE ∨ job.state = .BACKING_OFF ∨ job.state = .FAILED →
    job.leaseOwner = none
  complete : job.state = .COMPLETE → job.mode = .INCREMENTAL ∧ ∃ time,
    job.completedAt = some time ∧ job.nextAttemptAt = some (time + config.incrementalIntervalMs)
  backingOff : job.state = .BACKING_OFF → job.nextAttemptAt.isSome = true
  failed : job.state = .FAILED → job.nextAttemptAt = none ∧ job.lastErrorCategory.isSome = true

structure Orderly (config : Config) (job : HistorySyncJob) : Prop where
  passes : Passes config job
  waits : Waits config job

section Rows

variable {config : Config} {row job : HistorySyncJob} {leaseOwner : Nat} {now : Int}

/-- The state is none in which a job waits without a lease. -/
def atWork (state : HistorySyncState) : Bool :=
  state ≠ .COMPLETE && state ≠ .BACKING_OFF && state ≠ .FAILED

theorem waits_atWork (h : atWork job.state = true) : Waits config job := by
  constructor
  · rintro (hstate | hstate | hstate) <;> rw [hstate] at h <;> cases h
  · intro hstate
    rw [hstate] at h
    cases h
  · intro hstate
    rw [hstate] at h
    cases h
  · intro hstate
    rw [hstate] at h
    cases h

theorem atWork_of_lease (h : Waits config row) (hholds : row.leaseOwner = some leaseOwner) :
    atWork row.state = true := by
  have hrests : ¬ (row.state = .COMPLETE ∨ row.state = .BACKING_OFF ∨ row.state = .FAILED) := by
    intro hstate
    rw [h.resting hstate] at hholds
    cases hholds
  simpa [atWork, not_or, and_assoc] using hrests

theorem orderly_new (config : Config) (shopId : String) : Orderly config { shopId } where
  passes := ⟨rfl, by simp, nofun, by simp, by simp, by simp⟩
  waits := waits_atWork rfl

/-- The columns of the passes. -/
def shape (job : HistorySyncJob) :=
  (job.mode, job.passKind, job.pageSequence, job.pagesProcessed, job.cursorRecoveryCount,
    job.initialCompletedAt, job.incrementalPageIndex, job.backfillPagesSinceHead)

theorem passes_shape (h : Passes config row) (hshape : shape job = shape row) :
    Passes config job := by
  simp only [shape, Prod.mk.injEq] at hshape
  obtain ⟨hmode, hpass, hsequence, hpages, hrecoveries, hinitial, hindex, hsince⟩ := hshape
  constructor
  · rw [hsequence, hpages, hrecoveries]
    exact h.sequence
  · rw [hmode, hinitial]
    exact h.mode
  · rw [hpass, hmode]
    exact h.pass
  · rw [hindex]
    exact h.index
  · rw [hsince, hrecoveries]
    exact h.head
  · rw [hpass, hsince, hrecoveries]
    exact h.backfill

/-- A job whose progress on a page is written under its lease. -/
theorem orderly_underLease (h : Orderly config row) (hholds : row.leaseOwner = some leaseOwner)
    (hshape : shape job = shape row) (hstate : job.state = row.state) : Orderly config job := by
  refine ⟨passes_shape h.passes hshape, waits_atWork ?_⟩
  rw [hstate]
  exact atWork_of_lease h.waits hholds

theorem passes_advanced (h : Passes config row) (hsettled : settled row = settled job)
    {advance : Advance} (hdecided : Decided config job advance) :
    Passes config (advanced config now advance row) := by
  have hpass : row.passKind = job.passKind := congrArg (·.passKind) hsettled
  have hsince : row.backfillPagesSinceHead = job.backfillPagesSinceHead :=
    congrArg (·.backfillPagesSinceHead) hsettled
  have hsequence : row.pageSequence + 1 = row.pagesProcessed + 1 + row.cursorRecoveryCount := by
    have hold := h.sequence
    omega
  cases advance with
  | head =>
    exact ⟨hsequence, h.mode, nofun, h.index, Nat.zero_le _, fun _ => by simp [advanced, common]⟩
  | backfill nextToken pagesSinceHead runHead =>
    obtain ⟨hkind, _, _, _, rfl, rfl⟩ := hdecided
    have hbackfill := h.backfill (hpass.trans hkind)
    rw [hsince] at hbackfill
    by_cases hrun : config.headEveryBackfillPages ≤ job.backfillPagesSinceHead + 1
    · simp only [advanced, decide_eq_true hrun, if_true]
      exact ⟨hsequence, h.mode, nofun, h.index, hbackfill, nofun⟩
    · simp only [advanced, decide_eq_false hrun, Bool.false_eq_true, if_false]
      refine ⟨hsequence, h.mode, h.pass, h.index, hbackfill, fun _ => ?_⟩
      simp only [common, released]
      omega
  | backfillComplete initialCompletedAt =>
    exact ⟨hsequence, by simp [advanced], fun _ => rfl, h.index, h.head, nofun⟩
  | incremental nextToken nextIndex =>
    obtain ⟨_, _, _, _, hindex⟩ := hdecided
    exact ⟨hsequence, h.mode, h.pass, lt_of_lt_of_le hindex (le_max_right _ _), h.head, h.backfill⟩
  | incrementalComplete =>
    exact ⟨hsequence, h.mode, fun _ => h.pass (hpass.trans hdecided), by simp [advanced], h.head,
      nofun⟩

theorem orderly_advanced (h : Orderly config row) (hholds : row.leaseOwner = some leaseOwner)
    (hsettled : settled row = settled job) {advance : Advance}
    (hdecided : Decided config job advance) : Orderly config (advanced config now advance row) := by
  refine ⟨passes_advanced h.passes hsettled hdecided, ?_⟩
  have hwork := atWork_of_lease h.waits hholds
  cases advance with
  | head => exact waits_atWork hwork
  | backfill nextToken pagesSinceHead runHead => cases runHead <;> exact waits_atWork hwork
  | backfillComplete => exact ⟨fun _ => rfl, fun _ => ⟨rfl, now, rfl, rfl⟩, nofun, nofun⟩
  | incremental => exact waits_atWork hwork
  | incrementalComplete =>
    have hpass : row.passKind = job.passKind := congrArg (·.passKind) hsettled
    have hmode : row.mode = .INCREMENTAL := h.passes.pass (hpass.trans hdecided)
    exact ⟨fun _ => rfl, fun _ => ⟨hmode, now, rfl, rfl⟩, nofun, nofun⟩

theorem orderly_recovered (h : Orderly config row) (error : TikTokApiError)
    (hmode : job.mode = .INCREMENTAL → row.mode = .INCREMENTAL) :
    Orderly config (recovered job error now row) := by
  have hsequence := h.passes.sequence
  have hhead := h.passes.head
  refine ⟨⟨?_, h.passes.mode, ?_, h.passes.index, ?_, ?_⟩, waits_atWork rfl⟩
  · simp only [recovered]
    omega
  · simp only [recovered]
    intro hpass
    split at hpass
    · cases hpass
    · rename_i hinitial
      cases hjob : job.mode with
      | INITIAL_BACKFILL => exact absurd hjob hinitial
      | INCREMENTAL => exact hmode hjob
  · simp only [recovered]
    omega
  · -- a pass over the newest conversations that is cut leaves its count of pages
    simp only [recovered]
    omega

theorem orderly_incrementalQueued (h : Orderly config row)
    (hinitial : row.initialCompletedAt.isSome = true) : Orderly config (incrementalQueued row) := by
  refine ⟨⟨h.passes.sequence, ?_, fun _ => rfl, ?_, h.passes.head, nofun⟩, waits_atWork rfl⟩
  · simpa [incrementalQueued] using hinitial
  · simp [incrementalQueued]

theorem orderly_claimed (h : Orderly config row) {candidate : HistorySyncJob}
    (hmode : candidate.state = .COMPLETE → row.mode = .INCREMENTAL) :
    Orderly config (claimed config candidate leaseOwner now row) := by
  by_cases hcomplete : candidate.state = .COMPLETE
  · simp only [claimed, hcomplete, if_true]
    exact ⟨⟨h.passes.sequence, h.passes.mode, fun _ => hmode hcomplete, by simp, h.passes.head,
      nofun⟩, waits_atWork rfl⟩
  · simp only [claimed, hcomplete, if_false]
    exact ⟨passes_shape h.passes rfl, waits_atWork rfl⟩

theorem orderly_restarted (h : Orderly config row) (existing : HistorySyncJob) :
    Orderly config (restarted existing row) := by
  unfold restarted
  dsimp only
  split
  · exact ⟨passes_shape h.passes rfl, waits_atWork rfl⟩
  · exact ⟨passes_shape h.passes rfl, waits_atWork rfl⟩

end Rows

/-! ## The commands -/

/-- The counters of a job, which only grow. -/
def counters (job : HistorySyncJob) :=
  (job.pageSequence, job.pagesProcessed, job.cursorRecoveryCount, job.conversationsDiscovered,
    job.conversationsImported, job.conversationsCompleted, job.messagesImported,
    job.totalProviderRequests)

/-- What no step takes back of a job. -/
structure Later (old new : HistorySyncJob) : Prop where
  shopId : new.shopId = old.shopId
  counters : counters old ≤ counters new
  mode : old.mode = .INCREMENTAL → new.mode = .INCREMENTAL
  initialCompletedAt : ∀ time, old.initialCompletedAt = some time →
    new.initialCompletedAt = some time

theorem later_refl (job : HistorySyncJob) : Later job job := ⟨rfl, le_rfl, id, fun _ => id⟩

theorem later_trans {a b c : HistorySyncJob} (h : Later a b) (h' : Later b c) : Later a c where
  shopId := h'.shopId.trans h.shopId
  counters := h.counters.trans h'.counters
  mode := h'.mode ∘ h.mode
  initialCompletedAt time := h'.initialCompletedAt time ∘ h.initialCompletedAt time

/-- A job that was read. Its row is still there, and is no earlier one. -/
def Seen (config : Config) (w : World) (id : Nat) (job : HistorySyncJob) : Prop :=
  Orderly config job ∧ ∃ row, w.db.jobs.get id = some row ∧ Later job row

/-- What an answer says of the passes. -/
def Told (config : Config) (w : World) : (c : Call) → c.Result → Prop
  | .db (.findCandidate _), (found : Option (Nat × HistorySyncJob)) =>
    ∀ id job, found = some (id, job) → Seen config w id job
  | .db (.findUnderLease id _), (found : Option HistorySyncJob) =>
    ∀ job, found = some job → Seen config w id job
  | .db (.findJobOfShop _), (found : Option (Nat × HistorySyncJob)) =>
    ∀ id job, found = some (id, job) → Seen config w id job
  | _, _ => True

/-- The jobs of the shops, with the order of their passes. -/
structure Kept (config : Config) (w : World) : Prop where
  rows : ∀ id job, w.db.jobs.get id = some job → Orderly config job
  ids : ∀ id job, w.db.jobs.get id = some job → id < w.db.nextJobId
  single : ∀ id id' job job', w.db.jobs.get id = some job → w.db.jobs.get id' = some job' →
    job.shopId = job'.shopId → id = id'

section Commands

variable {config : Config} {w : World} {db' : Db} {c : Command} {i : Nat}
  {known : Set (Known Call.Result)} {row : HistorySyncJob}

/-- What a command stands on, against the row that it finds. -/
def Faces (config : Config) (c : Command) (i : Nat) (row : HistorySyncJob) : Prop :=
  match c with
  | .advanceCompletedPage jobId leaseOwner advance _ => i = jobId → holds leaseOwner row = true →
    ∃ job, settled row = settled job ∧ Decided config job advance
  | .recoverCursor jobId job _ _ => i = jobId → job.mode = .INCREMENTAL → row.mode = .INCREMENTAL
  | .queueIncremental jobId => i = jobId → row.initialCompletedAt.isSome = true
  | _ => True

theorem orderly_rowAfter (h : Orderly config row) (hfaces : Faces config c i row) :
    Orderly config (rowAfter config w.db c i row) := by
  have hif : ∀ {p : Prop} [Decidable p] {f : HistorySyncJob → HistorySyncJob},
      (p → Orderly config (f row)) → Orderly config (if p then f row else row) := by
    intro p _ f hf
    split
    · rename_i hp
      exact hf hp
    · exact h
  cases c with
  | stageConversations => exact hif (fun hp => orderly_underLease h (of_decide_eq_true hp.2) rfl rfl)
  | storeMessages => exact hif (fun hp => orderly_underLease h (of_decide_eq_true hp.2) rfl rfl)
  | advanceCompletedPage jobId leaseOwner advance now =>
    refine hif (fun hp => ?_)
    obtain ⟨job, hsettled, hdecided⟩ := hfaces hp.1 hp.2
    exact orderly_advanced h (of_decide_eq_true hp.2) hsettled hdecided
  | recoverCursor jobId job error now => exact hif (fun hp => orderly_recovered h error (hfaces hp))
  | backOff =>
    exact hif (fun _ => ⟨passes_shape h.passes rfl, fun _ => rfl, nofun, fun _ => rfl, nofun⟩)
  | fail => exact hif (fun _ => ⟨passes_shape h.passes rfl, fun _ => rfl, nofun, nofun,
      fun _ => ⟨rfl, rfl⟩⟩)
  | restart jobId existing => exact hif (fun _ => orderly_restarted h existing)
  | pause => exact hif (fun _ => ⟨passes_shape h.passes rfl, waits_atWork rfl⟩)
  | queueIncremental => exact hif (fun hp => orderly_incrementalQueued h (hfaces hp))
  | _ => exact h

theorem later_rowAfter (hfaces : Faces config c i row) :
    Later row (rowAfter config w.db c i row) := by
  have hif : ∀ {p : Prop} [Decidable p] {f : HistorySyncJob → HistorySyncJob},
      (p → Later row (f row)) → Later row (if p then f row else row) := by
    intro p _ f hf
    split
    · rename_i hp
      exact hf hp
    · exact later_refl row
  cases c with
  | stageConversations =>
    exact hif (fun _ => ⟨rfl, by simp [counters, listed, answered, released], id, fun _ => id⟩)
  | storeMessages =>
    exact hif (fun _ => ⟨rfl, by simp [counters, counted, answered, released], id, fun _ => id⟩)
  | advanceCompletedPage jobId leaseOwner advance now =>
    refine hif (fun hp => ?_)
    have hcounters : counters row ≤ counters (advanced config now advance row) := by
      cases advance with
      | backfill nextToken pagesSinceHead runHead =>
        cases runHead <;> simp [counters, advanced, common, released]
      | _ => simp [counters, advanced, common, released]
    cases advance with
    | backfill nextToken pagesSinceHead runHead =>
      cases runHead <;> exact ⟨rfl, hcounters, id, fun _ => id⟩
    | backfillComplete initialCompletedAt =>
      obtain ⟨job, hsettled, _, _, rfl⟩ := hfaces hp.1 hp.2
      have hinitial : row.initialCompletedAt = job.initialCompletedAt :=
        congrArg (·.initialCompletedAt) hsettled
      refine ⟨rfl, hcounters, fun _ => rfl, fun time htime => ?_⟩
      simp [advanced, ← hinitial, htime]
    | _ => exact ⟨rfl, hcounters, id, fun _ => id⟩
  | recoverCursor => exact hif (fun _ => ⟨rfl, by simp [counters, recovered], id, fun _ => id⟩)
  | backOff => exact hif (fun _ => ⟨rfl, by simp [counters, backedOff], id, fun _ => id⟩)
  | fail => exact hif (fun _ => ⟨rfl, by simp [counters, failed], id, fun _ => id⟩)
  | restart jobId existing =>
    refine hif (fun _ => ?_)
    unfold restarted
    dsimp only
    split
    · exact ⟨rfl, le_rfl, id, fun _ => id⟩
    · exact ⟨rfl, le_rfl, id, fun _ => id⟩
  | pause => exact hif (fun _ => ⟨rfl, le_rfl, id, fun _ => id⟩)
  | queueIncremental => exact hif (fun _ => ⟨rfl, le_rfl, fun _ => rfl, fun _ => id⟩)
  | _ => exact later_refl row

theorem later_of_seen {job : HistorySyncJob} (h : Seen config w i job)
    (hrow : w.db.jobs.get i = some row) : Later job row := by
  obtain ⟨_, row', hrow', hlater⟩ := h
  have hsame : some row' = some row := hrow'.symm.trans hrow
  rwa [Option.some.inj hsame] at hlater

theorem faces_of_grounds (hkept : Kept config w) (hmeant : Sound Meant w known)
    (htold : Sound (Told config) w known) (hok : CommandGrounds config known c)
    (hrow : w.db.jobs.get i = some row) : Faces config c i row := by
  cases c with
  | advanceCompletedPage jobId leaseOwner advance now =>
    rintro rfl hholds
    obtain ⟨job, hreads, _, _, hdecided⟩ := hok
    exact ⟨job, settled_of_reads hmeant hreads hrow hholds, hdecided⟩
  | recoverCursor jobId job error now =>
    rintro rfl hmode
    obtain ⟨⟨leaseOwner, hfound⟩, _⟩ := hok
    have hseen : Seen config w i job := htold _ _ hfound job rfl
    exact (later_of_seen hseen hrow).mode hmode
  | queueIncremental jobId =>
    rintro rfl
    obtain ⟨existing, ⟨shopId, hfound⟩, hinitial, _⟩ := hok
    have hseen : Seen config w i existing := htold _ _ hfound i existing rfl
    have hmode := (later_of_seen hseen hrow).mode (hseen.1.passes.mode.2 hinitial)
    exact (hkept.rows i row hrow).passes.mode.1 hmode
  | _ => trivial

theorem nextJobId_of_effect {db : Db} {r : c.Result} (h : Effect config db c r db') :
    db.nextJobId ≤ db'.nextJobId := by
  cases c with
  | stageConversations id leaseOwner pageSequence page now =>
    have hworks : ∀ (items : List ProviderConversation) (db : Db),
        (withWorks db id pageSequence items).nextJobId = db.nextJobId := by
      intro items
      induction items with
      | nil => exact fun _ => rfl
      | cons item items ih =>
        intro db
        refine (ih (withWork db id pageSequence item)).trans ?_
        unfold withWork
        split
        · rfl
        · rfl
    rw [h]
    exact (hworks page.items db).symm.le
  | storeMessages id leaseOwner workId shopId creatorId conversationId page imported now =>
    have hmessages : ∀ (messages : List ProviderMessage) (db : Db),
        (withMessages conversationId db messages).nextJobId = db.nextJobId := by
      intro messages
      induction messages with
      | nil => exact fun _ => rfl
      | cons message messages ih =>
        intro db
        refine (ih (withMessage conversationId db message)).trans ?_
        unfold withMessage
        split
        · rfl
        · rfl
    rw [h.2]
    exact (hmessages page.items db).symm.le
  | createJob shopId =>
    rw [h.2]
    exact Nat.le_succ _
  | upsertConversation =>
    obtain ⟨conversations, rfl⟩ := h
    exact le_rfl
  | findWork => rw [h.2.2]
  | jobUnderLease => rw [h.2.2]
  | findCandidate => rw [h.2]
  | findConversation => rw [h.2]
  | findUnderLease => rw [h.2]
  | findJobOfShop => rw [h.2]
  | _ => exact (congrArg Db.nextJobId h).symm.le

/-- A job goes on after a command. -/
theorem row_after {r : c.Result} (hkept : Kept config w) (h : Effect config w.db c r db')
    (hrow : w.db.jobs.get i = some row) :
    db'.jobs.get i = some (rowAfter config w.db c i row) := by
  by_cases hcreate : ∃ shopId, c = .createJob shopId
  · obtain ⟨shopId, rfl⟩ := hcreate
    have hbelow := hkept.ids i row hrow
    have hne : i ≠ w.db.nextJobId := by omega
    rw [h.2, Table.get_set, if_neg hne]
    exact hrow
  · push Not at hcreate
    rw [jobs_of_effect h hcreate, hrow]
    rfl

theorem kept_command {r : c.Result} (hkept : Kept config w) (hmeant : Sound Meant w known)
    (htold : Sound (Told config) w known) (hok : CommandGrounds config known c)
    (h : Effect config w.db c r db') : Kept config { w with db := db' } := by
  have hfaces : ∀ {i row}, w.db.jobs.get i = some row → Faces config c i row :=
    fun hrow => faces_of_grounds hkept hmeant htold hok hrow
  by_cases hcreate : ∃ shopId, c = .createJob shopId
  · obtain ⟨shopId, rfl⟩ := hcreate
    obtain ⟨hnone, rfl⟩ := h
    -- the new job is the only one of its shop
    have hrows : ∀ id job, (w.db.jobs.set w.db.nextJobId { shopId }).get id = some job →
        (id = w.db.nextJobId ∧ job = { shopId }) ∨ w.db.jobs.get id = some job := by
      intro id job hjob
      rw [Table.get_set] at hjob
      split at hjob
      · rename_i hid
        exact .inl ⟨hid, (Option.some.inj hjob).symm⟩
      · exact .inr hjob
    constructor
    · intro id job hjob
      rcases hrows id job hjob with ⟨_, rfl⟩ | hold
      · exact orderly_new config shopId
      · exact hkept.rows id job hold
    · intro id job hjob
      rcases hrows id job hjob with ⟨rfl, _⟩ | hold
      · exact Nat.lt_succ_self _
      · exact Nat.lt_succ_of_lt (hkept.ids id job hold)
    · intro id id' job job' hjob hjob' hshop
      rcases hrows id job hjob with ⟨rfl, rfl⟩ | hold <;>
        rcases hrows id' job' hjob' with ⟨rfl, rfl⟩ | hold'
      · rfl
      · exact absurd hshop.symm (hnone id' job' hold')
      · exact absurd hshop (hnone id job hold)
      · exact hkept.single id id' job job' hold hold' hshop
  · push Not at hcreate
    have hrows : ∀ id job, db'.jobs.get id = some job →
        ∃ old, w.db.jobs.get id = some old ∧ rowAfter config w.db c id old = job := by
      intro id job hjob
      rwa [jobs_of_effect h hcreate, Option.map_eq_some_iff] at hjob
    constructor
    · intro id job hjob
      obtain ⟨old, hold, rfl⟩ := hrows id job hjob
      exact orderly_rowAfter (hkept.rows id old hold) (hfaces hold)
    · intro id job hjob
      obtain ⟨old, hold, rfl⟩ := hrows id job hjob
      exact (hkept.ids id old hold).trans_le (nextJobId_of_effect h)
    · intro id id' job job' hjob hjob' hshop
      obtain ⟨old, hold, rfl⟩ := hrows id job hjob
      obtain ⟨old', hold', rfl⟩ := hrows id' job' hjob'
      have hfirst : old.shopId = old'.shopId :=
        (later_rowAfter (hfaces hold)).shopId.symm.trans
          (hshop.trans (later_rowAfter (hfaces hold')).shopId)
      exact hkept.single id id' old old' hold hold' hfirst

end Commands

/-! ## The calls -/

/-- No step takes back what is in the database. -/
structure Onward (w w' : World) : Prop where
  jobs : ∀ id old, w.db.jobs.get id = some old →
    ∃ new, w'.db.jobs.get id = some new ∧ Later old new
  messages : ∀ id message, w.db.messages.get id = some message →
    w'.db.messages.get id = some message

theorem onward_refl (w : World) : Onward w w :=
  ⟨fun _ old hold => ⟨old, hold, later_refl old⟩, fun _ _ hmessage => hmessage⟩

theorem onward_trans {a b c : World} (h : Onward a b) (h' : Onward b c) : Onward a c where
  jobs id old hold := by
    obtain ⟨next, hnext, hlater⟩ := h.jobs id old hold
    obtain ⟨new, hnew, hlater'⟩ := h'.jobs id next hnext
    exact ⟨new, hnew, later_trans hlater hlater'⟩
  messages id message hmessage := h'.messages id message (h.messages id message hmessage)

section Calls

variable {config : Config} {w w' : World} {c : Call} {known : Set (Known Call.Result)}

theorem later_claimed {candidate row : HistorySyncJob} {leaseOwner : Nat} {now : Int} :
    Later row (claimed config candidate leaseOwner now row) := by
  unfold claimed
  dsimp only
  split
  · exact ⟨rfl, le_rfl, id, fun _ => id⟩
  · exact ⟨rfl, le_rfl, id, fun _ => id⟩

theorem onward_claimed {id : Nat} {candidate : HistorySyncJob} {now : Int} :
    Onward w { w with
      db := setClaimed config w.db id candidate w.nextLease now, nextLease := w.nextLease + 1 } where
  jobs i old hold := by
    refine ⟨_, (get_setClaimed w.db id candidate w.nextLease now i).trans
      (congrArg (Option.map _) hold), ?_⟩
    dsimp only
    split
    · exact later_claimed
    · exact later_refl old
  messages _ _ hmessage := hmessage

theorem kept_claimed {id : Nat} {candidate : HistorySyncJob} {now : Int} (hkept : Kept config w)
    (htold : Sound (Told config) w known) (hok : Grounds config known (.claim id candidate now)) :
    Kept config { w with
      db := setClaimed config w.db id candidate w.nextLease now, nextLease := w.nextLease + 1 } := by
  obtain ⟨⟨time, hfound⟩, hcomplete⟩ := hok
  have hseen : Seen config w id candidate := htold _ _ hfound id candidate rfl
  constructor
  · intro i job hjob
    rw [get_setClaimed, Option.map_eq_some_iff] at hjob
    obtain ⟨old, hold, rfl⟩ := hjob
    split
    · rename_i hclaims
      obtain ⟨rfl, _⟩ := hclaims
      exact orderly_claimed (hkept.rows i old hold)
        (fun hc => (later_of_seen hseen hold).mode (hcomplete hc))
    · exact hkept.rows i old hold
  · intro i job hjob
    obtain ⟨old, hold, _⟩ := row_of_claim hjob
    exact hkept.ids i old hold
  · intro i i' job job' hjob hjob' hshop
    have hold : ∀ {i job}, (setClaimed config w.db id candidate w.nextLease now).jobs.get i =
        some job → ∃ old, w.db.jobs.get i = some old ∧ old.shopId = job.shopId := by
      intro i job hjob
      obtain ⟨old, hold, rfl | rfl⟩ := row_of_claim hjob
      · exact ⟨_, hold, rfl⟩
      · exact ⟨old, hold, later_claimed.shopId.symm⟩
    obtain ⟨old, hget, hsame⟩ := hold hjob
    obtain ⟨old', hget', hsame'⟩ := hold hjob'
    exact hkept.single i i' old old' hget hget' (hsame.trans (hshop.trans hsame'.symm))

theorem onward_command {d : Command} {r : d.Result} {db : Db} (hkept : Kept config w)
    (hmeant : Sound Meant w known) (htold : Sound (Told config) w known)
    (hok : CommandGrounds config known d) (h : Effect config w.db d r db) :
    Onward w { w with db } where
  jobs _ _ hold := ⟨_, row_after hkept h hold,
    later_rowAfter (faces_of_grounds hkept hmeant htold hok hold)⟩
  messages _ _ hmessage := message_of_effect h hmessage

theorem onward_exec {answer : c.Answer} (hkept : Kept config w) (hmeant : Sound Meant w known)
    (htold : Sound (Told config) w known) (hok : Grounds config known c)
    (hexec : Exec config w c answer w') : Onward w w' := by
  cases hexec with
  | commit d r db hrun => exact onward_command hkept hmeant htold hok (effect_of_run hrun)
  | lost d r db e hrun => exact onward_command hkept hmeant htold hok (effect_of_run hrun)
  | failed => exact onward_refl w
  | claimed id candidate now n db hrun =>
    rw [claim_effect hrun]
    exact onward_claimed
  | claimLost id candidate now n db e hrun =>
    rw [claim_effect hrun]
    exact onward_claimed
  | claimFailed => exact ⟨(onward_refl w).jobs, fun _ _ hmessage => hmessage⟩
  | other => exact ⟨(onward_refl w).jobs, fun _ _ hmessage => hmessage⟩

theorem kept_exec {answer : c.Answer} (hkept : Kept config w) (hmeant : Sound Meant w known)
    (htold : Sound (Told config) w known) (hok : Grounds config known c)
    (hexec : Exec config w c answer w') : Kept config w' := by
  cases hexec with
  | commit d r db hrun => exact kept_command hkept hmeant htold hok (effect_of_run hrun)
  | lost d r db e hrun => exact kept_command hkept hmeant htold hok (effect_of_run hrun)
  | failed => exact hkept
  | claimed id candidate now n db hrun =>
    rw [claim_effect hrun]
    exact kept_claimed hkept htold hok
  | claimLost id candidate now n db e hrun =>
    rw [claim_effect hrun]
    exact kept_claimed hkept htold hok
  | claimFailed => exact ⟨hkept.rows, hkept.ids, hkept.single⟩
  | other => exact ⟨hkept.rows, hkept.ids, hkept.single⟩

theorem seen_onward {id : Nat} {job : HistorySyncJob} (honward : Onward w w')
    (h : Seen config w id job) : Seen config w' id job := by
  obtain ⟨horderly, row, hrow, hlater⟩ := h
  obtain ⟨new, hnew, hnext⟩ := honward.jobs id row hrow
  exact ⟨horderly, new, hnew, later_trans hlater hnext⟩

theorem seen_here {id : Nat} {job : HistorySyncJob} (hkept : Kept config w)
    (hjob : w.db.jobs.get id = some job) : Seen config w id job :=
  ⟨hkept.rows id job hjob, job, hjob, later_refl job⟩

theorem told_onward (honward : Onward w w') {a : c.Result} (h : Told config w c a) :
    Told config w' c a := by
  cases c with
  | db d =>
    cases d with
    | findCandidate => exact fun id job hfound => seen_onward honward (h id job hfound)
    | findUnderLease => exact fun job hfound => seen_onward honward (h job hfound)
    | findJobOfShop => exact fun id job hfound => seen_onward honward (h id job hfound)
    | _ => trivial
  | _ => trivial

theorem told_answer {a : c.Result} (hkept : Kept config w) (hexec : Exec config w c (.ok a) w') :
    Told config w' c a := by
  cases c with
  | db d =>
    cases hexec with
    | other _ _ helsewhere => cases helsewhere
    | commit _ r db hrun =>
      have heffect := effect_of_run hrun
      cases d with
      | findCandidate now =>
        obtain ⟨hfound, rfl⟩ := heffect
        exact fun id job h => seen_here hkept (hfound id job h)
      | findUnderLease id leaseOwner =>
        obtain ⟨hfound, rfl⟩ := heffect
        exact fun job h => seen_here hkept (hfound job h).1
      | findJobOfShop shopId =>
        obtain ⟨hfound, rfl⟩ := heffect
        exact fun id job h => seen_here hkept (hfound id job h).1
      | _ => trivial
  | _ => trivial

theorem passes_further (config : Config) :
    Further (machine config) (fun known c => Grounds config known c) Backed (Kept config) Meant
      (Told config) where
  inv known w c answer w' hact := by
    obtain ⟨i, hexec⟩ := hact.exec
    exact kept_exec hact.inv.2 (act_first hact).sound (fun c a ha => (hact.sound c a ha).2)
      hact.ground hexec
  learn known w c a w' hact := by
    obtain ⟨i, hexec⟩ := hact.exec
    exact told_answer hact.inv.2 hexec
  retain known w c answer w' c' a' hact h := by
    obtain ⟨i, hexec⟩ := hact.exec
    have honward : Onward w w' := onward_exec hact.inv.2 (act_first hact).sound
      (fun c a ha => (hact.sound c a ha).2) hact.ground hexec
    exact told_onward honward h

theorem passes_stable (config : Config) :
    Stable (machine config) (fun known c => Grounds config known c)
      (fun w => Backed w ∧ Kept config w) (fun w c a => Meant w c a ∧ Told config w c a) :=
  (coverage_stable config).further (passes_further config)

theorem kept_initial (config : Config) : Kept config initial.world := by
  constructor
  · intro id job hjob
    cases hjob
  · intro id job hjob
    cases hjob
  · intro id id' job job' hjob
    cases hjob

end Calls

/-! ## The main results -/

section Main

variable {config : Config} {pool pool' : Pool World Call Call.Answer}
  {ls ls' : List (Label Call Call.Answer)}

theorem informed_run (h : SystemRun config initial ls pool) :
    Informed (fun known c => Grounds config known c) (fun w => Backed w ∧ Kept config w)
      (fun w c a => Meant w c a ∧ Told config w c a) pool :=
  run_informed (quiet_machine config) (passes_stable config) (fun _ hp => startable_conforms hp) h
    (informed_of_none (fun _ => rfl) ⟨backed_initial, kept_initial config⟩)

/-- From every reachable state on no job is lost, its counters never fall, the time of its first
completion stays for good, and no stored message is changed. -/
theorem sync_goes_onward (h : SystemRun config initial ls pool)
    (h' : SystemRun config pool ls' pool') : Onward pool.world pool'.world :=
  run_moves (quiet_machine config) (passes_stable config) (fun _ hp => startable_conforms hp)
    onward_refl onward_trans (fun _ _ _ _ _ hact => by
      obtain ⟨i, hexec⟩ := hact.exec
      exact onward_exec hact.inv.2 (fun c a ha => (hact.sound c a ha).1)
        (fun c a ha => (hact.sound c a ha).2) hact.ground hexec) h' (informed_run h)

theorem sync_goes_onward_in_the_sample : ∃ ls pool job,
    SystemRun Config.defaults initial ls pool ∧ pool.world.db.jobs.get 0 = some job ∧
      ∀ ls' pool', SystemRun Config.defaults pool ls' pool' → ∃ new,
        pool'.world.db.jobs.get 0 = some new ∧ new.initialCompletedAt = some 3000 := by
  obtain ⟨ls, pool, job, hrun, hjob, hcomplete⟩ := exists_completed
  have hsystem : SystemRun Config.defaults initial ls pool :=
    hrun.mono (fun _ _ _ hstep => hstep.1)
  refine ⟨ls, pool, job, hsystem, hjob, fun ls' pool' hnext => ?_⟩
  obtain ⟨new, hnew, hlater⟩ := (sync_goes_onward hsystem hnext).jobs 0 job hjob
  exact ⟨new, hnew, hlater.initialCompletedAt 3000 hcomplete⟩

end Main

end tiktok_outreach.history_passes
