-- What each command of the history sync does to the rows of the database.
import TiktokOutreach.HistoryWorker

open tables transactions tiktok_outreach.history_schema tiktok_outreach.history_sync
  tiktok_outreach.history_worker

namespace tiktok_outreach.history_effects

/-! ## Writes -/

def setJob (db : Db) (id : Nat) (f : HistorySyncJob → HistorySyncJob) : Db :=
  { db with jobs := db.jobs.updateMany (fun i _ => i = id) f }

def setJobUnder (db : Db) (id leaseOwner : Nat) (f : HistorySyncJob → HistorySyncJob) : Db :=
  { db with jobs := db.jobs.updateMany (fun i job => i = id && holds leaseOwner job) f }

def setWork (db : Db) (id : Nat)
    (f : HistorySyncConversationWork → HistorySyncConversationWork) : Db :=
  { db with works := db.works.updateMany (fun i _ => i = id) f }

def withWorks (db : Db) (jobId pageSequence : Nat) (items : List ProviderConversation) : Db :=
  items.foldl (fun db item => withWork db jobId pageSequence item) db

def messageOf (conversationId : String) (message : ProviderMessage) : ConversationMessage where
  conversationId := conversationId
  direction := message.direction
  content := message.content
  providerCreatedAt := message.createdAt
  importSource := SOURCE

def withMessage (conversationId : String) (db : Db) (message : ProviderMessage) : Db :=
  if (db.messages.get message.id).isSome then db
  else { db with messages := db.messages.set message.id (messageOf conversationId message) }

def withMessages (conversationId : String) (db : Db) (messages : List ProviderMessage) : Db :=
  messages.foldl (withMessage conversationId) db

/-- The messages of a page that are not stored yet, each counted once. -/
def newMessages (conversationId : String) (db : Db) : List ProviderMessage → Nat
  | [] => 0
  | message :: messages => (if (db.messages.get message.id).isSome then 0 else 1) +
    newMessages conversationId (withMessage conversationId db message) messages

def withoutWorks (db : Db) (jobId pageSequence : Nat) : Db :=
  let works := db.works.deleteMany
    (fun _ work => work.historySyncJobId = jobId && work.pageSequence = pageSequence)
  { db with works }

/-- The claim of a job, which the job must still allow. -/
def setClaimed (config : Config) (db : Db) (id : Nat) (candidate : HistorySyncJob)
    (leaseOwner : Nat) (now : Int) : Db :=
  let jobs := db.jobs.updateMany (fun i job => i = id && claimableState job && unleased now job)
    (claimed config candidate leaseOwner now)
  { db with jobs }

/-! ## Effects -/

def Effect (config : Config) (db : Db) : (c : Command) → c.Result → Db → Prop
  | .findCandidate _, found, db' =>
    (∀ id job, found = some (id, job) → db.jobs.get id = some job) ∧ db' = db
  | .jobUnderLease id leaseOwner, job, db' =>
    db.jobs.get id = some job ∧ HistorySyncJob.leaseOwner job = some leaseOwner ∧ db' = db
  | .stageConversations id leaseOwner pageSequence page now, _, db' =>
    db' = setJobUnder (withWorks db id pageSequence page.items) id leaseOwner
      (listed config page now)
  | .findWork id _ pageSequence, found, db' =>
    (∀ workId work, found = some (workId, work) → db.works.get workId = some work ∧
      work.historySyncJobId = id ∧ work.pageSequence = pageSequence ∧ work.state ≠ .COMPLETE) ∧
    (found = none → ∀ workId work, db.works.get workId = some work → work.historySyncJobId = id →
      work.pageSequence = pageSequence → work.state = .COMPLETE) ∧ db' = db
  | .findConversation id, existed, db' => existed = (db.conversations.get id).isSome ∧ db' = db
  | .upsertConversation _ _ _ _, _, db' =>
    ∃ conversations, db' = { db with conversations }
  | .storeMessages id leaseOwner workId _ _ conversationId page imported now, _, db' =>
    (db.works.get workId).isSome = true ∧
    db' = setJobUnder (setWork (withMessages conversationId db page.items) workId
      (worked page (newMessages conversationId db page.items) now)) id leaseOwner
      (counted config page (newMessages conversationId db page.items) imported now)
  | .advanceCompletedPage id leaseOwner advance now, _, db' =>
    db' = setJobUnder db id leaseOwner (advanced config now advance)
  | .findUnderLease id leaseOwner, found, db' =>
    (∀ job, found = some job → db.jobs.get id = some job ∧ job.leaseOwner = some leaseOwner) ∧
      db' = db
  | .recoverCursor id job error now, _, db' =>
    db' = setJob (withoutWorks db id job.pageSequence) id (recovered job error now)
  | .backOff id job error now, _, db' => db' = setJob db id (backedOff job error now)
  | .fail id failure, _, db' => db' = setJob db id (failed failure)
  | .auditEvent, _, db' => db' = db
  | .findJobOfShop shopId, found, db' =>
    (∀ id job, found = some (id, job) → db.jobs.get id = some job ∧ job.shopId = shopId) ∧ db' = db
  | .restart id existing, _, db' => db' = setJob db id (restarted existing)
  | .createJob shopId, _, db' => (∀ id job, db.jobs.get id = some job → job.shopId ≠ shopId) ∧
    db' = { db with
      jobs := db.jobs.set db.nextJobId { shopId }
      nextJobId := db.nextJobId + 1 }
  | .pause id, _, db' => db' = setJob db id paused
  | .queueIncremental id, _, db' => db' = setJob db id incrementalQueued

section Runs

variable {config : Config} {db db' : Db}

theorem run_stageWorks (id pageSequence : Nat) (items : List ProviderConversation) (db : Db) :
    (stageWorks id pageSequence items).run db = .ok ((), withWorks db id pageSequence items) := by
  induction items generalizing db with
  | nil => rfl
  | cons item items ih =>
    have hstage : (stageWork id pageSequence item).run db =
        .ok ((), withWork db id pageSequence item) := rfl
    rw [stageWorks, Tx.run_bind, hstage]
    exact ih _

theorem run_insertMessages (conversationId : String) (messages : List ProviderMessage) (db : Db) :
    (insertMessages conversationId messages).run db =
      .ok (newMessages conversationId db messages, withMessages conversationId db messages) := by
  induction messages generalizing db with
  | nil => rfl
  | cons message messages ih =>
    have hinsert : (insertMessage conversationId message).run db =
        .ok (if (db.messages.get message.id).isSome then 0 else 1,
          withMessage conversationId db message) := rfl
    rw [insertMessages, Tx.run_bind, hinsert]
    simp only [Except.bind, Tx.run_bind, ih, Tx.run_pure]
    rfl

theorem run_updateUnderLease (id leaseOwner : Nat) (f : HistorySyncJob → HistorySyncJob)
    (db : Db) : ∃ n, (updateUnderLease id leaseOwner f).run db =
      .ok (n, setJobUnder db id leaseOwner f) := by
  unfold updateUnderLease
  rw [Tx.run_updateMany]
  exact ⟨_, rfl⟩

theorem updateUnderLease_effect {id leaseOwner n : Nat} {f : HistorySyncJob → HistorySyncJob}
    (hrun : (updateUnderLease id leaseOwner f).run db = .ok (n, db')) :
    db' = setJobUnder db id leaseOwner f := by
  obtain ⟨m, hupdate⟩ := run_updateUnderLease id leaseOwner f db
  rw [hupdate, Except.ok.injEq, Prod.mk.injEq] at hrun
  exact hrun.2.symm

theorem jobUnderLease_effect {id leaseOwner : Nat} {job : HistorySyncJob}
    (hrun : (jobUnderLease id leaseOwner).run db = .ok (job, db')) :
    db.jobs.get id = some job ∧ job.leaseOwner = some leaseOwner ∧ db' = db := by
  unfold jobUnderLease at hrun
  rw [Tx.run_readOrThrow_eq_ok, Option.filter_eq_some_iff] at hrun
  exact ⟨hrun.1.1, of_decide_eq_true hrun.1.2, hrun.2⟩

theorem findUnderLease_effect {id leaseOwner : Nat} {found : Option HistorySyncJob}
    (hrun : (findUnderLease id leaseOwner).run db = .ok (found, db')) :
    (∀ job, found = some job → db.jobs.get id = some job ∧ job.leaseOwner = some leaseOwner) ∧
      db' = db := by
  unfold findUnderLease at hrun
  rw [Tx.run_read, Except.ok.injEq, Prod.mk.injEq] at hrun
  obtain ⟨rfl, rfl⟩ := hrun
  refine ⟨fun job hjob => ?_, rfl⟩
  obtain ⟨hget, hholds⟩ := Option.filter_eq_some_iff.1 hjob
  exact ⟨hget, of_decide_eq_true hholds⟩

theorem updateJob_effect {id : Nat} {f : HistorySyncJob → HistorySyncJob} {job : HistorySyncJob}
    (hrun : (updateJob id f).run db = .ok (job, db')) : db' = setJob db id f := by
  unfold updateJob at hrun
  rw [Tx.run_bind, Tx.run_update, Tx.bind_eq_ok] at hrun
  obtain ⟨⟨_, db1⟩, hupdate, hread⟩ := hrun
  rw [Tx.ite_error_eq_ok, Except.ok.injEq, Prod.mk.injEq] at hupdate
  rw [Tx.run_readOrThrow_eq_ok] at hread
  have hdb : db' = db1 := hread.2
  rw [hdb]
  exact hupdate.2.2.symm

theorem updateJob_unit_effect {id : Nat} {f : HistorySyncJob → HistorySyncJob} {u : Unit}
    (hrun : (updateJob id f >>= fun _ => (pure () : Transaction Unit)).run db = .ok (u, db')) :
    db' = setJob db id f := by
  rw [Tx.run_bind, Tx.bind_eq_ok] at hrun
  obtain ⟨⟨job, db1⟩, hupdate, hpure⟩ := hrun
  cases hpure
  exact updateJob_effect hupdate

theorem stageConversations_effect {id leaseOwner pageSequence : Nat}
    {page : ProviderPage ProviderConversation} {now : Int} {u : Unit}
    (hrun : (stageConversations config id leaseOwner pageSequence page now).run db = .ok (u, db')) :
    db' = setJobUnder (withWorks db id pageSequence page.items) id leaseOwner
      (listed config page now) := by
  unfold stageConversations at hrun
  rw [Tx.run_bind, run_stageWorks] at hrun
  obtain ⟨n, hupdate⟩ := run_updateUnderLease id leaseOwner (listed config page now)
    (withWorks db id pageSequence page.items)
  simp only [Except.bind, Tx.run_bind, hupdate, Tx.run_pure, Except.ok.injEq, Prod.mk.injEq] at hrun
  exact hrun.2.symm

theorem storeMessages_effect {id leaseOwner workId creatorId : Nat}
    {shopId conversationId : String} {page : ProviderPage ProviderMessage} {imported : Bool}
    {now : Int} {u : Unit} (hrun : (storeMessages config id leaseOwner workId shopId creatorId
      conversationId page imported now).run db = .ok (u, db')) :
    (db.works.get workId).isSome = true ∧
    db' = setJobUnder (setWork (withMessages conversationId db page.items) workId
      (worked page (newMessages conversationId db page.items) now)) id leaseOwner
      (counted config page (newMessages conversationId db page.items) imported now) := by
  have hworks : ∀ (messages : List ProviderMessage) (db : Db),
      (withMessages conversationId db messages).works = db.works := by
    intro messages
    induction messages with
    | nil => exact fun _ => rfl
    | cons message messages ih =>
      intro db
      refine (ih (withMessage conversationId db message)).trans ?_
      unfold withMessage
      split
      · rfl
      · rfl
  unfold storeMessages at hrun
  rw [Tx.run_bind, run_insertMessages] at hrun
  simp only [Except.bind, Tx.run_lock, Tx.run_bind, Tx.run_update, table.works, hworks] at hrun
  cases hwork : (db.works.get workId).isSome with
  | false => simp [hwork] at hrun
  | true =>
    obtain ⟨n, hupdate⟩ := run_updateUnderLease id leaseOwner
      (counted config page (newMessages conversationId db page.items) imported now)
      (setWork (withMessages conversationId db page.items) workId
        (worked page (newMessages conversationId db page.items) now))
    unfold setWork at hupdate
    rw [hworks] at hupdate
    simp only [hwork, if_true, hupdate, Tx.run_pure, Except.ok.injEq, Prod.mk.injEq] at hrun
    refine ⟨rfl, ?_⟩
    rw [← hrun.2]
    unfold setWork
    rw [hworks]

theorem recoverCursor_effect {id : Nat} {job : HistorySyncJob} {error : TikTokApiError} {now : Int}
    {u : Unit} (hrun : (recoverCursor id job error now).run db = .ok (u, db')) :
    db' = setJob (withoutWorks db id job.pageSequence) id (recovered job error now) := by
  unfold recoverCursor at hrun
  rw [Tx.run_bind, Tx.run_deleteMany] at hrun
  have hupdate : (updateJob id (recovered job error now) >>= fun _ =>
      (pure () : Transaction Unit)).run (withoutWorks db id job.pageSequence) = .ok (u, db') := hrun
  exact updateJob_unit_effect hupdate

theorem findWork_effect {id pageSequence : Nat}
    {found : Option (Nat × HistorySyncConversationWork)}
    (hrun : (findWork id pageSequence).run db = .ok (found, db')) :
    (∀ workId work, found = some (workId, work) → db.works.get workId = some work ∧
      work.historySyncJobId = id ∧ work.pageSequence = pageSequence ∧ work.state ≠ .COMPLETE) ∧
    (found = none → ∀ workId work, db.works.get workId = some work → work.historySyncJobId = id →
      work.pageSequence = pageSequence → work.state = .COMPLETE) ∧ db' = db := by
  unfold findWork at hrun
  rw [Tx.run_read, Except.ok.injEq, Prod.mk.injEq] at hrun
  obtain ⟨hfound, rfl⟩ := hrun
  refine ⟨?_, ?_, rfl⟩
  · rintro workId work rfl
    have hmem := List.argmin_mem (Option.mem_def.2 hfound)
    obtain ⟨hget, hof⟩ := (Table.mem_findMany _ _ _ _).1 hmem
    simp only [Bool.and_eq_true, decide_eq_true_eq, ne_eq, decide_not, Bool.not_eq_true',
      decide_eq_false_iff_not] at hof
    exact ⟨hget, hof.1.1, hof.1.2, hof.2⟩
  · rintro rfl workId work hget hid hsequence
    by_contra hstate
    have hmem : (workId, work) ∈ db.works.findMany (fun _ work => work.historySyncJobId = id &&
        work.pageSequence = pageSequence && work.state ≠ .COMPLETE) :=
      (Table.mem_findMany _ _ _ _).2 ⟨hget, by simp [hid, hsequence, hstate]⟩
    rw [List.argmin_eq_none] at hfound
    rw [hfound] at hmem
    cases hmem

theorem findCandidate_effect {now : Int} {found : Option (Nat × HistorySyncJob)}
    (hrun : (findCandidate now).run db = .ok (found, db')) :
    (∀ id job, found = some (id, job) → db.jobs.get id = some job) ∧ db' = db := by
  unfold findCandidate at hrun
  rw [Tx.run_read, Except.ok.injEq, Prod.mk.injEq] at hrun
  obtain ⟨hfound, rfl⟩ := hrun
  refine ⟨?_, rfl⟩
  rintro id job rfl
  have hmem := List.mem_of_mem_head? (Option.mem_def.2 hfound)
  rw [List.mem_insertionSort] at hmem
  exact ((Table.mem_findMany _ _ _ _).1 hmem).1

theorem findJobOfShop_effect {shopId : String} {found : Option (Nat × HistorySyncJob)}
    (hrun : (findJobOfShop shopId).run db = .ok (found, db')) :
    (∀ id job, found = some (id, job) → db.jobs.get id = some job ∧ job.shopId = shopId) ∧
      db' = db := by
  unfold findJobOfShop at hrun
  rw [Tx.run_read, Except.ok.injEq, Prod.mk.injEq] at hrun
  obtain ⟨hfound, rfl⟩ := hrun
  refine ⟨?_, rfl⟩
  rintro id job rfl
  have hmem := List.mem_of_mem_head? (Option.mem_def.2 hfound)
  obtain ⟨hget, hof⟩ := (Table.mem_findMany _ _ _ _).1 hmem
  exact ⟨hget, of_decide_eq_true hof⟩

theorem createJob_effect {shopId : String} {job : HistorySyncJob}
    (hrun : (createJob shopId).run db = .ok (job, db')) :
    (∀ id job, db.jobs.get id = some job → job.shopId ≠ shopId) ∧
    db' = { db with
      jobs := db.jobs.set db.nextJobId { shopId }
      nextJobId := db.nextJobId + 1 } := by
  unfold createJob at hrun
  rw [Tx.run_stmt] at hrun
  cases hany : db.jobs.any (fun _ job => job.shopId = shopId) with
  | true => simp [hany] at hrun
  | false =>
    simp only [hany, Bool.false_eq_true, if_false, Tx.run_ret, Except.ok.injEq,
      Prod.mk.injEq] at hrun
    refine ⟨fun id job hjob hshop => ?_, hrun.2.symm⟩
    exact absurd (decide_eq_true hshop)
      (by simpa using (Table.any_eq_false_iff _ _).1 hany id job hjob)

theorem claim_effect {id : Nat} {candidate : HistorySyncJob} {leaseOwner n : Nat} {now : Int}
    (hrun : (claim config id candidate leaseOwner now).run db = .ok (n, db')) :
    db' = setClaimed config db id candidate leaseOwner now := by
  unfold claim at hrun
  rw [Tx.run_updateMany, Except.ok.injEq, Prod.mk.injEq] at hrun
  exact hrun.2.symm

/-- What a command does, whenever it commits. -/
theorem effect_of_run {c : Command} {r : c.Result}
    (hrun : (c.body config).run db = .ok (r, db')) : Effect config db c r db' := by
  cases c with
  | findCandidate now => exact findCandidate_effect hrun
  | jobUnderLease => exact jobUnderLease_effect hrun
  | stageConversations => exact stageConversations_effect hrun
  | findWork id leaseOwner pageSequence => exact findWork_effect hrun
  | findConversation id =>
    cases hrun
    exact ⟨rfl, rfl⟩
  | upsertConversation =>
    cases hrun
    exact ⟨_, rfl⟩
  | storeMessages => exact storeMessages_effect hrun
  | advanceCompletedPage => exact updateUnderLease_effect hrun
  | findUnderLease => exact findUnderLease_effect hrun
  | recoverCursor => exact recoverCursor_effect hrun
  | backOff => exact updateJob_unit_effect hrun
  | fail => exact updateJob_unit_effect hrun
  | auditEvent =>
    cases hrun
    rfl
  | findJobOfShop shopId => exact findJobOfShop_effect hrun
  | restart => exact updateJob_effect hrun
  | createJob shopId => exact createJob_effect hrun
  | pause => exact updateJob_effect hrun
  | queueIncremental => exact updateJob_effect hrun

end Runs

/-! ## Rows -/

/-- A job after a command. -/
def rowAfter (config : Config) (db : Db) (c : Command) (i : Nat) (job : HistorySyncJob) :
    HistorySyncJob :=
  match c with
  | .stageConversations id leaseOwner _ page now =>
    if i = id ∧ holds leaseOwner job = true then listed config page now job else job
  | .storeMessages id leaseOwner _ _ _ conversationId page imported now =>
    if i = id ∧ holds leaseOwner job = true then
      counted config page (newMessages conversationId db page.items) imported now job
    else job
  | .advanceCompletedPage id leaseOwner advance now =>
    if i = id ∧ holds leaseOwner job = true then advanced config now advance job else job
  | .recoverCursor id read error now => if i = id then recovered read error now job else job
  | .backOff id read error now => if i = id then backedOff read error now job else job
  | .fail id failure => if i = id then failed failure job else job
  | .restart id existing => if i = id then restarted existing job else job
  | .pause id => if i = id then paused job else job
  | .queueIncremental id => if i = id then incrementalQueued job else job
  | _ => job

section Rows

variable {config : Config} {db db' : Db} {c : Command}

theorem get_setJob (db : Db) (id : Nat) (f : HistorySyncJob → HistorySyncJob) (i : Nat) :
    (setJob db id f).jobs.get i = (db.jobs.get i).map (fun job => if i = id then f job else job) := by
  unfold setJob
  simp [Table.get_updateMany]

theorem get_setClaimed (db : Db) (id : Nat) (candidate : HistorySyncJob) (leaseOwner : Nat)
    (now : Int) (i : Nat) : (setClaimed config db id candidate leaseOwner now).jobs.get i =
      (db.jobs.get i).map (fun job => if i = id ∧ claimableState job = true ∧
        unleased now job = true then claimed config candidate leaseOwner now job else job) := by
  unfold setClaimed
  simp [Table.get_updateMany, and_assoc]

theorem get_setJobUnder (db : Db) (id leaseOwner : Nat) (f : HistorySyncJob → HistorySyncJob)
    (i : Nat) : (setJobUnder db id leaseOwner f).jobs.get i = (db.jobs.get i).map
      (fun job => if i = id ∧ holds leaseOwner job = true then f job else job) := by
  unfold setJobUnder
  simp [Table.get_updateMany]

theorem jobs_withWorks (id pageSequence : Nat) (items : List ProviderConversation) (db : Db) :
    (withWorks db id pageSequence items).jobs = db.jobs := by
  induction items generalizing db with
  | nil => rfl
  | cons item items ih =>
    refine (ih (withWork db id pageSequence item)).trans ?_
    unfold withWork
    split
    · rfl
    · rfl

theorem jobs_withMessages (conversationId : String) (messages : List ProviderMessage) (db : Db) :
    (withMessages conversationId db messages).jobs = db.jobs := by
  induction messages generalizing db with
  | nil => rfl
  | cons message messages ih =>
    refine (ih (withMessage conversationId db message)).trans ?_
    unfold withMessage
    split
    · rfl
    · rfl

/-- A command rewrites the jobs row by row, besides the insert of a new one. -/
theorem jobs_of_effect {r : c.Result} (h : Effect config db c r db')
    (hcreate : ∀ shopId, c ≠ .createJob shopId) (i : Nat) :
    db'.jobs.get i = (db.jobs.get i).map (rowAfter config db c i) := by
  have hsame : db'.jobs = db.jobs → (∀ job, rowAfter config db c i job = job) →
      db'.jobs.get i = (db.jobs.get i).map (rowAfter config db c i) := by
    intro hjobs hrow
    rw [hjobs, funext hrow, Option.map_id']
  cases c with
  | createJob shopId => exact absurd rfl (hcreate shopId)
  | findCandidate => exact hsame (by rw [h.2]) (fun _ => rfl)
  | jobUnderLease => exact hsame (by rw [h.2.2]) (fun _ => rfl)
  | stageConversations id leaseOwner pageSequence page now =>
    rw [h, get_setJobUnder, jobs_withWorks]
    rfl
  | findWork => exact hsame (by rw [h.2.2]) (fun _ => rfl)
  | findConversation => exact hsame (by rw [h.2]) (fun _ => rfl)
  | upsertConversation =>
    obtain ⟨conversations, rfl⟩ := h
    exact hsame rfl (fun _ => rfl)
  | storeMessages id leaseOwner workId shopId creatorId conversationId page imported now =>
    have hjobs : (setWork (withMessages conversationId db page.items) workId
        (worked page (newMessages conversationId db page.items) now)).jobs = db.jobs :=
      jobs_withMessages conversationId page.items db
    rw [h.2, get_setJobUnder, hjobs]
    rfl
  | advanceCompletedPage id leaseOwner advance now =>
    rw [h, get_setJobUnder]
    rfl
  | findUnderLease => exact hsame (by rw [h.2]) (fun _ => rfl)
  | recoverCursor id job error now =>
    rw [h, get_setJob]
    rfl
  | backOff =>
    rw [h, get_setJob]
    rfl
  | fail =>
    rw [h, get_setJob]
    rfl
  | auditEvent => exact hsame (by rw [h]) (fun _ => rfl)
  | findJobOfShop => exact hsame (by rw [h.2]) (fun _ => rfl)
  | restart =>
    rw [h, get_setJob]
    rfl
  | pause =>
    rw [h, get_setJob]
    rfl
  | queueIncremental =>
    rw [h, get_setJob]
    rfl

end Rows

end tiktok_outreach.history_effects
