-- The history sync at work: the worker and the operator side by side on one
-- database, with a provider that answers as it likes. Each call of a program
-- stands on the answers before it.
import TiktokOutreach.HistoryEffects
import TiktokOutreach.Lib.Knowledge

open transactions runs executions knowledge tiktok_outreach.history_schema
  tiktok_outreach.history_sync tiktok_outreach.history_worker tiktok_outreach.history_effects

namespace tiktok_outreach.history_system

/-! ## The machine -/

/-- A page that the provider has answered, with what it was asked for. -/
inductive Exchange
  | conversations (pageToken : Option String) (page : ProviderPage ProviderConversation)
  | messages (conversationId : String) (pageToken : Option String)
      (page : ProviderPage ProviderMessage)
  deriving DecidableEq, Repr

structure World where
  db : Db
  nextLease : Nat
  /-- The pages of the provider so far. -/
  exchanges : List Exchange

/-- The calls that leave the database alone. -/
def elsewhere : Call → Bool
  | .db _ | .claim _ _ _ => false
  | _ => true

def exchangesOf : (c : Call) → c.Answer → List Exchange
  | .listConversations pageToken, .ok page => [.conversations pageToken page]
  | .listMessages conversationId _ pageToken, .ok page => [.messages conversationId pageToken page]
  | _, _ => []

section Machine

variable (config : Config)

/-- A call that took effect may still end with an error. -/
inductive Exec : World → (c : Call) → c.Answer → World → Prop
  | commit (w : World) (c : Command) (r : c.Result) (db : Db)
      (hrun : (c.body config).run w.db = .ok (r, db)) : Exec w (.db c) (.ok r) { w with db }
  | lost (w : World) (c : Command) (r : c.Result) (db : Db) (e : Failure)
      (hrun : (c.body config).run w.db = .ok (r, db)) : Exec w (.db c) (.error e) { w with db }
  | failed (w : World) (c : Command) (e : Failure) : Exec w (.db c) (.error e) w
  | claimed (w : World) (id : Nat) (candidate : HistorySyncJob) (now : Int) (n : Nat) (db : Db)
      (hrun : (claim config id candidate w.nextLease now).run w.db = .ok (n, db)) :
      Exec w (.claim id candidate now) (.ok (w.nextLease, n))
        { w with db, nextLease := w.nextLease + 1 }
  | claimLost (w : World) (id : Nat) (candidate : HistorySyncJob) (now : Int) (n : Nat) (db : Db)
      (e : Failure) (hrun : (claim config id candidate w.nextLease now).run w.db = .ok (n, db)) :
      Exec w (.claim id candidate now) (.error e) { w with db, nextLease := w.nextLease + 1 }
  | claimFailed (w : World) (id : Nat) (candidate : HistorySyncJob) (now : Int) (e : Failure) :
      Exec w (.claim id candidate now) (.error e) { w with nextLease := w.nextLease + 1 }
  | other (w : World) (c : Call) (answer : c.Answer) (h : elsewhere c = true) :
      Exec w c answer { w with exchanges := w.exchanges ++ exchangesOf c answer }

def machine : Machine World Call Call.Answer where
  work _ _ _ _ := False
  exec _ := Exec config
  onCrash _ _ w := w

theorem quiet_machine : Quiet (machine config) :=
  ⟨fun _ _ _ _ h => h, fun _ _ _ => rfl⟩

/-- What starts a program: the worker, or the operator. -/
inductive Job
  | processNext
  | historyStatus
  | startHistorySync
  | pauseHistorySync
  | resumeHistorySync
  | runIncrementalNow
  deriving DecidableEq, Repr

/-- The program of a job as a thread. -/
def Job.thread : Job → Prog Call Call.Answer Unit
  | processNext => Js.thread (history_worker.processNext config) ()
  | historyStatus => Js.thread history_worker.historyStatus ()
  | startHistorySync => Js.thread history_worker.startHistorySync ()
  | pauseHistorySync => Js.thread history_worker.pauseHistorySync ()
  | resumeHistorySync => Js.thread history_worker.resumeHistorySync ()
  | runIncrementalNow => Js.thread history_worker.runIncrementalNow ()

def Startable (p : Prog Call Call.Answer Unit) : Prop := ∃ job : Job, p = job.thread config

/-- The pool before its first job. -/
def initial : Pool World Call Call.Answer := ⟨⟨Db.initial, 0, []⟩, fun _ => none⟩

abbrev SystemRun := Run (PoolStep (machine config) (Startable config))

end Machine

/-! ## What the calls stand on -/

/-- How the end of a page is decided from the job that was read. -/
def Decided (config : Config) (job : HistorySyncJob) : Advance → Prop
  | .head => job.passKind = .HEAD
  | .backfill nextToken pagesSinceHead runHead => job.passKind = .BACKFILL ∧
    job.privatePendingHasMore = some true ∧ nextToken = job.privatePendingNextPageToken ∧
    (given nextToken).isSome = true ∧ pagesSinceHead = job.backfillPagesSinceHead + 1 ∧
    runHead = decide (config.headEveryBackfillPages ≤ pagesSinceHead)
  | .backfillComplete initialCompletedAt => job.passKind = .BACKFILL ∧
    job.privatePendingHasMore ≠ some true ∧ initialCompletedAt = job.initialCompletedAt
  | .incremental nextToken nextIndex => job.passKind = .INCREMENTAL ∧
    job.privatePendingHasMore = some true ∧ nextToken = job.privatePendingNextPageToken ∧
    nextIndex = job.incrementalPageIndex + 1 ∧ nextIndex < config.incrementalPages
  | .incrementalComplete => job.passKind = .INCREMENTAL

section Grounds

variable (config : Config) (known : Set (Known Call.Result))

/-- The lease is that of a claim of the thread. -/
def Drew (leaseOwner : Nat) : Prop :=
  ∃ id candidate now n, Answered known (.claim id candidate now) (leaseOwner, n)

/-- The job as the thread read it under its lease. -/
def Reads (id leaseOwner : Nat) (job : HistorySyncJob) : Prop :=
  Answered known (.db (.jobUnderLease id leaseOwner)) job

/-- The job as the handler of an error read it. -/
def Handles (id : Nat) (job : HistorySyncJob) : Prop :=
  ∃ leaseOwner, Answered known (.db (.findUnderLease id leaseOwner)) (some job)

def FoundOfShop (id : Nat) (job : HistorySyncJob) : Prop :=
  ∃ shopId, Answered known (.db (.findJobOfShop shopId)) (some (id, job))

/-- The answers that a command is called with. -/
def CommandGrounds : Command → Prop
  | .jobUnderLease _ leaseOwner => Drew known leaseOwner
  | .findUnderLease _ leaseOwner => Drew known leaseOwner
  | .stageConversations id leaseOwner pageSequence page _ => ∃ job, Reads known id leaseOwner job ∧
    job.phase = .LIST ∧ job.pageSequence = pageSequence ∧
    Answered known (.listConversations (given (listCursor job))) page
  | .findWork id leaseOwner pageSequence => ∃ job, Reads known id leaseOwner job ∧
    job.phase = .MESSAGES ∧ job.pageSequence = pageSequence
  | .storeMessages id leaseOwner workId _ _ conversationId page _ _ => ∃ job work,
    Reads known id leaseOwner job ∧ job.phase = .MESSAGES ∧
    Answered known (.db (.findWork id leaseOwner job.pageSequence)) (some (workId, work)) ∧
    work.externalConversationId = conversationId ∧
    Answered known (.listMessages conversationId work.creatorImId
      (given work.privateMessagePageToken)) page
  | .advanceCompletedPage id leaseOwner advance _ => ∃ job, Reads known id leaseOwner job ∧
    job.phase = .MESSAGES ∧
    Answered known (.db (.findWork id leaseOwner job.pageSequence)) none ∧
    Decided config job advance
  | .recoverCursor id job error _ => Handles known id job ∧ isCursorInvalid job (.api error) = true
  | .backOff id job _ _ => Handles known id job
  | .fail id _ => ∃ job, Handles known id job
  | .restart id existing => FoundOfShop known id existing ∧
    (existing.state = .FAILED ∨ existing.state = .PAUSED)
  | .pause id => ∃ existing, FoundOfShop known id existing
  | .queueIncremental id => ∃ existing, FoundOfShop known id existing ∧
    existing.initialCompletedAt.isSome = true ∧ existing.state ≠ .RUNNING ∧
    existing.state ≠ .BACKING_OFF
  | _ => True

def Grounds : Call → Prop
  | .db c => CommandGrounds config known c
  | .claim id candidate _ =>
    (∃ time, Answered known (.db (.findCandidate time)) (some (id, candidate))) ∧
      (candidate.state = .COMPLETE → candidate.mode = .INCREMENTAL)
  | _ => True

end Grounds

theorem drew_mono {known known' : Set (Known Call.Result)} (h : known ⊆ known') {leaseOwner : Nat}
    (hd : Drew known leaseOwner) : Drew known' leaseOwner := by
  obtain ⟨id, candidate, now, n, hclaim⟩ := hd
  exact ⟨id, candidate, now, n, h hclaim⟩

theorem handles_mono {known known' : Set (Known Call.Result)} (h : known ⊆ known') {id : Nat}
    {job : HistorySyncJob} (hj : Handles known id job) : Handles known' id job := by
  obtain ⟨leaseOwner, hjob⟩ := hj
  exact ⟨leaseOwner, h hjob⟩

theorem foundOfShop_mono {known known' : Set (Known Call.Result)} (h : known ⊆ known') {id : Nat}
    {job : HistorySyncJob} (hj : FoundOfShop known id job) : FoundOfShop known' id job := by
  obtain ⟨shopId, hjob⟩ := hj
  exact ⟨shopId, h hjob⟩

theorem lasting_grounds (config : Config) :
    Lasting (fun known c => Grounds config known c) := by
  intro known known' c h hc
  cases c with
  | db c =>
    cases c with
    | jobUnderLease id leaseOwner => exact drew_mono h hc
    | findUnderLease id leaseOwner => exact drew_mono h hc
    | stageConversations id leaseOwner pageSequence page now =>
      obtain ⟨job, hjob, hphase, hsequence, hpage⟩ := hc
      exact ⟨job, h hjob, hphase, hsequence, h hpage⟩
    | findWork id leaseOwner pageSequence =>
      obtain ⟨job, hjob, hphase⟩ := hc
      exact ⟨job, h hjob, hphase⟩
    | storeMessages id leaseOwner workId shopId creatorId conversationId page imported now =>
      obtain ⟨job, work, hjob, hphase, hwork, hid, hpage⟩ := hc
      exact ⟨job, work, h hjob, hphase, h hwork, hid, h hpage⟩
    | advanceCompletedPage id leaseOwner advance now =>
      obtain ⟨job, hjob, hphase, hwork, hdecided⟩ := hc
      exact ⟨job, h hjob, hphase, h hwork, hdecided⟩
    | recoverCursor id job error now => exact ⟨handles_mono h hc.1, hc.2⟩
    | backOff id job error now => exact handles_mono h hc
    | fail id failure =>
      obtain ⟨job, hjob⟩ := hc
      exact ⟨job, handles_mono h hjob⟩
    | restart id existing => exact ⟨foundOfShop_mono h hc.1, hc.2⟩
    | pause id =>
      obtain ⟨existing, hfound⟩ := hc
      exact ⟨existing, foundOfShop_mono h hfound⟩
    | queueIncremental id =>
      obtain ⟨existing, hfound, hrest⟩ := hc
      exact ⟨existing, foundOfShop_mono h hfound, hrest⟩
    | _ => trivial
  | claim id candidate now =>
    obtain ⟨⟨time, hfound⟩, hcandidate⟩ := hc
    exact ⟨⟨time, h hfound⟩, hcandidate⟩
  | _ => trivial

/-! ## The programs -/

section Programs

variable {config : Config} {known : Set (Known Call.Result)} {id leaseOwner : Nat}
  {job : HistorySyncJob}

/-- The calls of the program stand on these answers and those of its own calls. -/
abbrev Stands {α : Type} (config : Config) (known : Set (Known Call.Result)) (m : Program α) :
    Prop :=
  Grounded (fun known c => Grounds config known c) known m

theorem stands_call_bind {α : Type} {c : Call} {f : c.Result → Program α}
    (hc : Grounds config known c) (hf : ∀ a, Stands config (insert ⟨c, a⟩ known) (f a)) :
    Stands config known (Js.call c >>= f) :=
  grounded_call_bind (lasting_grounds config) hc hf

theorem stands_call {c : Call} (hc : Grounds config known c) :
    Stands config known (Js.call c : Program c.Result) :=
  grounded_call (lasting_grounds config) hc

theorem answered_here (c : Call) (a : c.Result) : Answered (insert ⟨c, a⟩ known) c a :=
  Set.mem_insert _ _

theorem answered_before {c c' : Call} {a : c.Result} {a' : c'.Result}
    (h : Answered known c a) : Answered (insert ⟨c', a'⟩ known) c a :=
  Set.mem_insert_of_mem _ h

theorem drew_before {c : Call} {a : c.Result} (h : Drew known leaseOwner) :
    Drew (insert ⟨c, a⟩ known) leaseOwner :=
  drew_mono (Set.subset_insert _ _) h

theorem fetchConversationPage_stands (hjob : Reads known id leaseOwner job)
    (hphase : job.phase = .LIST) :
    Stands config known (fetchConversationPage id leaseOwner job) := by
  refine stands_call_bind trivial (fun page => stands_call_bind trivial (fun now => ?_))
  exact stands_call ⟨job, answered_before (answered_before hjob), hphase, rfl,
    answered_before (answered_here _ _)⟩

theorem fetchMessagePage_stands {workId : Nat} {work : HistorySyncConversationWork}
    (hjob : Reads known id leaseOwner job) (hphase : job.phase = .MESSAGES)
    (hwork : Answered known (.db (.findWork id leaseOwner job.pageSequence)) (some (workId, work))) :
    Stands config known (fetchMessagePage id leaseOwner job workId work) := by
  refine grounded_bind ?_ (fun found => ?_)
  · refine stands_call_bind trivial (fun creatorId => stands_call_bind trivial (fun existed => ?_))
    exact stands_call_bind trivial (fun now => stands_call_bind trivial
      (fun _ => grounded_pure _))
  · refine stands_call_bind trivial (fun page => stands_call_bind trivial (fun now => ?_))
    exact stands_call ⟨job, work, answered_before (answered_before hjob), hphase,
      answered_before (answered_before hwork), rfl, answered_before (answered_here _ _)⟩

theorem auditPage_stands (pagesProcessed : Nat) :
    Stands config known (auditPage pagesProcessed) :=
  grounded_ite (fun _ => stands_call trivial) (fun _ => grounded_pure ())

theorem advanceCompletedPage_stands (hjob : Reads known id leaseOwner job)
    (hphase : job.phase = .MESSAGES)
    (hwork : Answered known (.db (.findWork id leaseOwner job.pageSequence)) none) :
    Stands config known (history_worker.advanceCompletedPage config id leaseOwner job) := by
  refine stands_call_bind trivial (fun now => ?_)
  have hadvance : ∀ advance, Decided config job advance →
      Grounds config (insert ⟨Call.now, now⟩ known)
        (.db (.advanceCompletedPage id leaseOwner advance now)) :=
    fun advance hdecided => ⟨job, answered_before hjob, hphase, answered_before hwork, hdecided⟩
  dsimp only
  cases hpass : job.passKind with
  | HEAD => exact stands_call_bind (hadvance _ hpass) (fun _ => grounded_pure ())
  | BACKFILL =>
    refine grounded_ite (fun _ => grounded_throw _) (fun hcursor => ?_)
    refine grounded_ite (fun hmore => ?_) (fun hlast => ?_)
    · refine stands_call_bind (hadvance _ ?_) (fun _ => auditPage_stands _)
      have hsome : (given job.privatePendingNextPageToken).isSome = true := by
        rw [Bool.and_eq_true, not_and] at hcursor
        have hnone := hcursor hmore
        rwa [Bool.not_eq_true, Option.isNone_eq_false_iff] at hnone
      exact ⟨hpass, of_decide_eq_true hmore, rfl, hsome, rfl, rfl⟩
    · refine stands_call_bind (hadvance _ ⟨hpass, fun hmore => ?_, rfl⟩) (fun _ => grounded_pure ())
      exact hlast (decide_eq_true hmore)
  | INCREMENTAL =>
    refine grounded_ite (fun hmore => ?_) (fun _ => ?_)
    · refine stands_call_bind (hadvance _ ?_) (fun _ => grounded_pure ())
      rw [Bool.and_eq_true, Bool.and_eq_true] at hmore
      exact ⟨hpass, of_decide_eq_true hmore.1.1, rfl, rfl, of_decide_eq_true hmore.2⟩
    · exact stands_call_bind (hadvance _ hpass) (fun _ => grounded_pure ())

theorem processClaimed_stands (hdrew : Drew known leaseOwner) :
    Stands config known (processClaimed config id leaseOwner) := by
  refine stands_call_bind hdrew (fun job => ?_)
  have hjob : Reads (insert ⟨Call.db (.jobUnderLease id leaseOwner), job⟩ known) id leaseOwner job :=
    answered_here _ _
  refine grounded_ite (fun hphase => fetchConversationPage_stands hjob hphase) (fun hphase => ?_)
  have hmessages : HistorySyncJob.phase job = .MESSAGES := by
    cases hp : HistorySyncJob.phase job with
    | LIST => exact absurd hp hphase
    | MESSAGES => rfl
  refine stands_call_bind ⟨job, hjob, hmessages, rfl⟩ (fun found => ?_)
  cases found with
  | none =>
    exact advanceCompletedPage_stands (answered_before hjob) hmessages (answered_here _ _)
  | some row =>
    exact fetchMessagePage_stands (answered_before hjob) hmessages (answered_here _ _)

theorem handleError_stands (hdrew : Drew known leaseOwner) (failure : Failure) :
    Stands config known (handleError id leaseOwner failure) := by
  refine stands_call_bind trivial (fun now => stands_call_bind (drew_before hdrew)
    (fun found => ?_))
  cases found with
  | none => exact grounded_pure ()
  | some job =>
    have hhandles : Handles (insert ⟨Call.db (.findUnderLease id leaseOwner), some job⟩
        (insert ⟨Call.now, now⟩ known)) id job := ⟨leaseOwner, answered_here _ _⟩
    have hfail : ∀ f, Stands config (insert ⟨Call.db (.findUnderLease id leaseOwner), some job⟩
        (insert ⟨Call.now, now⟩ known)) (query (.fail id f)) :=
      fun f => stands_call ⟨job, hhandles⟩
    cases failure with
    | api error =>
      refine grounded_ite (fun hinvalid => stands_call ⟨hhandles, hinvalid⟩) (fun _ => ?_)
      exact grounded_ite (fun _ => stands_call hhandles) (fun _ => hfail _)
    | _ => exact hfail _

/-- The rest of the worker behind its claim. -/
theorem claimed_stands (hdrew : Drew known leaseOwner) : Stands config known (do
    Js.tryCatch (do
      Js.call Call.historyAdapter
      processClaimed config id leaseOwner) (handleError id leaseOwner)
    return true) := by
  refine grounded_bind (grounded_tryCatch ?_ (fun failure => ?_)) (fun _ => grounded_pure true)
  · exact stands_call_bind trivial (fun _ => processClaimed_stands (drew_before hdrew))
  · exact handleError_stands hdrew failure

theorem processNext_stands (config : Config) :
    Stands config ∅ (history_worker.processNext config) := by
  refine stands_call_bind trivial (fun now => stands_call_bind trivial (fun found => ?_))
  cases found with
  | none => exact grounded_pure false
  | some row =>
    obtain ⟨id, candidate⟩ := row
    refine grounded_ite (fun _ => grounded_pure false) (fun hcandidate => ?_)
    refine stands_call_bind ⟨⟨now, answered_here _ _⟩, fun hcomplete => ?_⟩ (fun answer => ?_)
    · rw [Bool.and_eq_true, not_and, decide_eq_true_eq] at hcandidate
      simpa using hcandidate hcomplete
    · obtain ⟨leaseOwner, count⟩ := answer
      have hdrew : Drew (insert ⟨Call.claim id candidate now, (leaseOwner, count)⟩
          (insert ⟨Call.db (.findCandidate now), some (id, candidate)⟩
            (insert ⟨Call.now, now⟩ ∅))) leaseOwner :=
        ⟨id, candidate, now, count, answered_here _ _⟩
      refine grounded_ite (fun _ => grounded_pure true) (fun _ => ?_)
      refine grounded_ite (fun _ => stands_call_bind trivial (fun _ => ?_)) (fun _ => ?_)
      · exact claimed_stands (drew_before hdrew)
      · exact claimed_stands hdrew

theorem startHistorySync_stands (config : Config) :
    Stands config ∅ history_worker.startHistorySync := by
  refine stands_call_bind trivial (fun shopId => stands_call_bind trivial (fun found => ?_))
  cases found with
  | none =>
    exact stands_call_bind trivial (fun job => stands_call_bind trivial
      (fun _ => grounded_pure _))
  | some row =>
    obtain ⟨id, existing⟩ := row
    refine grounded_ite (fun _ => grounded_pure _) (fun hstate => ?_)
    refine stands_call_bind ⟨⟨shopId, answered_here _ _⟩, ?_⟩
      (fun job => stands_call_bind trivial (fun _ => grounded_pure _))
    simp only [ne_eq, decide_not, Bool.and_eq_true, Bool.not_eq_true', decide_eq_false_iff_not,
      not_and, not_not] at hstate
    by_cases hfailed : existing.state = .FAILED
    · exact .inl hfailed
    · exact .inr (hstate hfailed)

theorem pauseHistorySync_stands (config : Config) :
    Stands config ∅ history_worker.pauseHistorySync := by
  refine stands_call_bind trivial (fun shopId => stands_call_bind trivial (fun found => ?_))
  cases found with
  | none => exact grounded_throw _
  | some row =>
    exact stands_call_bind ⟨row.2, shopId, answered_here _ _⟩
      (fun job => stands_call_bind trivial (fun _ => grounded_pure _))

theorem runIncrementalNow_stands (config : Config) :
    Stands config ∅ history_worker.runIncrementalNow := by
  refine stands_call_bind trivial (fun shopId => stands_call_bind trivial (fun found => ?_))
  cases found with
  | none => exact grounded_throw _
  | some row =>
    obtain ⟨id, job⟩ := row
    refine grounded_ite (fun _ => grounded_throw _) (fun hinitial => ?_)
    refine grounded_ite (fun _ => grounded_throw _) (fun hstate => ?_)
    refine stands_call_bind ⟨job, ⟨shopId, answered_here _ _⟩, ?_, ?_⟩
      (fun queued => stands_call_bind trivial (fun _ => grounded_pure _))
    · rwa [Bool.not_eq_true, Option.isNone_eq_false_iff] at hinitial
    · simpa using hstate

/-- Every program that can start follows the protocol. -/
theorem startable_conforms {p : Prog Call Call.Answer Unit} (h : Startable config p) :
    p.Conforms (groundedIn Failure (fun known c => Grounds config known c)) ∅
      (fun _ _ => True) := by
  obtain ⟨job, rfl⟩ := h
  cases job with
  | processNext => exact conforms_of_grounded (processNext_stands config)
  | historyStatus =>
    exact conforms_of_grounded (stands_call_bind trivial (fun shopId =>
      stands_call_bind trivial (fun found => grounded_pure _)))
  | startHistorySync => exact conforms_of_grounded (startHistorySync_stands config)
  | pauseHistorySync => exact conforms_of_grounded (pauseHistorySync_stands config)
  | resumeHistorySync => exact conforms_of_grounded (startHistorySync_stands config)
  | runIncrementalNow => exact conforms_of_grounded (runIncrementalNow_stands config)

end Programs

/-! ## A provider that does not change -/

/-- A provider whose pages do not change. -/
structure Provider where
  conversations : Option String → ProviderPage ProviderConversation
  messages : String → Option String → ProviderPage ProviderMessage

namespace Provider

def Gives (P : Provider) : Exchange → Prop
  | .conversations token page => page = P.conversations token
  | .messages conversationId token page => page = P.messages conversationId token

instance (P : Provider) : DecidablePred P.Gives
  | .conversations token page => inferInstanceAs (Decidable (page = P.conversations token))
  | .messages conversationId token page =>
    inferInstanceAs (Decidable (page = P.messages conversationId token))

/-- The pages that a step answers are those of the provider. -/
def Honest (P : Provider) : Label Call Call.Answer → Prop
  | .run _ c answer => ∀ e ∈ exchangesOf c answer, P.Gives e
  | _ => True

instance (P : Provider) : DecidablePred P.Honest
  | .run _ c answer => inferInstanceAs (Decidable (∀ e ∈ exchangesOf c answer, P.Gives e))
  | .spawn _ => isTrue trivial
  | .work _ _ => isTrue trivial
  | .crash _ => isTrue trivial

end Provider

/-- The runs in which the provider's pages do not change. -/
abbrev HonestRun (config : Config) (P : Provider) :=
  Run (Guarded (PoolStep (machine config) (Startable config)) (fun _ l => P.Honest l))

end tiktok_outreach.history_system
