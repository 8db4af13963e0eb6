-- The history sync skips nothing: behind every cursor and every completed pass
-- stand pages that were answered, listed conversations that were read to their
-- end, and messages that are stored.
import TiktokOutreach.HistoryFrames
import TiktokOutreach.HistoryPlays
import TiktokOutreach.Lib.Listings

open tables transactions runs executions knowledge listings listings.Paging
  tiktok_outreach.history_schema tiktok_outreach.history_sync tiktok_outreach.history_worker
  tiktok_outreach.history_effects tiktok_outreach.history_frames tiktok_outreach.history_system
  tiktok_outreach.history_plays

namespace tiktok_outreach.history_coverage

/-! ## What was read -/

/-- The pages of the provider, under the page tokens that are sent. -/
def paging (α : Type) : Paging (Option String) (ProviderPage α) where
  start := none
  more page := page.hasMore
  next page := given page.nextPageToken

/-- A page of messages was answered, and its messages are stored. -/
def GotMessages (w : World) (conversationId : String) (token : Option String)
    (page : ProviderPage ProviderMessage) : Prop :=
  .messages conversationId token page ∈ w.exchanges ∧ ∀ m ∈ page.items, Stored w.db m.id

abbrev MessagesTo (w : World) (conversationId : String) (token : Option String) : Prop :=
  (paging ProviderMessage).ReadTo (GotMessages w conversationId) token

/-- The messages of the conversation are stored up to a page without continuation. -/
abbrev MessagesOut (w : World) (conversationId : String) : Prop :=
  (paging ProviderMessage).ReadOut (GotMessages w conversationId)

/-- A page of conversations was answered, and the messages of each of them were read out. -/
def GotConversations (w : World) (token : Option String)
    (page : ProviderPage ProviderConversation) : Prop :=
  .conversations token page ∈ w.exchanges ∧ ∀ item ∈ page.items, MessagesOut w item.id

abbrev CoveredTo (w : World) (token : Option String) : Prop :=
  (paging ProviderConversation).ReadTo (GotConversations w) token

abbrev CoveredOut (w : World) : Prop :=
  (paging ProviderConversation).ReadOut (GotConversations w)

/-- Answers are not forgotten, and messages are not removed. -/
structure Grows (w w' : World) : Prop where
  exchanges : ∀ e ∈ w.exchanges, e ∈ w'.exchanges
  messages : ∀ id, Stored w.db id → Stored w'.db id

section Growth

variable {config : Config} {w w' : World} {conversationId : String} {token : Option String}

theorem gotMessages_grows (h : Grows w w') {page : ProviderPage ProviderMessage}
    (hgot : GotMessages w conversationId token page) : GotMessages w' conversationId token page :=
  ⟨h.exchanges _ hgot.1, fun m hm => h.messages _ (hgot.2 m hm)⟩

theorem messagesTo_grows (h : Grows w w') (hread : MessagesTo w conversationId token) :
    MessagesTo w' conversationId token :=
  readTo_mono (fun _ _ hgot => gotMessages_grows h hgot) hread

theorem messagesOut_grows (h : Grows w w') (hread : MessagesOut w conversationId) :
    MessagesOut w' conversationId :=
  readOut_mono (fun _ _ hgot => gotMessages_grows h hgot) hread

theorem gotConversations_grows (h : Grows w w') {page : ProviderPage ProviderConversation}
    (hgot : GotConversations w token page) : GotConversations w' token page :=
  ⟨h.exchanges _ hgot.1, fun item hitem => messagesOut_grows h (hgot.2 item hitem)⟩

theorem coveredTo_grows (h : Grows w w') (hcovered : CoveredTo w token) : CoveredTo w' token :=
  readTo_mono (fun _ _ hgot => gotConversations_grows h hgot) hcovered

theorem coveredOut_grows (h : Grows w w') (hcovered : CoveredOut w) : CoveredOut w' :=
  readOut_mono (fun _ _ hgot => gotConversations_grows h hgot) hcovered

theorem grows_of_exec {c : Call} {answer : c.Answer}
    (h : Exec config w c answer w') : Grows w w' := by
  cases h with
  | commit c r db hrun => exact ⟨fun _ he => he, fun _ hs => stored_of_effect (effect_of_run hrun) hs⟩
  | lost c r db e hrun => exact ⟨fun _ he => he, fun _ hs => stored_of_effect (effect_of_run hrun) hs⟩
  | failed => exact ⟨fun _ he => he, fun _ hs => hs⟩
  | claimed id candidate now n db hrun =>
    refine ⟨fun _ he => he, fun _ hs => ?_⟩
    rw [claim_effect hrun]
    exact hs
  | claimLost id candidate now n db e hrun =>
    refine ⟨fun _ he => he, fun _ hs => ?_⟩
    rw [claim_effect hrun]
    exact hs
  | claimFailed => exact ⟨fun _ he => he, fun _ hs => hs⟩
  | other => exact ⟨fun _ he => List.mem_append_left _ he, fun _ hs => hs⟩

end Growth

/-! ## The invariant -/

/-- The page of the list whose conversations are worked on. -/
structure Pending (w : World) (job : HistorySyncJob) (page : ProviderPage ProviderConversation) :
    Prop where
  answered : .conversations (given (listCursor job)) page ∈ w.exchanges
  nextToken : job.privatePendingNextPageToken = page.nextPageToken
  hasMore : job.privatePendingHasMore = some page.hasMore

structure JobBacked (w : World) (id : Nat) (job : HistorySyncJob) : Prop where
  backfill : CoveredTo w (given job.privateBackfillPageToken)
  incremental : CoveredTo w (given job.privateIncrementalPageToken)
  complete : job.initialCompletedAt.isSome = true → CoveredOut w
  /-- Each conversation of the page was read out, or has a work. -/
  pending : job.phase = .MESSAGES → ∃ page, Pending w job page ∧ ∀ item ∈ page.items,
    MessagesOut w item.id ∨ Worked w.db id job.pageSequence item.id

structure WorkBacked (w : World) (work : HistorySyncConversationWork) : Prop where
  going : work.state ≠ .COMPLETE →
    MessagesTo w work.externalConversationId (given work.privateMessagePageToken)
  complete : work.state = .COMPLETE → MessagesOut w work.externalConversationId

structure Backed (w : World) : Prop where
  leases : ∀ id job leaseOwner, w.db.jobs.get id = some job → job.leaseOwner = some leaseOwner →
    leaseOwner < w.nextLease
  jobs : ∀ id job, w.db.jobs.get id = some job → JobBacked w id job
  works : ∀ k work, w.db.works.get k = some work → WorkBacked w work
  workIds : FreshWorks w.db

/-- What an answer says of the sync. -/
def Meant (w : World) : (c : Call) → c.Result → Prop
  | .claim _ _ _, (answer : Nat × Nat) => answer.1 < w.nextLease
  | .listConversations token, (page : ProviderPage ProviderConversation) =>
    .conversations token page ∈ w.exchanges
  | .listMessages conversationId _ token, (page : ProviderPage ProviderMessage) =>
    .messages conversationId token page ∈ w.exchanges
  | .db (.jobUnderLease id leaseOwner), (job : HistorySyncJob) => leaseOwner < w.nextLease ∧
    ∀ row, w.db.jobs.get id = some row → row.leaseOwner = some leaseOwner →
      settled row = settled job
  | .db (.findWork id leaseOwner pageSequence),
      (found : Option (Nat × HistorySyncConversationWork)) => leaseOwner < w.nextLease ∧
    match found with
    | some (k, work) => k < w.db.nextWorkId ∧
      MessagesTo w work.externalConversationId (given work.privateMessagePageToken) ∧
      ∀ row, w.db.works.get k = some row →
        row.externalConversationId = work.externalConversationId
    | none => ∀ row, w.db.jobs.get id = some row → row.leaseOwner = some leaseOwner →
      row.phase = .MESSAGES → row.pageSequence = pageSequence →
      ∃ page, Pending w row page ∧ ∀ item ∈ page.items, MessagesOut w item.id
  | _, _ => True

/-! ## Steps -/

/-- The columns that say how far a job is. -/
def cursors (job : HistorySyncJob) :=
  (job.passKind, job.phase, job.pageSequence, job.privateBackfillPageToken,
    job.privateIncrementalPageToken, job.privatePendingNextPageToken, job.privatePendingHasMore,
    job.initialCompletedAt)

section Steps

variable {config : Config} {w w' : World} {db : Db} {c : Command} {id : Nat}
  {job job' row : HistorySyncJob} {known : Set (Known Call.Result)}

theorem cursors_of_settled (h : settled row = settled job) : cursors row = cursors job := by
  have hsame : cursors (settled row) = cursors (settled job) := congrArg cursors h
  exact hsame

theorem pending_grows (hgrows : Grows w w') {page : ProviderPage ProviderConversation}
    (h : Pending w job page) (hsame : cursors job' = cursors job) : Pending w' job' page := by
  simp only [cursors, Prod.mk.injEq] at hsame
  obtain ⟨hpass, _, _, hbackfill, hincremental, hnext, hmore, _⟩ := hsame
  have hcursor : listCursor job' = listCursor job := by
    unfold listCursor
    rw [hpass, hbackfill, hincremental]
  refine ⟨?_, hnext.trans h.nextToken, hmore.trans h.hasMore⟩
  rw [hcursor]
  exact hgrows.exchanges _ h.answered

/-- A job whose cursors stay is backed as long as its works stay. -/
theorem jobBacked_same (hgrows : Grows w w')
    (hworked : ∀ conversationId, Worked w.db id job.pageSequence conversationId →
      Worked w'.db id job.pageSequence conversationId)
    (hsame : cursors job' = cursors job) (h : JobBacked w id job) : JobBacked w' id job' := by
  have hcolumns := hsame
  simp only [cursors, Prod.mk.injEq] at hcolumns
  obtain ⟨_, hphase, hsequence, hbackfill, hincremental, _, _, hinitial⟩ := hcolumns
  constructor
  · rw [hbackfill]
    exact coveredTo_grows hgrows h.backfill
  · rw [hincremental]
    exact coveredTo_grows hgrows h.incremental
  · rw [hinitial]
    exact fun hcomplete => coveredOut_grows hgrows (h.complete hcomplete)
  · rw [hphase, hsequence]
    intro hmessages
    obtain ⟨page, hpending, hitems⟩ := h.pending hmessages
    refine ⟨page, pending_grows hgrows hpending hsame, fun item hitem => ?_⟩
    exact (hitems item hitem).imp (messagesOut_grows hgrows) (hworked item.id)

/-- A job that lists anew needs its two cursors only. -/
theorem jobBacked_list (hphase : job.phase = .LIST)
    (hbackfill : CoveredTo w (given job.privateBackfillPageToken))
    (hincremental : CoveredTo w (given job.privateIncrementalPageToken))
    (hcomplete : job.initialCompletedAt.isSome = true → CoveredOut w) : JobBacked w id job where
  backfill := hbackfill
  incremental := hincremental
  complete := hcomplete
  pending hmessages := by
    rw [hphase] at hmessages
    cases hmessages

theorem coveredTo_none : CoveredTo w (given none) := readTo_start

/-- The page of a list stands behind the job that stages its conversations. -/
theorem jobBacked_listed (h : Backed w) {page : ProviderPage ProviderConversation} {now : Int}
    (hrow : w.db.jobs.get id = some row)
    (hpage : .conversations (given (listCursor row)) page ∈ w.exchanges)
    (hgrows : Grows w w')
    (hworked : ∀ item ∈ page.items, Worked w'.db id row.pageSequence item.id) :
    JobBacked w' id (listed config page now row) := by
  have hjob := h.jobs id row hrow
  refine ⟨coveredTo_grows hgrows hjob.backfill, coveredTo_grows hgrows hjob.incremental,
    fun hcomplete => coveredOut_grows hgrows (hjob.complete hcomplete), fun _ => ?_⟩
  exact ⟨page, ⟨hgrows.exchanges _ hpage, rfl, rfl⟩, fun item hitem => .inr (hworked item hitem)⟩

/-- The cursor behind a page whose conversations were all read out. -/
theorem covered_behind (h : JobBacked w id row) {page : ProviderPage ProviderConversation}
    (hpending : Pending w row page) (hitems : ∀ item ∈ page.items, MessagesOut w item.id) :
    (page.hasMore = true → CoveredTo w (given page.nextPageToken)) ∧
      (page.hasMore = false → CoveredOut w) := by
  have hcursor : CoveredTo w (given (listCursor row)) := by
    unfold listCursor
    split
    · exact h.backfill
    · exact h.incremental
  have hgot : GotConversations w (given (listCursor row)) page := ⟨hpending.answered, hitems⟩
  exact ⟨fun hmore => readTo_next hcursor hgot hmore, fun hlast => readOut_last hcursor hgot hlast⟩

/-- The end of a page moves the cursors behind it. -/
theorem jobBacked_advanced (h : JobBacked w id row) {advance : Advance} {now : Int}
    (hdecided : Decided config job advance) (hsame : settled row = settled job)
    {page : ProviderPage ProviderConversation} (hpending : Pending w row page)
    (hitems : ∀ item ∈ page.items, MessagesOut w item.id) :
    JobBacked w id (advanced config now advance row) := by
  obtain ⟨hbehind, hout⟩ := covered_behind h hpending hitems
  have hcolumns := cursors_of_settled hsame
  simp only [cursors, Prod.mk.injEq] at hcolumns
  obtain ⟨_, _, _, _, _, hnext, hmore, _⟩ := hcolumns
  have hnextToken : job.privatePendingNextPageToken = page.nextPageToken :=
    hnext.symm.trans hpending.nextToken
  have hhasMore : job.privatePendingHasMore = some page.hasMore :=
    hmore.symm.trans hpending.hasMore
  cases advance with
  | head => exact jobBacked_list rfl h.backfill coveredTo_none h.complete
  | backfill nextToken pagesSinceHead runHead =>
    obtain ⟨_, hagain, rfl, _⟩ := hdecided
    have hcovered : CoveredTo w (given job.privatePendingNextPageToken) := by
      rw [hnextToken]
      exact hbehind (Option.some.inj (hhasMore.symm.trans hagain))
    cases runHead with
    | true => exact jobBacked_list rfl hcovered coveredTo_none h.complete
    | false => exact jobBacked_list rfl hcovered h.incremental h.complete
  | backfillComplete initialCompletedAt =>
    obtain ⟨_, hlast, rfl⟩ := hdecided
    refine jobBacked_list rfl coveredTo_none coveredTo_none (fun _ => hout ?_)
    rw [hhasMore] at hlast
    cases hpage : page.hasMore with
    | true => exact absurd (congrArg some hpage) hlast
    | false => rfl
  | incremental nextToken nextIndex =>
    obtain ⟨_, hagain, rfl, _⟩ := hdecided
    refine jobBacked_list rfl h.backfill ?_ h.complete
    have hcovered : CoveredTo w (given job.privatePendingNextPageToken) := by
      rw [hnextToken]
      exact hbehind (Option.some.inj (hhasMore.symm.trans hagain))
    exact hcovered
  | incrementalComplete => exact jobBacked_list rfl h.backfill coveredTo_none h.complete

end Steps

/-! ## The commands -/

section Commands

variable {config : Config} {w : World} {db' : Db} {c : Command} {known : Set (Known Call.Result)}

/-- The row under the lease of a thread is the one that it has read. -/
theorem settled_of_reads (hsound : Sound Meant w known) {id leaseOwner : Nat}
    {job row : HistorySyncJob} (hreads : Reads known id leaseOwner job)
    (hrow : w.db.jobs.get id = some row) (hholds : holds leaseOwner row = true) :
    settled row = settled job :=
  (hsound _ _ hreads).2 row hrow (of_decide_eq_true hholds)

theorem jobs_command {r : c.Result} (h : Backed w) (hsound : Sound Meant w known)
    (hok : CommandGrounds config known c) (heffect : Effect config w.db c r db')
    (hgrows : Grows w { w with db := db' }) (id : Nat) (job : HistorySyncJob)
    (hjob : db'.jobs.get id = some job) : JobBacked { w with db := db' } id job := by
  rcases row_of_effect heffect hjob with ⟨row, hrow, rfl⟩ | ⟨shopId, rfl⟩
  · have hbacked := h.jobs id row hrow
    have hsame : ∀ {job : HistorySyncJob}, (∀ job error now, c ≠ .recoverCursor id job error now) →
        cursors job = cursors row → JobBacked { w with db := db' } id job :=
      fun hrecover hcursors => jobBacked_same hgrows
        (fun _ hworked => worked_of_effect h.workIds heffect hrecover hworked) hcursors hbacked
    have hif : ∀ {p : Prop} [Decidable p] {f : HistorySyncJob → HistorySyncJob},
        (∀ job error now, c ≠ .recoverCursor id job error now) →
        (p → JobBacked { w with db := db' } id (f row)) →
        JobBacked { w with db := db' } id (if p then f row else row) := by
      intro p _ f hrecover hf
      by_cases hp : p
      · rw [if_pos hp]
        exact hf hp
      · rw [if_neg hp]
        exact hsame hrecover rfl
    cases c with
    | stageConversations jobId leaseOwner sequence page now =>
      refine hif (fun _ _ _ hc => by cases hc) ?_
      rintro ⟨rfl, hholds⟩
      obtain ⟨read, hreads, _, hsequence, hpage⟩ := hok
      have hcursors := cursors_of_settled (settled_of_reads hsound hreads hrow hholds)
      simp only [cursors, Prod.mk.injEq] at hcursors
      obtain ⟨hpass, _, hseq, hbackfill, hincremental, _⟩ := hcursors
      have hcursor : listCursor row = listCursor read := by
        unfold listCursor
        rw [hpass, hbackfill, hincremental]
      have hanswered : .conversations (given (listCursor read)) page ∈ w.exchanges :=
        hsound _ _ hpage
      refine jobBacked_listed h hrow (by rw [hcursor]; exact hanswered) hgrows ?_
      intro item hitem
      have hworked : Worked (withWorks w.db id sequence page.items) id sequence item.id :=
        worked_withWorks h.workIds hitem
      rw [hseq, hsequence, heffect]
      exact hworked
    | storeMessages => exact hif (fun _ _ _ hc => by cases hc) (fun _ =>
        hsame (fun _ _ _ hc => by cases hc) rfl)
    | advanceCompletedPage jobId leaseOwner advance now =>
      refine hif (fun _ _ _ hc => by cases hc) ?_
      rintro ⟨rfl, hholds⟩
      obtain ⟨read, hreads, hphase, hwork, hdecided⟩ := hok
      have hsettled := settled_of_reads hsound hreads hrow hholds
      have hcursors := cursors_of_settled hsettled
      simp only [cursors, Prod.mk.injEq] at hcursors
      obtain ⟨page, hpending, hitems⟩ := (hsound _ _ hwork).2 row hrow (of_decide_eq_true hholds)
        (hcursors.2.1.trans hphase) hcursors.2.2.1
      have hadvanced : JobBacked w id (advanced config now advance row) :=
        jobBacked_advanced hbacked hdecided hsettled hpending hitems
      refine jobBacked_same hgrows (fun _ hworked => ?_) rfl hadvanced
      exact worked_of_effect h.workIds heffect (fun _ _ _ hc => by cases hc) hworked
    | recoverCursor jobId read error now =>
      by_cases hid : id = jobId
      · have hrecovered : rowAfter config w.db (.recoverCursor jobId read error now) id row =
            recovered read error now row := if_pos hid
        rw [hrecovered]
        exact jobBacked_list rfl coveredTo_none coveredTo_none
          (fun hcomplete => coveredOut_grows hgrows (hbacked.complete hcomplete))
      · have hkept : rowAfter config w.db (.recoverCursor jobId read error now) id row = row :=
          if_neg hid
        rw [hkept]
        refine hsame (fun job error now hc => ?_) rfl
        cases hc
        exact hid rfl
    | backOff => exact hif (fun _ _ _ hc => by cases hc) (fun _ =>
        hsame (fun _ _ _ hc => by cases hc) rfl)
    | fail => exact hif (fun _ _ _ hc => by cases hc) (fun _ =>
        hsame (fun _ _ _ hc => by cases hc) rfl)
    | restart jobId existing =>
      refine hif (fun _ _ _ hc => by cases hc) (fun _ => hsame (fun _ _ _ hc => by cases hc) ?_)
      unfold restarted
      dsimp only
      split
      · rfl
      · rfl
    | pause => exact hif (fun _ _ _ hc => by cases hc) (fun _ =>
        hsame (fun _ _ _ hc => by cases hc) rfl)
    | queueIncremental =>
      refine hif (fun _ _ _ hc => by cases hc) (fun _ => ?_)
      exact jobBacked_list rfl (coveredTo_grows hgrows hbacked.backfill) coveredTo_none
        (fun hcomplete => coveredOut_grows hgrows (hbacked.complete hcomplete))
    | _ => exact hsame (fun _ _ _ hc => by cases hc) rfl
  · exact jobBacked_list rfl coveredTo_none coveredTo_none (fun hcomplete => by cases hcomplete)

theorem workBacked_grows {w' : World} (hgrows : Grows w w') {work : HistorySyncConversationWork}
    (h : WorkBacked w work) : WorkBacked w' work :=
  ⟨fun hstate => messagesTo_grows hgrows (h.going hstate),
    fun hstate => messagesOut_grows hgrows (h.complete hstate)⟩

theorem works_command {r : c.Result} (h : Backed w) (hsound : Sound Meant w known)
    (hok : CommandGrounds config known c) (heffect : Effect config w.db c r db')
    (hgrows : Grows w { w with db := db' }) (k : Nat) (work : HistorySyncConversationWork)
    (hwork : db'.works.get k = some work) : WorkBacked { w with db := db' } work := by
  rcases work_of_effect h.workIds heffect hwork with hold |
    ⟨id, leaseOwner, shopId, creatorId, conversationId, page, imported, now, old, rfl, hget, rfl⟩ |
    ⟨_, _, hstate, htoken⟩
  · exact workBacked_grows hgrows (h.works k work hold)
  · obtain ⟨job, read, _, _, hfound, hid, hpage⟩ := hok
    obtain ⟨_, _, hread, hconversation⟩ := hsound _ _ hfound
    have hsame := hconversation old hget
    have hanswered : .messages conversationId (given read.privateMessagePageToken) page ∈
        w.exchanges := hsound _ _ hpage
    have hgot : GotMessages { w with db := db' } old.externalConversationId
        (given read.privateMessagePageToken) page := by
      rw [hsame, hid]
      refine ⟨hanswered, fun m hm => ?_⟩
      rw [heffect.2]
      exact stored_withMessages conversationId page.items w.db (.inr ⟨m, hm, rfl⟩)
    have hto : MessagesTo { w with db := db' } old.externalConversationId
        (given read.privateMessagePageToken) := by
      rw [hsame]
      exact messagesTo_grows hgrows hread
    cases hmore : page.hasMore with
    | true =>
      refine ⟨fun _ => readTo_next hto hgot hmore, fun hstate => ?_⟩
      simp [worked, hmore] at hstate
    | false =>
      refine ⟨fun hstate => ?_, fun _ => readOut_last hto hgot hmore⟩
      simp [worked, hmore] at hstate
  · refine ⟨fun _ => ?_, fun hcomplete => ?_⟩
    · rw [htoken]
      exact readTo_start
    · rw [hstate] at hcomplete
      cases hcomplete

theorem leases_command {r : c.Result} (h : Backed w) (heffect : Effect config w.db c r db')
    (id : Nat) (job : HistorySyncJob) (leaseOwner : Nat) (hjob : db'.jobs.get id = some job)
    (hlease : job.leaseOwner = some leaseOwner) : leaseOwner < w.nextLease := by
  rcases row_of_effect heffect hjob with ⟨row, hrow, rfl⟩ | ⟨shopId, rfl⟩
  · exact h.leases id row leaseOwner hrow (settled_of_lease hlease).1
  · cases hlease

theorem backed_command {r : c.Result} (h : Backed w) (hsound : Sound Meant w known)
    (hok : CommandGrounds config known c) (heffect : Effect config w.db c r db')
    (hgrows : Grows w { w with db := db' }) : Backed { w with db := db' } := by
  have hleases := leases_command h heffect
  exact ⟨hleases, jobs_command h hsound hok heffect hgrows,
    works_command h hsound hok heffect hgrows, fresh_of_effect h.workIds heffect⟩

end Commands

/-! ## The calls -/

/-- What every call does to the world. -/
structure Moves (w w' : World) : Prop where
  grows : Grows w w'
  nextLease : w.nextLease ≤ w'.nextLease
  nextWorkId : w.db.nextWorkId ≤ w'.db.nextWorkId
  /-- A lease that was drawn before is one that the job had. -/
  leased : ∀ id row leaseOwner, w'.db.jobs.get id = some row → row.leaseOwner = some leaseOwner →
    leaseOwner < w.nextLease → ∃ old, w.db.jobs.get id = some old ∧
      old.leaseOwner = some leaseOwner ∧ settled row = settled old
  works : ∀ k row, w'.db.works.get k = some row → k < w.db.nextWorkId →
    ∃ old, w.db.works.get k = some old ∧
      row.externalConversationId = old.externalConversationId

section Calls

variable {config : Config} {w w' : World} {c : Call} {known : Set (Known Call.Result)}

/-- A claim gives a new lease to a job that allows it, and begins a new pass at most. -/
theorem row_of_claim {db : Db} {id i leaseOwner : Nat} {candidate row : HistorySyncJob} {now : Int}
    (hrow : (setClaimed config db id candidate leaseOwner now).jobs.get i = some row) :
    ∃ old, db.jobs.get i = some old ∧
      (row = old ∨ row = claimed config candidate leaseOwner now old) := by
  rw [get_setClaimed, Option.map_eq_some_iff] at hrow
  obtain ⟨old, hold, hafter⟩ := hrow
  refine ⟨old, hold, ?_⟩
  split at hafter
  · exact .inr hafter.symm
  · exact .inl hafter.symm

theorem lease_claimed (candidate : HistorySyncJob) (leaseOwner : Nat) (now : Int)
    (row : HistorySyncJob) :
    (claimed config candidate leaseOwner now row).leaseOwner = some leaseOwner := by
  unfold claimed
  dsimp only
  split
  · rfl
  · rfl

theorem moves_command {db' : Db} {d : Command} {r : d.Result} (h : Backed w)
    (heffect : Effect config w.db d r db') (hgrows : Grows w { w with db := db' }) :
    Moves w { w with db := db' } where
  grows := hgrows
  nextLease := le_rfl
  nextWorkId := nextWorkId_of_effect heffect
  leased id row leaseOwner hrow hlease _ := by
    rcases row_of_effect heffect hrow with ⟨old, hold, rfl⟩ | ⟨shopId, rfl⟩
    · exact ⟨old, hold, settled_of_lease hlease⟩
    · cases hlease
  works k row hrow hk := by
    rcases work_of_effect h.workIds heffect hrow with hget |
      ⟨_, _, _, _, _, _, _, _, old, _, hget, rfl⟩ | ⟨hnew, _⟩
    · exact ⟨row, hget, rfl⟩
    · exact ⟨old, hget, rfl⟩
    · omega

theorem moves_claimed {id : Nat} {candidate : HistorySyncJob} {now : Int}
    (hgrows : Grows w { w with
      db := setClaimed config w.db id candidate w.nextLease now, nextLease := w.nextLease + 1 }) :
    Moves w { w with
      db := setClaimed config w.db id candidate w.nextLease now, nextLease := w.nextLease + 1 } where
  grows := hgrows
  nextLease := Nat.le_succ _
  nextWorkId := le_rfl
  leased i row leaseOwner hrow hlease hbelow := by
    obtain ⟨old, hold, rfl | rfl⟩ := row_of_claim hrow
    · exact ⟨_, hold, hlease, rfl⟩
    · rw [lease_claimed, Option.some.injEq] at hlease
      omega
  works k row hrow _ := ⟨row, hrow, rfl⟩

theorem moves_of_exec {answer : c.Answer} (h : Backed w) (hexec : Exec config w c answer w') :
    Moves w w' := by
  have hgrows := grows_of_exec hexec
  cases hexec with
  | commit d r db hrun => exact moves_command h (effect_of_run hrun) hgrows
  | lost d r db e hrun => exact moves_command h (effect_of_run hrun) hgrows
  | failed => exact ⟨hgrows, le_rfl, le_rfl, fun _ row _ hrow hlease _ => ⟨row, hrow, hlease, rfl⟩,
      fun _ row hrow _ => ⟨row, hrow, rfl⟩⟩
  | claimed id candidate now n db hrun =>
    rw [claim_effect hrun] at hgrows ⊢
    exact moves_claimed hgrows
  | claimLost id candidate now n db e hrun =>
    rw [claim_effect hrun] at hgrows ⊢
    exact moves_claimed hgrows
  | claimFailed => exact ⟨hgrows, Nat.le_succ _, le_rfl,
      fun _ row _ hrow hlease _ => ⟨row, hrow, hlease, rfl⟩, fun _ row hrow _ => ⟨row, hrow, rfl⟩⟩
  | other => exact ⟨hgrows, le_rfl, le_rfl, fun _ row _ hrow hlease _ => ⟨row, hrow, hlease, rfl⟩,
      fun _ row hrow _ => ⟨row, hrow, rfl⟩⟩

/-- A call that leaves the rows alone. -/
theorem backed_same (h : Backed w) (hgrows : Grows w w') (hdb : w'.db = w.db)
    (hnext : w.nextLease ≤ w'.nextLease) : Backed w' := by
  constructor
  · rw [hdb]
    exact fun id job leaseOwner hjob hlease => (h.leases id job leaseOwner hjob hlease).trans_le hnext
  · rw [hdb]
    refine fun id job hjob => jobBacked_same hgrows (fun _ hworked => ?_) rfl (h.jobs id job hjob)
    rw [hdb]
    exact hworked
  · rw [hdb]
    exact fun k work hwork => workBacked_grows hgrows (h.works k work hwork)
  · rw [hdb]
    exact h.workIds

theorem backed_claimed (h : Backed w) {id : Nat} {candidate : HistorySyncJob} {now : Int}
    (hgrows : Grows w { w with
      db := setClaimed config w.db id candidate w.nextLease now, nextLease := w.nextLease + 1 }) :
    Backed { w with
      db := setClaimed config w.db id candidate w.nextLease now, nextLease := w.nextLease + 1 } := by
  constructor
  · intro i row leaseOwner hrow hlease
    obtain ⟨old, hold, rfl | rfl⟩ := row_of_claim hrow
    · exact Nat.lt_succ_of_lt (h.leases i _ leaseOwner hold hlease)
    · rw [lease_claimed, Option.some.injEq] at hlease
      rw [← hlease]
      exact Nat.lt_succ_self _
  · intro i row hrow
    obtain ⟨old, hold, hafter⟩ := row_of_claim hrow
    have hbacked := h.jobs i old hold
    have hsame : ∀ {job : HistorySyncJob}, cursors job = cursors old → JobBacked _ i job :=
      fun hcursors => jobBacked_same hgrows (fun _ hworked => hworked) hcursors hbacked
    rcases hafter with rfl | rfl
    · exact hsame rfl
    · unfold claimed
      dsimp only
      split
      · exact jobBacked_list rfl (coveredTo_grows hgrows hbacked.backfill) coveredTo_none
          (fun hcomplete => coveredOut_grows hgrows (hbacked.complete hcomplete))
      · exact hsame rfl
  · exact fun k work hwork => workBacked_grows hgrows (h.works k work hwork)
  · exact h.workIds

theorem backed_exec {answer : c.Answer} (h : Backed w) (hsound : Sound Meant w known)
    (hok : Grounds config known c) (hexec : Exec config w c answer w') : Backed w' := by
  have hgrows := grows_of_exec hexec
  cases hexec with
  | commit d r db hrun => exact backed_command h hsound hok (effect_of_run hrun) hgrows
  | lost d r db e hrun => exact backed_command h hsound hok (effect_of_run hrun) hgrows
  | failed => exact h
  | claimed id candidate now n db hrun =>
    rw [claim_effect hrun] at hgrows ⊢
    exact backed_claimed h hgrows
  | claimLost id candidate now n db e hrun =>
    rw [claim_effect hrun] at hgrows ⊢
    exact backed_claimed h hgrows
  | claimFailed => exact backed_same h hgrows rfl (Nat.le_succ _)
  | other => exact backed_same h hgrows rfl le_rfl

/-- What an answer says stays true. -/
theorem meant_moves (hmoves : Moves w w') {a : c.Result} (h : Meant w c a) : Meant w' c a := by
  cases c with
  | claim id candidate now =>
    obtain ⟨leaseOwner, n⟩ := a
    exact (show leaseOwner < w.nextLease from h).trans_le hmoves.nextLease
  | listConversations token => exact hmoves.grows.exchanges _ h
  | listMessages conversationId creatorImId token => exact hmoves.grows.exchanges _ h
  | db d =>
    cases d with
    | jobUnderLease id leaseOwner =>
      obtain ⟨hbelow, hrow⟩ := h
      refine ⟨hbelow.trans_le hmoves.nextLease, fun row hget hlease => ?_⟩
      obtain ⟨old, hold, holds, hsettled⟩ := hmoves.leased id row leaseOwner hget hlease hbelow
      exact hsettled.trans (hrow old hold holds)
    | findWork id leaseOwner pageSequence =>
      obtain ⟨hbelow, hfound⟩ := h
      refine ⟨hbelow.trans_le hmoves.nextLease, ?_⟩
      cases a with
      | some found =>
        obtain ⟨k, work⟩ := found
        obtain ⟨hk, hread, hrow⟩ := hfound
        refine ⟨hk.trans_le hmoves.nextWorkId, messagesTo_grows hmoves.grows hread, ?_⟩
        intro row hget
        obtain ⟨old, hold, hsame⟩ := hmoves.works k row hget hk
        exact hsame.trans (hrow old hold)
      | none =>
        intro row hget hlease hphase hsequence
        obtain ⟨old, hold, holds, hsettled⟩ := hmoves.leased id row leaseOwner hget hlease hbelow
        have hcursors := cursors_of_settled hsettled
        have hcolumns := hcursors
        simp only [cursors, Prod.mk.injEq] at hcolumns
        obtain ⟨page, hpending, hitems⟩ := hfound old hold holds
          (hcolumns.2.1.symm.trans hphase) (hcolumns.2.2.1.symm.trans hsequence)
        exact ⟨page, pending_grows hmoves.grows hpending hcursors,
          fun item hitem => messagesOut_grows hmoves.grows (hitems item hitem)⟩
    | _ => trivial
  | _ => trivial

/-- What a call answers is so. -/
theorem meant_answer {a : c.Result} (h : Backed w) (hsound : Sound Meant w known)
    (hok : Grounds config known c) (hexec : Exec config w c (.ok a) w') : Meant w' c a := by
  cases c with
  | claim id candidate now =>
    cases hexec with
    | claimed _ _ _ n db hrun => exact Nat.lt_succ_self _
    | other _ _ helsewhere => cases helsewhere
  | listConversations token =>
    cases hexec with
    | other => exact List.mem_append_right _ List.mem_cons_self
  | listMessages conversationId creatorImId token =>
    cases hexec with
    | other => exact List.mem_append_right _ List.mem_cons_self
  | db d =>
    cases hexec with
    | other _ _ helsewhere => cases helsewhere
    | commit _ r db hrun =>
      have heffect := effect_of_run hrun
      cases d with
      | jobUnderLease id leaseOwner =>
        obtain ⟨hjob, hlease, rfl⟩ := heffect
        refine ⟨h.leases id a leaseOwner hjob hlease, fun row hrow _ => ?_⟩
        have hsame : some row = some a := hrow.symm.trans hjob
        rw [Option.some.inj hsame]
      | findWork id leaseOwner pageSequence =>
        obtain ⟨hsome, hnone, rfl⟩ := heffect
        obtain ⟨job, hreads, -⟩ := hok
        refine ⟨(hsound _ _ hreads).1, ?_⟩
        cases a with
        | some found =>
          obtain ⟨k, work⟩ := found
          obtain ⟨hget, _, _, hstate⟩ := hsome k work rfl
          refine ⟨h.workIds k work hget, (h.works k work hget).going hstate, fun row hrow => ?_⟩
          have hsame : some row = some work := hrow.symm.trans hget
          rw [Option.some.inj hsame]
        | none =>
          intro row hrow _ hphase hsequence
          obtain ⟨page, hpending, hitems⟩ := (h.jobs id row hrow).pending hphase
          refine ⟨page, hpending, fun item hitem => ?_⟩
          rcases hitems item hitem with hout | ⟨k, work, hget, hkey⟩
          · exact hout
          · -- a work of the page that is there is complete
            simp only [keyOf, Prod.mk.injEq] at hkey
            have hstate := hnone rfl k work hget hkey.1 (hkey.2.1.trans hsequence)
            rw [← hkey.2.2]
            exact (h.works k work hget).complete hstate
      | _ => trivial
  | _ => trivial

theorem coverage_stable (config : Config) :
    Stable (machine config) (fun known c => Grounds config known c) Backed Meant where
  inv known w c answer w' hact := by
    obtain ⟨i, hexec⟩ := hact.exec
    exact backed_exec hact.inv hact.sound hact.ground hexec
  learn known w c a w' hact := by
    obtain ⟨i, hexec⟩ := hact.exec
    exact meant_answer hact.inv hact.sound hact.ground hexec
  retain known w c answer w' c' a' hact h := by
    obtain ⟨i, hexec⟩ := hact.exec
    exact meant_moves (moves_of_exec hact.inv hexec) h

theorem backed_initial : Backed initial.world := by
  constructor
  · intro id job leaseOwner hjob
    cases hjob
  · intro id job hjob
    cases hjob
  · intro k work hwork
    cases hwork
  · intro k work hwork
    cases hwork

end Calls

/-! ## The main results -/

section Main

variable {config : Config} {pool : Pool World Call Call.Answer} {ls : List (Label Call Call.Answer)}

theorem backed_run (h : SystemRun config initial ls pool) : Backed pool.world :=
  run_stable (quiet_machine config) (coverage_stable config) (fun _ hp => startable_conforms hp) h
    (fun _ => rfl) backed_initial

/-- The sync skips nothing, whatever workers crash, are taken over or are late. Behind the backfill
cursor of a job, and before its first completion, stand answered pages of the list whose
conversations were all read out; a work is complete only when its conversation was. -/
theorem history_is_never_skipped (h : SystemRun config initial ls pool) :
    (∀ id job, pool.world.db.jobs.get id = some job →
      CoveredTo pool.world (given job.privateBackfillPageToken) ∧
      CoveredTo pool.world (given job.privateIncrementalPageToken) ∧
      (job.initialCompletedAt.isSome = true → CoveredOut pool.world)) ∧
    ∀ k work, pool.world.db.works.get k = some work → work.state = .COMPLETE →
      MessagesOut pool.world work.externalConversationId := by
  have hbacked := backed_run h
  refine ⟨fun id job hjob => ?_, fun k work hwork => (hbacked.works k work hwork).complete⟩
  have hjobBacked := hbacked.jobs id job hjob
  exact ⟨hjobBacked.backfill, hjobBacked.incremental, hjobBacked.complete⟩

theorem history_is_never_skipped_in_the_sample : ∃ ls pool job,
    SystemRun Config.defaults initial ls pool ∧ pool.world.db.jobs.get 0 = some job ∧
      job.initialCompletedAt = some 3000 ∧ CoveredOut pool.world := by
  obtain ⟨ls, pool, job, hrun, hjob, hcomplete⟩ := exists_completed
  have hsystem : SystemRun Config.defaults initial ls pool :=
    hrun.mono (fun _ _ _ hstep => hstep.1)
  obtain ⟨_, _, hcovered⟩ := (history_is_never_skipped hsystem).1 0 job hjob
  exact ⟨ls, pool, job, hsystem, hjob, hcomplete, hcovered (by rw [hcomplete]; rfl)⟩

/-- The conversation is on a page of the list. -/
def Lists (P : Provider) (item : ProviderConversation) : Prop :=
  ∃ token, (paging ProviderConversation).Within P.conversations token ∧
    item ∈ (P.conversations token).items

/-- The message is on a page of the conversation. -/
def Sends (P : Provider) (conversationId : String) (message : ProviderMessage) : Prop :=
  ∃ token, (paging ProviderMessage).Within (P.messages conversationId) token ∧
    message ∈ (P.messages conversationId token).items

theorem exchanges_honest {P : Provider} (h : HonestRun config P initial ls pool) :
    ∀ e ∈ pool.world.exchanges, P.Gives e := by
  refine h.invariant (fun pool => ∀ e ∈ pool.world.exchanges, P.Gives e) ?_
    (fun e he => absurd he List.not_mem_nil)
  rintro s l t _ ⟨hstep, hhonest⟩ hold
  cases hstep with
  | spawn => exact hold
  | work _ _ _ _ _ hwork => exact hwork.elim
  | crash i p hthread => cases p <;> exact hold
  | run i c next answer w hthread hexec =>
    have hexec' : Exec config s.world c answer w := hexec
    cases hexec' with
    | other _ _ _ =>
      intro e he
      rcases List.mem_append.1 he with he | he
      · exact hold e he
      · exact hhonest e he
    | _ => exact hold

/-- When the first pass over a history is complete, every message of every conversation that the
provider lists is stored. -/
theorem completed_history_is_whole {P : Provider} (h : HonestRun config P initial ls pool) {id : Nat}
    {job : HistorySyncJob} (hjob : pool.world.db.jobs.get id = some job)
    (hcomplete : job.initialCompletedAt.isSome = true) {item : ProviderConversation}
    (hitem : Lists P item) {message : ProviderMessage} (hmessage : Sends P item.id message) :
    Stored pool.world.db message.id := by
  have hrun : SystemRun config initial ls pool := h.mono (fun _ _ _ hstep => hstep.1)
  have hgives := exchanges_honest h
  have hcovered := ((backed_run hrun).jobs id job hjob).complete hcomplete
  obtain ⟨token, htoken, hlisted⟩ := hitem
  have hlist : GotConversations pool.world token (P.conversations token) :=
    got_of_readOut (fun token page hgot => hgives (.conversations token page) hgot.1) hcovered
      htoken
  obtain ⟨token', htoken', hsent⟩ := hmessage
  have hread : GotMessages pool.world item.id token' (P.messages item.id token') :=
    got_of_readOut (fun token page hgot => hgives (.messages item.id token page) hgot.1)
      (hlist.2 item hlisted) htoken'
  exact hread.2 message hsent

theorem completed_history_is_whole_in_the_sample : ∃ ls pool job,
    HonestRun Config.defaults sampleProvider initial ls pool ∧
      pool.world.db.jobs.get 0 = some job ∧ job.initialCompletedAt = some 3000 ∧
        Stored pool.world.db "m2" := by
  obtain ⟨ls, pool, job, hrun, hjob, hcomplete⟩ := exists_completed
  have hitem : Lists sampleProvider { id := "c1", creatorImId := "im" } :=
    ⟨none, readTo_start, List.mem_cons_self⟩
  have hnext : (paging ProviderMessage).Within (sampleProvider.messages "c1") (some "next") :=
    readTo_start.tail ⟨sampleProvider.messages "c1" none, rfl, rfl, rfl⟩
  have hmessage : Sends sampleProvider "c1" ⟨"m2", .INBOUND, "Thanks", 20⟩ :=
    ⟨some "next", hnext, List.mem_cons_self⟩
  have hstored : Stored pool.world.db "m2" :=
    completed_history_is_whole hrun hjob (by rw [hcomplete]; rfl) hitem hmessage
  exact ⟨ls, pool, job, hrun, hjob, hcomplete, hstored⟩

end Main

end tiktok_outreach.history_coverage
