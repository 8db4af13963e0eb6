-- What the commands of the history sync leave alone: the messages that are
-- stored, the columns of a job under its lease, and the works of its pages.
import TiktokOutreach.HistoryEffects

open tables transactions tiktok_outreach.history_schema tiktok_outreach.history_sync
  tiktok_outreach.history_worker tiktok_outreach.history_effects

namespace tiktok_outreach.history_frames

/-! ## The messages -/

def Stored (db : Db) (id : String) : Prop := (db.messages.get id).isSome = true

section Messages

variable {config : Config} {db db' : Db} {c : Command}

theorem stored_withMessage (conversationId : String) (message : ProviderMessage) {id : String}
    (h : Stored db id ∨ message.id = id) : Stored (withMessage conversationId db message) id := by
  unfold withMessage Stored at *
  split
  · rename_i hsome
    rcases h with h | rfl
    · exact h
    · exact hsome
  · rw [Table.get_set]
    rcases h with h | rfl
    · split
      · rfl
      · exact h
    · rw [if_pos rfl]
      rfl

theorem stored_withMessages (conversationId : String) (messages : List ProviderMessage) (db : Db)
    {id : String} (h : Stored db id ∨ ∃ m ∈ messages, m.id = id) :
    Stored (withMessages conversationId db messages) id := by
  induction messages generalizing db with
  | nil =>
    rcases h with h | ⟨m, hm, _⟩
    · exact h
    · cases hm
  | cons message messages ih =>
    refine ih (withMessage conversationId db message) ?_
    rcases h with h | ⟨m, hm, hid⟩
    · exact .inl (stored_withMessage conversationId message (.inl h))
    · rcases List.mem_cons.1 hm with rfl | hm
      · exact .inl (stored_withMessage conversationId m (.inr hid))
      · exact .inr ⟨m, hm, hid⟩

theorem messages_withWorks (id pageSequence : Nat) (items : List ProviderConversation) (db : Db) :
    (withWorks db id pageSequence items).messages = db.messages := by
  induction items generalizing db with
  | nil => rfl
  | cons item items ih =>
    refine (ih (withWork db id pageSequence item)).trans ?_
    unfold withWork
    split
    · rfl
    · rfl

theorem message_withMessages (conversationId : String) (messages : List ProviderMessage) (db : Db)
    {id : String} {message : ConversationMessage} (h : db.messages.get id = some message) :
    (withMessages conversationId db messages).messages.get id = some message := by
  induction messages generalizing db with
  | nil => exact h
  | cons item messages ih =>
    refine ih (withMessage conversationId db item) ?_
    unfold withMessage
    split
    · exact h
    · rename_i hnone
      rw [Table.get_set, if_neg (fun hid => hnone (by rw [← hid, h]; rfl))]
      exact h

/-- A message that is stored stays as it is. -/
theorem message_of_effect {r : c.Result} (h : Effect config db c r db') {id : String}
    {message : ConversationMessage} (hmessage : db.messages.get id = some message) :
    db'.messages.get id = some message := by
  have hsame : db'.messages = db.messages → db'.messages.get id = some message := by
    intro hmessages
    rw [hmessages]
    exact hmessage
  cases c with
  | storeMessages jobId leaseOwner workId shopId creatorId conversationId page imported now =>
    obtain ⟨_, rfl⟩ := h
    exact message_withMessages conversationId page.items db hmessage
  | stageConversations jobId leaseOwner pageSequence page now =>
    rw [h] at hsame ⊢
    exact hsame (messages_withWorks jobId pageSequence page.items db)
  | findWork => exact hsame (by rw [h.2.2])
  | jobUnderLease => exact hsame (by rw [h.2.2])
  | upsertConversation =>
    obtain ⟨conversations, rfl⟩ := h
    exact hmessage
  | createJob =>
    rw [h.2]
    exact hmessage
  | findCandidate => exact hsame (by rw [h.2])
  | findConversation => exact hsame (by rw [h.2])
  | findUnderLease => exact hsame (by rw [h.2])
  | findJobOfShop => exact hsame (by rw [h.2])
  | _ =>
    rw [h]
    exact hmessage

theorem stored_of_effect {r : c.Result} (h : Effect config db c r db') {id : String}
    (hstored : Stored db id) : Stored db' id := by
  obtain ⟨message, hmessage⟩ := Option.isSome_iff_exists.1 hstored
  unfold Stored
  rw [message_of_effect h hmessage]
  rfl

end Messages

/-! ## Leases -/

/-- The columns that change under a lease only, or when the lease is given up. -/
def settled (job : HistorySyncJob) : HistorySyncJob :=
  { job with
    state := .QUEUED
    nextAttemptAt := none
    lastErrorCategory := none
    lastProviderCode := none
    completedAt := none
    leaseOwner := none
    leaseExpiresAt := none }

section Leases

variable {config : Config} {db : Db} {c : Command} {i leaseOwner : Nat} {job : HistorySyncJob}

/-- A command that keeps the lease of a job keeps its settled columns. -/
theorem settled_of_lease (h : (rowAfter config db c i job).leaseOwner = some leaseOwner) :
    job.leaseOwner = some leaseOwner ∧ settled (rowAfter config db c i job) = settled job := by
  have hcases : ∀ {p : Prop} [Decidable p] {f : HistorySyncJob → HistorySyncJob},
      (∀ row, (f row).leaseOwner = none ∨
        ((f row).leaseOwner = row.leaseOwner ∧ settled (f row) = settled row)) →
      (if p then f job else job).leaseOwner = some leaseOwner →
      job.leaseOwner = some leaseOwner ∧ settled (if p then f job else job) = settled job := by
    intro p _ f hf hlease
    split at hlease
    · rename_i hp
      rw [if_pos hp]
      rcases hf job with hnone | ⟨hsame, hsettled⟩
      · rw [hnone] at hlease
        cases hlease
      · exact ⟨hsame ▸ hlease, hsettled⟩
    · rename_i hp
      rw [if_neg hp]
      exact ⟨hlease, rfl⟩
  cases c with
  | stageConversations => exact hcases (fun _ => .inl rfl) h
  | storeMessages => exact hcases (fun _ => .inl rfl) h
  | advanceCompletedPage id lease advance now =>
    refine hcases (fun row => .inl ?_) h
    cases advance with
    | backfill nextToken pagesSinceHead runHead => cases runHead <;> rfl
    | _ => rfl
  | recoverCursor => exact hcases (fun _ => .inl rfl) h
  | backOff => exact hcases (fun _ => .inl rfl) h
  | fail => exact hcases (fun _ => .inl rfl) h
  | restart id existing =>
    refine hcases (fun row => ?_) h
    unfold restarted
    dsimp only
    split
    · exact .inl rfl
    · exact .inr ⟨rfl, rfl⟩
  | pause => exact hcases (fun _ => .inr ⟨rfl, rfl⟩) h
  | queueIncremental => exact hcases (fun _ => .inl rfl) h
  | _ => exact ⟨h, rfl⟩

end Leases

/-! ## Works -/

/-- The unique key of a work. -/
def keyOf (work : HistorySyncConversationWork) : Nat × Nat × String :=
  (work.historySyncJobId, work.pageSequence, work.externalConversationId)

/-- The conversation has a work on the page of the job. -/
def Worked (db : Db) (jobId pageSequence : Nat) (conversationId : String) : Prop :=
  ∃ k work, db.works.get k = some work ∧ keyOf work = (jobId, pageSequence, conversationId)

def FreshWorks (db : Db) : Prop := ∀ k work, db.works.get k = some work → k < db.nextWorkId

section Works

variable {config : Config} {db db' : Db} {c : Command} {jobId pageSequence k : Nat}
  {conversationId : String} {work : HistorySyncConversationWork} {item : ProviderConversation}
  {items : List ProviderConversation}

theorem worked_of_workOf (h : (workOf db jobId pageSequence conversationId).isSome = true) :
    Worked db jobId pageSequence conversationId := by
  unfold workOf at h
  rw [Option.isSome_map, List.isSome_head?] at h
  obtain ⟨⟨k, work⟩, hmem⟩ := List.exists_mem_of_ne_nil _ h
  obtain ⟨hget, hof⟩ := (Table.mem_findMany _ _ _ _).1 hmem
  simp only [Bool.and_eq_true, decide_eq_true_eq] at hof
  exact ⟨k, work, hget, by simp [keyOf, hof]⟩

theorem get_withWork (hids : FreshWorks db) (h : db.works.get k = some work) :
    (withWork db jobId pageSequence item).works.get k = some work := by
  unfold withWork
  split
  · exact h
  · have hbelow := hids k work h
    have hk : k ≠ db.nextWorkId := by omega
    simp [Table.get_set, hk, h]

theorem of_get_withWork (h : (withWork db jobId pageSequence item).works.get k = some work) :
    db.works.get k = some work ∨ (k = db.nextWorkId ∧ work = newWork jobId pageSequence item) := by
  unfold withWork at h
  split at h
  · exact .inl h
  · rw [Table.get_set] at h
    split at h
    · rename_i hk
      exact .inr ⟨hk, (Option.some.inj h).symm⟩
    · exact .inl h

theorem nextWorkId_withWork : db.nextWorkId ≤ (withWork db jobId pageSequence item).nextWorkId := by
  unfold withWork
  split
  · exact le_rfl
  · exact Nat.le_succ _

theorem fresh_withWork (hids : FreshWorks db) : FreshWorks (withWork db jobId pageSequence item) := by
  intro k work hk
  unfold withWork at hk ⊢
  split at hk
  · rename_i hsome
    rw [if_pos hsome]
    exact hids k work hk
  · rename_i hnone
    rw [if_neg hnone]
    rw [Table.get_set] at hk
    split at hk
    · rename_i heq
      rw [heq]
      exact Nat.lt_succ_self _
    · exact Nat.lt_succ_of_lt (hids k work hk)

theorem worked_withWork : Worked (withWork db jobId pageSequence item) jobId pageSequence item.id := by
  unfold withWork
  split
  · rename_i hsome
    exact worked_of_workOf hsome
  · exact ⟨db.nextWorkId, newWork jobId pageSequence item, by simp [Table.get_set], rfl⟩

theorem get_withWorks (hids : FreshWorks db) (h : db.works.get k = some work) :
    (withWorks db jobId pageSequence items).works.get k = some work := by
  induction items generalizing db with
  | nil => exact h
  | cons item items ih => exact ih (fresh_withWork hids) (get_withWork hids h)

theorem fresh_withWorks (hids : FreshWorks db) :
    FreshWorks (withWorks db jobId pageSequence items) := by
  induction items generalizing db with
  | nil => exact hids
  | cons item items ih => exact ih (fresh_withWork hids)

theorem nextWorkId_withWorks :
    db.nextWorkId ≤ (withWorks db jobId pageSequence items).nextWorkId := by
  induction items generalizing db with
  | nil => exact le_rfl
  | cons item items ih =>
    have hfirst : db.nextWorkId ≤ (withWork db jobId pageSequence item).nextWorkId :=
      nextWorkId_withWork
    exact hfirst.trans ih

/-- The works of a page are those that were there, and new ones. -/
theorem of_get_withWorks (h : (withWorks db jobId pageSequence items).works.get k = some work) :
    db.works.get k = some work ∨
      (db.nextWorkId ≤ k ∧ ∃ item ∈ items, work = newWork jobId pageSequence item) := by
  induction items generalizing db with
  | nil => exact .inl h
  | cons item items ih =>
    have hfirst : db.nextWorkId ≤ (withWork db jobId pageSequence item).nextWorkId :=
      nextWorkId_withWork
    rcases ih h with hold | ⟨hk, item', hitem', hwork⟩
    · rcases of_get_withWork hold with hold | ⟨rfl, hwork⟩
      · exact .inl hold
      · exact .inr ⟨le_rfl, item, List.mem_cons_self, hwork⟩
    · exact .inr ⟨hfirst.trans hk, item', List.mem_cons_of_mem _ hitem', hwork⟩

/-- Every conversation of the page has a work. -/
theorem worked_withWorks (hids : FreshWorks db) (hitem : item ∈ items) :
    Worked (withWorks db jobId pageSequence items) jobId pageSequence item.id := by
  induction items generalizing db with
  | nil => cases hitem
  | cons first items ih =>
    rcases List.mem_cons.1 hitem with rfl | hitem
    · have hfirst : Worked (withWork db jobId pageSequence item) jobId pageSequence item.id :=
        worked_withWork
      obtain ⟨k, work, hget, hkey⟩ := hfirst
      have hids' : FreshWorks (withWork db jobId pageSequence item) := fresh_withWork hids
      have hrest : (withWorks (withWork db jobId pageSequence item) jobId pageSequence
          items).works.get k = some work := get_withWorks hids' hget
      exact ⟨k, work, hrest, hkey⟩
    · exact ih (fresh_withWork hids) hitem

theorem works_withMessages (conversationId : String) (messages : List ProviderMessage) (db : Db) :
    (withMessages conversationId db messages).works = db.works ∧
      (withMessages conversationId db messages).nextWorkId = db.nextWorkId := by
  induction messages generalizing db with
  | nil => exact ⟨rfl, rfl⟩
  | cons message messages ih =>
    have hfirst : (withMessage conversationId db message).works = db.works ∧
        (withMessage conversationId db message).nextWorkId = db.nextWorkId := by
      unfold withMessage
      split
      · exact ⟨rfl, rfl⟩
      · exact ⟨rfl, rfl⟩
    obtain ⟨hworks, hnext⟩ := ih (withMessage conversationId db message)
    exact ⟨hworks.trans hfirst.1, hnext.trans hfirst.2⟩

/-- The commands that write works. -/
def writesWorks : Command → Bool
  | .stageConversations _ _ _ _ _ | .storeMessages _ _ _ _ _ _ _ _ _ | .recoverCursor _ _ _ _ => true
  | _ => false

theorem works_of_effect {r : c.Result} (h : Effect config db c r db')
    (hwrites : writesWorks c = false) :
    db'.works = db.works ∧ db'.nextWorkId = db.nextWorkId := by
  have hsame : db' = db → db'.works = db.works ∧ db'.nextWorkId = db.nextWorkId := by
    rintro rfl
    exact ⟨rfl, rfl⟩
  cases c with
  | stageConversations => cases hwrites
  | storeMessages => cases hwrites
  | recoverCursor => cases hwrites
  | findCandidate => exact hsame h.2
  | jobUnderLease => exact hsame h.2.2
  | findWork => exact hsame h.2.2
  | findConversation => exact hsame h.2
  | findUnderLease => exact hsame h.2
  | findJobOfShop => exact hsame h.2
  | auditEvent => exact hsame h
  | upsertConversation =>
    obtain ⟨conversations, rfl⟩ := h
    exact ⟨rfl, rfl⟩
  | createJob =>
    rw [h.2]
    exact ⟨rfl, rfl⟩
  | _ =>
    rw [h]
    exact ⟨rfl, rfl⟩

end Works

/-! ## Rows after a command -/

section Frames

variable {config : Config} {w : World} {db db' : Db} {c : Command} {i : Nat}
  {row : HistorySyncJob}

/-- A job is new, or one that the command has rewritten. -/
theorem row_of_effect {r : c.Result} (h : Effect config db c r db')
    (hrow : db'.jobs.get i = some row) :
    (∃ old, db.jobs.get i = some old ∧ row = rowAfter config db c i old) ∨
      ∃ shopId, row = { shopId } := by
  by_cases hcreate : ∃ shopId, c = .createJob shopId
  · obtain ⟨shopId, rfl⟩ := hcreate
    rw [h.2, Table.get_set] at hrow
    split at hrow
    · exact .inr ⟨shopId, (Option.some.inj hrow).symm⟩
    · exact .inl ⟨row, hrow, rfl⟩
  · push Not at hcreate
    rw [jobs_of_effect h hcreate, Option.map_eq_some_iff] at hrow
    obtain ⟨old, hold, hafter⟩ := hrow
    exact .inl ⟨old, hold, hafter.symm⟩

theorem get_setWork (db : Db) (workId : Nat)
    (f : HistorySyncConversationWork → HistorySyncConversationWork) (k : Nat) :
    (setWork db workId f).works.get k =
      (db.works.get k).map (fun work => if k = workId then f work else work) := by
  unfold setWork
  simp [Table.get_updateMany]

/-- The works of a job stay, besides those that a recovery of the job removes. -/
theorem worked_of_effect {r : c.Result} (hids : FreshWorks db) (h : Effect config db c r db')
    {jobId pageSequence : Nat} {conversationId : String}
    (hrecover : ∀ job error now, c ≠ .recoverCursor jobId job error now)
    (hworked : Worked db jobId pageSequence conversationId) :
    Worked db' jobId pageSequence conversationId := by
  obtain ⟨k, work, hget, hkey⟩ := hworked
  by_cases hwrites : writesWorks c = false
  · exact ⟨k, work, by rw [(works_of_effect h hwrites).1, hget], hkey⟩
  · cases c with
    | stageConversations id leaseOwner sequence page now =>
      rw [h]
      exact ⟨k, work, get_withWorks hids hget, hkey⟩
    | storeMessages id leaseOwner workId shopId creatorId conversationId page imported now =>
      rw [h.2]
      have hworks := (works_withMessages conversationId page.items db).1
      refine ⟨k, _, (get_setWork _ _ _ _).trans (by rw [hworks, hget, Option.map_some]), ?_⟩
      split
      · exact hkey
      · exact hkey
    | recoverCursor id job error now =>
      have hid : id ≠ jobId := by
        rintro rfl
        exact hrecover job error now rfl
      have hkeyId : work.historySyncJobId = jobId := congrArg Prod.fst hkey
      rw [h]
      refine ⟨k, work, ?_, hkey⟩
      have hkept : (withoutWorks db id job.pageSequence).works.get k = some work := by
        unfold withoutWorks
        rw [Table.get_deleteMany, hget, Option.filter_some, hkeyId]
        simp [hid.symm]
      exact hkept
    | _ => exact absurd rfl hwrites

/-- A work is one that was there, the one whose messages were stored, or new. -/
theorem work_of_effect {r : c.Result} (hids : FreshWorks db) (h : Effect config db c r db') {k : Nat}
    {work : HistorySyncConversationWork} (hwork : db'.works.get k = some work) :
    db.works.get k = some work ∨
    (∃ id leaseOwner shopId creatorId conversationId page imported now old,
      c = .storeMessages id leaseOwner k shopId creatorId conversationId page imported now ∧
      db.works.get k = some old ∧
      work = worked page (newMessages conversationId db page.items) now old) ∨
    (db.nextWorkId ≤ k ∧ k < db'.nextWorkId ∧ work.state = .QUEUED ∧
      work.privateMessagePageToken = none) := by
  by_cases hwrites : writesWorks c = false
  · rw [(works_of_effect h hwrites).1] at hwork
    exact .inl hwork
  · cases c with
    | stageConversations id leaseOwner sequence page now =>
      rw [h] at hwork ⊢
      have hfresh : FreshWorks (withWorks db id sequence page.items) := fresh_withWorks hids
      rcases of_get_withWorks hwork with hold | ⟨hk, item, _, rfl⟩
      · exact .inl hold
      · exact .inr (.inr ⟨hk, hfresh k _ hwork, rfl, rfl⟩)
    | storeMessages id leaseOwner workId shopId creatorId conversationId page imported now =>
      rw [h.2] at hwork
      have hset := (get_setWork _ _ _ _).symm.trans hwork
      rw [(works_withMessages conversationId page.items db).1, Option.map_eq_some_iff] at hset
      obtain ⟨old, hold, hafter⟩ := hset
      split at hafter
      · rename_i hk
        subst hk
        exact .inr (.inl ⟨id, leaseOwner, shopId, creatorId, conversationId, page, imported, now,
          old, rfl, hold, hafter.symm⟩)
      · rw [← hafter]
        exact .inl hold
    | recoverCursor id job error now =>
      rw [h] at hwork
      have hkept : (withoutWorks db id job.pageSequence).works.get k = some work := hwork
      unfold withoutWorks at hkept
      rw [Table.get_deleteMany] at hkept
      exact .inl (Option.filter_eq_some_iff.1 hkept).1
    | _ => exact absurd rfl hwrites

theorem nextWorkId_of_effect {r : c.Result} (h : Effect config db c r db') :
    db.nextWorkId ≤ db'.nextWorkId := by
  by_cases hwrites : writesWorks c = false
  · rw [(works_of_effect h hwrites).2]
  · cases c with
    | stageConversations id leaseOwner sequence page now =>
      rw [h]
      exact nextWorkId_withWorks
    | storeMessages id leaseOwner workId shopId creatorId conversationId page imported now =>
      rw [h.2]
      exact (works_withMessages conversationId page.items db).2.symm.le
    | recoverCursor =>
      rw [h]
      exact le_rfl
    | _ => exact absurd rfl hwrites

theorem fresh_of_effect {r : c.Result} (hids : FreshWorks db) (h : Effect config db c r db') :
    FreshWorks db' := by
  intro k work hwork
  have hnext := nextWorkId_of_effect h
  rcases work_of_effect hids h hwork with hget | ⟨_, _, _, _, _, _, _, _, old, _, hget, _⟩ | hnew
  · exact (hids k work hget).trans_le hnext
  · exact (hids k old hget).trans_le hnext
  · exact hnew.2.1

end Frames

end tiktok_outreach.history_frames
