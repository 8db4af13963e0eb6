-- The programs of the crawler follow the protocol, whatever they are answered.
import TiktokOutreach.CreatorProtocol

open executions executions.Js tiktok_outreach.creator_schema tiktok_outreach.creator_worker
  tiktok_outreach.marketplace_partitions tiktok_outreach.partition_claims
  tiktok_outreach.creator_commands

namespace tiktok_outreach.creator_protocol

/-- The role has the phase and knows at least these answers. -/
def At (phase : Phase) (known : Set Known) (r : Role) : Prop :=
  r.phase = phase ∧ known ⊆ r.known

/-- The role works under the lease and knows at least these answers. -/
def Behind (leaseId : Nat) (known : Set Known) (r : Role) : Prop :=
  r.phase.holds = some leaseId ∧ known ⊆ r.known

/-- The program follows the protocol, and ends in a role of the kind `K` that knows at least what
it knew. -/
abbrev Into {α : Type} (K : Set Known → Role → Prop) (phase : Phase) (known : Set Known)
    (m : Program α) : Prop :=
  Triple creatorProtocol (At phase known) m (fun _ => K known) (fun _ => K known)

/-- The program follows the protocol, and keeps its phase and what it knows. -/
abbrev Follow {α : Type} (phase : Phase) (known : Set Known) (m : Program α) : Prop :=
  Into (At phase) phase known m

/-- The program of a worker, which may commit a page at its end. -/
abbrev Attempt {α : Type} (leaseId : Nat) (known : Set Known) (m : Program α) : Prop :=
  Into (Behind leaseId) (.worker leaseId) known m

/-- A role of the phase is of the kind `K`. -/
structure Ends (phase : Phase) (K : Set Known → Role → Prop) : Prop where
  here : ∀ known r, At phase known r → K known r
  mono : ∀ known known' r, known ⊆ known' → K known' r → K known r

/-- The commands after which a thread is in another phase. -/
def moves : Command → Bool
  | .claimLease _ | .commitPage _ _ _ _ => true
  | _ => false

section Grounds

variable {known known' : Set Known}

theorem works_mono (h : known ⊆ known') {row : Row} (hw : Works known row) : Works known' row := by
  rcases hw with ⟨leaseId, claim, hclaim, hrow⟩ | ⟨leaseId, job, hjob, hid, hp, hresumes⟩
  · exact Or.inl ⟨leaseId, claim, h hclaim, hrow⟩
  · exact Or.inr ⟨leaseId, job, h hjob, hid, h hp, hresumes⟩

theorem handles_mono (h : known ⊆ known') {job : CreatorSyncJob} (hj : Handles known job) :
    Handles known' job := by
  obtain ⟨leaseId, hjob⟩ := hj
  exact ⟨leaseId, h hjob⟩

theorem receives_mono (h : known ⊆ known') {p : CreatorSyncPage} {child : Option String}
    (hr : Receives known p child) : Receives known' p child := by
  obtain ⟨row, page, searchKey, existing, hw, hcheck, hexisting, hp, hchild⟩ := hr
  exact ⟨row, page, searchKey, existing, works_mono h hw, hcheck, h hexisting, hp, hchild⟩

/-- What a command is called with is known for good. -/
theorem grounds_mono (h : known ⊆ known') {c : Command} (hg : Grounds known c) :
    Grounds known' c := by
  cases c with
  | pauseClaimed leaseId partitionId =>
    intro id hid
    obtain ⟨p, hp⟩ := hg id hid
    exact ⟨p, works_mono h hp⟩
  | markRequested id status =>
    obtain ⟨⟨p, hp⟩, hstatus⟩ := hg
    exact ⟨⟨p, works_mono h hp⟩, hstatus⟩
  | countRequest id =>
    obtain ⟨p, hp⟩ := hg
    exact ⟨p, works_mono h hp⟩
  | resetBusinessRetries id =>
    obtain ⟨p, hp⟩ := hg
    exact ⟨p, works_mono h hp⟩
  | stagePage page child => exact receives_mono h hg
  | persistBatch origin batch =>
    cases origin with
    | sheetImport => trivial
    | page id =>
      obtain ⟨page, hpage, hbatch⟩ := hg
      exact ⟨page, h hpage, hbatch⟩
  | markPersisted id =>
    obtain ⟨page, hpage⟩ := hg
    exact ⟨page, h hpage⟩
  | recordSheetAttempt leaseId id attempt stage =>
    obtain ⟨page, hpage⟩ := hg
    exact ⟨page, h hpage⟩
  | commitPage leaseId id page partition => exact ⟨h hg.1, h hg.2⟩
  | sheetsFailure id page targetId target paused retryable =>
    obtain ⟨job, hjob, hpaused, q, hstaged, htarget⟩ := hg
    refine ⟨job, handles_mono h hjob, hpaused, q, h hstaged, ?_⟩
    rcases htarget with ⟨hcurrent, hfound⟩ | hpage
    · exact Or.inl ⟨hcurrent, h hfound⟩
    · exact Or.inr hpage
  | businessRetry paused id partition =>
    obtain ⟨job, hjob, hpaused, hcurrent, hfound⟩ := hg
    exact ⟨job, handles_mono h hjob, hpaused, hcurrent, h hfound⟩
  | retryLater job error partitionId => exact ⟨handles_mono h hg.1, hg.2⟩
  | failJob stage partitionId =>
    obtain ⟨job, hjob, hids⟩ := hg
    exact ⟨job, handles_mono h hjob, hids⟩
  | pause job => exact h hg
  | resume job staged =>
    obtain ⟨hjob, pending, hpending, hstaged⟩ := hg
    exact ⟨h hjob, pending, h hpending, hstaged⟩
  | refreshCategories categories =>
    obtain ⟨job, hjob, hstate⟩ := hg
    exact ⟨job, h hjob, hstate⟩
  | initializePartitions catalog =>
    obtain ⟨⟨job, hjob, hstate⟩, hstaged, hcatalog⟩ := hg
    exact ⟨⟨job, h hjob, hstate⟩, h hstaged, h hcatalog⟩
  | _ => trivial

end Grounds

section Rules

variable {α β : Type} {phase : Phase} {known known' : Set Known} {K : Set Known → Role → Prop}

theorem at_mono (h : known' ⊆ known) {r : Role} (hr : At phase known r) : At phase known' r :=
  ⟨hr.1, h.trans hr.2⟩

theorem ends_at : Ends phase (At phase) where
  here _ _ h := h
  mono _ _ _ h hr := at_mono h hr

theorem ends_behind {leaseId : Nat} (h : phase.holds = some leaseId) :
    Ends phase (Behind leaseId) where
  here known r hr := ⟨by rw [hr.1, h], hr.2⟩
  mono known known' r h hr := ⟨hr.1, h.trans hr.2⟩

theorem ends_worker {leaseId : Nat} : Ends (.worker leaseId) (Behind leaseId) := ends_behind rfl

/-- A thread of this phase may call the command, and stays in the phase. -/
structure May (phase : Phase) (known : Set Known) (c : Command) : Prop where
  lease : ∀ leaseId, leaseOf c = some leaseId → phase.holds = some leaseId
  worker : ofWorker c = true → ∃ leaseId, phase.holds = some leaseId
  stays : moves c = false
  grounds : Grounds known c

theorem nextPhase_of_stays {c : Command} (h : moves c = false) (answer : (Call.db c).Answer) :
    nextPhase phase (.db c) answer = phase := by
  cases c <;> first
    | rfl
    | cases h

/-- A command in the middle of a program, which knows its answer from then on. -/
theorem triple_query {c : Command} {f : c.Result → Program β} {Q : β → Role → Prop}
    {X : Failure → Role → Prop} (hmay : May phase known c)
    (hf : ∀ a, Triple creatorProtocol (At phase (insert ⟨.db c, a⟩ known)) (f a) Q X)
    (hX : ∀ e r, At phase known r → X e r) :
    Triple creatorProtocol (At phase known) (query c >>= f) Q X := by
  refine triple_bind (triple_call ?_ ?_ ?_) hf
  · rintro r ⟨hphase, hknown⟩
    refine ⟨?_, ?_, ?_, ?_, grounds_mono hknown hmay.grounds⟩
    · intro leaseId hlease
      rw [hphase]
      exact hmay.lease leaseId hlease
    · intro hworker
      rw [hphase]
      exact hmay.worker hworker
    · rintro leaseId rfl
      exact absurd hmay.stays (by simp [moves])
    · rintro leaseId id page partition rfl
      exact absurd hmay.stays (by simp [moves])
  · rintro r a ⟨hphase, hknown⟩
    exact ⟨(nextPhase_of_stays hmay.stays _).trans hphase, Set.insert_subset_insert hknown⟩
  · rintro r e ⟨hphase, hknown⟩
    exact hX e _ ⟨(nextPhase_of_stays hmay.stays _).trans hphase, hknown⟩

theorem into_query (hK : Ends phase K) {c : Command} {f : c.Result → Program β}
    (hmay : May phase known c) (hf : ∀ a, Into K phase (insert ⟨.db c, a⟩ known) (f a)) :
    Into K phase known (query c >>= f) := by
  refine triple_query hmay ?_ (fun _ _ hr => hK.here _ _ hr)
  intro a
  exact triple_conseq (hf a) (fun _ hr => hr)
    (fun _ _ hr => hK.mono _ _ _ (Set.subset_insert _ _) hr)
    (fun _ _ hr => hK.mono _ _ _ (Set.subset_insert _ _) hr)

theorem follow_query {c : Command} {f : c.Result → Program β} (hmay : May phase known c)
    (hf : ∀ a, Follow phase (insert ⟨.db c, a⟩ known) (f a)) :
    Follow phase known (query c >>= f) :=
  into_query ends_at hmay hf

theorem into_of_follow (hK : Ends phase K) {m : Program α} (h : Follow phase known m) :
    Into K phase known m :=
  triple_conseq h (fun _ hr => hr) (fun _ _ hr => hK.here _ _ hr) (fun _ _ hr => hK.here _ _ hr)

theorem follow_pure {a : α} : Follow phase known (pure a) := triple_pure (fun _ hr => hr)

theorem follow_throw {e : Failure} : Follow phase known (Js.throw e : Program α) :=
  triple_throw (fun _ hr => hr)

theorem into_throw_bind (hK : Ends phase K) {e : Failure} {f : α → Program β} :
    Into K phase known (Js.throw e >>= f) := by
  have hnever : Triple creatorProtocol (At phase known) (Js.throw e : Program α)
      (fun _ _ => False) (fun _ => K known) := triple_throw (fun _ hr => hK.here _ _ hr)
  exact triple_bind hnever (fun _ _ _ h => h.elim)

/-- A last command. -/
theorem follow_last {c : Command} (hmay : May phase known c) : Follow phase known (query c) := by
  have h : Follow phase known (query c >>= pure) := follow_query hmay (fun _ => follow_pure)
  have hbind : (query c >>= pure : Program c.Result) = query c := by
    funext l
    change Prog.bind _ _ = _
    simp only [query, Js.call, Prog.bind]
    congr 1
    funext res
    cases res <;> rfl
  rwa [hbind] at h

theorem into_bind (hK : Ends phase K) {m : Program α} {f : α → Program β}
    (hm : Follow phase known m) (hf : ∀ a, Into K phase known (f a)) :
    Into K phase known (m >>= f) :=
  triple_bind (triple_conseq hm (fun _ hr => hr) (fun _ _ hr => hr)
    (fun _ _ hr => hK.here _ _ hr)) hf

theorem into_ite {p : Prop} [Decidable p] {m m' : Program α} (hm : p → Into K phase known m)
    (hm' : ¬ p → Into K phase known m') : Into K phase known (if p then m else m') := by
  split
  · rename_i h
    exact hm h
  · rename_i h
    exact hm' h

/-- A call that is not of the database and no request. -/
theorem into_elsewhere (hK : Ends phase K) {c : Call} {f : c.Result → Program β}
    (hok : ∀ r, At phase known r → okCall r c) (hc : elsewhere c = true)
    (hf : ∀ a, Into K phase known (f a)) : Into K phase known (Js.call c >>= f) := by
  have hphase : ∀ (ph : Phase) (answer : c.Answer), nextPhase ph c answer = ph := by
    intro ph answer
    cases c <;> first
      | rfl
      | cases hc
  refine triple_bind (triple_call hok ?_ ?_) hf
  · rintro r a ⟨hr, hknown⟩
    exact ⟨(hphase _ _).trans hr, hknown.trans (Set.subset_insert _ _)⟩
  · rintro r e ⟨hr, hknown⟩
    exact hK.here _ _ ⟨(hphase _ _).trans hr, hknown⟩

end Rules

section Mays

variable {phase : Phase} {known : Set Known} {leaseId : Nat} {c : Command}

/-- A command that the worker runs under its lease or without any. -/
theorem may_worker (hholds : phase.holds = some leaseId)
    (hlease : leaseOf c = none ∨ leaseOf c = some leaseId) (hstays : moves c = false)
    (hg : Grounds known c) : May phase known c where
  lease id h := by
    rcases hlease with hnone | hsome
    · rw [hnone] at h
      cases h
    · rw [← h, hsome, hholds]
  worker _ := ⟨leaseId, hholds⟩
  stays := hstays
  grounds := hg

/-- A command that every program may run. -/
theorem may_any (hlease : leaseOf c = none) (hworker : ofWorker c = false) (hstays : moves c = false)
    (hg : Grounds known c) : May phase known c where
  lease id h := by
    rw [hlease] at h
    cases h
  worker h := by
    rw [hworker] at h
    cases h
  stays := hstays
  grounds := hg

theorem answered_self {a : c.Result} : Answered (insert ⟨.db c, a⟩ known) c a :=
  Set.mem_insert _ _

theorem Answered.insert {a : c.Result} {k : Known} (h : Answered known c a) :
    Answered (insert k known) c a :=
  Set.mem_insert_of_mem _ h

/-- A command in the middle of a program: what was known is known behind it, and its answer too. -/
theorem into_step {β : Type} {K : Set Known → Role → Prop} (hK : Ends phase K)
    {f : c.Result → Program β} (hmay : May phase known c)
    (hf : ∀ a known', known ⊆ known' → Answered known' c a → Into K phase known' (f a)) :
    Into K phase known (query c >>= f) :=
  into_query hK hmay (fun a => hf a _ (Set.subset_insert _ _) answered_self)

theorem follow_step {β : Type} {f : c.Result → Program β} (hmay : May phase known c)
    (hf : ∀ a known', known ⊆ known' → Answered known' c a → Follow phase known' (f a)) :
    Follow phase known (query c >>= f) :=
  into_step ends_at hmay hf

end Mays

/-! ## The worker -/

section Worker

variable {phase : Phase} {known : Set Known} {leaseId : Nat}

theorem follow_persistBatches {origin : Origin} {all : List (List CreatorCandidate)}
    (hg : ∀ batch ∈ all, Grounds known (.persistBatch origin batch)) :
    Follow (.worker leaseId) known (creator_worker.persistBatches origin all) := by
  induction all generalizing known with
  | nil => exact follow_pure
  | cons batch rest ih =>
    refine follow_query (may_worker rfl (Or.inl rfl) rfl (hg batch List.mem_cons_self)) ?_
    intro _
    apply ih
    intro batch' hbatch'
    exact grounds_mono (Set.subset_insert _ _) (hg batch' (List.mem_cons_of_mem _ hbatch'))

/-- The commit of a page is the last that a worker does under its lease. -/
theorem attempt_commit {pageId : Nat} {page : CreatorSyncPage} {partition : CreatorSearchPartition}
    (hpage : Answered known (.receivedPage pageId) page)
    (hpartition : Answered known (.findPartition page.creatorSearchPartitionId) partition) :
    Attempt leaseId known (query (.commitPage leaseId pageId page partition)) := by
  refine triple_call ?_ ?_ ?_
  · rintro r ⟨hphase, hknown⟩
    refine ⟨?_, ?_, ?_, ?_, hknown hpage, hknown hpartition⟩
    · rintro id h
      cases h
      rw [hphase]
      rfl
    · intro h
      cases h
    · intro id h
      cases h
    · rintro id i p q h
      cases h
      exact hphase
  · rintro r a ⟨_, hknown⟩
    exact ⟨rfl, hknown.trans (Set.subset_insert _ _)⟩
  · rintro r e ⟨_, hknown⟩
    exact ⟨rfl, hknown⟩

theorem attempt_commitPage (pageId : Nat) :
    Attempt leaseId known (creator_worker.commitPage leaseId pageId) := by
  unfold creator_worker.commitPage
  refine into_query ends_worker (may_worker rfl (Or.inl rfl) rfl trivial) (fun page => ?_)
  refine into_query ends_worker (may_worker rfl (Or.inr rfl) rfl trivial) (fun job => ?_)
  refine into_query ends_worker (may_worker rfl (Or.inl rfl) rfl trivial) (fun partition => ?_)
  -- what comes behind the save of the creators
  have hrest : ∀ known' : Set Known, Answered known' (.receivedPage pageId) page →
      Answered known' (.findPartition page.creatorSearchPartitionId) partition →
      Attempt leaseId known' (do
        query (.recordSheetAttempt leaseId pageId (page.sheetsAttemptCount + 1)
          (if page.sheetsAttemptCount + 1 = 1 then .SAVING_SHEET else .RECONCILING_SHEET))
        call (Call.reconcilePage page.payload)
        query (.recordActivity leaseId .COMMITTING_PAGE)
        query (.commitPage leaseId pageId page partition)) := by
    intro known' hpage hpartition
    refine into_query ends_worker (may_worker rfl (Or.inr rfl) rfl ⟨page, hpage⟩) (fun _ => ?_)
    refine into_elsewhere ends_worker (fun _ _ => trivial) rfl (fun _ => ?_)
    refine into_query ends_worker (may_worker rfl (Or.inr rfl) rfl trivial) (fun _ => ?_)
    exact attempt_commit hpage.insert.insert hpartition.insert.insert
  dsimp only
  refine into_ite (fun _ => ?_) (fun _ => ?_)
  · refine into_query ends_worker (may_worker rfl (Or.inr rfl) rfl trivial) (fun _ => ?_)
    refine into_bind ends_worker (follow_persistBatches ?_) (fun _ => ?_)
    · intro batch hbatch
      exact ⟨page, answered_self.insert.insert.insert, hbatch⟩
    · refine into_query ends_worker (may_worker rfl (Or.inl rfl) rfl
        ⟨page, answered_self.insert.insert.insert⟩) (fun _ => ?_)
      exact hrest _ answered_self.insert.insert.insert.insert answered_self.insert.insert
  · exact hrest _ answered_self.insert.insert answered_self

/-- The partition that `claimPartition` gives is one that the thread works on. -/
theorem triple_claimPartition : Triple creatorProtocol (At (.worker leaseId) known)
    (creator_worker.claimPartition leaseId)
    (fun claimed r => ∃ known', known ⊆ known' ∧ At (.worker leaseId) known' r ∧
      ∀ row ∈ claimed, Works known' row)
    (fun _ => At (.worker leaseId) known) := by
  have hclaim : ∀ known', known ⊆ known' → Triple creatorProtocol (At (.worker leaseId) known')
      (query (.claimPartition leaseId) >>= fun claim => pure (claim.map Claim.row))
      (fun claimed r => ∃ known', known ⊆ known' ∧ At (.worker leaseId) known' r ∧
        ∀ row ∈ claimed, Works known' row)
      (fun _ => At (.worker leaseId) known) := by
    intro known' hsub
    refine triple_query (may_worker rfl (Or.inr rfl) rfl trivial) (fun claim => ?_)
      (fun _ r hr => at_mono hsub hr)
    refine triple_pure (fun r hr => ⟨_, hsub.trans (Set.subset_insert _ _), hr, ?_⟩)
    intro row hrow
    obtain ⟨c, hc, hcrow⟩ := Option.map_eq_some_iff.1 hrow
    subst hc
    exact Or.inl ⟨leaseId, c, answered_self, hcrow⟩
  unfold creator_worker.claimPartition
  refine triple_query (may_worker rfl (Or.inr rfl) rfl trivial) (fun job => ?_)
    (fun _ _ hr => hr)
  cases hid : job.currentPartitionId with
  | none => exact hclaim _ (Set.subset_insert _ _)
  | some id =>
    refine triple_query (may_worker rfl (Or.inl rfl) rfl trivial) (fun current => ?_)
      (fun _ r hr => at_mono (Set.subset_insert _ _) hr)
    have hsub : known ⊆ insert ⟨.db (.findPartition id), current⟩
        (insert ⟨.db (.jobUnderLease leaseId), job⟩ known) :=
      (Set.subset_insert _ _).trans (Set.subset_insert _ _)
    by_cases hresumes : resumes current = true
    · rw [if_pos hresumes]
      refine triple_pure (fun r hr => ⟨_, hsub, hr, ?_⟩)
      rintro row hrow
      cases hrow
      exact Or.inr ⟨leaseId, job, answered_self.insert, hid, answered_self, hresumes⟩
    · rw [if_neg hresumes]
      exact hclaim _ hsub

theorem attempt_requestPage {row : Row} {job : CreatorSyncJob} {catalog : List CatalogNode}
    {filters : CreatorFilters} (hworks : Works known row)
    (hjob : Answered known (.jobUnderLease leaseId) job) (hpause : job.pauseRequested = false)
    (hcatalog : Answered known .findCategories catalog)
    (hfilters : requestFilters row.2 catalog = .ok filters) :
    Attempt leaseId known (requestPage leaseId row filters) := by
  have hrow : ∀ {known'}, known ⊆ known' → ∃ p, Works known' (row.1, p) :=
    fun hsub => ⟨row.2, works_mono hsub hworks⟩
  have hstatus : ∀ pages : Nat, (if pages ≠ 0 then PartitionStatus.RUNNING else .STARTING) =
      .STARTING ∨ (if pages ≠ 0 then PartitionStatus.RUNNING else .STARTING) = .RUNNING := by
    intro pages
    split
    · exact Or.inr rfl
    · exact Or.inl rfl
  unfold requestPage
  dsimp only
  refine into_step ends_worker (may_worker rfl (Or.inr rfl) rfl trivial) (fun _ k1 h1 _ => ?_)
  refine into_step ends_worker (may_worker rfl (Or.inl rfl) rfl ⟨hrow h1, hstatus _⟩) (fun _ k2 h2 _ => ?_)
  replace h2 := h1.trans h2
  refine into_elsewhere ends_worker (fun _ _ => trivial) rfl (fun _ => ?_)
  refine into_step ends_worker (may_worker rfl (Or.inl rfl) rfl (hrow h2)) (fun _ k3 h3 _ => ?_)
  replace h3 := h2.trans h3
  refine into_elsewhere ends_worker ?_ rfl (fun _ => ?_)
  · rintro r ⟨hphase, hknown⟩
    exact ⟨leaseId, job, row, catalog, hphase, hknown (h3 hjob), hpause,
      works_mono (h3.trans hknown) hworks, hknown (h3 hcatalog), hfilters⟩
  refine into_elsewhere ends_worker (fun _ _ => trivial) rfl (fun page => ?_)
  refine into_step ends_worker (may_worker rfl (Or.inl rfl) rfl (hrow h3)) (fun _ k4 h4 _ => ?_)
  replace h4 := h3.trans h4
  refine into_step ends_worker (may_worker rfl (Or.inr rfl) rfl trivial) (fun _ k5 h5 _ => ?_)
  replace h5 := h4.trans h5
  cases hcheck : checkResponse row.2 page with
  | error e => exact into_throw_bind ends_worker
  | ok searchKey =>
    refine into_step ends_worker (may_worker rfl (Or.inr rfl) rfl trivial) (fun _ k6 h6 _ => ?_)
    replace h6 := h5.trans h6
    refine into_step ends_worker (may_worker rfl (Or.inl rfl) rfl trivial) (fun existing k7 h7 hseen => ?_)
    replace h7 := h6.trans h7
    refine into_step ends_worker (may_worker rfl (Or.inl rfl) rfl ?_) (fun staged _ _ _ => ?_)
    · exact ⟨row, page, searchKey, existing, works_mono h7 hworks, hcheck, hseen, rfl, rfl⟩
    · exact attempt_commitPage staged

theorem follow_importSheet : Follow (.worker leaseId) known (importSheet leaseId) := by
  unfold importSheet
  refine into_elsewhere ends_at (fun _ _ => trivial) rfl (fun existing => ?_)
  refine into_bind ends_at (follow_persistBatches (fun _ _ => trivial)) (fun _ => ?_)
  exact follow_step (may_worker rfl (Or.inr rfl) rfl trivial) (fun _ _ _ _ => follow_pure)

/-- A thread that claimed a partition validates it and requests its next page. -/
theorem attempt_processRow {row : Row} (hrow : Works known row) :
    Attempt leaseId known (do
      let job ← query (.jobUnderLease leaseId)
      if job.pauseRequested then query (.pauseClaimed leaseId (some row.1))
      else do
        let catalog ← query .findCategories
        let filters ← ofExcept (requestFilters row.2 catalog)
        requestPage leaseId row filters) := by
  refine into_step ends_worker (may_worker rfl (Or.inr rfl) rfl trivial) (fun job k1 h1 hjob => ?_)
  refine into_ite (fun _ => ?_) (fun hpause => ?_)
  · refine into_of_follow ends_worker (follow_last (may_worker rfl (Or.inr rfl) rfl ?_))
    rintro id hid
    cases hid
    exact ⟨row.2, works_mono h1 hrow⟩
  · refine into_step ends_worker (may_worker rfl (Or.inl rfl) rfl trivial)
      (fun catalog k2 h2 hcatalog => ?_)
    cases hfilters : requestFilters row.2 catalog with
    | error e => exact into_throw_bind ends_worker
    | ok filters =>
      exact attempt_requestPage (works_mono (h1.trans h2) hrow) (h2 hjob) (by simpa using hpause)
        hcatalog hfilters

theorem attempt_processPartition :
    Attempt leaseId known (processPartition leaseId) := by
  unfold processPartition
  refine triple_bind (triple_conseq triple_claimPartition (fun _ hr => hr) (fun _ _ hr => hr)
    (fun _ _ hr => ends_worker.here _ _ hr)) (fun claimed => ?_)
  cases claimed with
  | none =>
    refine triple_pure ?_
    rintro r ⟨known', hsub, hat, _⟩
    exact ends_worker.here _ _ (at_mono hsub hat)
  | some row =>
    rintro l r ⟨known', hsub, hat, hworks⟩
    -- the thread knows what it claimed
    exact triple_conseq (attempt_processRow (hworks row rfl)) (fun _ hr => hr)
      (fun _ _ hr => ends_worker.mono _ _ _ hsub hr) (fun _ _ hr => ends_worker.mono _ _ _ hsub hr)
      l r hat

theorem attempt_processClaimed : Attempt leaseId known (processClaimed leaseId) := by
  unfold processClaimed
  refine into_step ends_worker (may_worker rfl (Or.inr rfl) rfl trivial) (fun job k1 h1 _ => ?_)
  refine into_step ends_worker (may_worker rfl (Or.inl rfl) rfl trivial) (fun pending k2 h2 _ => ?_)
  cases pending with
  | some pageId => exact attempt_commitPage pageId
  | none =>
    have hrest : ∀ (known' : Set Known) (job : CreatorSyncJob), Attempt leaseId known'
        (if job.pauseRequested then query (.pauseClaimed leaseId none)
          else processPartition leaseId) := by
      intro known' job
      refine into_ite (fun _ => into_of_follow ends_worker ?_) (fun _ => attempt_processPartition)
      exact follow_last (may_worker rfl (Or.inr rfl) rfl (fun id hid => by cases hid))
    dsimp only
    refine into_ite (fun _ => ?_) (fun _ => hrest _ job)
    refine into_bind ends_worker follow_importSheet (fun _ => ?_)
    exact into_step ends_worker (may_worker rfl (Or.inr rfl) rfl trivial)
      (fun job' _ _ _ => hrest _ job')

/-! ## Errors -/

theorem follow_handleFailure (hholds : phase.holds = some leaseId) {job : CreatorSyncJob} {partition : Option Row} (error : Failure)
    (hjob : Handles known job) (hpartition : ∀ row ∈ partition,
      job.currentPartitionId = some row.1 ∧ Answered known (.findCurrent row.1) (some row.2)) :
    Follow phase known (handleFailure job partition error) := by
  have hfail : ∀ stage, Follow phase known
      (query (.failJob stage (partition.map Prod.fst))) := by
    intro stage
    refine follow_last (may_worker hholds (Or.inl rfl) rfl ⟨job, hjob, ?_⟩)
    intro id hid
    obtain ⟨row, hrow, rfl⟩ := Option.map_eq_some_iff.1 hid
    exact (hpartition row hrow).1
  unfold handleFailure
  cases error with
  | tiktok e =>
    cases partition with
    | none =>
      refine into_ite (fun _ => ?_) (fun _ => hfail _)
      exact follow_last (may_worker hholds (Or.inl rfl) rfl ⟨hjob, fun id hid => by cases hid⟩)
    | some row =>
      obtain ⟨hcurrent, hfound⟩ := hpartition row rfl
      refine into_ite (fun _ => ?_) (fun _ => into_ite (fun _ => ?_) (fun _ => hfail _))
      · exact follow_last (may_worker hholds (Or.inl rfl) rfl ⟨job, hjob, rfl, hcurrent, hfound⟩)
      · refine follow_last (may_worker hholds (Or.inl rfl) rfl ⟨hjob, ?_⟩)
        intro id hid
        cases hid
        exact hcurrent
  | _ => exact hfail _

theorem follow_handleSheetsFailure (hholds : phase.holds = some leaseId) {job : CreatorSyncJob} {partition : Option Row} (error : Failure)
    (hjob : Handles known job) (hpartition : ∀ row ∈ partition,
      job.currentPartitionId = some row.1 ∧ Answered known (.findCurrent row.1) (some row.2)) :
    Follow phase known (handleSheetsFailure job partition error) := by
  unfold handleSheetsFailure
  refine follow_step (may_worker hholds (Or.inl rfl) rfl trivial) (fun staged k1 h1 hstaged => ?_)
  cases staged with
  | none => exact follow_pure
  | some found =>
    obtain ⟨pageId, page, q⟩ := found
    refine follow_step (may_worker hholds (Or.inl rfl) rfl ?_) (fun _ _ _ _ => follow_pure)
    refine ⟨job, handles_mono h1 hjob, rfl, q, hstaged, ?_⟩
    cases partition with
    | none => exact Or.inr ⟨rfl, rfl⟩
    | some row => exact Or.inl ⟨(hpartition row rfl).1, h1 (hpartition row rfl).2⟩

/-- The partition of a job is read by the id that the job has. -/
theorem triple_currentRow (hholds : phase.holds = some leaseId) {job : CreatorSyncJob} :
    Triple creatorProtocol
    (At phase known) (currentRow job)
    (fun partition r => ∃ known', known ⊆ known' ∧ At phase known' r ∧
      ∀ row ∈ partition, job.currentPartitionId = some row.1 ∧
        Answered known' (.findCurrent row.1) (some row.2))
    (fun _ => At phase known) := by
  unfold currentRow
  cases hid : job.currentPartitionId with
  | none =>
    exact triple_pure (fun r hr => ⟨known, subset_refl _, hr, fun row hrow => by cases hrow⟩)
  | some id =>
    refine triple_query (may_worker hholds (Or.inl rfl) rfl trivial) (fun current => ?_)
      (fun _ _ hr => hr)
    refine triple_pure (fun r hr => ⟨_, Set.subset_insert _ _, hr, ?_⟩)
    intro row hrow
    obtain ⟨p, hp, rfl⟩ := Option.map_eq_some_iff.1 hrow
    subst hp
    exact ⟨rfl, answered_self⟩

theorem follow_handleError (hholds : phase.holds = some leaseId) (error : Failure) :
    Follow phase known (handleError leaseId error) := by
  unfold handleError
  refine follow_step (may_worker hholds (Or.inr rfl) rfl trivial) (fun found k1 h1 hfound => ?_)
  cases found with
  | none => exact follow_pure
  | some job =>
    have hjob : Handles k1 job := ⟨leaseId, hfound⟩
    have hrest : ∀ (known' : Set Known) (partition : Option Row), k1 ⊆ known' →
        (∀ row ∈ partition, job.currentPartitionId = some row.1 ∧
          Answered known' (.findCurrent row.1) (some row.2)) →
        Follow phase known' (do
          let staged : Bool ← query .anyStaged
          if staged && sheetStage job.currentStage then do
            let handled ← handleSheetsFailure job partition error
            if handled then return () else handleFailure job partition error
          else handleFailure job partition error) := by
      intro known' partition hsub hpartition
      have hjob' := handles_mono hsub hjob
      refine follow_step (may_worker hholds (Or.inl rfl) rfl trivial) (fun staged k2 h2 _ => ?_)
      have hpartition2 : ∀ row ∈ partition, job.currentPartitionId = some row.1 ∧
          Answered k2 (.findCurrent row.1) (some row.2) :=
        fun row hrow => ⟨(hpartition row hrow).1, h2 (hpartition row hrow).2⟩
      have hfailure : ∀ k3, k2 ⊆ k3 →
          Follow phase k3 (handleFailure job partition error) := by
        intro k3 h3
        exact follow_handleFailure hholds error (handles_mono (h2.trans h3) hjob')
          (fun row hrow => ⟨(hpartition2 row hrow).1, h3 (hpartition2 row hrow).2⟩)
      refine into_ite (fun _ => ?_) (fun _ => hfailure k2 (subset_refl _))
      refine triple_bind (follow_handleSheetsFailure hholds error (handles_mono h2 hjob') hpartition2)
        (fun handled => ?_)
      refine into_ite (fun _ => follow_pure) (fun _ => hfailure k2 (subset_refl _))
    refine triple_bind (triple_currentRow hholds) (fun partition => ?_)
    rintro l r ⟨known', hsub, hat, hpartition⟩
    exact triple_conseq (hrest known' partition hsub hpartition) (fun _ hr => hr)
      (fun _ _ hr => at_mono hsub hr) (fun _ _ hr => at_mono hsub hr) l r hat

/-! ## `processNext` -/

theorem triple_processNext : Triple creatorProtocol (At .out known) processNext
    (fun _ _ => True) (fun _ _ => True) := by
  unfold processNext
  refine triple_query (may_any rfl rfl rfl trivial) (fun candidate => ?_) (fun _ _ _ => trivial)
  split
  · exact triple_pure (fun _ _ => trivial)
  · have hdraw : Triple creatorProtocol (At .out (insert ⟨.db .findCandidate, candidate⟩ known))
        (Js.call Call.newLease : Program Nat) (fun leaseId r => r.phase = .drawn leaseId)
        (fun _ _ => True) :=
      triple_call (fun r hr => hr.1) (fun _ _ _ => rfl) (fun _ _ _ => trivial)
    refine triple_bind hdraw (fun leaseId => ?_)
    have hclaim : Triple creatorProtocol (fun r => r.phase = .drawn leaseId)
        (query (.claimLease leaseId) : Program Nat) (fun _ => At (.worker leaseId) ∅)
        (fun _ _ => True) := by
      refine triple_call (fun r hr => ?_) (fun r _ _ => ⟨rfl, Set.empty_subset _⟩)
        (fun _ _ _ => trivial)
      refine ⟨fun id h => (by cases h), fun h => (by cases h), ?_,
        fun id i p q h => (by cases h), trivial⟩
      rintro id h
      cases h
      exact hr
    refine triple_bind hclaim (fun claimed => ?_)
    split
    · exact triple_pure (fun _ _ => trivial)
    · have hattempt : Triple creatorProtocol (At (.worker leaseId) ∅)
          (Js.tryCatch (processClaimed leaseId) (handleError leaseId)) (fun _ _ => True)
          (fun _ _ => True) := by
        refine triple_tryCatch (triple_conseq attempt_processClaimed (fun _ hr => hr)
          (fun _ _ _ => trivial) (fun _ _ hr => hr)) (fun e => ?_)
        rintro l r ⟨hholds, hknown⟩
        exact triple_conseq (follow_handleError hholds e) (fun _ hr => hr) (fun _ _ _ => trivial)
          (fun _ _ _ => trivial) l r ⟨rfl, hknown⟩
      exact triple_bind hattempt (fun _ => triple_pure (fun _ _ => trivial))

end Worker

/-! ## The operator -/

section Operator

variable {known : Set Known}

theorem follow_initializePartitions :
    Follow .out known creator_worker.initializePartitions := by
  unfold creator_worker.initializePartitions
  refine follow_step (may_any rfl rfl rfl trivial) (fun job k1 h1 hjob => ?_)
  refine into_ite (fun _ => follow_throw) (fun hstate => ?_)
  have hstate' : CreatorSyncJob.state job = .PAUSED ∨ CreatorSyncJob.state job = .EXHAUSTED := by
    by_contra hne
    push Not at hne
    exact hstate (by simp [hne.1, hne.2])
  refine follow_step (may_any rfl rfl rfl trivial) (fun (staged : Bool) k2 h2 hstaged => ?_)
  refine into_ite (fun _ => follow_throw) (fun hfalse => ?_)
  refine follow_step (may_any rfl rfl rfl trivial) (fun catalog k3 h3 hcatalog => ?_)
  refine into_ite (fun _ => follow_throw) (fun _ => ?_)
  refine follow_step (may_any rfl rfl rfl ?_) (fun _ _ _ _ => follow_pure)
  have hnone : staged = false := by simpa using hfalse
  rw [hnone] at hstaged
  exact ⟨⟨job, h3 (h2 hjob), hstate'⟩, h3 hstaged, hcatalog⟩

theorem follow_refreshCategories : Follow .out known creator_worker.refreshCategories := by
  unfold creator_worker.refreshCategories
  refine follow_step (may_any rfl rfl rfl trivial) (fun job k1 h1 hjob => ?_)
  refine into_ite (fun _ => follow_throw) (fun hstate => ?_)
  refine into_elsewhere ends_at (fun _ _ => trivial) rfl (fun categories => ?_)
  cases hvalid : validateCategories categories with
  | error e => exact into_throw_bind ends_at
  | ok u =>
    refine follow_step (may_any rfl rfl rfl ⟨job, hjob, by simpa using hstate⟩)
      (fun _ _ _ _ => follow_initializePartitions)

theorem follow_pause : Follow .out known creator_worker.pause := by
  unfold creator_worker.pause
  refine follow_step (may_any rfl rfl rfl trivial) (fun job k1 h1 hjob => ?_)
  exact follow_last (may_any rfl rfl rfl hjob)

theorem follow_resume : Follow .out known creator_worker.resume := by
  unfold creator_worker.resume
  refine follow_step (may_any rfl rfl rfl trivial) (fun job k1 h1 hjob => ?_)
  refine follow_step (may_any rfl rfl rfl trivial) (fun pending k2 h2 hpending => ?_)
  refine follow_step (may_any rfl rfl rfl trivial) (fun eligible k3 h3 _ => ?_)
  refine into_ite (fun _ => follow_throw) (fun _ => ?_)
  exact follow_last (may_any rfl rfl rfl ⟨h3 (h2 hjob), pending, h3 hpending, rfl⟩)

end Operator

/-- Every job follows the protocol from the start. -/
theorem startable_conforms {allowed : Job → Bool} {p : Prog Call Call.Answer Unit}
    (hp : Startable allowed p) : p.Conforms creatorProtocol start (fun _ _ => True) := by
  obtain ⟨job, _, rfl⟩ := hp
  have hstart : At .out ∅ start := ⟨rfl, Set.empty_subset _⟩
  have hfollow : ∀ {α : Type} {m : Program α}, Follow .out ∅ m →
      (m.thread ()).Conforms creatorProtocol start (fun _ _ => True) := by
    intro α m hm
    exact conforms_thread (triple_conseq hm (fun _ hr => hr) (fun _ _ _ => trivial)
      (fun _ _ _ => trivial)) hstart
  cases job with
  | processNext => exact conforms_thread triple_processNext hstart
  | pause => exact hfollow follow_pause
  | resume => exact hfollow follow_resume
  | initializePartitions => exact hfollow follow_initializePartitions
  | refreshCategories => exact hfollow follow_refreshCategories
  | updateMarketplaceRetryDelay seconds =>
    refine hfollow (into_ite (fun _ => follow_throw) (fun _ => ?_))
    exact follow_last (may_any rfl rfl rfl trivial)
  | prepareAdaptiveQueue => exact hfollow (follow_last (may_any rfl rfl rfl trivial))

end tiktok_outreach.creator_protocol
