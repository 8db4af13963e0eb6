-- What the commands of the crawler point at: the partition that a command
-- writes to is the current one, that of a receipt, or one that was claimed.
import TiktokOutreach.CommandFrames
import TiktokOutreach.CreatorKnowledge

open tables transactions runs executions tiktok_outreach.creator_schema
  tiktok_outreach.creator_scheduler tiktok_outreach.adaptive_queue
  tiktok_outreach.partition_claims tiktok_outreach.creator_commands
  tiktok_outreach.creator_effects tiktok_outreach.command_effects
  tiktok_outreach.command_frames tiktok_outreach.creator_protocol
  tiktok_outreach.creator_knowledge

namespace tiktok_outreach.partition_pointers

/-- The partition whose status a command may change. -/
def statusTarget : Command → Option Nat
  | .pauseClaimed _ partitionId => partitionId
  | .markRequested id _ => some id
  | .commitPage _ _ page _ => some page.creatorSearchPartitionId
  | .sheetsFailure _ _ targetId _ _ _ => some targetId
  | .businessRetry _ id _ => some id
  | .retryLater _ _ partitionId => partitionId
  | .failJob _ partitionId => partitionId
  | .pause job => job.currentPartitionId
  | .resume job _ => job.currentPartitionId
  | _ => none

section Effects

variable {env : Environment} {config : Config} {ambient : Ambient} {db db' : Db} {c : Command}
  {r : Role} {At : Nat → Prop}

/-- The receipts after a command are of the partitions of earlier ones, or of one that is worked
on. -/
theorem page_of_effect {a : c.Result}
    (hpages : ∀ id page, db.pages.get id = some page → At page.creatorSearchPartitionId)
    (hworks : ∀ row, Works r.known row → At row.1) (hok : okCommand r c)
    (h : Effect env config ambient db c a db') {id : Nat} {page : CreatorSyncPage}
    (hpage : db'.pages.get id = some page) : At page.creatorSearchPartitionId := by
  have hsealed : ∀ g, db.pages.get id = some g → sealedPage page = sealedPage g →
      At page.creatorSearchPartitionId := by
    intro g hg heq
    have hsame : page.creatorSearchPartitionId = g.creatorSearchPartitionId :=
      congrArg (·.creatorSearchPartitionId) heq
    rw [hsame]
    exact hpages id g hg
  by_cases hstage : ∃ page child, c = .stagePage page child
  · obtain ⟨staged, child, rfl⟩ := hstage
    obtain ⟨_, categories, rfl⟩ := h
    obtain ⟨row, response, searchKey, existing, hrow, _, _, rfl, _⟩ := hok.2.2.2.2
    unfold withReceipt at hpage
    dsimp only at hpage
    split at hpage
    · exact hpages id page hpage
    · simp only [Table.get_set] at hpage
      split at hpage
      · cases hpage
        exact hworks _ hrow
      · exact hpages id page hpage
  · by_cases hcommit : ∃ leaseId pageId page partition, c = .commitPage leaseId pageId page partition
    · obtain ⟨leaseId, pageId, committed, partition, rfl⟩ := hcommit
      have hcommitted : db'.pages = db.pages.updateMany (fun k _ => k = pageId)
          (fun page => { page with state := .COMMITTED, nextSheetsAttemptAt := none }) :=
        pages_of_commits h
      rw [hcommitted, Table.get_updateMany, Option.map_eq_some_iff] at hpage
      obtain ⟨g, hg, heq⟩ := hpage
      have hsame : page.creatorSearchPartitionId = g.creatorSearchPartitionId := by
        rw [← heq]
        split <;> rfl
      rw [hsame]
      exact hpages id g hg
    · push Not at hstage hcommit
      have hkept := (pages_of_effect hstage hcommit h).same id
      rw [hpage, Option.map_some] at hkept
      obtain ⟨g, hg, heq⟩ := Option.map_eq_some_iff.1 hkept.symm
      exact hsealed g hg heq.symm

/-- The current partition after a command is the one before, that of a claim or that of a commit. -/
theorem current_of_effect {a : c.Result}
    (hcurrent : ∀ id, db.job.currentPartitionId = some id → At id)
    (hclaimed : ∀ leaseId row sequence,
      Claims env config leaseId ambient.now db (some (.started row sequence)) db' → At row.1)
    (hcommitted : ∀ leaseId pageId page partition, c = .commitPage leaseId pageId page partition →
      At page.creatorSearchPartitionId)
    (h : Effect env config ambient db c a db') {id : Nat}
    (hid : db'.job.currentPartitionId = some id) : At id := by
  by_cases hclaim : ∃ leaseId, c = .claimPartition leaseId
  · obtain ⟨leaseId, rfl⟩ := hclaim
    have hclaims : Claims env config leaseId ambient.now db a db' := h
    cases hclaims with
    | current db1 hexpand =>
      rw [(expandReadyBranches_expands hexpand).job] at hid
      exact hcurrent id hid
    | exhausted => cases hid
    | started db1 hexpand hlease hnot selection hselection next hnext hcount explored =>
      cases hid
      exact hclaimed _ _ _ (Claims.started db1 hexpand hlease hnot selection hselection next hnext
        hcount explored)
  · by_cases hcommit : ∃ leaseId pageId page partition, c = .commitPage leaseId pageId page partition
    · obtain ⟨leaseId, pageId, page, partition, rfl⟩ := hcommit
      rcases current_of_commits h with hsame | hnone | hpointer
      · exact hcurrent id (hsame ▸ hid)
      · rw [hnone] at hid
        cases hid
      · rw [hpointer, Option.some.injEq] at hid
        exact hid ▸ hcommitted leaseId pageId page partition rfl
    · push Not at hclaim hcommit
      rcases (job_of_effect hclaim hcommit h).2 with hsame | hnone
      · exact hcurrent id (hsame ▸ hid)
      · rw [hnone] at hid
        cases hid

end Effects

/-! ## Pointers -/

/-- All partitions that the tables point at have a property. -/
structure Pointed (At : Db → Nat → Prop) (db : Db) : Prop where
  pages : ∀ id page, db.pages.get id = some page → At db page.creatorSearchPartitionId
  current : ∀ id, db.job.currentPartitionId = some id → At db id

/-- The partitions that an answer points at have the property. -/
def Points (At : Db → Nat → Prop) (db : Db) (_ : Phase) : (c : Command) → c.Result → Prop
  | .claimPartition _, (r : Option Claim) => ∀ claim ∈ r, At db claim.row.1
  | .jobUnderLease _, (job : CreatorSyncJob) => ∀ id, job.currentPartitionId = some id → At db id
  | .receivedPage _, (page : CreatorSyncPage) => At db page.creatorSearchPartitionId
  | .stagedPage, (found : Option (Nat × CreatorSyncPage × CreatorSearchPartition)) =>
    ∀ row ∈ found, At db row.2.1.creatorSearchPartitionId
  | .findJob _, (found : Option CreatorSyncJob) =>
    ∀ job ∈ found, ∀ id, job.currentPartitionId = some id → At db id
  | .readJob, (job : CreatorSyncJob) => ∀ id, job.currentPartitionId = some id → At db id
  | _, _ => True

section Pointers

variable {env : Environment} {config : Config} {ambient : Ambient} {db db' : Db} {c : Command}
  {r : Role} {phase phase' : Phase} {At : Db → Nat → Prop}

theorem points_mono {a : c.Result} (h : ∀ id, At db id → At db' id)
    (ha : Points At db phase c a) : Points At db' phase' c a := by
  cases c with
  | claimPartition leaseId => exact fun claim hclaim => h _ (ha claim hclaim)
  | jobUnderLease leaseId => exact fun id hid => h _ (ha id hid)
  | receivedPage id => exact h _ ha
  | stagedPage => exact fun row hrow => h _ (ha row hrow)
  | findJob leaseId => exact fun job hjob id hid => h _ (ha job hjob id hid)
  | readJob => exact fun id hid => h _ (ha id hid)
  | _ => trivial

theorem at_of_works {row : Row} (hsound : Sound (Points At) db r) (h : Works r.known row) :
    At db row.1 := by
  rcases h with ⟨leaseId, claim, hclaim, rfl⟩ | ⟨leaseId, job, hjob, hid, _, _⟩
  · exact hsound _ _ hclaim claim rfl
  · exact hsound _ _ hjob row.1 hid

/-- The partition that a command may write to has the property. -/
theorem at_target (hsound : Sound (Points At) db r) (hok : okCommand r c) {id : Nat}
    (h : statusTarget c = some id) : At db id := by
  have hgrounds := hok.2.2.2.2
  cases c with
  | pauseClaimed leaseId partitionId =>
    obtain ⟨p, hp⟩ := hgrounds id h
    exact at_of_works hsound hp
  | markRequested id' status =>
    cases h
    obtain ⟨p, hp⟩ := hgrounds.1
    exact at_of_works hsound hp
  | commitPage leaseId pageId page partition =>
    cases h
    exact hsound _ _ hgrounds.1
  | sheetsFailure pageId page targetId target paused retryable =>
    cases h
    obtain ⟨job, ⟨leaseId, hjob⟩, _, q, hstaged, htarget⟩ := hgrounds
    rcases htarget with ⟨hcurrent, _⟩ | ⟨hpage, _⟩
    · exact hsound _ _ hjob job rfl _ hcurrent
    · rw [← hpage]
      exact hsound _ _ hstaged _ rfl
  | businessRetry paused id' partition =>
    cases h
    obtain ⟨job, ⟨leaseId, hjob⟩, _, hcurrent, _⟩ := hgrounds
    exact hsound _ _ hjob job rfl _ hcurrent
  | retryLater job error partitionId =>
    obtain ⟨⟨leaseId, hjob⟩, hids⟩ := hgrounds
    exact hsound _ _ hjob job rfl _ (hids id h)
  | failJob stage partitionId =>
    obtain ⟨job, ⟨leaseId, hjob⟩, hids⟩ := hgrounds
    exact hsound _ _ hjob job rfl _ (hids id h)
  | pause job => exact hsound _ _ hgrounds id h
  | resume job staged => exact hsound _ _ hgrounds.1 id h
  | _ => cases h

/-- A property that commands keep, and that every claimed partition has, is one of all that the
tables point at. -/
theorem pointed_step {a : c.Result} (hpointed : Pointed At db) (hsound : Sound (Points At) db r)
    (hok : okCommand r c) (hkeep : ∀ id, At db id → At db' id)
    (hclaimed : ∀ leaseId row sequence,
      Claims env config leaseId ambient.now db (some (.started row sequence)) db' → At db' row.1)
    (h : Effect env config ambient db c a db') : Pointed At db' where
  pages id page hpage := page_of_effect (fun id page hpage => hkeep _ (hpointed.pages id page hpage))
    (fun row hrow => hkeep _ (at_of_works hsound hrow)) hok h hpage
  current id hid := by
    refine current_of_effect (fun id hid => hkeep _ (hpointed.current id hid)) hclaimed ?_ h hid
    rintro leaseId pageId page partition rfl
    exact hkeep _ (at_target hsound hok rfl)

theorem points_answer {a : c.Result} (hpointed : Pointed At db) (hkeep : ∀ id, At db id → At db' id)
    (hclaimed : ∀ leaseId row sequence,
      Claims env config leaseId ambient.now db (some (.started row sequence)) db' → At db' row.1)
    (h : Effect env config ambient db c a db') : Points At db' phase c a := by
  have hread : ∀ {id : Nat}, db.job.currentPartitionId = some id → At db' id :=
    fun hid => hkeep _ (hpointed.current _ hid)
  cases c with
  | claimPartition leaseId =>
    intro claim hclaim
    have hclaims : Claims env config leaseId ambient.now db a db' := h
    cases hclaims with
    | current db1 hexpand hlease id p hid =>
      cases hclaim
      exact hread hid
    | exhausted => cases hclaim
    | started db1 hexpand hlease hnot selection hselection next hnext hcount explored =>
      cases hclaim
      exact hclaimed _ _ _ (Claims.started db1 hexpand hlease hnot selection hselection next hnext
        hcount explored)
  | jobUnderLease leaseId =>
    obtain ⟨_, rfl, rfl⟩ := h
    exact fun id hid => hread hid
  | receivedPage id =>
    obtain ⟨hpage, _, rfl⟩ := h
    exact hpointed.pages id a hpage
  | stagedPage =>
    obtain ⟨hfound, rfl⟩ := h
    intro row hrow
    exact hpointed.pages _ _ (hfound row.1 row.2.1 row.2.2 hrow).1
  | findJob leaseId =>
    obtain ⟨rfl, rfl⟩ := h
    intro job hjob id hid
    split at hjob
    · cases hjob
      exact hpointed.current id hid
    · cases hjob
  | readJob =>
    obtain ⟨rfl, rfl⟩ := h
    exact fun id hid => hpointed.current id hid
  | _ => trivial

end Pointers

end tiktok_outreach.partition_pointers
