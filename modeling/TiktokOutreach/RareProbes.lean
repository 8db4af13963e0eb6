-- The partitions of the rarest bucket are only searched as probes: a claim takes
-- one at a multiple of the cadence, and no other step sets one going.
import TiktokOutreach.ClaimCandidates
import TiktokOutreach.PartitionPointers

open tables transactions runs executions tiktok_outreach.creator_schema
  tiktok_outreach.creator_scheduler tiktok_outreach.adaptive_queue
  tiktok_outreach.partition_claims tiktok_outreach.creator_commands
  tiktok_outreach.creator_effects tiktok_outreach.claim_candidates
  tiktok_outreach.command_effects tiktok_outreach.command_frames
  tiktok_outreach.creator_protocol tiktok_outreach.creator_knowledge
  tiktok_outreach.partition_pointers

namespace tiktok_outreach.rare_probes

/-! ## Probes -/

/-- The partition was claimed last in the slot of a probe. -/
def ClaimedAsProbe (config : Config) (p : CreatorSearchPartition) : Prop :=
  p.schedulerIsG4Probe = true ∧
    ∃ n, p.schedulerClaimSequence = some n ∧ config.g4ProbeCadence ∣ n

/-- A partition that may be going: one of the rarest bucket only as a probe. -/
def MayGo (config : Config) (p : CreatorSearchPartition) : Prop :=
  p.gmvBucket = some .G4 → ClaimedAsProbe config p

def MayGoAt (config : Config) (db : Db) (id : Nat) : Prop :=
  ∃ p, db.partitions.get id = some p ∧ MayGo config p

/-- The partitions that a command may set going, with that of a commit. -/
def target : Command → Option Nat
  | .commitPage _ _ page _ => some page.creatorSearchPartitionId
  | c => setsGoing c

/-- What a command does to the partitions: it adds some, works on others, and claims at most
probes of the rarest bucket. -/
structure ProbesKept (config : Config) (target : Option Nat) (db db' : Db) : Prop where
  ids : FreshIds db → FreshIds db'
  old : FreshIds db → ∀ id p, db.partitions.get id = some p →
    ∃ q, db'.partitions.get id = some q ∧ (MayGo config p → MayGo config q) ∧
      (q.gmvBucket = some .G4 → q.schedulerIsG4Probe = true →
        MayGo config q ∨ p.gmvBucket = some .G4 ∧ p.schedulerIsG4Probe = true) ∧
      (going q.status = true → MayGo config q ∨ going p.status = true ∨ target = some id)
  new : FreshIds db → ∀ id q, db'.partitions.get id = some q →
    (∃ p, db.partitions.get id = some p) ∨ Untouched q ∨ MayGo config q

section Rows

variable {env : Environment} {config : Config} {ambient : Ambient} {db db' : Db}
  {p q : CreatorSearchPartition}

theorem mayGo_of_columns (hbucket : q.gmvBucket = p.gmvBucket)
    (hprobe : q.schedulerIsG4Probe = p.schedulerIsG4Probe)
    (hsequence : q.schedulerClaimSequence = p.schedulerClaimSequence) (h : MayGo config p) :
    MayGo config q := by
  unfold MayGo ClaimedAsProbe
  rw [hbucket, hprobe, hsequence]
  exact h

theorem probes_of_rows {target : Option Nat} (h : RowsKept target db db') :
    ProbesKept config target db db' where
  ids := h.ids
  old hids id p hp := by
    obtain ⟨q, hq, heq, hgoing⟩ := h.old hids id p hp
    have hbucket : q.gmvBucket = p.gmvBucket := congrArg (·.gmvBucket) heq
    have hprobe : q.schedulerIsG4Probe = p.schedulerIsG4Probe := congrArg (·.schedulerIsG4Probe) heq
    have hsequence : q.schedulerClaimSequence = p.schedulerClaimSequence :=
      congrArg (·.schedulerClaimSequence) heq
    refine ⟨q, hq, mayGo_of_columns hbucket hprobe hsequence, ?_, fun hq => Or.inr (hgoing hq)⟩
    intro hg4 hflag
    exact Or.inr ⟨hbucket ▸ hg4, hprobe ▸ hflag⟩
  new hids id q hq := by
    rcases h.new hids id q hq with hold | hnew
    · exact Or.inl hold
    · exact Or.inr (Or.inl hnew)

theorem mayGo_started {now : Int} {sequence : Nat} {selection : Selection} {next : ScoredCandidate}
    (hselection : selectPartition env config db sequence now = .ok selection)
    (hprobe : next.candidate.gmvBucket = some .G4 → selection.slot = .G4_PROBE) :
    MayGo config (startedPartition env selection.slot sequence now next.candidate
      next.candidate) := by
  intro hg4
  have hbucket : next.candidate.gmvBucket = some .G4 := hg4
  have hslots := slot_of_selectPartition hselection
  rw [hprobe hbucket] at hslots
  refine ⟨?_, _, rfl, dvd_of_g4Probe hslots⟩
  simp [startedPartition, hprobe hbucket, hbucket]

/-- The claim of a partition. Only in the slot of a probe it is one of the rarest bucket. -/
theorem probes_of_claim {leaseId : Nat} {now : Int} {r : Option Claim}
    (h : Claims env config leaseId now db r db') : ProbesKept config none db db' := by
  cases h with
  | current db1 hexpand =>
    exact probes_of_rows (rows_of_expanded (expandReadyBranches_expands hexpand))
  | exhausted db1 hexpand =>
    exact probes_of_rows ((rows_of_expanded (expandReadyBranches_expands hexpand)).congr rfl rfl)
  | started db1 hexpand hlease hnot selection hselection next hnext hcount explored =>
    have hexpanded := expandReadyBranches_expands hexpand
    obtain ⟨hstored, hcandidate, hprobe⟩ := of_selectPartition hselection hnext
    have hclaimed : MayGo config (startedPartition env selection.slot
        (db.job.partitionClaimSequence + 1) now next.candidate next.candidate) :=
      mayGo_started hselection hprobe
    constructor
    · intro hids id p hp
      simp only [Table.get_updateMany, Option.map_eq_some_iff] at hp
      obtain ⟨q, hq, _⟩ := hp
      exact hexpanded.ids hids id q hq
    · intro hids id p hp
      obtain ⟨q, hq, heq⟩ := hexpanded.old hids id p hp
      dsimp only
      rw [Table.get_updateMany, hq, Option.map_some]
      refine ⟨_, rfl, ?_⟩
      split
      · rename_i hid
        simp only [Bool.and_eq_true, decide_eq_true_eq] at hid
        rw [hid.1, hstored, Option.some.injEq] at hq
        subst hq
        exact ⟨fun _ => hclaimed, fun _ _ => Or.inl hclaimed, fun _ => Or.inl hclaimed⟩
      · have hbucket : q.gmvBucket = p.gmvBucket := congrArg (·.gmvBucket) heq
        have hflag : q.schedulerIsG4Probe = p.schedulerIsG4Probe :=
          congrArg (·.schedulerIsG4Probe) heq
        have hsequence : q.schedulerClaimSequence = p.schedulerClaimSequence :=
          congrArg (·.schedulerClaimSequence) heq
        have hstatus : q.status = p.status := congrArg (·.status) heq
        refine ⟨mayGo_of_columns hbucket hflag hsequence, ?_, ?_⟩
        · intro hg4 hprobe
          exact Or.inr ⟨hbucket ▸ hg4, hflag ▸ hprobe⟩
        · rw [hstatus]
          exact fun hgoing => Or.inr (Or.inl hgoing)
    · intro hids id p hp
      simp only [Table.get_updateMany, Option.map_eq_some_iff] at hp
      obtain ⟨q, hq, heq⟩ := hp
      rcases hexpanded.new hids id q hq with hold | hnew
      · exact Or.inl hold
      · split at heq
        · -- the partition was added and claimed at once
          rename_i hid
          simp only [Bool.and_eq_true, decide_eq_true_eq] at hid
          rw [hid.1, hstored, Option.some.injEq] at hq
          subst hq
          exact Or.inr (Or.inr (heq ▸ hclaimed))
        · exact Or.inr (Or.inl (heq ▸ hnew))

/-- A commit counts its page, and may set the partition of the page going. -/
theorem probes_of_commit {leaseId pageId : Nat} {page : CreatorSyncPage}
    {partition : CreatorSearchPartition} {now : Int}
    (h : Commits config leaseId pageId page partition now db db') :
    ProbesKept config (some page.creatorSearchPartitionId) db db' := by
  -- the row of the page after the commit, and every other row as it was
  have hcounted : ∀ (f : CreatorSearchPartition → CreatorSearchPartition),
      (∀ p, (f p).gmvBucket = p.gmvBucket ∧ (f p).schedulerIsG4Probe = p.schedulerIsG4Probe ∧
        (f p).schedulerClaimSequence = p.schedulerClaimSequence) →
      ProbesKept config (some page.creatorSearchPartitionId) db (pageCommitted pageId page db f) := by
    intro f hf
    constructor
    · intro hids id p hp
      simp only [pageCommitted, Table.get_updateMany, Option.map_eq_some_iff] at hp
      obtain ⟨q, hq, _⟩ := hp
      exact hids id q hq
    · intro _ id p hp
      dsimp only [pageCommitted]
      rw [Table.get_updateMany, hp, Option.map_some]
      refine ⟨_, rfl, ?_⟩
      split
      · rename_i hid
        obtain ⟨hbucket, hflag, hsequence⟩ := hf p
        refine ⟨mayGo_of_columns hbucket hflag hsequence, ?_, ?_⟩
        · intro hg4 hprobe
          exact Or.inr ⟨hbucket ▸ hg4, hflag ▸ hprobe⟩
        · rw [of_decide_eq_true hid]
          exact fun _ => Or.inr (Or.inr rfl)
      · exact ⟨fun h => h, fun hg4 hprobe => Or.inr ⟨hg4, hprobe⟩, fun h => Or.inr (Or.inl h)⟩
    · intro _ id q hq
      simp only [pageCommitted, Table.get_updateMany, Option.map_eq_some_iff] at hq
      obtain ⟨p, hp, _⟩ := hq
      exact Or.inl ⟨p, hp⟩
  cases h with
  | more hlease hpage hpartition hmore =>
    have hrow := hcounted (moreRow page partition now db.job.pauseRequested)
      (fun _ => ⟨rfl, rfl, rfl⟩)
    exact ⟨hrow.ids, hrow.old, hrow.new⟩
  | last hlease hpage hpartition hlast db1 hexpand =>
    have hrow := hcounted (lastRow config page partition now) (fun _ => ⟨rfl, rfl, rfl⟩)
    have hexpanded : Expanded (pageCommitted pageId page db (lastRow config page partition now))
        db1 := by
      rcases hexpand with ⟨_, rfl⟩ | ⟨_, hrun⟩
      · exact Expanded.refl _
      · exact expandReadyBranches_expands hrun
    constructor
    · exact fun hids => hexpanded.ids (hrow.ids hids)
    · intro hids id p hp
      obtain ⟨q, hq, hmay, hflags, hgoing⟩ := hrow.old hids id p hp
      obtain ⟨r, hr, heq⟩ := hexpanded.old (hrow.ids hids) id q hq
      have hbucket : r.gmvBucket = q.gmvBucket := congrArg (·.gmvBucket) heq
      have hflag : r.schedulerIsG4Probe = q.schedulerIsG4Probe :=
        congrArg (·.schedulerIsG4Probe) heq
      have hsequence : r.schedulerClaimSequence = q.schedulerClaimSequence :=
        congrArg (·.schedulerClaimSequence) heq
      have hstatus : r.status = q.status := congrArg (·.status) heq
      have hsame : MayGo config q → MayGo config r := mayGo_of_columns hbucket hflag hsequence
      refine ⟨r, hr, fun hp => hsame (hmay hp), ?_, ?_⟩
      · intro hg4 hprobe
        rcases hflags (hbucket ▸ hg4) (hflag ▸ hprobe) with hq | hp
        · exact Or.inl (hsame hq)
        · exact Or.inr hp
      · rw [hstatus]
        intro hq
        rcases hgoing hq with hmayq | hrest
        · exact Or.inl (hsame hmayq)
        · exact Or.inr hrest
    · intro hids id r hr
      rcases hexpanded.new (hrow.ids hids) id r hr with ⟨q, hq⟩ | hnew
      · simp only [pageCommitted, Table.get_updateMany, Option.map_eq_some_iff] at hq
        obtain ⟨p, hp, _⟩ := hq
        exact Or.inl ⟨p, hp⟩
      · exact Or.inr (Or.inl hnew)

/-- The partition of a new claim may go. -/
theorem mayGoAt_claimed {leaseId sequence : Nat} {now : Int} {row : Row}
    (h : Claims env config leaseId now db (some (.started row sequence)) db') :
    MayGoAt config db' row.1 := by
  cases h with
  | started db1 hexpand hlease hnot selection hselection next hnext hcount explored =>
    obtain ⟨hstored, hcandidate, hprobe⟩ := of_selectPartition hselection hnext
    refine ⟨startedPartition env selection.slot (db.job.partitionClaimSequence + 1) now
      next.candidate next.candidate, ?_, mayGo_started hselection hprobe⟩
    have hstatus := hcandidate.claimable
    simp [Table.get_updateMany, claimedRow, hstored, hstatus.symm]

theorem probes_of_effect {c : Command} {a : c.Result}
    (h : Effect env config ambient db c a db') : ProbesKept config (target c) db db' := by
  by_cases hclaim : ∃ leaseId, c = .claimPartition leaseId
  · obtain ⟨leaseId, rfl⟩ := hclaim
    exact probes_of_claim h
  · by_cases hcommit : ∃ leaseId pageId page partition, c = .commitPage leaseId pageId page partition
    · obtain ⟨leaseId, pageId, page, partition, rfl⟩ := hcommit
      exact probes_of_commit h
    · push Not at hclaim hcommit
      have htarget : target c = setsGoing c := by
        unfold target
        split
        · rename_i leaseId pageId page partition
          exact absurd rfl (hcommit leaseId pageId page partition)
        · rfl
      rw [htarget]
      exact probes_of_rows (rows_of_effect hclaim hcommit h)

/-- A partition that may go may still go after every command. -/
theorem mayGoAt_of_effect {c : Command} {a : c.Result} (hids : FreshIds db)
    (h : Effect env config ambient db c a db') {id : Nat} (hid : MayGoAt config db id) :
    MayGoAt config db' id := by
  obtain ⟨p, hp, hmay⟩ := hid
  obtain ⟨q, hq, hkeep, _⟩ := (probes_of_effect h).old hids id p hp
  exact ⟨q, hq, hkeep hmay⟩

end Rows

/-! ## What is known of probes -/

/-- The partitions of the rarest bucket are going, flagged or pointed at only as probes, and so
are the watched ones. -/
structure Isolated (config : Config) (watched : Set Nat) (db : Db) : Prop where
  ids : FreshIds db
  going : ∀ id p, db.partitions.get id = some p → going p.status = true → MayGo config p
  flagged : ∀ id p, db.partitions.get id = some p → p.gmvBucket = some .G4 →
    p.schedulerIsG4Probe = true → MayGo config p
  pages : ∀ id page, db.pages.get id = some page → MayGoAt config db page.creatorSearchPartitionId
  current : ∀ id, db.job.currentPartitionId = some id → MayGoAt config db id
  watched : ∀ id ∈ watched, MayGoAt config db id

/-- What an answer says of probes: the partitions in it may go. -/
def Meant (config : Config) (db : Db) (_ : Phase) : (c : Command) → c.Result → Prop
  | .claimPartition _, (r : Option Claim) => ∀ claim ∈ r, MayGoAt config db claim.row.1
  | .findPartition id, (p : CreatorSearchPartition) => resumes p = true → MayGoAt config db id
  | .receivedPage _, (page : CreatorSyncPage) => MayGoAt config db page.creatorSearchPartitionId
  | .stagedPage, (found : Option (Nat × CreatorSyncPage × CreatorSearchPartition)) =>
    ∀ row ∈ found, MayGoAt config db row.2.1.creatorSearchPartitionId
  | .findJob _, (found : Option CreatorSyncJob) =>
    ∀ job ∈ found, ∀ id, job.currentPartitionId = some id → MayGoAt config db id
  | .readJob, (job : CreatorSyncJob) =>
    ∀ id, job.currentPartitionId = some id → MayGoAt config db id
  | _, _ => True

section Knowledge

variable {env : Environment} {config : Config} {ambient : Ambient} {db db' : Db} {c : Command}
  {watched : Set Nat} {r : Role} {phase phase' : Phase}

/-- What a command answers is so in the database behind it. -/
theorem meant_answer {a : c.Result} (hinv : Isolated config watched db)
    (hinv' : Isolated config watched db') (h : Effect env config ambient db c a db') :
    Meant config db' phase c a := by
  have hread : ∀ {id : Nat}, db.job.currentPartitionId = some id → MayGoAt config db' id :=
    fun hid => mayGoAt_of_effect hinv.ids h (hinv.current _ hid)
  cases c with
  | claimPartition leaseId =>
    intro claim hclaim
    have hclaims : Claims env config leaseId ambient.now db a db' := h
    cases hclaims with
    | current db1 hexpand hlease id p hid =>
      cases hclaim
      exact hread hid
    | exhausted => cases hclaim
    | started db1 hexpand hlease hnot selection hselection next hnext hcount explored =>
      cases hclaim
      exact mayGoAt_claimed (Claims.started db1 hexpand hlease hnot selection hselection next hnext
        hcount explored)
  | findPartition id =>
    obtain ⟨hp, rfl⟩ := h
    intro hresumes
    refine ⟨a, hp, fun hg4 => ?_⟩
    unfold resumes at hresumes
    have hprobe : CreatorSearchPartition.schedulerIsG4Probe a = true := by
      simpa [hg4] using (Bool.and_eq_true_iff.1 hresumes).2
    exact hinv.flagged id a hp hg4 hprobe hg4
  | receivedPage id =>
    obtain ⟨hpage, _, rfl⟩ := h
    exact hinv.pages id a hpage
  | stagedPage =>
    obtain ⟨hfound, rfl⟩ := h
    intro row hrow
    exact hinv.pages _ _ (hfound row.1 row.2.1 row.2.2 hrow).1
  | findJob leaseId =>
    obtain ⟨rfl, rfl⟩ := h
    intro job hjob id hid
    split at hjob
    · cases hjob
      exact hinv.current id hid
    · cases hjob
  | readJob =>
    obtain ⟨rfl, rfl⟩ := h
    exact fun id hid => hinv.current id hid
  | _ => trivial

end Knowledge

/-! ## The claims of a run -/

/-- A claim as a run notes it. -/
structure Entry where
  id : Nat
  sequence : Nat
  bucket : Option GmvBucketCode
  deriving DecidableEq, Repr

/-- The crawler, with the claims that were committed so far. -/
structure Ledger where
  pool : Pool World Call Call.Answer
  claims : List Entry

section Ledgers

variable (env : Environment) (config : Config)

/-- A claim of a partition is committed in the step, whether its answer comes or not. -/
def Claimed (w : World) (l : Label Call Call.Answer) (w' : World) (e : Entry) : Prop :=
  ∃ i leaseId answer ambient row, l = .run i (.db (.claimPartition leaseId)) answer ∧
    ((Command.claimPartition leaseId).body env config ambient).run w.db =
      .ok (some (.started row e.sequence), w'.db) ∧
    e.id = row.1 ∧ e.bucket = row.2.gmvBucket

/-- A step of the crawler, with its claim noted. -/
def LedgerStep (allowed : Job → Bool) (s : Ledger) (l : Label Call Call.Answer) (t : Ledger) :
    Prop :=
  PoolStep (machine env config) (Startable allowed) s.pool l t.pool ∧
    ((∃ e, Claimed env config s.pool.world l t.pool.world e ∧ t.claims = s.claims ++ [e]) ∨
      ((∀ e, ¬ Claimed env config s.pool.world l t.pool.world e) ∧ t.claims = s.claims))

end Ledgers

section Ledgers

variable {env : Environment} {config : Config} {allowed : Job → Bool}

end Ledgers

/-! ## The main result -/

section Main

variable {env : Environment} {config : Config} {allowed : Job → Bool} {s t : Ledger}
  {ls ms : List (Label Call Call.Answer)}

end Main

end tiktok_outreach.rare_probes
