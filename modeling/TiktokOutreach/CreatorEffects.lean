-- What the transactions with an expansion in them do to the database, said
-- once: an expansion adds partitions and marks branches, a claim takes a
-- partition or finds none, and a commit counts a page.
import TiktokOutreach.CreatorCommands
import TiktokOutreach.QueueGrowth

open tables transactions tiktok_outreach.creator_schema tiktok_outreach.marketplace_partitions
  tiktok_outreach.creator_scheduler tiktok_outreach.adaptive_queue
  tiktok_outreach.partition_claims tiktok_outreach.creator_sync tiktok_outreach.creator_commands
  tiktok_outreach.queue_growth

namespace tiktok_outreach.creator_effects

/-! ## Expansions -/

/-- The partitions have ids below the counter. -/
def FreshIds (db : Db) : Prop := ∀ id p, db.partitions.get id = some p → id < db.nextPartitionId

/-- The partition without the columns that an expansion writes. -/
def unbranched (p : CreatorSearchPartition) : CreatorSearchPartition :=
  { p with
    followerSplitExplored := false
    followerRecursionTerminal := false
    followerRecursionStopReason := none
    combinedChildIncrementalYield := none
    branchClassification := .UNCLASSIFIED }

/-- A partition as it is inserted. -/
structure Untouched (p : CreatorSearchPartition) : Prop where
  specific : isSpecificGmvPartition p.gmvBucket p.gmvRange = true
  status : p.status = claimableStatus p
  token : p.privateNextPageToken = none
  counters : (p.pagesCompleted, p.rowsReturned, p.uniqueCreatorsAdded, p.duplicates) = (0, 0, 0, 0)
  sequence : p.schedulerClaimSequence = none
  probe : p.schedulerIsG4Probe = false

theorem Untouched.of_unbranched {p q : CreatorSearchPartition} (h : unbranched q = unbranched p)
    (hp : Untouched p) : Untouched q := by
  have hbucket : q.gmvBucket = p.gmvBucket := congrArg (·.gmvBucket) h
  constructor
  · have hrange : q.gmvRange = p.gmvRange := congrArg (·.gmvRange) h
    rw [hbucket, hrange]
    exact hp.specific
  · have hstatus : q.status = p.status := congrArg (·.status) h
    rw [hstatus, hp.status]
    unfold claimableStatus
    rw [hbucket]
  · exact (congrArg (·.privateNextPageToken) h).trans hp.token
  · exact (congrArg (fun p => (p.pagesCompleted, p.rowsReturned, p.uniqueCreatorsAdded,
      p.duplicates)) h).trans hp.counters
  · exact (congrArg (·.schedulerClaimSequence) h).trans hp.sequence
  · exact (congrArg (·.schedulerIsG4Probe) h).trans hp.probe

/-- New partitions are added, and old ones change in the columns of their branch at most. -/
structure Expanded (db db' : Db) : Prop where
  rest : db' = { db with partitions := db'.partitions, nextPartitionId := db'.nextPartitionId }
  ids : FreshIds db → FreshIds db'
  old : FreshIds db → ∀ id p, db.partitions.get id = some p →
    ∃ q, db'.partitions.get id = some q ∧ unbranched q = unbranched p
  new : FreshIds db → ∀ id q, db'.partitions.get id = some q →
    (∃ p, db.partitions.get id = some p) ∨ Untouched q

section Expanded

variable {db db' db'' : Db}

theorem Expanded.refl (db : Db) : Expanded db db where
  rest := rfl
  ids h := h
  old _ _ p hp := ⟨p, hp, rfl⟩
  new _ _ q hq := Or.inl ⟨q, hq⟩

theorem Expanded.job (h : Expanded db db') : db'.job = db.job := by rw [h.rest]

theorem Expanded.pages (h : Expanded db db') : db'.pages = db.pages := by rw [h.rest]

theorem Expanded.nextPageId (h : Expanded db db') : db'.nextPageId = db.nextPageId := by
  rw [h.rest]

theorem Expanded.creators (h : Expanded db db') : db'.creators = db.creators := by rw [h.rest]

theorem Expanded.categories (h : Expanded db db') : db'.categories = db.categories := by
  rw [h.rest]

theorem Expanded.trans (h : Expanded db db') (h' : Expanded db' db'') : Expanded db db'' where
  rest := by
    rw [h'.rest, h.rest]
  ids hids := h'.ids (h.ids hids)
  old hids id p hp := by
    obtain ⟨q, hq, heq⟩ := h.old hids id p hp
    obtain ⟨r, hr, heq'⟩ := h'.old (h.ids hids) id q hq
    exact ⟨r, hr, heq'.trans heq⟩
  new hids id r hr := by
    rcases h'.new (h.ids hids) id r hr with ⟨q, hq⟩ | hnew
    · rcases h.new hids id q hq with hold | hnew
      · exact Or.inl hold
      · obtain ⟨r', hr', heq⟩ := h'.old (h.ids hids) id q hq
        rw [hr, Option.some.injEq] at hr'
        subst hr'
        exact Or.inr (hnew.of_unbranched heq)
    · exact Or.inr hnew

theorem expanded_update (c : Nat → CreatorSearchPartition → Bool)
    {f : CreatorSearchPartition → CreatorSearchPartition}
    (hf : ∀ p, unbranched (f p) = unbranched p) :
    Expanded db { db with partitions := db.partitions.updateMany c f } where
  rest := rfl
  ids hids id p hp := by
    simp only [Table.get_updateMany, Option.map_eq_some_iff] at hp
    obtain ⟨q, hq, _⟩ := hp
    exact hids id q hq
  old _ id p hp := by
    refine ⟨if c id p then f p else p, ?_, ?_⟩
    · simp only [Table.get_updateMany, hp, Option.map_some]
    · split
      · exact hf p
      · rfl
  new _ id q hq := by
    simp only [Table.get_updateMany, Option.map_eq_some_iff] at hq
    obtain ⟨p, hp, _⟩ := hq
    exact Or.inl ⟨p, hp⟩

theorem expanded_insertPartition {p : CreatorSearchPartition} (hp : Untouched p) :
    Expanded db (insertPartition db p) := by
  unfold insertPartition
  split
  · exact Expanded.refl db
  · constructor
    · rfl
    · intro hids id q hq
      simp only [Table.get_set] at hq
      by_cases hid : id = db.nextPartitionId
      · dsimp only
        omega
      · rw [if_neg hid] at hq
        exact Nat.lt_succ_of_lt (hids id q hq)
    · intro hids id q hq
      have hid : id ≠ db.nextPartitionId := by
        have := hids id q hq
        omega
      exact ⟨q, by simp only [Table.get_set, if_neg hid, hq], rfl⟩
    · intro _ id q hq
      simp only [Table.get_set] at hq
      by_cases hid : id = db.nextPartitionId
      · rw [if_pos hid, Option.some.injEq] at hq
        exact Or.inr (hq ▸ hp)
      · rw [if_neg hid] at hq
        exact Or.inl ⟨q, hq⟩

theorem expanded_insertPartitions {ps : List CreatorSearchPartition}
    (hps : ∀ p ∈ ps, Untouched p) : Expanded db (insertPartitions db ps) := by
  unfold insertPartitions
  induction ps generalizing db with
  | nil => exact Expanded.refl db
  | cons p ps ih =>
    have hrest : Expanded (insertPartition db p) (ps.foldl insertPartition (insertPartition db p)) :=
      ih (fun q hq => hps q (List.mem_cons_of_mem _ hq))
    exact (expanded_insertPartition (hps p List.mem_cons_self)).trans hrest

theorem untouched_followerChild {parentId : Nat} {parent : CreatorSearchPartition} {bound : Bounds}
    {index : Nat} (h : isSpecificGmvPartition parent.gmvBucket parent.gmvRange = true) :
    Untouched (followerChild parentId parent bound index) where
  specific := h
  status := rfl
  token := rfl
  counters := rfl
  sequence := rfl
  probe := rfl

end Expanded

/-! ## The expansion of all branches -/

/-- A relation that holds over the writes of an expansion: inserts of children, and writes to the
columns of branches. -/
structure OfExpansion (R : Db → Db → Prop) : Prop where
  refl : ∀ db, R db db
  insert : ∀ db parentId parent bounds ps,
    isSpecificGmvPartition parent.gmvBucket parent.gmvRange = true →
    (∀ p ∈ ps, p ∈ followerChildren parentId parent bounds) → R db (insertPartitions db ps)
  update : ∀ db (c : Nat → CreatorSearchPartition → Bool) f,
    (∀ p, unbranched (f p) = unbranched p) →
    R db { db with partitions := db.partitions.updateMany c f }

section Within

variable {R : Db → Db → Prop} {config : Config} {db db' : Db}

theorem within_branch (h : OfExpansion R) (id : Nat)
    {f : CreatorSearchPartition → CreatorSearchPartition}
    (hf : ∀ p, unbranched (f p) = unbranched p) :
    (Tx.update table.partitions .notFound id f : Transaction Unit).Within R :=
  Tx.within_update table.partitions (fun db => h.update db _ f hf)

theorem within_expandBranch (h : OfExpansion R) (row : Nat × CreatorSearchPartition) :
    (expandBranch config row).Within R := by
  unfold expandBranch
  split
  · rename_i bounds reason _
    refine Tx.within_bind ?_ (fun _ => trivial)
    unfold createFollowerChildren
    by_cases hspecific : isSpecificGmvPartition row.2.gmvBucket row.2.gmvRange = true
    · rw [if_neg (by simp [hspecific])]
      refine Tx.within_bind ⟨fun db => h.refl db, fun _ => trivial⟩ (fun existing => ?_)
      refine Tx.within_bind ⟨fun db => ?_, fun _ => trivial⟩ (fun _ => ?_)
      · exact h.insert db row.1 row.2 bounds _ hspecific (fun p hp => (List.mem_filter.1 hp).1)
      · exact Tx.within_bind (within_branch h _ (fun _ => rfl)) (fun _ => trivial)
    · rw [if_pos (by simp [hspecific])]
      trivial
  · exact within_branch h _ (fun _ => rfl)

theorem within_expandSiblings (h : OfExpansion R) (parentId : Nat) :
    (expandSiblings config parentId).Within R := by
  unfold expandSiblings
  refine Tx.within_bind ⟨fun db => h.refl db, fun _ => trivial⟩ (fun siblings => ?_)
  split
  · trivial
  · refine Tx.within_bind (within_branch h _ (fun _ => rfl)) (fun _ => ?_)
    split
    · exact Tx.within_bind (Tx.within_updateMany table.partitions
          (fun db => h.update db _ _ (fun _ => by rfl)))
        (fun _ => trivial)
    · exact Tx.within_bind (Tx.within_traverse (fun row _ => within_expandBranch h row))
        (fun _ => trivial)

theorem within_expandReadyBranches (h : OfExpansion R) : (expandReadyBranches config).Within R := by
  unfold expandReadyBranches
  refine Tx.within_bind ⟨fun db => h.refl db, fun _ => trivial⟩ (fun seeds => ?_)
  refine Tx.within_bind (Tx.within_traverse (fun row _ => within_expandBranch h row)) (fun _ => ?_)
  refine Tx.within_bind ⟨fun db => h.refl db, fun _ => trivial⟩ (fun parentIds => ?_)
  exact Tx.within_bind (Tx.within_traverse (fun id _ => within_expandSiblings h id))
    (fun _ => trivial)

theorem expanded_ofExpansion : OfExpansion Expanded where
  refl := Expanded.refl
  insert db parentId parent bounds ps hspecific hps := by
    refine expanded_insertPartitions (fun p hp => ?_)
    have hchild := hps p hp
    unfold followerChildren at hchild
    rcases List.mem_pair.1 hchild with rfl | rfl
    · exact untouched_followerChild hspecific
    · exact untouched_followerChild hspecific
  update db c f hf := expanded_update c hf

theorem expandReadyBranches_expands {u : Unit}
    (hrun : (expandReadyBranches config).run db = .ok (u, db')) : Expanded db db' :=
  Tx.run_of_within Expanded.refl (fun _ _ _ h h' => h.trans h')
    (within_expandReadyBranches expanded_ofExpansion) hrun

end Within

/-! ## Claims -/

/-- The job after a claim found nothing. -/
def exhaustedJob (job : CreatorSyncJob) : CreatorSyncJob :=
  { job with
    state := .EXHAUSTED
    currentStage := .ALL_PARTITIONS_COMPLETE
    currentPartitionId := none
    leaseId := none
    leaseExpiresAt := none }

/-- The job after the claim of a partition. -/
def startedJob (job : CreatorSyncJob) (id : Nat) : CreatorSyncJob :=
  { job with
    currentPartitionId := some id
    partitionClaimSequence := job.partitionClaimSequence + 1
    currentStage := .STARTING_PARTITION }

/-- The current partition does not go on. -/
def NotResumed (db db1 : Db) : Prop :=
  ∀ id, db.job.currentPartitionId = some id → ∀ p, db1.partitions.get id = some p →
    resumes p = false

section Claims

variable (env : Environment) (config : Config) (leaseId : Nat) (now : Int) (db : Db)

/-- What `claimPartition` does: `db1` is the database behind the expansion of its branches. -/
inductive Claims : Option Claim → Db → Prop
  | current (db1 : Db) (hexpand : (expandReadyBranches config).run db = .ok ((), db1))
      (hlease : db.job.leaseId = some leaseId) (id : Nat) (p : CreatorSearchPartition)
      (hid : db.job.currentPartitionId = some id) (hp : db1.partitions.get id = some p)
      (hresumes : resumes p = true) : Claims (some (.current (id, p))) db1
  | exhausted (db1 : Db) (hexpand : (expandReadyBranches config).run db = .ok ((), db1))
      (hlease : db.job.leaseId = some leaseId) (hnot : NotResumed db db1) (selection : Selection)
      (hselection : selectPartition env config db1 (db.job.partitionClaimSequence + 1) now =
        .ok selection)
      (hnone : selection.selected = none) : Claims none { db1 with job := exhaustedJob db.job }
  | started (db1 : Db) (hexpand : (expandReadyBranches config).run db = .ok ((), db1))
      (hlease : db.job.leaseId = some leaseId) (hnot : NotResumed db db1) (selection : Selection)
      (hselection : selectPartition env config db1 (db.job.partitionClaimSequence + 1) now =
        .ok selection)
      (next : ScoredCandidate) (hnext : selection.selected = some next)
      (hcount : db1.partitions.count
        (fun id p => id = next.id && p.status = claimableStatus next.candidate) = 1)
      (explored : String → MarketplaceCategory → Bool) :
      Claims (some (.started (claimedRow selection.slot now (next.id, next.candidate))
          (db.job.partitionClaimSequence + 1)))
        { db1 with
          job := startedJob db.job next.id
          partitions := db1.partitions.updateMany
            (fun id p => id = next.id && p.status = claimableStatus next.candidate)
            (startedPartition env selection.slot (db.job.partitionClaimSequence + 1) now
              next.candidate)
          categories := db1.categories.updateMany explored
            (fun category => { category with creatorLastExplorationClaimAt := some now }) }

variable {env config leaseId now db}

/-- An update of no row. -/
theorem updateMany_none {κ α : Type} [DecidableEq κ] (t : Table κ α) (f : α → α) :
    t.updateMany (fun _ _ => false) f = t := by
  unfold Table.updateMany
  simp

theorem recordExploration_explores {next : CreatorSearchPartition} {db' : Db} {u : Unit}
    (hrun : (recordExploration now next).run db = .ok (u, db')) :
    ∃ explored, db' = { db with
      categories := db.categories.updateMany explored
        (fun category => { category with creatorLastExplorationClaimAt := some now }) } := by
  unfold recordExploration at hrun
  split at hrun
  · rename_i parent child _ _
    simp only [Tx.run_bind, Tx.run_updateMany, Tx.bind_eq_ok, Except.ok.injEq, exists_eq_left',
      Tx.run_pure, Prod.mk.injEq, true_and] at hrun
    exact ⟨_, hrun.symm⟩
  · simp only [Tx.run_pure, Except.ok.injEq, Prod.mk.injEq, true_and] at hrun
    refine ⟨fun _ _ => false, ?_⟩
    rw [updateMany_none, hrun]

/-- The part of a claim behind the current partition, in a database `db2` without one. -/
theorem claimNext_claims {db1 db2 db' : Db} {r : Option Claim}
    (hexpand : (expandReadyBranches config).run db = .ok ((), db1))
    (hlease : db.job.leaseId = some leaseId) (hnot : NotResumed db db1)
    (hdb2 : ∃ stage, db2 = { db1 with
      job := { db.job with currentPartitionId := none, currentStage := stage } })
    (hrun : (claimNext env config leaseId (db.job.partitionClaimSequence + 1) now).run db2 =
      .ok (r, db')) : Claims env config leaseId now db r db' := by
  obtain ⟨stage, rfl⟩ := hdb2
  have hcondition : decide (db.job.leaseId = some leaseId) = true := decide_eq_true hlease
  unfold claimNext at hrun
  simp only [Tx.run_bind, Tx.run_read, Tx.bind_eq_ok, Except.ok.injEq, exists_eq_left'] at hrun
  have hsame : selectPartition env config { db1 with
      job := { db.job with currentPartitionId := none, currentStage := stage } }
        (db.job.partitionClaimSequence + 1) now =
      selectPartition env config db1 (db.job.partitionClaimSequence + 1) now := by rfl
  rw [hsame] at hrun
  cases hselection : selectPartition env config db1 (db.job.partitionClaimSequence + 1) now with
  | error message => simp [hselection] at hrun
  | ok selection =>
    simp only [hselection] at hrun
    cases hselected : selection.selected with
    | none =>
      simp only [hselected, Tx.run_bind, run_updateJobWhere, hcondition, if_true,
        Tx.bind_eq_ok, Except.ok.injEq, Tx.run_pure, exists_eq_left', Prod.mk.injEq] at hrun
      obtain ⟨rfl, rfl⟩ := hrun
      exact Claims.exhausted db1 hexpand hlease hnot selection hselection hselected
    | some next =>
      simp only [hselected] at hrun
      unfold startPartition at hrun
      simp only [Tx.run_bind, Tx.run_updateMany, Tx.bind_eq_ok, Except.ok.injEq, Prod.exists,
        Prod.mk.injEq] at hrun
      obtain ⟨claimed, db3, ⟨rfl, rfl⟩, hrun⟩ := hrun
      split at hrun
      · cases hrun
      · rename_i hcount
        rw [not_not] at hcount
        simp only [table.partitions, Tx.run_bind, run_updateJobWhere, hcondition, if_true,
          Tx.bind_eq_ok, Except.ok.injEq, exists_eq_left'] at hrun hcount
        split at hrun
        · simp only [Tx.run_bind, Tx.run_pure, Tx.bind_eq_ok, Except.ok.injEq, Prod.exists,
            Prod.mk.injEq] at hrun
          obtain ⟨_, db4, hexplore, rfl, rfl⟩ := hrun
          obtain ⟨explored, rfl⟩ := recordExploration_explores hexplore
          exact Claims.started db1 hexpand hlease hnot selection hselection next hselected hcount
            explored
        · simp only [Tx.run_pure, Except.ok.injEq, Prod.mk.injEq] at hrun
          obtain ⟨rfl, rfl⟩ := hrun
          have hstarted := Claims.started db1 hexpand hlease hnot selection hselection next hselected
            hcount (fun _ _ => false)
          rw [updateMany_none] at hstarted
          exact hstarted

theorem claimPartition_claims {db' : Db} {r : Option Claim}
    (hrun : (claimPartition env config leaseId now).run db = .ok (r, db')) :
    Claims env config leaseId now db r db' := by
  unfold claimPartition at hrun
  rw [Tx.run_lock, Tx.run_bind, Tx.bind_eq_ok] at hrun
  obtain ⟨⟨_, db1⟩, hexpand, hrun⟩ := hrun
  have hexpanded := expandReadyBranches_expands hexpand
  have hjob : db1.job = db.job := hexpanded.job
  simp only [Tx.run_bind, Tx.bind_eq_ok, run_jobUnderLease_eq_ok] at hrun
  obtain ⟨⟨lockedJob, db2⟩, ⟨hlease, heq⟩, hrun⟩ := hrun
  cases heq
  dsimp only at hrun
  rw [hjob] at hrun hlease
  cases hcurrent : db.job.currentPartitionId with
  | none =>
    simp only [hcurrent] at hrun
    have hnot : NotResumed db db1 := by
      intro id hid
      rw [hcurrent] at hid
      cases hid
    refine claimNext_claims hexpand hlease hnot ⟨db.job.currentStage, ?_⟩ hrun
    have hself : { db.job with currentPartitionId := none } = db.job := by
      rw [← hcurrent]
    rw [hexpanded.rest, hself]
  | some id =>
    simp only [hcurrent, Tx.run_bind, Tx.run_read, Tx.bind_eq_ok, Except.ok.injEq,
      exists_eq_left'] at hrun
    cases hfound : (db1.partitions.get id).filter resumes with
    | some current =>
      simp only [hfound, Tx.run_pure, Except.ok.injEq, Prod.mk.injEq] at hrun
      obtain ⟨rfl, rfl⟩ := hrun
      rw [Option.filter_eq_some_iff] at hfound
      exact Claims.current db1 hexpand hlease id current hcurrent hfound.1 hfound.2
    | none =>
      have hnot : NotResumed db db1 := by
        intro id' hid p hp
        rw [hcurrent, Option.some.injEq] at hid
        subst hid
        rw [hp, Option.filter_eq_none_iff] at hfound
        simpa using hfound p rfl
      have hcondition : (decide (db.job.leaseId = some leaseId) &&
          decide (db.job.currentPartitionId = some id)) = true := by
        simp [hlease, hcurrent]
      simp only [hfound, Tx.run_bind, run_updateJobWhere, hjob, hcondition, if_true,
        Tx.bind_eq_ok, Except.ok.injEq, exists_eq_left'] at hrun
      exact claimNext_claims hexpand hlease hnot ⟨_, rfl⟩ hrun

end Claims

/-! ## Commits -/

section Commits

variable (config : Config) (leaseId pageId : Nat) (page : CreatorSyncPage)
  (partition : CreatorSearchPartition) (now : Int) (db : Db)

/-- The strategy does not search for the bucket of the partition. -/
def strategyDisabled : Bool := !isSpecificGmvPartition partition.gmvBucket partition.gmvRange

/-- The partition after the commit of a page with more pages behind it. -/
def moreRow (pause : Bool) (p : CreatorSearchPartition) : CreatorSearchPartition :=
  { countedPage partition page now p with
    status := if strategyDisabled partition then .DISABLED_BY_STRATEGY else if pause then .PAUSED
      else .RUNNING
    privateNextPageToken := page.privateNextToken }

def lastSaturation : ObservedSaturationState :=
  observedSaturationState true (partition.rowsReturned + page.creatorsReturned)
    config.observedSaturationMinRows config.observedSaturationMaxRows

/-- How a partition ends. -/
def lastStatus : PartitionStatus :=
  if strategyDisabled partition then .DISABLED_BY_STRATEGY
  else if partition.partitionType = .ADAPTIVE_GMV &&
    lastSaturation config page partition = .OBSERVED_SATURATED then .DEEPLY_SATURATED
  else .COMPLETE

/-- The partition after the commit of its last page. -/
def lastRow (p : CreatorSearchPartition) : CreatorSearchPartition :=
  { countedPage partition page now p with
    status := lastStatus config page partition
    privateNextPageToken := none
    observedSaturationState := lastSaturation config page partition
    branchClassification := classifyIncrementalYield
      (some (rate (partition.uniqueCreatorsAdded + page.newUniqueCreators)
        (partition.rowsReturned + page.creatorsReturned))) }

/-- The job of a commit, which is written when the partition is the current one. -/
def jobOfCommit (f : CreatorSyncJob → CreatorSyncJob) (job : CreatorSyncJob) : CreatorSyncJob :=
  if job.currentPartitionId = some page.creatorSearchPartitionId then
    { f job with
      pauseRequested := false
      leaseId := none
      leaseExpiresAt := none }
  else job

def moreJob : CreatorSyncJob → CreatorSyncJob :=
  jobOfCommit page (fun job => { job with
    state := if strategyDisabled partition || job.pauseRequested then .PAUSED else .RUNNING
    currentStage := if strategyDisabled partition then .GMV_ALL_DISABLED_BY_STRATEGY
      else if job.pauseRequested then .PAUSED else .PAGE_COMMITTED
    nextAttemptAt := if strategyDisabled partition || job.pauseRequested then none
      else some (now + config.marketplaceSuccessSpacingMs) })

/-- The job after the last page of a partition, when so many partitions are queued then. -/
def lastJob (queuedAfter : Nat) : CreatorSyncJob → CreatorSyncJob :=
  jobOfCommit page (fun job => { job with
    state := if strategyDisabled partition || job.pauseRequested then .PAUSED
      else if queuedAfter ≠ 0 then .RUNNING else .EXHAUSTED
    currentStage := if strategyDisabled partition then .GMV_ALL_DISABLED_BY_STRATEGY
      else if job.pauseRequested then .PAUSED
      else if lastStatus config page partition = .DEEPLY_SATURATED then .DEEPLY_SATURATED
      else .PARTITION_COMPLETE
    currentPartitionId := if strategyDisabled partition then some page.creatorSearchPartitionId
      else none
    nextAttemptAt := if strategyDisabled partition || job.pauseRequested || queuedAfter = 0 then none
      else some (now + config.marketplaceSuccessSpacingMs) })

/-- The page is committed, and its partition is written by `f`. -/
def pageCommitted (f : CreatorSearchPartition → CreatorSearchPartition) : Db :=
  { db with
    partitions := db.partitions.updateMany (fun id _ => id = page.creatorSearchPartitionId) f
    pages := db.pages.updateMany (fun id _ => id = pageId)
      (fun page => { page with state := .COMMITTED, nextSheetsAttemptAt := none }) }

/-- What `commitPage` does. -/
inductive Commits : Db → Prop
  | more (hlease : db.job.leaseId = some leaseId) (hpage : (db.pages.get pageId).isSome)
      (hpartition : (db.partitions.get page.creatorSearchPartitionId).isSome)
      (hmore : page.providerHasMore = true) :
      Commits { pageCommitted pageId page db (moreRow page partition now db.job.pauseRequested) with
        job := moreJob config page partition now db.job }
  | last (hlease : db.job.leaseId = some leaseId) (hpage : (db.pages.get pageId).isSome)
      (hpartition : (db.partitions.get page.creatorSearchPartitionId).isSome)
      (hlast : page.providerHasMore = false) (db1 : Db)
      (hexpand : (strategyDisabled partition = true ∧
          db1 = pageCommitted pageId page db (lastRow config page partition now)) ∨
        (strategyDisabled partition = false ∧ (expandReadyBranches config).run
          (pageCommitted pageId page db (lastRow config page partition now)) = .ok ((), db1))) :
      Commits { db1 with
        job := lastJob config page partition now (queuedPartitions db1) db.job }

end Commits

section Commits

variable {config : Config} {leaseId pageId : Nat} {page : CreatorSyncPage}
  {partition : CreatorSearchPartition} {now : Int} {db db' : Db}

/-- The job's update of a commit under the lease. -/
theorem run_commitJob {f : CreatorSyncJob → CreatorSyncJob} {n : Nat}
    (hrun : (commitJob leaseId page.creatorSearchPartitionId f).run db = .ok (n, db'))
    (hlease : db.job.leaseId = some leaseId) :
    db' = { db with job := jobOfCommit page f db.job } := by
  unfold commitJob at hrun
  unfold jobOfCommit
  by_cases hcurrent : db.job.currentPartitionId = some page.creatorSearchPartitionId
  · have hcondition : (decide (db.job.leaseId = some leaseId) &&
        decide (db.job.currentPartitionId = some page.creatorSearchPartitionId)) = true := by
      simp [hlease, hcurrent]
    simp only [run_updateJobWhere, hcondition, if_true, Except.ok.injEq, Prod.mk.injEq] at hrun
    rw [if_pos hcurrent]
    exact hrun.2.symm
  · have hcondition : (decide (db.job.leaseId = some leaseId) &&
        decide (db.job.currentPartitionId = some page.creatorSearchPartitionId)) = false := by
      simp [hcurrent]
    simp only [run_updateJobWhere, hcondition, Bool.false_eq_true, if_false, Except.ok.injEq,
      Prod.mk.injEq] at hrun
    rw [if_neg hcurrent]
    exact hrun.2.symm

/-- The end of a last commit. -/
theorem run_countAndCommit {f : Nat → CreatorSyncJob → CreatorSyncJob} {u : Unit}
    (hrun : (Tx.read queuedPartitions >>= fun queuedAfter =>
      commitJob leaseId page.creatorSearchPartitionId (f queuedAfter) >>= fun _ =>
        (pure () : Transaction Unit)).run db = .ok (u, db'))
    (hlease : db.job.leaseId = some leaseId) :
    db' = { db with job := jobOfCommit page (f (queuedPartitions db)) db.job } := by
  simp only [Tx.run_bind, Tx.run_read, Tx.bind_eq_ok, Except.ok.injEq, exists_eq_left',
    Tx.run_pure, Prod.mk.injEq, true_and] at hrun
  obtain ⟨⟨n, db1⟩, hjob, rfl⟩ := hrun
  exact run_commitJob hjob hlease

theorem commitPage_commits {u : Unit}
    (hrun : (commitPage config leaseId pageId page partition now).run db = .ok (u, db')) :
    Commits config leaseId pageId page partition now db db' := by
  unfold commitPage at hrun
  simp only [Tx.run_bind, Tx.bind_eq_ok, run_jobUnderLease_eq_ok, Tx.run_update] at hrun
  obtain ⟨⟨job, db0⟩, ⟨hlease, heq⟩, ⟨_, db1⟩, hpage, hrun⟩ := hrun
  cases heq
  rw [Tx.ite_error_eq_ok, Except.ok.injEq, Prod.mk.injEq] at hpage
  obtain ⟨hpage, _, rfl⟩ := hpage
  dsimp only [table.pages] at hrun hpage
  by_cases hmore : page.providerHasMore = true
  · rw [if_pos hmore] at hrun
    unfold commitMore at hrun
    simp only [Tx.run_bind, Tx.bind_eq_ok, Tx.run_update] at hrun
    obtain ⟨⟨_, db1⟩, hpartition, ⟨n, db2⟩, hjob, hrest⟩ := hrun
    rw [Tx.ite_error_eq_ok, Except.ok.injEq, Prod.mk.injEq] at hpartition
    obtain ⟨hpartition, _, rfl⟩ := hpartition
    simp only [Tx.run_pure, Except.ok.injEq, Prod.mk.injEq, true_and] at hrest
    rw [← hrest, run_commitJob hjob hlease]
    exact Commits.more hlease hpage hpartition hmore
  · rw [if_neg hmore] at hrun
    unfold commitLast at hrun
    simp only [Tx.run_bind, Tx.bind_eq_ok, Tx.run_update] at hrun
    obtain ⟨⟨_, db1⟩, hpartition, hrun⟩ := hrun
    rw [Tx.ite_error_eq_ok, Except.ok.injEq, Prod.mk.injEq] at hpartition
    obtain ⟨hpartition, _, rfl⟩ := hpartition
    by_cases hdisabled : (!isSpecificGmvPartition partition.gmvBucket partition.gmvRange) = true
    · rw [if_pos hdisabled] at hrun
      rw [run_countAndCommit hrun hlease]
      exact Commits.last hlease hpage hpartition (by simpa using hmore) _
        (Or.inl ⟨hdisabled, rfl⟩)
    · rw [if_neg hdisabled, Tx.run_bind, Tx.bind_eq_ok] at hrun
      obtain ⟨⟨_, db2⟩, hexpand, hrun⟩ := hrun
      have hjob : db2.job = db.job := (expandReadyBranches_expands hexpand).job
      rw [run_countAndCommit hrun (by rw [hjob, hlease]), hjob]
      exact Commits.last hlease hpage hpartition (by simpa using hmore) db2
        (Or.inr ⟨by simpa [strategyDisabled] using hdisabled, hexpand⟩)

/-- The receipt of a commit is written, and no other one. -/
theorem pages_of_commits (h : Commits config leaseId pageId page partition now db db') :
    db'.pages = db.pages.updateMany (fun id _ => id = pageId)
      (fun page => { page with state := .COMMITTED, nextSheetsAttemptAt := none }) := by
  cases h with
  | more => rfl
  | last hlease hpage hpartition hlast db1 hexpand =>
    rcases hexpand with ⟨_, rfl⟩ | ⟨_, hrun⟩
    · rfl
    · exact (expandReadyBranches_expands hrun).pages

/-- A commit leaves the current partition, gives it up or sets it to that of its page. -/
theorem current_of_commits (h : Commits config leaseId pageId page partition now db db') :
    db'.job.currentPartitionId = db.job.currentPartitionId ∨ db'.job.currentPartitionId = none ∨
      db'.job.currentPartitionId = some page.creatorSearchPartitionId := by
  cases h with
  | more =>
    dsimp only [moreJob, jobOfCommit]
    split
    · exact Or.inl rfl
    · exact Or.inl rfl
  | last =>
    dsimp only [lastJob, jobOfCommit]
    split
    · dsimp only
      split
      · exact Or.inr (Or.inr rfl)
      · exact Or.inr (Or.inl rfl)
    · exact Or.inl rfl

end Commits

end tiktok_outreach.creator_effects
