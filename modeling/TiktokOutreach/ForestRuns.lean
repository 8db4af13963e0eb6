-- What a command of the crawler does to the forest of partitions, and with it
-- a run of commands in any order: it plants the seeds of a catalog, or it
-- divides, or it leaves the forest as it is.
import TiktokOutreach.QueueGrowth
import TiktokOutreach.CreatorCommands

open tables transactions runs separated divisions tiktok_outreach.creator_schema
  tiktok_outreach.marketplace_partitions tiktok_outreach.creator_scheduler
  tiktok_outreach.adaptive_queue tiktok_outreach.partition_claims tiktok_outreach.creator_sync
  tiktok_outreach.creator_commands tiktok_outreach.partition_forest tiktok_outreach.queue_growth
  Relation

namespace tiktok_outreach.forest_runs

/-! ## The transactions that keep the forest -/

/-- A partition with what was decided about its branch. -/
def mark (p : CreatorSearchPartition) : Node × Bool × Option String × Bool :=
  (node p, p.followerRecursionTerminal, p.followerRecursionStopReason, p.gmvSplitCreated)

/-- The forest with these marks. -/
def marks (db : Db) : (Nat → Option (Node × Bool × Option String × Bool)) × Nat :=
  (fun i => (db.partitions.get i).map mark, db.nextPartitionId)

theorem forest_of_marks {db db' : Db} (h : marks db' = marks db) : forest db' = forest db := by
  have hnext : db'.nextPartitionId = db.nextPartitionId := congrArg Prod.snd h
  unfold forest
  rw [hnext]
  congr 1
  funext i
  have hrow := congrArg (Option.map Prod.fst) (congrFun (congrArg Prod.fst h) i)
  simpa [marks, Option.map_map, Function.comp_def, mark] using hrow

theorem marks_updateMany (db : Db) (c : Nat → CreatorSearchPartition → Bool)
    {f : CreatorSearchPartition → CreatorSearchPartition} (hf : ∀ p, mark (f p) = mark p) :
    marks (table.partitions.put db (db.partitions.updateMany c f)) = marks db := by
  unfold marks
  congr 1
  funext i
  simp only [table.partitions, Table.get_updateMany, Option.map_map]
  congr 1
  funext p
  simp only [Function.comp]
  split
  · exact hf p
  · rfl

section Keeps

theorem keeps_markUpdate (i : Nat) {f : CreatorSearchPartition → CreatorSearchPartition}
    (hf : ∀ p, mark (f p) = mark p) :
    (Tx.update table.partitions .notFound i f : Transaction Unit).Keeps marks := by
  rw [Tx.keeps_update]
  intro db
  exact marks_updateMany db _ hf

theorem keeps_updateJobWhere (p : CreatorSyncJob → Bool) (f : CreatorSyncJob → CreatorSyncJob) :
    (updateJobWhere p f).Keeps marks := by
  refine ⟨fun db => ?_, fun _ => trivial⟩
  dsimp only
  split
  · rfl
  · rfl

theorem keeps_updateJob (f : CreatorSyncJob → CreatorSyncJob) : (updateJob f).Keeps marks :=
  ⟨fun _ => rfl, fun _ => trivial⟩

theorem keeps_updatePartitions (p : Db → Nat → CreatorSearchPartition → Bool)
    {f : CreatorSearchPartition → CreatorSearchPartition} (hf : ∀ q, mark (f q) = mark q) :
    (Tx.updateMany table.partitions p f : Transaction Nat).Keeps marks := by
  rw [Tx.keeps_updateMany]
  intro db
  exact marks_updateMany db _ hf

theorem keeps_updatePages (p : Db → Nat → CreatorSyncPage → Bool)
    (f : CreatorSyncPage → CreatorSyncPage) :
    (Tx.updateMany table.pages p f : Transaction Nat).Keeps marks := by
  rw [Tx.keeps_updateMany]
  intro db
  rfl

theorem keeps_updatePage (id : Nat) (f : CreatorSyncPage → CreatorSyncPage) :
    (Tx.update table.pages .notFound id f : Transaction Unit).Keeps marks := by
  rw [Tx.keeps_update]
  intro db
  rfl

theorem keeps_updateCategories (p : Db → String → MarketplaceCategory → Bool)
    (f : MarketplaceCategory → MarketplaceCategory) :
    (Tx.updateMany table.categories p f : Transaction Nat).Keeps marks := by
  rw [Tx.keeps_updateMany]
  intro db
  rfl

theorem keeps_updatePartition (partitionId : Option Nat) (status : PartitionStatus) :
    (updatePartition partitionId status).Keeps marks := by
  cases partitionId with
  | none => trivial
  | some id => exact keeps_markUpdate id (fun _ => rfl)

theorem keeps_jobUnderLease (leaseId : Nat) : (jobUnderLease leaseId).Keeps marks :=
  Tx.keeps_readOrThrow _ _ _

theorem keeps_leaveJob (state : SyncState) (stage : Stage) (next : Option Int) :
    (leaveJob state stage next).Keeps marks := keeps_updateJob _

theorem keeps_startPartition (env : Environment) (leaseId sequence : Nat) (now : Int)
    (selection : Selection) (next : Row) :
    (startPartition env leaseId sequence now selection next).Keeps marks := by
  unfold startPartition
  refine Tx.keeps_bind (keeps_updatePartitions _ (fun _ => rfl)) (fun claimed => ?_)
  split
  · trivial
  · refine Tx.keeps_bind (keeps_updateJobWhere _ _)
      (fun _ => ?_)
    dsimp only
    split
    · refine Tx.keeps_bind ?_ (fun _ => Tx.keeps_pure _)
      unfold recordExploration
      split
      · exact Tx.keeps_bind (keeps_updateCategories _ _) (fun _ => trivial)
      · trivial
    · exact Tx.keeps_pure _

theorem keeps_claimNext (env : Environment) (config : Config) (leaseId sequence : Nat) (now : Int) :
    (claimNext env config leaseId sequence now).Keeps marks := by
  unfold claimNext
  refine Tx.keeps_bind (Tx.keeps_read _ _) (fun selection => ?_)
  cases selection with
  | error message => trivial
  | ok selection =>
    dsimp only
    cases selection.selected with
    | none => exact Tx.keeps_bind (keeps_updateJobWhere _ _) (fun _ => trivial)
    | some selected => exact keeps_startPartition _ _ _ _ _ _

theorem keeps_commitMore (config : Config) (leaseId : Nat) (page : CreatorSyncPage)
    (partition : CreatorSearchPartition) (pause disabled : Bool) (now : Int) :
    (commitMore config leaseId page partition pause disabled now).Keeps marks := by
  unfold commitMore
  exact Tx.keeps_bind (keeps_markUpdate _ (fun _ => rfl))
    (fun _ => Tx.keeps_bind (keeps_updateJobWhere _ _) (fun _ => trivial))

theorem keeps_resumePartition (job : CreatorSyncJob) (id : Nat) (release : Bool)
    (current : Option CreatorSearchPartition) :
    (resumePartition job id release current).Keeps marks := by
  unfold resumePartition
  split
  · split
    · exact Tx.keeps_bind (keeps_updatePartitions _ (fun _ => rfl)) (fun _ => trivial)
    · trivial
  · refine Tx.keeps_bind (keeps_updatePartitions _ (fun p => ?_)) (fun _ => trivial)
    split
    · rfl
    · rfl

/-- The commands that contain an expansion of the branches, or the insert of seeds. -/
def touchesForest : Command → Bool
  | .claimPartition _ | .commitPage _ _ _ _ | .initializePartitions _ | .prepareAdaptiveQueue => true
  | _ => false

theorem keeps_marks (env : Environment) (config : Config) (ambient : Ambient) {c : Command}
    (hc : touchesForest c = false) : (c.body env config ambient).Keeps marks := by
  cases c with
  | claimPartition _ => cases hc
  | commitPage _ _ _ _ => cases hc
  | initializePartitions _ => cases hc
  | prepareAdaptiveQueue => cases hc
  | findCandidate => exact Tx.keeps_read _ _
  | claimLease leaseId =>
    change (creator_sync.claimLease leaseId ambient.now LEASE_MS).Keeps marks
    exact keeps_updateJobWhere _ _
  | jobUnderLease leaseId => exact keeps_jobUnderLease leaseId
  | pendingPage => exact Tx.keeps_read _ _
  | recordSheetImport leaseId =>
    change (creator_sync.recordSheetImport leaseId ambient.now).Keeps marks
    exact keeps_updateJobWhere _ _
  | pauseClaimed leaseId partitionId =>
    refine Tx.keeps_bind (keeps_updateJobWhere _ _) (fun _ => ?_)
    cases partitionId with
    | none => trivial
    | some id => exact keeps_markUpdate id (fun _ => rfl)
  | findPartition id => exact Tx.keeps_readOrThrow _ _ _
  | findCategories => exact Tx.keeps_read _ _
  | recordActivity leaseId stage =>
    refine Tx.keeps_bind (keeps_updateJobWhere _ _) (fun _ => ?_)
    split <;> trivial
  | markRequested id status => exact keeps_updatePartitions _ (fun _ => rfl)
  | countRequest id => exact keeps_markUpdate id (fun _ => rfl)
  | resetBusinessRetries id => exact keeps_updatePartitions _ (fun _ => rfl)
  | existingOpenIds ids => exact Tx.keeps_read _ _
  | stagePage page child =>
    refine Tx.keeps_bind ⟨fun db => ?_, fun _ => trivial⟩ (fun receipt => ?_)
    · dsimp only
      split <;> rfl
    · cases child with
      | none => trivial
      | some child =>
        exact Tx.keeps_bind (keeps_updateCategories _ _)
          (fun _ => Tx.keeps_bind (keeps_updateCategories _ _) (fun _ => trivial))
  | persistBatch origin batch =>
    refine Tx.keeps_bind (Tx.keeps_traverse (fun candidate _ => ?_)) (fun _ => trivial)
    unfold ensureMarketplaceCreator
    split
    · trivial
    · rw [Tx.keeps_upsert]
      intro db
      rfl
  | receivedPage id => exact Tx.keeps_readOrThrow _ _ _
  | markPersisted id => exact keeps_updatePage id _
  | recordSheetAttempt leaseId id attempt stage =>
    refine Tx.keeps_bind (keeps_updatePage id _) (fun _ =>
      Tx.keeps_bind (keeps_updateJobWhere _ _) (fun _ => ?_))
    split <;> trivial
  | findJob leaseId => exact Tx.keeps_read _ _
  | findCurrent id => exact Tx.keeps_read _ _
  | anyStaged => exact Tx.keeps_read _ _
  | stagedPage => exact Tx.keeps_read _ _
  | sheetsFailure pageId page targetId target paused retryable =>
    exact Tx.keeps_bind (keeps_updatePage pageId _) (fun _ =>
      Tx.keeps_bind (keeps_leaveJob _ _ _) (fun _ => keeps_markUpdate targetId (fun _ => rfl)))
  | businessRetry paused id partition =>
    exact Tx.keeps_bind (keeps_leaveJob _ _ _)
      (fun _ => keeps_markUpdate id (fun _ => rfl))
  | retryLater job error partitionId =>
    exact Tx.keeps_bind (keeps_leaveJob _ _ _) (fun _ => keeps_updatePartition _ _)
  | failJob stage partitionId =>
    exact Tx.keeps_bind (keeps_updateJob _) (fun _ => keeps_updatePartition _ _)
  | readJob => exact Tx.keeps_read _ _
  | pause job =>
    refine Tx.keeps_bind (keeps_updateJob _) (fun _ =>
      Tx.keeps_bind (keeps_updatePages _ _) (fun _ => ?_))
    split
    · exact Tx.keeps_bind (keeps_updatePartitions _ (fun _ => rfl)) (fun _ => trivial)
    · trivial
  | countEligible => exact Tx.keeps_read _ _
  | resume job staged =>
    refine Tx.keeps_bind (Tx.keeps_read _ _) (fun current => ?_)
    dsimp only
    cases job.currentPartitionId with
    | none => exact keeps_updateJob _
    | some id =>
      exact Tx.keeps_bind (keeps_resumePartition _ _ _ _) (fun _ => keeps_updateJob _)
  | updateMarketplaceRetryDelay seconds =>
    change (creator_sync.updateMarketplaceRetryDelay seconds).Keeps marks
    exact keeps_updateJob _
  | refreshCategories categories =>
    refine Tx.keeps_bind (keeps_updateCategories _ _) (fun _ =>
      Tx.keeps_bind (Tx.keeps_traverse (fun category _ => ?_)) (fun _ => trivial))
    unfold upsertCategory
    rw [Tx.keeps_upsert]
    intro db
    rfl

end Keeps

/-! ## The transactions that divide -/

/-- The transaction divides nodes of the forest, and does nothing else to it. -/
def Dividing {α : Type} (rules : FollowerWidthRules) (t : Transaction α) : Prop :=
  ∀ db r db', Tiled rules (forest db) → t.run db = .ok (r, db') →
    ReflTransGen (Divides rules) (forest db) (forest db')

section Dividing

variable {α β : Type} {rules : FollowerWidthRules} {config : Config}

theorem dividing_of_keeps {t : Transaction α} (h : t.Keeps marks) : Dividing rules t := by
  intro db r db' _ hrun
  rw [forest_of_marks (Tx.run_of_keeps h hrun)]

theorem dividing_bind {t : Transaction α} {f : α → Transaction β} (ht : Dividing rules t)
    (hf : ∀ a, Dividing rules (f a)) : Dividing rules (t >>= f) := by
  intro db r db' htiled hrun
  rw [Tx.run_bind, Tx.bind_eq_ok] at hrun
  obtain ⟨⟨a, db1⟩, h1, h2⟩ := hrun
  have hfirst := ht db a db1 htiled h1
  exact hfirst.trans (hf a db1 r db' (tiled_growth htiled (growth_of_divisions hfirst)) h2)

theorem dividing_lock {key : LockKey} {t : Transaction α} :
    Dividing rules (Tx.lock key t) ↔ Dividing rules t := Iff.rfl

theorem dividing_expandReadyBranches :
    Dividing config.followerWidthRules (expandReadyBranches config) :=
  fun _ _ _ htiled hrun => expandReadyBranches_divides htiled hrun

theorem dividing_claimPartition (env : Environment) (leaseId : Nat) (now : Int) :
    Dividing config.followerWidthRules (claimPartition env config leaseId now) := by
  unfold claimPartition
  rw [dividing_lock]
  refine dividing_bind dividing_expandReadyBranches (fun _ => dividing_of_keeps ?_)
  refine Tx.keeps_bind (keeps_jobUnderLease leaseId) (fun lockedJob => ?_)
  cases lockedJob.currentPartitionId with
  | none => exact keeps_claimNext _ _ _ _ _
  | some id =>
    refine Tx.keeps_bind (Tx.keeps_read _ _) (fun current => ?_)
    cases current.filter resumes with
    | some current => trivial
    | none =>
      exact Tx.keeps_bind (keeps_updateJobWhere _ _) (fun _ => keeps_claimNext _ _ _ _ _)

theorem dividing_commitLast (leaseId : Nat) (page : CreatorSyncPage)
    (partition : CreatorSearchPartition) (pause disabled : Bool) (now : Int) :
    Dividing config.followerWidthRules
      (commitLast config leaseId page partition pause disabled now) := by
  have hjob : ∀ f : Nat → CreatorSyncJob → CreatorSyncJob, Dividing config.followerWidthRules (Tx.read queuedPartitions >>= fun queued =>
      commitJob leaseId page.creatorSearchPartitionId (f queued) >>= fun _ => pure ()) := by
    intro f
    refine dividing_of_keeps (Tx.keeps_bind (Tx.keeps_read _ _) (fun _ => ?_))
    exact Tx.keeps_bind (keeps_updateJobWhere _ _) (fun _ => Tx.keeps_pure _)
  unfold commitLast
  refine dividing_bind (dividing_of_keeps (keeps_markUpdate _ (fun _ => rfl))) (fun _ => ?_)
  dsimp only
  split
  · exact hjob _
  · exact dividing_bind dividing_expandReadyBranches (fun _ => hjob _)

theorem dividing_commitPage (leaseId pageId : Nat) (page : CreatorSyncPage)
    (partition : CreatorSearchPartition) (now : Int) :
    Dividing config.followerWidthRules
      (commitPage config leaseId pageId page partition now) := by
  unfold commitPage
  refine dividing_bind (dividing_of_keeps (keeps_jobUnderLease leaseId)) (fun latestJob => ?_)
  refine dividing_bind (dividing_of_keeps (keeps_updatePage pageId _)) (fun _ => ?_)
  split
  · exact dividing_of_keeps (keeps_commitMore _ _ _ _ _ _ _)
  · exact dividing_commitLast _ _ _ _ _ _

end Dividing

/-! ## Runs of commands -/

section Runs

variable (env : Environment) (config : Config)

/-- A command that commits, with what it takes from outside. -/
def CommandStep (db : Db) (l : Command × Ambient) (db' : Db) : Prop :=
  ∃ r, (l.1.body env config l.2).run db = .ok (r, db')

/-- The category ids that partitions are planted for are decimal strings. -/
def DecimalCatalog (c : Command) : Prop :=
  ∀ catalog, c = .initializePartitions catalog → ∀ node ∈ catalog, Decimal node.categoryId

abbrev CommandRun := Run (Guarded (CommandStep env config) (fun _ l => DecimalCatalog l.1))

variable {env config} {db db' : Db} {c : Command} {ambient : Ambient}

/-- A command other than `initializePartitions` only divides. -/
theorem command_divides (hc : ∀ catalog, c ≠ .initializePartitions catalog)
    (h : Tiled config.followerWidthRules (forest db))
    (hstep : CommandStep env config db (c, ambient) db') :
    ReflTransGen (Divides config.followerWidthRules) (forest db) (forest db') := by
  obtain ⟨r, hrun⟩ := hstep
  by_cases htouches : touchesForest c = false
  · rw [forest_of_marks (Tx.run_of_keeps (keeps_marks env config ambient htouches) hrun)]
  · cases c with
    | claimPartition leaseId => exact dividing_claimPartition env leaseId ambient.now db r db' h hrun
    | commitPage leaseId pageId page partition =>
      exact dividing_commitPage leaseId pageId page partition ambient.now db r db' h hrun
    | prepareAdaptiveQueue => exact prepareAdaptiveQueue_divides h hrun
    | initializePartitions catalog => exact absurd rfl (hc catalog)
    | _ => exact absurd rfl htouches

theorem command_grows (hdecimal : DecimalCatalog c)
    (h : Tiled config.followerWidthRules (forest db))
    (hstep : CommandStep env config db (c, ambient) db') :
    ReflTransGen (Grows config.followerWidthRules) (forest db) (forest db') := by
  by_cases hc : ∃ catalog, c = .initializePartitions catalog
  · obtain ⟨catalog, rfl⟩ := hc
    obtain ⟨r, hrun⟩ := hstep
    exact initializePartitions_grows h (hdecimal catalog rfl) hrun
  · push Not at hc
    exact growth_of_divisions (command_divides hc h hstep)

theorem command_full (hdecimal : DecimalCatalog c)
    (h : Tiled config.followerWidthRules (forest db)) (hfull : Full (forest db))
    (hstep : CommandStep env config db (c, ambient) db') : Full (forest db') := by
  by_cases hc : ∃ catalog, c = .initializePartitions catalog
  · obtain ⟨catalog, rfl⟩ := hc
    obtain ⟨r, hrun⟩ := hstep
    exact initializePartitions_full h hfull (hdecimal catalog rfl) hrun
  · push Not at hc
    exact full_divisions h hfull (command_divides hc h hstep)

/-- The forest of every run of commands has grown from nothing. -/
theorem run_grown {ls : List (Command × Ambient)}
    (hrun : CommandRun env config Db.initial ls db) :
    Tiled config.followerWidthRules (forest db) ∧ Full (forest db) := by
  refine hrun.invariant
    (fun s => Tiled config.followerWidthRules (forest s) ∧ Full (forest s)) ?_ ?_
  · rintro s ⟨c, ambient⟩ t _ ⟨hstep, hdecimal⟩ ⟨htiled, hfull⟩
    exact ⟨tiled_growth htiled (command_grows hdecimal htiled hstep),
      command_full hdecimal htiled hfull hstep⟩
  · rw [forest_initial]
    exact ⟨tiled_empty, fun i n hn => by cases hn⟩

end Runs

end tiktok_outreach.forest_runs
