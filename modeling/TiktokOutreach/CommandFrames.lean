-- What the commands leave as it is. All but the claim of a partition and the
-- commit of a page write at most the status of a partition and the columns of
-- its requests, and all but the staging and the commit of a page write at most
-- the columns of the attempts of a receipt.
import TiktokOutreach.CommandEffects

open tables transactions tiktok_outreach.creator_schema tiktok_outreach.marketplace_partitions
  tiktok_outreach.creator_scheduler tiktok_outreach.adaptive_queue
  tiktok_outreach.partition_claims tiktok_outreach.creator_sync tiktok_outreach.creator_commands
  tiktok_outreach.queue_growth tiktok_outreach.creator_effects tiktok_outreach.command_effects

namespace tiktok_outreach.command_frames

/-! ## Partitions -/

/-- The partition without the columns that the steps around a page write. -/
def worked (p : CreatorSearchPartition) : CreatorSearchPartition :=
  { unbranched p with
    status := .QUEUED
    marketplaceRequests := 0
    business16032001RetryCount := 0
    business16032001RetryPage := none }

/-- A request of the partition is under way, or will be made again. -/
def going (status : PartitionStatus) : Bool :=
  status = .STARTING || status = .RUNNING || status = .WAITING_RETRY

/-- The partition that a command may set going. -/
def setsGoing : Command → Option Nat
  | .markRequested id _ => some id
  | .sheetsFailure _ _ targetId _ _ _ => some targetId
  | .businessRetry _ id _ => some id
  | .retryLater _ _ partitionId => partitionId
  | .resume job _ => job.currentPartitionId
  | _ => none

/-- New partitions are added, and old ones are only worked on. None but the target is set going. -/
structure RowsKept (target : Option Nat) (db db' : Db) : Prop where
  ids : FreshIds db → FreshIds db'
  old : FreshIds db → ∀ id p, db.partitions.get id = some p →
    ∃ q, db'.partitions.get id = some q ∧ worked q = worked p ∧
      (going q.status = true → going p.status = true ∨ target = some id)
  new : FreshIds db → ∀ id q, db'.partitions.get id = some q →
    (∃ p, db.partitions.get id = some p) ∨ Untouched q

section Rows

variable {target : Option Nat} {db db' db'' : Db}

theorem worked_of_unbranched {p q : CreatorSearchPartition} (h : unbranched q = unbranched p) :
    worked q = worked p := by
  unfold worked
  rw [h]

theorem rows_of_expanded (h : Expanded db db') : RowsKept target db db' where
  ids := h.ids
  old hids id p hp := by
    obtain ⟨q, hq, heq⟩ := h.old hids id p hp
    have hstatus : q.status = p.status := congrArg (·.status) heq
    refine ⟨q, hq, worked_of_unbranched heq, ?_⟩
    rw [hstatus]
    exact Or.inl
  new := h.new

/-- Only the two tables of a database with partitions matter. -/
theorem RowsKept.congr (h : RowsKept target db db') (hrows : db''.partitions = db'.partitions)
    (hnext : db''.nextPartitionId = db'.nextPartitionId) : RowsKept target db db'' where
  ids hids id p hp := by
    rw [hnext]
    exact h.ids hids id p (hrows ▸ hp)
  old hids id p hp := by
    rw [hrows]
    exact h.old hids id p hp
  new hids id q hq := h.new hids id q (hrows ▸ hq)

theorem RowsKept.behind (h : RowsKept target db' db'') (hrows : db'.partitions = db.partitions)
    (hnext : db'.nextPartitionId = db.nextPartitionId) : RowsKept target db db'' := by
  have hfresh : FreshIds db → FreshIds db' := by
    intro hids id p hp
    rw [hnext]
    exact hids id p (hrows ▸ hp)
  constructor
  · exact fun hids => h.ids (hfresh hids)
  · intro hids id p hp
    exact h.old (hfresh hids) id p (hrows.symm ▸ hp)
  · intro hids id q hq
    rw [← hrows]
    exact h.new (hfresh hids) id q hq

theorem rows_same (hrows : db'.partitions = db.partitions)
    (hnext : db'.nextPartitionId = db.nextPartitionId) : RowsKept target db db' :=
  (rows_of_expanded (Expanded.refl db)).congr hrows hnext

/-- A write to some partitions. -/
theorem rows_updateMany (c : Nat → CreatorSearchPartition → Bool)
    {f : CreatorSearchPartition → CreatorSearchPartition} (hf : ∀ p, worked (f p) = worked p)
    (hgoing : ∀ id p, c id p = true → going (f p).status = true →
      going p.status = true ∨ target = some id) :
    RowsKept target db { db with partitions := db.partitions.updateMany c f } where
  ids hids id p hp := by
    simp only [Table.get_updateMany, Option.map_eq_some_iff] at hp
    obtain ⟨q, hq, _⟩ := hp
    exact hids id q hq
  old _ id p hp := by
    refine ⟨if c id p then f p else p, by simp only [Table.get_updateMany, hp, Option.map_some], ?_⟩
    by_cases hc : c id p = true
    · rw [if_pos hc]
      exact ⟨hf p, hgoing id p hc⟩
    · rw [if_neg hc]
      exact ⟨rfl, Or.inl⟩
  new _ id q hq := by
    simp only [Table.get_updateMany, Option.map_eq_some_iff] at hq
    obtain ⟨p, hp, _⟩ := hq
    exact Or.inl ⟨p, hp⟩

theorem rows_setPartition (id : Nat) {f : CreatorSearchPartition → CreatorSearchPartition}
    (hf : ∀ p, worked (f p) = worked p)
    (hgoing : ∀ p, going (f p).status = true → going p.status = true ∨ target = some id) :
    RowsKept target db (setPartition db id f) := by
  refine rows_updateMany _ hf ?_
  intro id' p hid
  rw [of_decide_eq_true hid]
  exact hgoing p

theorem rows_setStatus (partitionId : Option Nat) (status : PartitionStatus)
    (hgoing : going status = true → target = partitionId) :
    RowsKept target db (setStatus db partitionId status) := by
  cases partitionId with
  | none => exact rows_same rfl rfl
  | some id => exact rows_setPartition id (fun _ => rfl) (fun _ h => Or.inr (hgoing h))

theorem untouched_seedPartition {env : Environment} {rootByKey : String → Option Nat}
    {catalog : List CatalogNode} {row : BasePartitionRow}
    (h : row ∈ v2BasePartitionRows catalog) : Untouched (seedPartition env rootByKey row) := by
  obtain ⟨pair, bucket, gmv, position, _, _, hgmv, rfl⟩ := mem_v2BasePartitionRows h
  have hspecific : ∀ gmv ∈ GMV_BUCKETS,
      isSpecificGmvPartition (some gmv.code) (some gmv.range) = true := by decide
  have hstatus : ∀ code : GmvBucketCode, (if code = .G4 then PartitionStatus.EXPERIMENT_ONLY
      else .QUEUED) = if some code = some GmvBucketCode.G4 then .EXPERIMENT_ONLY else .QUEUED := by
    intro code
    cases code <;> rfl
  exact ⟨hspecific gmv hgmv, hstatus gmv.code, rfl, rfl, rfl, rfl⟩

theorem expanded_missingSeeds (env : Environment) (catalog : List CatalogNode) (db : Db) :
    Expanded db (insertPartitions db (missingSeeds env catalog db)) := by
  apply expanded_insertPartitions
  intro p hp
  obtain ⟨row, hrow, rfl⟩ := List.mem_map.1 hp
  exact untouched_seedPartition (List.mem_filter.1 hrow).1

theorem rows_initializePartitions (env : Environment) (catalog : List CatalogNode) :
    RowsKept target db (insertPartitions (disabled db) (missingSeeds env catalog (disabled db))) := by
  have hdisabled : RowsKept target db (disabled db) :=
    rows_updateMany _ (fun _ => rfl) (fun _ _ _ h => absurd h (by simp [going]))
  have hadded : RowsKept target (disabled db)
      (insertPartitions (disabled db) (missingSeeds env catalog (disabled db))) :=
    rows_of_expanded (expanded_missingSeeds env catalog (disabled db))
  constructor
  · exact fun hids => hadded.ids (hdisabled.ids hids)
  · intro hids id p hp
    obtain ⟨q, hq, heq, hgoing⟩ := hdisabled.old hids id p hp
    obtain ⟨r, hr, heq', hgoing'⟩ := hadded.old (hdisabled.ids hids) id q hq
    refine ⟨r, hr, heq'.trans heq, fun hr => ?_⟩
    rcases hgoing' hr with hq | htarget
    · exact hgoing hq
    · exact Or.inr htarget
  · intro hids id r hr
    rcases hadded.new (hdisabled.ids hids) id r hr with ⟨q, hq⟩ | hnew
    · simp only [disabled, table.partitions, Table.get_updateMany, Option.map_eq_some_iff] at hq
      obtain ⟨p, hp, _⟩ := hq
      exact Or.inl ⟨p, hp⟩
    · exact Or.inr hnew

theorem rows_pausedPartitions (job : CreatorSyncJob) :
    RowsKept target db { db with partitions := pausedPartitions job db.partitions } := by
  unfold pausedPartitions
  split
  · exact rows_updateMany _ (fun _ => rfl) (fun _ _ _ h => absurd h (by simp [going]))
  · exact rows_same rfl rfl

theorem rows_resumedPartitions (job : CreatorSyncJob) (staged : Bool) :
    RowsKept job.currentPartitionId db
      { db with partitions := resumedPartitions db job staged } := by
  unfold resumedPartitions
  cases hid : job.currentPartitionId with
  | none => exact rows_same rfl rfl
  | some id =>
    dsimp only
    split_ifs
    · exact rows_updateMany _ (fun _ => rfl) (fun _ _ _ h => absurd h (by simp [going]))
    · exact rows_same rfl rfl
    · refine rows_updateMany _ ?_ ?_
      · intro p
        unfold resumedPartition
        split <;> rfl
      · intro id' p hc _
        simp only [Bool.and_eq_true, decide_eq_true_eq] at hc
        rw [hc.1.1]
        exact Or.inr rfl

theorem rows_of_effect {env : Environment} {config : Config} {ambient : Ambient} {c : Command}
    {a : c.Result} (hclaim : ∀ leaseId, c ≠ .claimPartition leaseId)
    (hcommit : ∀ leaseId pageId page partition, c ≠ .commitPage leaseId pageId page partition)
    (h : Effect env config ambient db c a db') : RowsKept (setsGoing c) db db' := by
  cases c with
  | claimPartition leaseId => exact absurd rfl (hclaim leaseId)
  | commitPage leaseId pageId page partition => exact absurd rfl (hcommit leaseId pageId page partition)
  | prepareAdaptiveQueue => exact rows_of_expanded (expandReadyBranches_expands h)
  | claimLease leaseId =>
    simp only [Effect] at h
    split at h
    · obtain ⟨_, rfl⟩ := h
      exact rows_same rfl rfl
    · obtain ⟨_, rfl⟩ := h
      exact rows_same rfl rfl
  | recordSheetImport leaseId =>
    cases h
    refine rows_same (partitions_setJobUnder _ _ _) ?_
    unfold setJobUnder
    split <;> rfl
  | pauseClaimed leaseId partitionId =>
    cases h
    refine (rows_setStatus partitionId .PAUSED (fun h => by cases h)).behind
      (partitions_setJobUnder _ _ _) ?_
    unfold setJobUnder
    split <;> rfl
  | markRequested id status =>
    cases h
    exact rows_setPartition id (fun _ => rfl) (fun _ _ => Or.inr rfl)
  | countRequest id =>
    cases h
    exact rows_setPartition id (fun _ => rfl) (fun _ h => Or.inl h)
  | resetBusinessRetries id =>
    cases h
    exact rows_setPartition id (fun _ => rfl) (fun _ h => Or.inl h)
  | stagePage page child =>
    obtain ⟨_, categories, rfl⟩ := h
    unfold withReceipt
    dsimp only
    split
    · exact rows_same rfl rfl
    · exact rows_same rfl rfl
  | sheetsFailure pageId page targetId target paused retryable =>
    obtain ⟨next, rfl⟩ := h
    refine RowsKept.behind (rows_setPartition targetId ?_ ?_) rfl rfl
    · exact fun _ => rfl
    · exact fun _ _ => Or.inr rfl
  | businessRetry paused id partition =>
    cases h
    refine RowsKept.behind (rows_setPartition id ?_ ?_) rfl rfl
    · exact fun _ => rfl
    · exact fun _ _ => Or.inr rfl
  | retryLater job error partitionId =>
    cases h
    exact (rows_setStatus partitionId _ (fun _ => rfl)).behind rfl rfl
  | failJob stage partitionId =>
    cases h
    exact (rows_setStatus partitionId .ERROR (fun h => by cases h)).behind rfl rfl
  | pause job =>
    cases h
    exact (rows_pausedPartitions job).congr rfl rfl
  | resume job staged =>
    cases h
    exact (rows_resumedPartitions job staged).congr rfl rfl
  | initializePartitions catalog =>
    cases h
    exact (rows_initializePartitions env catalog).congr rfl rfl
  | refreshCategories categories =>
    obtain ⟨t, rfl⟩ := h
    exact rows_same rfl rfl
  | recordActivity leaseId stage =>
    obtain ⟨_, rfl⟩ := h
    exact rows_same rfl rfl
  | recordSheetAttempt leaseId id attempt stage =>
    obtain ⟨_, rfl⟩ := h
    exact rows_same rfl rfl
  | persistBatch origin batch =>
    obtain ⟨_, rfl⟩ := h
    exact rows_same rfl rfl
  | jobUnderLease leaseId =>
    obtain ⟨_, _, rfl⟩ := h
    exact rows_same rfl rfl
  | receivedPage id =>
    obtain ⟨_, _, rfl⟩ := h
    exact rows_same rfl rfl
  | findCandidate | markPersisted | updateMarketplaceRetryDelay =>
    cases h
    exact rows_same rfl rfl
  | _ =>
    obtain ⟨_, rfl⟩ := h
    exact rows_same rfl rfl

end Rows

/-! ## The job -/

section Jobs

variable {env : Environment} {config : Config} {ambient : Ambient} {db db' : Db} {c : Command}

/-- Only claims and commits set the current partition, and only claims count. -/
theorem job_of_effect {a : c.Result} (hclaim : ∀ leaseId, c ≠ .claimPartition leaseId)
    (hcommit : ∀ leaseId pageId page partition, c ≠ .commitPage leaseId pageId page partition)
    (h : Effect env config ambient db c a db') :
    db'.job.partitionClaimSequence = db.job.partitionClaimSequence ∧
      (db'.job.currentPartitionId = db.job.currentPartitionId ∨
        db'.job.currentPartitionId = none) := by
  cases c with
  | claimPartition leaseId => exact absurd rfl (hclaim leaseId)
  | commitPage leaseId pageId page partition => exact absurd rfl (hcommit leaseId pageId page partition)
  | claimLease leaseId =>
    simp only [Effect] at h
    split at h
    · obtain ⟨_, rfl⟩ := h
      exact ⟨rfl, Or.inl rfl⟩
    · obtain ⟨_, rfl⟩ := h
      exact ⟨rfl, Or.inl rfl⟩
  | recordSheetImport leaseId =>
    cases h
    rcases job_setJobUnder db leaseId (fun job => { job with sheetImportedAt := some ambient.now })
      with hjob | ⟨_, hjob⟩ <;> rw [hjob] <;> exact ⟨rfl, Or.inl rfl⟩
  | pauseClaimed leaseId partitionId =>
    cases h
    rw [job_setStatus]
    rcases job_setJobUnder db leaseId stoppedJob with hjob | ⟨_, hjob⟩ <;> rw [hjob] <;>
      exact ⟨rfl, Or.inl rfl⟩
  | prepareAdaptiveQueue =>
    rw [(expandReadyBranches_expands h).job]
    exact ⟨rfl, Or.inl rfl⟩
  | stagePage page child =>
    obtain ⟨_, categories, rfl⟩ := h
    unfold withReceipt
    dsimp only
    split <;> exact ⟨rfl, Or.inl rfl⟩
  | sheetsFailure pageId page targetId target paused retryable =>
    obtain ⟨next, rfl⟩ := h
    exact ⟨rfl, Or.inl rfl⟩
  | retryLater | failJob =>
    cases h
    rw [job_setStatus]
    exact ⟨rfl, Or.inl rfl⟩
  | pause job =>
    cases h
    dsimp only
    unfold pausedJob
    split <;> exact ⟨rfl, Or.inl rfl⟩
  | resume job staged =>
    cases h
    refine ⟨rfl, ?_⟩
    unfold resumedJob
    dsimp only
    split
    · exact Or.inr rfl
    · exact Or.inl rfl
  | refreshCategories categories =>
    obtain ⟨t, rfl⟩ := h
    exact ⟨rfl, Or.inl rfl⟩
  | initializePartitions catalog =>
    cases h
    unfold setJob initializedJob
    dsimp only
    rw [(expanded_missingSeeds env catalog (disabled db)).job]
    exact ⟨rfl, Or.inl rfl⟩
  | jobUnderLease leaseId =>
    obtain ⟨_, _, rfl⟩ := h
    exact ⟨rfl, Or.inl rfl⟩
  | receivedPage id =>
    obtain ⟨_, _, rfl⟩ := h
    exact ⟨rfl, Or.inl rfl⟩
  | findCandidate | markRequested | countRequest | resetBusinessRetries | markPersisted
  | businessRetry | updateMarketplaceRetryDelay =>
    cases h
    exact ⟨rfl, Or.inl rfl⟩
  | _ =>
    obtain ⟨_, rfl⟩ := h
    exact ⟨rfl, Or.inl rfl⟩

end Jobs

/-! ## Receipts -/

/-- The receipt without the columns of its attempts. -/
def sealedPage (page : CreatorSyncPage) : CreatorSyncPage :=
  { page with
    databasePersistedAt := none
    sheetsAttemptCount := 0
    nextSheetsAttemptAt := none }

/-- The receipts change in the columns of their attempts at most. -/
structure PagesKept (db db' : Db) : Prop where
  same : ∀ id, (db'.pages.get id).map sealedPage = (db.pages.get id).map sealedPage
  next : db'.nextPageId = db.nextPageId

section Pages

variable {db db' db'' : Db}

theorem pages_same (hpages : db'.pages = db.pages) (hnext : db'.nextPageId = db.nextPageId) :
    PagesKept db db' :=
  ⟨fun _ => by rw [hpages], hnext⟩

theorem pages_updateMany (c : Nat → CreatorSyncPage → Bool) {f : CreatorSyncPage → CreatorSyncPage}
    (hf : ∀ page, sealedPage (f page) = sealedPage page) :
    PagesKept db { db with pages := db.pages.updateMany c f } := by
  refine ⟨fun id => ?_, rfl⟩
  rw [Table.map_get_updateMany]
  congr 1
  funext page
  rw [hf, ite_self]

theorem pages_setPage (id : Nat) {f : CreatorSyncPage → CreatorSyncPage}
    (hf : ∀ page, sealedPage (f page) = sealedPage page) : PagesKept db (setPage db id f) :=
  pages_updateMany _ hf

/-- Only the table of a database with receipts matters. -/
theorem PagesKept.congr (h : PagesKept db db') (hpages : db''.pages = db'.pages)
    (hnext : db''.nextPageId = db'.nextPageId) : PagesKept db db'' :=
  ⟨fun id => by rw [hpages, h.same], by rw [hnext, h.next]⟩

theorem PagesKept.setJob (h : PagesKept db db') (f : CreatorSyncJob → CreatorSyncJob) :
    PagesKept db (setJob db' f) :=
  h.congr rfl rfl

theorem PagesKept.setPartition (h : PagesKept db db') (id : Nat)
    (f : CreatorSearchPartition → CreatorSearchPartition) : PagesKept db (setPartition db' id f) :=
  h.congr rfl rfl

theorem pages_of_effect {env : Environment} {config : Config} {ambient : Ambient} {c : Command}
    {a : c.Result} (hstage : ∀ page child, c ≠ .stagePage page child)
    (hcommit : ∀ leaseId pageId page partition, c ≠ .commitPage leaseId pageId page partition)
    (h : Effect env config ambient db c a db') : PagesKept db db' := by
  cases c with
  | stagePage page child => exact absurd rfl (hstage page child)
  | commitPage leaseId pageId page partition => exact absurd rfl (hcommit leaseId pageId page partition)
  | claimPartition leaseId =>
    cases h with
    | current db1 hexpand =>
      have hexpanded := expandReadyBranches_expands hexpand
      exact pages_same hexpanded.pages hexpanded.nextPageId
    | exhausted db1 hexpand =>
      have hexpanded := expandReadyBranches_expands hexpand
      exact pages_same hexpanded.pages hexpanded.nextPageId
    | started db1 hexpand =>
      have hexpanded := expandReadyBranches_expands hexpand
      exact pages_same hexpanded.pages hexpanded.nextPageId
  | prepareAdaptiveQueue =>
    have hexpanded := expandReadyBranches_expands h
    exact pages_same hexpanded.pages hexpanded.nextPageId
  | claimLease leaseId =>
    simp only [Effect] at h
    split at h
    · obtain ⟨_, rfl⟩ := h
      exact pages_same rfl rfl
    · obtain ⟨_, rfl⟩ := h
      exact pages_same rfl rfl
  | recordSheetImport leaseId =>
    cases h
    refine pages_same (pages_setJobUnder _ _ _) ?_
    unfold setJobUnder
    split <;> rfl
  | pauseClaimed leaseId partitionId =>
    cases h
    refine pages_same (by rw [pages_setStatus, pages_setJobUnder]) ?_
    unfold setJobUnder
    cases partitionId <;> split <;> rfl
  | markRequested | countRequest | resetBusinessRetries | businessRetry =>
    cases h
    exact pages_same rfl rfl
  | sheetsFailure pageId page targetId target paused retryable =>
    obtain ⟨next, rfl⟩ := h
    refine PagesKept.setPartition (PagesKept.setJob (pages_setPage pageId ?_) _) _ _
    exact fun _ => rfl
  | retryLater job error partitionId =>
    cases h
    refine pages_same (pages_setStatus _ _ _) ?_
    cases partitionId <;> rfl
  | failJob stage partitionId =>
    cases h
    refine pages_same (pages_setStatus _ _ _) ?_
    cases partitionId <;> rfl
  | pause job =>
    cases h
    refine PagesKept.congr (pages_updateMany (fun _ page => page.state = .RECEIVED) ?_) rfl rfl
    exact fun _ => rfl
  | resume job staged =>
    cases h
    exact pages_same rfl rfl
  | initializePartitions catalog =>
    cases h
    have hseeds := expanded_missingSeeds env catalog (disabled db)
    exact pages_same hseeds.pages hseeds.nextPageId
  | refreshCategories categories =>
    obtain ⟨t, rfl⟩ := h
    exact pages_same rfl rfl
  | markPersisted id =>
    cases h
    exact pages_setPage id (fun _ => rfl)
  | recordActivity leaseId stage =>
    obtain ⟨_, rfl⟩ := h
    exact pages_same rfl rfl
  | recordSheetAttempt leaseId id attempt stage =>
    obtain ⟨_, rfl⟩ := h
    refine PagesKept.setJob (pages_setPage id ?_) _
    exact fun _ => rfl
  | persistBatch origin batch =>
    obtain ⟨_, rfl⟩ := h
    exact pages_same rfl rfl
  | jobUnderLease leaseId =>
    obtain ⟨_, _, rfl⟩ := h
    exact pages_same rfl rfl
  | receivedPage id =>
    obtain ⟨_, _, rfl⟩ := h
    exact pages_same rfl rfl
  | findCandidate | updateMarketplaceRetryDelay =>
    cases h
    exact pages_same rfl rfl
  | _ =>
    obtain ⟨_, rfl⟩ := h
    exact pages_same rfl rfl

end Pages

end tiktok_outreach.command_frames
