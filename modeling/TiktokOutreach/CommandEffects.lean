-- What every command of the crawler reads and writes, said once: what it
-- returns was in the database before, and the database after it is given.
import TiktokOutreach.CreatorEffects

open tables transactions tiktok_outreach.creator_schema tiktok_outreach.marketplace_partitions
  tiktok_outreach.creator_scheduler tiktok_outreach.adaptive_queue
  tiktok_outreach.partition_claims tiktok_outreach.creator_sync tiktok_outreach.creator_commands
  tiktok_outreach.queue_growth tiktok_outreach.creator_effects

namespace tiktok_outreach.command_effects

/-! ## Writes -/

section Effects

def setJob (db : Db) (f : CreatorSyncJob → CreatorSyncJob) : Db := { db with job := f db.job }

/-- The job is written when the lease holds. -/
def setJobUnder (db : Db) (leaseId : Nat) (f : CreatorSyncJob → CreatorSyncJob) : Db :=
  if db.job.leaseId = some leaseId then setJob db f else db

def setPartition (db : Db) (id : Nat) (f : CreatorSearchPartition → CreatorSearchPartition) : Db :=
  { db with partitions := db.partitions.updateMany (fun k _ => k = id) f }

def setPage (db : Db) (id : Nat) (f : CreatorSyncPage → CreatorSyncPage) : Db :=
  { db with pages := db.pages.updateMany (fun k _ => k = id) f }

/-- The status of the partition of an error is written, when there is one. -/
def setStatus (db : Db) (partitionId : Option Nat) (status : PartitionStatus) : Db :=
  match partitionId with
  | some id => setPartition db id (fun p => { p with status })
  | none => db

@[simp] theorem job_setStatus (db : Db) (partitionId : Option Nat) (status : PartitionStatus) :
    (setStatus db partitionId status).job = db.job := by
  cases partitionId <;> rfl

@[simp] theorem pages_setStatus (db : Db) (partitionId : Option Nat) (status : PartitionStatus) :
    (setStatus db partitionId status).pages = db.pages := by
  cases partitionId <;> rfl

@[simp] theorem creators_setStatus (db : Db) (partitionId : Option Nat) (status : PartitionStatus) :
    (setStatus db partitionId status).creators = db.creators := by
  cases partitionId <;> rfl

@[simp] theorem partitions_setJobUnder (db : Db) (leaseId : Nat)
    (f : CreatorSyncJob → CreatorSyncJob) : (setJobUnder db leaseId f).partitions = db.partitions := by
  unfold setJobUnder
  split <;> rfl

@[simp] theorem pages_setJobUnder (db : Db) (leaseId : Nat)
    (f : CreatorSyncJob → CreatorSyncJob) : (setJobUnder db leaseId f).pages = db.pages := by
  unfold setJobUnder
  split <;> rfl

@[simp] theorem creators_setJobUnder (db : Db) (leaseId : Nat)
    (f : CreatorSyncJob → CreatorSyncJob) : (setJobUnder db leaseId f).creators = db.creators := by
  unfold setJobUnder
  split <;> rfl

/-- The job is left as it is, or written. -/
theorem job_setJobUnder (db : Db) (leaseId : Nat) (f : CreatorSyncJob → CreatorSyncJob) :
    (setJobUnder db leaseId f).job = db.job ∨
      db.job.leaseId = some leaseId ∧ (setJobUnder db leaseId f).job = f db.job := by
  unfold setJobUnder
  by_cases h : db.job.leaseId = some leaseId
  · rw [if_pos h]
    exact Or.inr ⟨h, rfl⟩
  · rw [if_neg h]
    exact Or.inl rfl

/-- The job after an attempt that ended early. -/
def leftJob (state : SyncState) (stage : Stage) (nextAttemptAt : Option Int)
    (job : CreatorSyncJob) : CreatorSyncJob :=
  { job with
    state
    currentStage := stage
    pauseRequested := false
    nextAttemptAt
    leaseId := none
    leaseExpiresAt := none }

/-- The job after a pause, by the lease that was read before. -/
def pausedJob (read : CreatorSyncJob) (job : CreatorSyncJob) : CreatorSyncJob :=
  if read.leaseId.isSome then
    { job with pauseRequested := true, currentStage := .PAUSING, nextAttemptAt := none }
  else
    { job with
      state := .PAUSED
      currentStage := .PAUSED
      pauseRequested := false
      nextAttemptAt := none }

/-- What a pause does to the partitions. -/
def pausedPartitions (read : CreatorSyncJob) (t : Table Nat CreatorSearchPartition) :
    Table Nat CreatorSearchPartition :=
  match read.leaseId, read.currentPartitionId with
  | none, some id => t.updateMany (fun k p => k = id &&
      [PartitionStatus.STARTING, .RUNNING, .WAITING_RETRY, .ERROR].contains p.status)
      (fun p => { p with status := .PAUSED })
  | _, _ => t

/-- Whether a resume gives up the current partition. -/
def releases (db : Db) (read : CreatorSyncJob) (staged : Bool) : Bool :=
  releaseDisabledPointer staged (read.currentPartitionId.bind db.partitions.get)

def resumedPartition (read : CreatorSyncJob) (p : CreatorSearchPartition) :
    CreatorSearchPartition :=
  if read.currentStage = .TIKTOK_BUSINESS_RETRY_LIMIT then
    { p with status := .RUNNING, business16032001RetryCount := 0, business16032001RetryPage := none }
  else { p with status := .RUNNING }

/-- What a resume does to the partitions. -/
def resumedPartitions (db : Db) (read : CreatorSyncJob) (staged : Bool) :
    Table Nat CreatorSearchPartition :=
  match read.currentPartitionId with
  | none => db.partitions
  | some id =>
    if releases db read staged then
      if (db.partitions.get id).any (fun p => p.gmvBucket = some .G4) then
        db.partitions.updateMany (fun k p => k = id && midway p.status)
          (fun p => { p with status := .EXPERIMENT_ONLY })
      else db.partitions
    else db.partitions.updateMany (fun k p => k = id && isSpecificGmvBucket p.gmvBucket &&
      (p.status = .PAUSED || p.status = .ERROR)) (resumedPartition read)

def resumedJob (db : Db) (read : CreatorSyncJob) (staged : Bool) (job : CreatorSyncJob) :
    CreatorSyncJob :=
  { job with
    state := .RUNNING
    currentStage := if staged then .RECONCILING_SHEET
      else if releases db read staged then .CLAIMING_PARTITION
      else if read.currentPartitionId.isSome then .RUNNING else .CLAIMING_PARTITION
    currentPartitionId := if releases db read staged then none else job.currentPartitionId
    pauseRequested := false
    nextAttemptAt := none }

/-- The job as `initializePartitions` leaves it. -/
def initializedJob (job : CreatorSyncJob) : CreatorSyncJob :=
  { job with
    state := .PAUSED
    currentStage := .PAUSED
    pauseRequested := false
    nextAttemptAt := none
    leaseId := none
    leaseExpiresAt := none }

/-- The receipt of a request is created unless it is there. -/
def withReceipt (db : Db) (page : CreatorSyncPage) : Db :=
  match receiptOf db page.privateRequestToken with
  | some _ => db
  | none => { db with
    pages := db.pages.set db.nextPageId page
    nextPageId := db.nextPageId + 1 }

/-- A creator is stored unless it is there. -/
def withCreator (origin : Origin) (t : Table String Origin) (id : String) : Table String Origin :=
  if (t.get id).isSome then t else t.set id origin

/-- The job of a worker that claimed it. -/
def claimedJob (leaseId : Nat) (now : Int) (job : CreatorSyncJob) : CreatorSyncJob :=
  { job with
    state := .RUNNING
    leaseId := some leaseId
    leaseExpiresAt := some (now + LEASE_MS)
    nextAttemptAt := none }

def claimable (now : Int) (job : CreatorSyncJob) : Bool := working job.state && leaseFree now job

/-- The job after a worker found its pause requested. -/
def stoppedJob (job : CreatorSyncJob) : CreatorSyncJob :=
  leftJob .PAUSED .PAUSED none job

/-- The end of an attempt for the business error 16032001. -/
def businessPause (pauseRequested : Bool) (partition : CreatorSearchPartition) : Bool :=
  pauseRequested || decide (BUSINESS_16032001_MAX_ATTEMPTS ≤ businessAttempt partition)

def businessStage (pauseRequested : Bool) (partition : CreatorSearchPartition) : Stage :=
  if decide (BUSINESS_16032001_MAX_ATTEMPTS ≤ businessAttempt partition) then
    .TIKTOK_BUSINESS_RETRY_LIMIT
  else if businessPause pauseRequested partition then .PAUSED else .WAITING_BUSINESS_RETRY

/-! ## Effects -/

/-- What a command reads and writes when it returns `a` and leaves the database `db'`. -/
def Effect (env : Environment) (config : Config) (ambient : Ambient) (db : Db) :
    (c : Command) → c.Result → Db → Prop
  | .findCandidate, _, db' => db' = db
  | .claimLease leaseId, (n : Nat), db' =>
    if claimable ambient.now db.job then n = 1 ∧ db' = setJob db (claimedJob leaseId ambient.now)
    else n = 0 ∧ db' = db
  | .jobUnderLease leaseId, job, db' =>
    db.job.leaseId = some leaseId ∧ job = db.job ∧ db' = db
  | .pendingPage, id, db' => id = (oldestPage db (ofProduction db)).map Prod.fst ∧ db' = db
  | .recordSheetImport leaseId, _, db' =>
    db' = setJobUnder db leaseId (fun job => { job with sheetImportedAt := some ambient.now })
  | .pauseClaimed leaseId partitionId, _, db' =>
    db' = setStatus (setJobUnder db leaseId stoppedJob) partitionId .PAUSED
  | .findPartition id, p, db' => db.partitions.get id = some p ∧ db' = db
  | .claimPartition leaseId, r, db' => Claims env config leaseId ambient.now db r db'
  | .findCategories, catalog, db' => catalog = catalogOf db ∧ db' = db
  | .recordActivity leaseId stage, _, db' => db.job.leaseId = some leaseId ∧
    db' = setJob db (fun job => { job with currentStage := stage })
  | .markRequested id status, _, db' => db' = setPartition db id (fun p => { p with status })
  | .countRequest id, _, db' => db' = setPartition db id
    (fun p => { p with marketplaceRequests := p.marketplaceRequests + 1 })
  | .resetBusinessRetries id, _, db' => db' = setPartition db id (fun p => { p with
    business16032001RetryCount := 0
    business16032001RetryPage := none })
  | .existingOpenIds ids, stored, db' =>
    stored = ids.filter (fun id => (db.creators.get id).isSome) ∧ db' = db
  | .stagePage page _, id, db' =>
    id = (receiptOf db page.privateRequestToken).getD db.nextPageId ∧
    ∃ categories, db' = { withReceipt db page with categories }
  | .persistBatch origin batch, _, db' => (∀ c ∈ batch, c.creatorOpenId ≠ "") ∧
    db' = { db with
      creators := batch.foldl (fun t c => withCreator origin t c.creatorOpenId) db.creators }
  | .receivedPage id, page, db' =>
    db.pages.get id = some page ∧ page.state = .RECEIVED ∧ db' = db
  | .markPersisted id, _, db' =>
    db' = setPage db id (fun page => { page with databasePersistedAt := some ambient.now })
  | .recordSheetAttempt leaseId id attempt stage, _, db' => db.job.leaseId = some leaseId ∧
    db' = setJob (setPage db id (fun page => { page with
      sheetsAttemptCount := attempt
      nextSheetsAttemptAt := none })) (fun job => { job with currentStage := stage })
  | .commitPage leaseId pageId page partition, _, db' =>
    Commits config leaseId pageId page partition ambient.now db db'
  | .findJob leaseId, job, db' =>
    job = (if db.job.leaseId = some leaseId then some db.job else none) ∧ db' = db
  | .findCurrent id, p, db' => p = db.partitions.get id ∧ db' = db
  | .anyStaged, staged, db' => staged = (oldestPage db (fun _ => true)).isSome ∧ db' = db
  | .stagedPage, found, db' => (∀ id page p, found = some (id, page, p) →
    db.pages.get id = some page ∧ page.state = .RECEIVED ∧
      db.partitions.get page.creatorSearchPartitionId = some p) ∧ db' = db
  | .sheetsFailure pageId page targetId target pause retryable, _, db' => ∃ next,
    db' = setPartition (setJob (setPage db pageId (fun p => { p with
        sheetsAttemptCount := max 1 page.sheetsAttemptCount
        nextSheetsAttemptAt := if pause then none else some next }))
      (leftJob (if pause then .PAUSED else .WAITING)
        (if pause then .PAUSED else if retryable then .WAITING_SHEET_RETRY
          else .SHEETS_BLOCKED_RETRYING) (if pause then none else some next)))
      targetId (fun p => { p with
        status := if strategyDisabled target then .DISABLED_BY_STRATEGY else if pause then .PAUSED
          else .WAITING_RETRY })
  | .businessRetry pauseRequested partitionId partition, _, db' =>
    db' = setPartition (setJob db (leftJob
        (if businessPause pauseRequested partition then .PAUSED else .WAITING)
        (businessStage pauseRequested partition)
        (if businessPause pauseRequested partition then none
          else some (ambient.now + CREATOR_MARKETPLACE_RETRY_MS))))
      partitionId (fun p => { p with
        status := if businessPause pauseRequested partition then .PAUSED else .WAITING_RETRY
        business16032001RetryCount := businessAttempt partition
        business16032001RetryPage := some (partition.pagesCompleted + 1) })
  | .retryLater job error partitionId, _, db' =>
    db' = setStatus (setJob db (leftJob (if job.pauseRequested then .PAUSED else .WAITING)
        (if job.pauseRequested then .PAUSED else .WAITING_RETRY)
        (if job.pauseRequested then none else some (retryAt job error ambient.now))))
      partitionId (if job.pauseRequested then .PAUSED else .WAITING_RETRY)
  | .failJob stage partitionId, _, db' =>
    db' = setStatus (setJob db (fun job => { job with
        state := .ERROR
        currentStage := stage
        nextAttemptAt := none
        leaseId := none
        leaseExpiresAt := none }))
      partitionId .ERROR
  | .readJob, job, db' => job = db.job ∧ db' = db
  | .pause job, _, db' =>
    db' = { db with
      job := pausedJob job db.job
      pages := db.pages.updateMany (fun _ page => page.state = .RECEIVED)
        (fun page => { page with nextSheetsAttemptAt := none })
      partitions := pausedPartitions job db.partitions }
  | .countEligible, n, db' => n = eligible db ∧ db' = db
  | .resume job staged, _, db' =>
    db' = { db with
      job := resumedJob db job staged db.job
      partitions := resumedPartitions db job staged }
  | .updateMarketplaceRetryDelay seconds, _, db' =>
    db' = setJob db (fun job => { job with marketplaceRetryDelaySeconds := seconds })
  | .refreshCategories _, _, db' => ∃ categories, db' = { db with categories }
  | .initializePartitions catalog, _, db' =>
    db' = setJob (insertPartitions (disabled db) (missingSeeds env catalog (disabled db)))
      initializedJob
  | .prepareAdaptiveQueue, _, db' => (expandReadyBranches config).run db = .ok ((), db')

end Effects

section Runs

variable {env : Environment} {config : Config} {ambient : Ambient} {db db' : Db}

/-- An update of the job under a lease. -/
theorem run_under {leaseId n : Nat} {f : CreatorSyncJob → CreatorSyncJob}
    (hrun : (updateJobWhere (fun job => job.leaseId = some leaseId) f).run db = .ok (n, db')) :
    db' = setJobUnder db leaseId f := by
  rw [run_updateJobWhere, Except.ok.injEq, Prod.mk.injEq] at hrun
  unfold setJobUnder setJob
  rw [← hrun.2]
  simp only [decide_eq_true_eq]

/-- An update of the job under a lease that must hold. -/
theorem run_underOrThrow {leaseId : Nat} {f : CreatorSyncJob → CreatorSyncJob} {e : Failure}
    {u : Unit}
    (hrun : (updateJobWhere (fun job => job.leaseId = some leaseId) f >>= fun updated =>
      if updated ≠ 1 then (Tx.throw e : Transaction Unit) else pure ()).run db = .ok (u, db')) :
    db.job.leaseId = some leaseId ∧ db' = setJob db f := by
  simp only [Tx.run_bind, run_updateJobWhere, Tx.bind_eq_ok, Except.ok.injEq, exists_eq_left',
    decide_eq_true_eq] at hrun
  by_cases hlease : db.job.leaseId = some leaseId
  · simp only [hlease, if_true, ne_eq, not_true_eq_false, if_false, Tx.run_pure, Except.ok.injEq,
      Prod.mk.injEq] at hrun
    exact ⟨hlease, hrun.2.symm⟩
  · simp [hlease] at hrun

theorem run_setPartition {id : Nat} {f : CreatorSearchPartition → CreatorSearchPartition} {u : Unit}
    (hrun : (Tx.update table.partitions .notFound id f : Transaction Unit).run db = .ok (u, db')) :
    db' = setPartition db id f := by
  rw [Tx.run_update, Tx.ite_error_eq_ok, Except.ok.injEq, Prod.mk.injEq] at hrun
  exact hrun.2.2.symm

theorem run_setPartitions {id n : Nat} {f : CreatorSearchPartition → CreatorSearchPartition}
    (hrun : (Tx.updateMany table.partitions (fun _ k _ => k = id) f : Transaction Nat).run db =
      .ok (n, db')) : db' = setPartition db id f := by
  rw [Tx.run_updateMany, Except.ok.injEq, Prod.mk.injEq] at hrun
  exact hrun.2.symm

theorem run_setPage {id : Nat} {f : CreatorSyncPage → CreatorSyncPage} {u : Unit}
    (hrun : (Tx.update table.pages .notFound id f : Transaction Unit).run db = .ok (u, db')) :
    db' = setPage db id f := by
  rw [Tx.run_update, Tx.ite_error_eq_ok, Except.ok.injEq, Prod.mk.injEq] at hrun
  exact hrun.2.2.symm

theorem run_setStatus {partitionId : Option Nat} {status : PartitionStatus} {u : Unit}
    (hrun : (updatePartition partitionId status).run db = .ok (u, db')) :
    db' = setStatus db partitionId status := by
  cases partitionId with
  | none =>
    cases hrun
    rfl
  | some id => exact run_setPartition hrun

theorem claimLease_effect {leaseId n : Nat} {now : Int}
    (hrun : (claimLease leaseId now LEASE_MS).run db = .ok (n, db')) :
    if claimable now db.job then n = 1 ∧ db' = setJob db (claimedJob leaseId now)
    else n = 0 ∧ db' = db := by
  unfold claimLease at hrun
  cases hclaim : claimable now db.job with
  | true =>
    have hwhere : (working db.job.state && leaseFree now db.job) = true := hclaim
    simp only [run_updateJobWhere, hwhere, if_true, Except.ok.injEq, Prod.mk.injEq] at hrun
    rw [if_pos rfl]
    exact ⟨hrun.1.symm, hrun.2.symm⟩
  | false =>
    have hwhere : (working db.job.state && leaseFree now db.job) = false := hclaim
    simp only [run_updateJobWhere, hwhere, Bool.false_eq_true, if_false, Except.ok.injEq,
      Prod.mk.injEq] at hrun
    rw [if_neg (by simp)]
    exact ⟨hrun.1.symm, hrun.2.symm⟩

theorem pauseClaimed_effect {leaseId : Nat} {partitionId : Option Nat} {u : Unit}
    (hrun : (pauseClaimed leaseId partitionId).run db = .ok (u, db')) :
    db' = setStatus (setJobUnder db leaseId stoppedJob) partitionId .PAUSED := by
  unfold pauseClaimed at hrun
  rw [Tx.run_bind, Tx.bind_eq_ok] at hrun
  obtain ⟨⟨n, db1⟩, hjob, hpartition⟩ := hrun
  have hdb1 : db1 = setJobUnder db leaseId stoppedJob := run_under hjob
  rw [← hdb1]
  cases partitionId with
  | none =>
    cases hpartition
    rfl
  | some id => exact run_setPartition hpartition

theorem stagePage_effect {page : CreatorSyncPage} {child : Option String} {now : Int} {id : Nat}
    (hrun : (stagePage page child now).run db = .ok (id, db')) :
    id = (receiptOf db page.privateRequestToken).getD db.nextPageId ∧
      ∃ categories, db' = { withReceipt db page with categories } := by
  unfold stagePage at hrun
  simp only [Tx.run_bind, Tx.run_stmt, Tx.run_ret, Tx.bind_eq_ok, Except.ok.injEq,
    exists_eq_left'] at hrun
  have hreceipt : ∀ db1, db1 = withReceipt db page →
      ∃ categories, db1 = { withReceipt db page with categories } :=
    fun db1 h => ⟨(withReceipt db page).categories, h⟩
  cases child with
  | none =>
    simp only [Tx.run_pure, Except.ok.injEq, Prod.mk.injEq] at hrun
    exact ⟨hrun.1.symm, hreceipt db' hrun.2.symm⟩
  | some child =>
    simp only [Tx.run_bind, Tx.run_updateMany, Tx.bind_eq_ok, Except.ok.injEq, exists_eq_left',
      Tx.run_pure, Prod.mk.injEq] at hrun
    exact ⟨hrun.1.symm, _, hrun.2.symm⟩

theorem recordSheetAttempt_effect {leaseId id attempt : Nat} {stage : Stage} {u : Unit}
    (hrun : (recordSheetAttempt leaseId id attempt stage).run db = .ok (u, db')) :
    db.job.leaseId = some leaseId ∧
      db' = setJob (setPage db id (fun page => { page with
        sheetsAttemptCount := attempt
        nextSheetsAttemptAt := none })) (fun job => { job with currentStage := stage }) := by
  unfold recordSheetAttempt at hrun
  rw [Tx.run_bind, Tx.bind_eq_ok] at hrun
  obtain ⟨⟨_, db1⟩, hpage, hjob⟩ := hrun
  have hdb1 := run_setPage hpage
  subst hdb1
  exact run_underOrThrow hjob

theorem sheetsFailure_effect {pageId targetId : Nat} {page : CreatorSyncPage}
    {target : CreatorSearchPartition} {pause retryable : Bool} {random : ℚ} {now : Int} {u : Unit}
    (hrun : (sheetsFailure pageId page targetId target pause retryable random now).run db =
      .ok (u, db')) : ∃ next,
    db' = setPartition (setJob (setPage db pageId (fun p => { p with
        sheetsAttemptCount := max 1 page.sheetsAttemptCount
        nextSheetsAttemptAt := if pause then none else some next }))
      (leftJob (if pause then .PAUSED else .WAITING)
        (if pause then .PAUSED else if retryable then .WAITING_SHEET_RETRY
          else .SHEETS_BLOCKED_RETRYING) (if pause then none else some next)))
      targetId (fun p => { p with
        status := if strategyDisabled target then .DISABLED_BY_STRATEGY else if pause then .PAUSED
          else .WAITING_RETRY }) := by
  unfold sheetsFailure leaveJob at hrun
  simp only [Tx.run_bind, Tx.bind_eq_ok, run_updateJob, Except.ok.injEq, exists_eq_left'] at hrun
  obtain ⟨⟨_, db1⟩, hpage, hpartition⟩ := hrun
  have hdb1 := run_setPage hpage
  subst hdb1
  exact ⟨_, run_setPartition hpartition⟩

theorem businessRetry_effect {pauseRequested : Bool} {partitionId : Nat}
    {partition : CreatorSearchPartition} {now : Int} {u : Unit}
    (hrun : (businessRetry pauseRequested partitionId partition now).run db = .ok (u, db')) :
    db' = setPartition (setJob db (leftJob
        (if businessPause pauseRequested partition then .PAUSED else .WAITING)
        (businessStage pauseRequested partition)
        (if businessPause pauseRequested partition then none
          else some (now + CREATOR_MARKETPLACE_RETRY_MS))))
      partitionId (fun p => { p with
        status := if businessPause pauseRequested partition then .PAUSED else .WAITING_RETRY
        business16032001RetryCount := businessAttempt partition
        business16032001RetryPage := some (partition.pagesCompleted + 1) }) := by
  unfold businessRetry leaveJob at hrun
  simp only [Tx.run_bind, run_updateJob, Tx.bind_eq_ok, Except.ok.injEq, exists_eq_left'] at hrun
  exact run_setPartition hrun

theorem retryLater_effect {job : CreatorSyncJob} {error : TikTokApiError}
    {partitionId : Option Nat} {now : Int} {u : Unit}
    (hrun : (retryLater job error partitionId now).run db = .ok (u, db')) :
    db' = setStatus (setJob db (leftJob (if job.pauseRequested then .PAUSED else .WAITING)
        (if job.pauseRequested then .PAUSED else .WAITING_RETRY)
        (if job.pauseRequested then none else some (retryAt job error now))))
      partitionId (if job.pauseRequested then .PAUSED else .WAITING_RETRY) := by
  unfold retryLater leaveJob at hrun
  simp only [Tx.run_bind, run_updateJob, Tx.bind_eq_ok, Except.ok.injEq, exists_eq_left'] at hrun
  exact run_setStatus hrun

theorem failJob_effect {stage : Stage} {partitionId : Option Nat} {u : Unit}
    (hrun : (failJob stage partitionId).run db = .ok (u, db')) :
    db' = setStatus (setJob db (fun job => { job with
        state := .ERROR
        currentStage := stage
        nextAttemptAt := none
        leaseId := none
        leaseExpiresAt := none }))
      partitionId .ERROR := by
  unfold failJob at hrun
  simp only [Tx.run_bind, run_updateJob, Tx.bind_eq_ok, Except.ok.injEq, exists_eq_left'] at hrun
  exact run_setStatus hrun

theorem pause_effect {job : CreatorSyncJob} {u : Unit}
    (hrun : (pause job).run db = .ok (u, db')) :
    db' = { db with
      job := pausedJob job db.job
      pages := db.pages.updateMany (fun _ page => page.state = .RECEIVED)
        (fun page => { page with nextSheetsAttemptAt := none })
      partitions := pausedPartitions job db.partitions } := by
  unfold pause at hrun
  simp only [Tx.run_bind, run_updateJob, Tx.run_updateMany, Tx.bind_eq_ok, Except.ok.injEq,
    exists_eq_left'] at hrun
  unfold pausedPartitions
  cases hlease : job.leaseId with
  | some leaseId =>
    cases hid : job.currentPartitionId <;>
      simp only [hlease, hid, Tx.run_pure, Except.ok.injEq, Prod.mk.injEq, true_and] at hrun <;>
        rw [← hrun] <;> simp [pausedJob, hlease]
  | none =>
    cases hid : job.currentPartitionId with
    | none =>
      simp only [hlease, hid, Tx.run_pure, Except.ok.injEq, Prod.mk.injEq, true_and] at hrun
      rw [← hrun]
      simp [pausedJob, hlease]
    | some id =>
      simp only [hlease, hid, Tx.run_bind, Tx.run_updateMany, Tx.bind_eq_ok, Except.ok.injEq,
        exists_eq_left', Tx.run_pure, Prod.mk.injEq, true_and] at hrun
      rw [← hrun]
      simp [pausedJob, hlease]

theorem resumePartition_effect {job : CreatorSyncJob} {staged : Bool} {id : Nat} {u : Unit}
    (hid : job.currentPartitionId = some id)
    (hrun : (resumePartition job id (releases db job staged) (db.partitions.get id)).run db =
      .ok (u, db')) : db' = { db with partitions := resumedPartitions db job staged } := by
  unfold resumePartition at hrun
  unfold resumedPartitions
  simp only [hid]
  by_cases hreleases : releases db job staged = true
  · rw [if_pos hreleases] at hrun ⊢
    by_cases hg4 : (db.partitions.get id).any (fun p => p.gmvBucket = some .G4) = true
    · rw [if_pos hg4] at hrun ⊢
      simp only [Tx.run_bind, Tx.run_updateMany, Tx.bind_eq_ok, Except.ok.injEq, exists_eq_left',
        Tx.run_pure, Prod.mk.injEq, true_and] at hrun
      exact hrun.symm
    · rw [if_neg hg4] at hrun ⊢
      simp only [Tx.run_pure, Except.ok.injEq, Prod.mk.injEq, true_and] at hrun
      exact hrun.symm
  · rw [if_neg hreleases] at hrun ⊢
    simp only [Tx.run_bind, Tx.run_updateMany, Tx.bind_eq_ok, Except.ok.injEq, exists_eq_left',
      Tx.run_pure, Prod.mk.injEq, true_and] at hrun
    exact hrun.symm

theorem resume_effect {job : CreatorSyncJob} {staged : Bool} {u : Unit}
    (hrun : (resume job staged).run db = .ok (u, db')) :
    db' = { db with
      job := resumedJob db job staged db.job
      partitions := resumedPartitions db job staged } := by
  unfold resume at hrun
  simp only [Tx.run_bind, Tx.run_read, Tx.bind_eq_ok, Except.ok.injEq, exists_eq_left'] at hrun
  cases hid : job.currentPartitionId with
  | none =>
    simp only [hid, run_updateJob, Except.ok.injEq, Prod.mk.injEq, true_and] at hrun
    rw [← hrun]
    simp [resumedJob, resumedPartitions, releases, hid]
  | some id =>
    have hreleases : releaseDisabledPointer staged ((some id).bind db.partitions.get) =
        releases db job staged := by
      unfold releases
      rw [hid]
    simp only [hid, Tx.run_bind, Tx.bind_eq_ok, run_updateJob, Except.ok.injEq,
      Prod.mk.injEq, true_and, hreleases] at hrun
    obtain ⟨⟨_, db1⟩, hpartition, rfl⟩ := hrun
    have hdb1 : db1 = { db with partitions := resumedPartitions db job staged } :=
      resumePartition_effect hid hpartition
    dsimp only
    rw [hdb1]
    simp [resumedJob, hid]

theorem updateMany_id {κ α : Type} [DecidableEq κ] (t : Table κ α) (c : κ → α → Bool) :
    t.updateMany c id = t := by
  unfold Table.updateMany
  simp

theorem persistBatch_effect {origin : Origin} {batch : List CreatorCandidate} {u : Unit}
    (hrun : (persistBatch origin batch).run db = .ok (u, db')) :
    (∀ c ∈ batch, c.creatorOpenId ≠ "") ∧ db' = { db with
      creators := batch.foldl (fun t c => withCreator origin t c.creatorOpenId) db.creators } := by
  unfold persistBatch at hrun
  simp only [Tx.run_bind, Tx.bind_eq_ok, Tx.run_pure, Except.ok.injEq, Prod.mk.injEq,
    true_and] at hrun
  obtain ⟨⟨us, db1⟩, hmany, rfl⟩ := hrun
  induction batch generalizing db us with
  | nil =>
    cases hmany
    exact ⟨fun c hc => (by cases hc), rfl⟩
  | cons c batch ih =>
    simp only [Tx.traverse, Tx.run_bind, Tx.bind_eq_ok, Tx.run_ret, Except.ok.injEq,
      Prod.mk.injEq] at hmany
    obtain ⟨⟨_, db2⟩, hone, ⟨us', db3⟩, hrest, _, rfl⟩ := hmany
    unfold ensureMarketplaceCreator at hone
    by_cases hempty : c.creatorOpenId = ""
    · rw [if_pos hempty] at hone
      cases hone
    · rw [if_neg hempty, Tx.run_upsert, Except.ok.injEq, Prod.mk.injEq] at hone
      obtain ⟨_, rfl⟩ := hone
      obtain ⟨hall, hdb⟩ := ih us' hrest
      refine ⟨?_, ?_⟩
      · intro c' hc'
        rcases List.mem_cons.1 hc' with rfl | hc'
        · exact hempty
        · exact hall c' hc'
      · rw [hdb, List.foldl_cons]
        dsimp only [table.creators]
        unfold withCreator
        cases db.creators.get c.creatorOpenId with
        | none => rfl
        | some o =>
          simp only [updateMany_id]
          rfl

theorem refreshCategories_effect {categories : List TikTokShopCategory} {u : Unit}
    (hrun : (refreshCategories categories).run db = .ok (u, db')) :
    ∃ t, db' = { db with categories := t } := by
  have hwithin : (refreshCategories categories).Within
      (fun db db' => ∃ t, db' = { db with categories := t }) := by
    unfold refreshCategories
    refine Tx.within_bind (Tx.within_updateMany table.categories (fun _ => ⟨_, rfl⟩)) (fun _ => ?_)
    refine Tx.within_bind (Tx.within_traverse (fun category _ => ?_)) (fun _ => trivial)
    exact ⟨fun _ => ⟨_, rfl⟩, fun _ => trivial⟩
  refine Tx.run_of_within (fun db => ⟨db.categories, rfl⟩) ?_ hwithin hrun
  rintro _ _ _ ⟨t, rfl⟩ ⟨t', rfl⟩
  exact ⟨t', rfl⟩

theorem initializePartitions_effect {env : Environment} {catalog : List CatalogNode} {n : Nat}
    (hrun : (adaptive_queue.initializePartitions env catalog).run db = .ok (n, db')) :
    db' = setJob (insertPartitions (disabled db) (missingSeeds env catalog (disabled db)))
      initializedJob := by
  unfold adaptive_queue.initializePartitions ensureSpecificGmvPartitions createMany at hrun
  simp only [Tx.run_lock, Tx.run_bind, Tx.run_updateMany, Tx.run_read, Tx.run_stmt, Tx.run_ret,
    run_updateJob, Tx.run_pure, Tx.bind_eq_ok, Except.ok.injEq, exists_eq_left',
    Prod.mk.injEq] at hrun
  exact hrun.2.symm

theorem oldestPage_spec {p : CreatorSyncPage → Bool} {id : Nat} {page : CreatorSyncPage}
    (h : oldestPage db p = some (id, page)) :
    db.pages.get id = some page ∧ page.state = .RECEIVED ∧ p page = true := by
  unfold oldestPage at h
  have hmem := List.mem_of_mem_head? h
  rw [Table.mem_findMany] at hmem
  simpa using hmem

theorem stagedPage_effect {found : Option (Nat × CreatorSyncPage × CreatorSearchPartition)}
    (hrun : stagedPage.run db = .ok (found, db')) :
    (∀ id page p, found = some (id, page, p) → db.pages.get id = some page ∧
      page.state = .RECEIVED ∧ db.partitions.get page.creatorSearchPartitionId = some p) ∧
    db' = db := by
  unfold stagedPage at hrun
  rw [Tx.run_read, Except.ok.injEq, Prod.mk.injEq] at hrun
  obtain ⟨rfl, rfl⟩ := hrun
  refine ⟨?_, rfl⟩
  intro id page p hfound
  obtain ⟨⟨i, q⟩, hold, hmap⟩ := Option.bind_eq_some_iff.1 hfound
  obtain ⟨p', hp', heq⟩ := Option.map_eq_some_iff.1 hmap
  cases heq
  obtain ⟨hget, hstate, _⟩ := oldestPage_spec hold
  exact ⟨hget, hstate, hp'⟩

theorem receivedPage_effect {id : Nat} {page : CreatorSyncPage}
    (hrun : (receivedPage id).run db = .ok (page, db')) :
    db.pages.get id = some page ∧ page.state = .RECEIVED ∧ db' = db := by
  obtain ⟨hpage, hdb⟩ := Tx.run_readOrThrow_eq_ok.1 hrun
  rw [Option.filter_eq_some_iff] at hpage
  exact ⟨hpage.1, by simpa using hpage.2, hdb⟩

theorem prepareAdaptiveQueue_effect {u : Unit}
    (hrun : (adaptive_queue.prepareAdaptiveQueue config).run db = .ok (u, db')) :
    (expandReadyBranches config).run db = .ok ((), db') := hrun

theorem effect_of_run {c : Command} {a : c.Result}
    (hrun : (c.body env config ambient).run db = .ok (a, db')) :
    Effect env config ambient db c a db' := by
  cases c with
  | findCandidate =>
    cases hrun
    rfl
  | claimLease leaseId => exact claimLease_effect hrun
  | jobUnderLease leaseId =>
    obtain ⟨hlease, heq⟩ := run_jobUnderLease_eq_ok.1 hrun
    cases heq
    exact ⟨hlease, rfl, rfl⟩
  | recordSheetImport leaseId => exact run_under hrun
  | pauseClaimed leaseId partitionId => exact pauseClaimed_effect hrun
  | findPartition id =>
    obtain ⟨hp, rfl⟩ := Tx.run_readOrThrow_eq_ok.1 hrun
    exact ⟨hp, rfl⟩
  | claimPartition leaseId => exact claimPartition_claims hrun
  | recordActivity leaseId stage => exact run_underOrThrow hrun
  | markRequested id status => exact run_setPartitions hrun
  | countRequest id => exact run_setPartition hrun
  | resetBusinessRetries id => exact run_setPartitions hrun
  | stagePage page child => exact stagePage_effect hrun
  | persistBatch origin batch => exact persistBatch_effect hrun
  | receivedPage id => exact receivedPage_effect hrun
  | markPersisted id => exact run_setPage hrun
  | recordSheetAttempt leaseId id attempt stage => exact recordSheetAttempt_effect hrun
  | commitPage leaseId pageId page partition => exact commitPage_commits hrun
  | stagedPage => exact stagedPage_effect hrun
  | sheetsFailure pageId page targetId target paused retryable => exact sheetsFailure_effect hrun
  | businessRetry paused id partition => exact businessRetry_effect hrun
  | retryLater job error partitionId => exact retryLater_effect hrun
  | failJob stage partitionId => exact failJob_effect hrun
  | pause job => exact pause_effect hrun
  | resume job staged => exact resume_effect hrun
  | updateMarketplaceRetryDelay seconds =>
    cases hrun
    rfl
  | refreshCategories categories => exact refreshCategories_effect hrun
  | initializePartitions catalog => exact initializePartitions_effect hrun
  | prepareAdaptiveQueue => exact prepareAdaptiveQueue_effect hrun
  | pendingPage =>
    cases hrun
    exact ⟨rfl, rfl⟩
  | findCategories =>
    cases hrun
    exact ⟨rfl, rfl⟩
  | existingOpenIds ids =>
    cases hrun
    exact ⟨rfl, rfl⟩
  | findJob leaseId =>
    cases hrun
    exact ⟨rfl, rfl⟩
  | findCurrent id =>
    cases hrun
    exact ⟨rfl, rfl⟩
  | anyStaged =>
    cases hrun
    exact ⟨rfl, rfl⟩
  | readJob =>
    cases hrun
    exact ⟨rfl, rfl⟩
  | countEligible =>
    cases hrun
    exact ⟨rfl, rfl⟩

end Runs

end tiktok_outreach.command_effects
