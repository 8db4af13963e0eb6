-- The crawler as a pool of threads, and the protocol of its programs: which
-- lease a thread drew, and what it read before each of its writes.
import TiktokOutreach.CreatorWorker

open runs transactions executions tiktok_outreach.creator_schema
  tiktok_outreach.marketplace_partitions tiktok_outreach.creator_scheduler
  tiktok_outreach.adaptive_queue tiktok_outreach.partition_claims tiktok_outreach.creator_sync
  tiktok_outreach.creator_commands tiktok_outreach.creator_worker

namespace tiktok_outreach.creator_protocol

/-! ## The system -/

structure World where
  db : Db
  /-- The next lease that is drawn. -/
  nextLease : Nat
  /-- The lease that each thread drew last. -/
  drawn : Nat → Option Nat

/-- The calls that change neither the database nor the leases. -/
def elsewhere : Call → Bool
  | .db _ | .newLease => false
  | _ => true

section Machine

variable (env : Environment) (config : Config)

/-- What a call of the thread `i` does. A transaction commits, commits and loses its answer, or fails and changes
nothing; its clock may show any time. -/
inductive Exec (i : Nat) : World → (c : Call) → c.Answer → World → Prop
  | commit (w : World) (c : Command) (ambient : Ambient) (r : c.Result) (db : Db)
      (hrun : (c.body env config ambient).run w.db = .ok (r, db)) :
      Exec i w (.db c) (.ok r) { w with db }
  | lost (w : World) (c : Command) (ambient : Ambient) (r : c.Result) (db : Db) (e : Failure)
      (hrun : (c.body env config ambient).run w.db = .ok (r, db)) :
      Exec i w (.db c) (.error e) { w with db }
  | failed (w : World) (c : Command) (e : Failure) : Exec i w (.db c) (.error e) w
  | newLease (w : World) : Exec i w .newLease (.ok w.nextLease)
      { w with
        nextLease := w.nextLease + 1
        drawn := fun j => if j = i then some w.nextLease else w.drawn j }
  | other (w : World) (c : Call) (answer : c.Answer) (h : elsewhere c = true) : Exec i w c answer w

def machine : Machine World Call Call.Answer where
  work _ _ _ _ := False
  exec := Exec env config
  onCrash _ _ w := w

/-- What starts a program: the worker, the operator, or the start of the service. -/
inductive Job
  | processNext
  | pause
  | resume
  | initializePartitions
  | refreshCategories
  | updateMarketplaceRetryDelay (seconds : Int)
  | prepareAdaptiveQueue
  deriving DecidableEq, Repr

/-- The program of a job as a thread. -/
def Job.thread : Job → Prog Call Call.Answer Unit
  | processNext => Js.thread creator_worker.processNext ()
  | pause => Js.thread creator_worker.pause ()
  | resume => Js.thread creator_worker.resume ()
  | initializePartitions => Js.thread creator_worker.initializePartitions ()
  | refreshCategories => Js.thread creator_worker.refreshCategories ()
  | updateMarketplaceRetryDelay seconds =>
    Js.thread (creator_worker.updateMarketplaceRetryDelay seconds) ()
  | prepareAdaptiveQueue => Js.thread creator_worker.prepareAdaptiveQueue ()

def Startable (allowed : Job → Bool) (p : Prog Call Call.Answer Unit) : Prop :=
  ∃ job, allowed job = true ∧ p = job.thread

/-- The pool before its first job. -/
def initial : Pool World Call Call.Answer := ⟨⟨Db.initial, 0, fun _ => none⟩, fun _ => none⟩

/-- The runs of the jobs under a condition. -/
abbrev SystemRun (allowed : Job → Bool) :=
  Run (PoolStep (machine env config) (Startable allowed))

end Machine

/-! ## Roles -/

/-- How far a thread is with a lease. -/
inductive Phase
  | out
  /-- It drew the lease. -/
  | drawn (leaseId : Nat)
  /-- It tried to claim the job under the lease. -/
  | worker (leaseId : Nat)
  /-- It tried to commit a page under the lease. -/
  | spent (leaseId : Nat)
  deriving DecidableEq, Repr

/-- The lease that the thread works under. -/
def Phase.holds : Phase → Option Nat
  | worker leaseId | spent leaseId => some leaseId
  | out | drawn _ => none

/-- A call with its answer. -/
abbrev Known : Type := (c : Call) × c.Result

structure Role where
  phase : Phase
  known : Set Known

def start : Role := ⟨.out, ∅⟩

/-- The command was answered so. -/
def Answered (known : Set Known) (c : Command) (r : c.Result) : Prop := ⟨.db c, r⟩ ∈ known

/-- A thread that knows these answers goes on with the partition that it claimed or resumed. -/
def Works (known : Set Known) (row : Row) : Prop :=
  (∃ leaseId claim, Answered known (.claimPartition leaseId) (some claim) ∧ claim.row = row) ∨
  ∃ (leaseId : Nat) (job : CreatorSyncJob), Answered known (.jobUnderLease leaseId) job ∧
    job.currentPartitionId = some row.1 ∧ Answered known (.findPartition row.1) row.2 ∧
    resumes row.2 = true

/-- The receipt is the one of a response to a request for the partition that is worked on. -/
def Receives (known : Set Known) (p : CreatorSyncPage) (child : Option String) : Prop :=
  ∃ row page searchKey existing, Works known row ∧ checkResponse row.2 page = .ok searchKey ∧
    Answered known (.existingOpenIds (uniqueOpenIds page)) existing ∧
    p = receipt row page searchKey existing ∧ child = row.2.categoryChildId

/-- The job as the handler of an error read it, with the partition that it had. -/
def Handles (known : Set Known) (job : CreatorSyncJob) : Prop :=
  ∃ leaseId, Answered known (.findJob leaseId) (some job)

/-- The answers that a command is called with. -/
def Grounds (known : Set Known) : Command → Prop
  | .pauseClaimed _ partitionId => ∀ id ∈ partitionId, ∃ p, Works known (id, p)
  | .markRequested id status => (∃ p, Works known (id, p)) ∧
    (status = .STARTING ∨ status = .RUNNING)
  | .countRequest id => ∃ p, Works known (id, p)
  | .resetBusinessRetries id => ∃ p, Works known (id, p)
  | .stagePage page child => Receives known page child
  | .persistBatch origin batch => match origin with
    | .sheetImport => True
    | .page id => ∃ page, Answered known (.receivedPage id) page ∧ batch ∈ batches page.payload
  | .markPersisted id => ∃ page, Answered known (.receivedPage id) page
  | .recordSheetAttempt _ id _ _ => ∃ page, Answered known (.receivedPage id) page
  | .commitPage _ id page partition => Answered known (.receivedPage id) page ∧
    Answered known (.findPartition page.creatorSearchPartitionId) partition
  | .sheetsFailure id page targetId target paused _ => ∃ job, Handles known job ∧
    paused = job.pauseRequested ∧
    ∃ q, Answered known .stagedPage (some (id, page, q)) ∧
      ((job.currentPartitionId = some targetId ∧
        Answered known (.findCurrent targetId) (some target)) ∨
        (page.creatorSearchPartitionId = targetId ∧ q = target))
  | .businessRetry paused id partition => ∃ job, Handles known job ∧
    paused = job.pauseRequested ∧ job.currentPartitionId = some id ∧
    Answered known (.findCurrent id) (some partition)
  | .retryLater job _ partitionId => Handles known job ∧
    ∀ id ∈ partitionId, job.currentPartitionId = some id
  | .failJob _ partitionId => ∃ job, Handles known job ∧
    ∀ id ∈ partitionId, job.currentPartitionId = some id
  | .pause job => Answered known .readJob job
  | .resume job staged => Answered known .readJob job ∧
    ∃ pending, Answered known .pendingPage pending ∧ staged = Option.isSome pending
  | .refreshCategories _ => ∃ job, Answered known .readJob job ∧
    CreatorSyncJob.state job = .PAUSED
  | .initializePartitions catalog => (∃ job, Answered known .readJob job ∧
    (CreatorSyncJob.state job = .PAUSED ∨ CreatorSyncJob.state job = .EXHAUSTED)) ∧
    Answered known .anyStaged false ∧ Answered known .findCategories catalog
  | _ => True

/-- The lease under which a command runs. -/
def leaseOf : Command → Option Nat
  | .jobUnderLease leaseId | .recordSheetImport leaseId | .pauseClaimed leaseId _
  | .claimPartition leaseId | .recordActivity leaseId _ | .recordSheetAttempt leaseId _ _ _
  | .commitPage leaseId _ _ _ | .findJob leaseId => some leaseId
  | _ => none

/-- The commands that only the worker runs. -/
def ofWorker : Command → Bool
  | .persistBatch _ _ | .sheetsFailure _ _ _ _ _ _ | .businessRetry _ _ _ | .retryLater _ _ _
  | .failJob _ _ | .stagePage _ _ | .markRequested _ _ | .receivedPage _ => true
  | _ => false

def okCommand (r : Role) (c : Command) : Prop :=
  (∀ leaseId, leaseOf c = some leaseId → r.phase.holds = some leaseId) ∧
  (ofWorker c = true → ∃ leaseId, r.phase.holds = some leaseId) ∧
  (∀ leaseId, c = .claimLease leaseId → r.phase = .drawn leaseId) ∧
  (∀ leaseId id page partition, c = .commitPage leaseId id page partition →
    r.phase = .worker leaseId) ∧ Grounds r.known c

def okCall (r : Role) : Call → Prop
  | .db c => okCommand r c
  | .newLease => r.phase = .out
  | .searchCreators filters _ _ => ∃ (leaseId : Nat) (job : CreatorSyncJob) (row : Row)
    (catalog : List CatalogNode), r.phase = .worker leaseId ∧
    Answered r.known (.jobUnderLease leaseId) job ∧ job.pauseRequested = false ∧
    Works r.known row ∧ Answered r.known .findCategories catalog ∧
    requestFilters row.2 catalog = .ok filters
  | _ => True

def nextPhase (phase : Phase) : (c : Call) → c.Answer → Phase
  | .newLease, .ok leaseId => .drawn leaseId
  | .db (.claimLease leaseId), _ => .worker leaseId
  | .db (.commitPage leaseId _ _ _), _ => .spent leaseId
  | _, _ => phase

/-- The thread remembers what it was answered. -/
def nextRole (r : Role) (c : Call) (answer : c.Answer) : Role where
  phase := nextPhase r.phase c answer
  known := match answer with
    | .ok a => insert ⟨c, a⟩ r.known
    | .error _ => r.known

def creatorProtocol : Protocol Call Call.Answer Role := ⟨okCall, nextRole⟩

end tiktok_outreach.creator_protocol
