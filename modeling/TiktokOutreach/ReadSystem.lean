-- The reads from TikTok as a pool of threads over the rows of their governor:
-- clients with their retries, and callers that use a lease in any way.
import TiktokOutreach.ReadOnlyClient

open runs executions tables tiktok_outreach.read_governor tiktok_outreach.read_only_client

namespace tiktok_outreach.read_system

/-! ## The system -/

/-- What happened, for the statements about runs. -/
inductive Event
  | granted (lease : TikTokReadLease) (now : Int)
  | sent (lease : TikTokReadLease)
  | cooled (key : RowKey) (nextPermittedAt : Int)
  deriving DecidableEq, Repr

/-- A request that is on its way to TikTok or back. -/
structure Flight where
  thread : Nat
  lease : TikTokReadLease
  startedAt : Int
  deriving DecidableEq, Repr

structure World where
  rows : Table RowKey ProviderReadThrottle := Table.empty
  clock : Int := 0
  /-- The next lease that is drawn. -/
  nextLease : Nat := 0
  flights : List Flight := []
  /-- Oldest first. -/
  events : List Event := []

/-- The condition of a claim. -/
def usable (now : Int) (row : ProviderReadThrottle) : Bool :=
  row.spacingUntil.all (fun spacingUntil => spacingUntil ≤ now) &&
    (row.leaseId.isNone || row.leaseExpiresAt.any (fun expiresAt => expiresAt ≤ now))

/-- The condition of every other write of a lease. -/
def ownRow (lease : TikTokReadLease) (key : RowKey) (row : ProviderReadThrottle) : Bool :=
  key = lease.groupKey && row.leaseId = some lease.leaseId

/-- What a claim writes. -/
def claimedRow (options : GovernorOptions) (lease : TikTokReadLease) (now : Int)
    (row : ProviderReadThrottle) : ProviderReadThrottle :=
  { row with
    leaseId := some lease.leaseId
    leaseExpiresAt := some (now + options.leaseMs)
    spacingUntil := some (now + spacingMs options lease.operation) }

namespace World

def note (w : World) (event : Event) : World := { w with events := w.events ++ [event] }

def upsert (w : World) (key : RowKey) : World :=
  if (w.rows.get key).isSome then w else { w with rows := w.rows.set key {} }

def claim (options : GovernorOptions) (w : World) (lease : TikTokReadLease) (now : Int) : World :=
  match w.rows.get lease.groupKey with
  | none => w
  | some row =>
    if usable now row then
      { w with rows := w.rows.set lease.groupKey (claimedRow options lease now row) }.note
        (.granted lease now)
    else w

def requestStarted (options : GovernorOptions) (w : World) (lease : TikTokReadLease)
    (now : Int) : World :=
  { w with
    rows := w.rows.updateMany (ownRow lease)
      (fun row => { row with leaseExpiresAt := some (now + options.leaseMs) }) }

/-- A request id that is not there leaves the column. -/
def clearCooldown (w : World) (lease : TikTokReadLease) (requestId : Option String) : World :=
  { w with
    rows := w.rows.updateMany (fun key _ => key = lease.operationKey) (fun row =>
      { row with
        consecutiveThrottleCount := 0
        nextPermittedAt := none
        retryAfterMs := none
        lastProviderRequestId := requestId.or row.lastProviderRequestId }) }

def space (options : GovernorOptions) (w : World) (lease : TikTokReadLease) (now : Int) : World :=
  { w with
    rows := w.rows.updateMany (ownRow lease)
      (fun row => { row with spacingUntil := some (now + spacingMs options lease.operation) }) }

def storeCooldown (w : World) (lease : TikTokReadLease) (count : Nat) (nextPermittedAt : Int)
    (retryAfterMs : Option Int) (requestId : Option String) : World :=
  match w.rows.get lease.operationKey with
  | none => w
  | some row =>
    { w with
      rows := w.rows.set lease.operationKey
        { row with
          consecutiveThrottleCount := count
          nextPermittedAt := some nextPermittedAt
          retryAfterMs := retryAfterMs.or row.retryAfterMs
          lastProviderRequestId := requestId.or row.lastProviderRequestId } }.note
      (.cooled lease.operationKey nextPermittedAt)

def release (w : World) (lease : TikTokReadLease) : World :=
  { w with
    rows := w.rows.updateMany (ownRow lease)
      (fun row => { row with leaseId := none, leaseExpiresAt := none }) }

/-- The exchange of a thread begins. -/
def launch (w : World) (i : Nat) (lease : TikTokReadLease) (startedAt : Int) : World :=
  { w with flights := w.flights ++ [Flight.mk i lease startedAt] }.note (.sent lease)

/-- The exchange of a thread is over. -/
def land (w : World) (i : Nat) : World :=
  { w with flights := w.flights.filter (fun flight => flight.thread ≠ i) }

end World

/-- The calls that read or write nothing of the world. -/
def elsewhere : Call → Bool
  | .findRetryDelay _ | .jitter | .sleep _ => true
  | _ => false

/-- What a call of the thread `i` does that is performed. -/
inductive Performs (options : GovernorOptions) (i : Nat) :
    World → (c : Call) → c.Result → World → Prop
  | now (w : World) : Performs options i w .now w.clock w
  | newLease (w : World) : Performs options i w .newLease w.nextLease
      { w with nextLease := w.nextLease + 1 }
  | upsert (w : World) (key : RowKey) :
      Performs options i w (.upsert key) ((w.rows.get key).getD {}) (w.upsert key)
  | claim (w : World) (lease : TikTokReadLease) (now : Int) (permitted : Option Int) :
      Performs options i w (.claim lease now permitted)
        (if (w.rows.get lease.groupKey).any (usable now) then 1 else 0) (w.claim options lease now)
  | find (w : World) (key : RowKey) (row : ProviderReadThrottle)
      (hget : w.rows.get key = some row) : Performs options i w (.find key) row w
  | requestStarted (w : World) (lease : TikTokReadLease) (now : Int) :
      Performs options i w (.requestStarted lease now) () (w.requestStarted options lease now)
  | clearCooldown (w : World) (lease : TikTokReadLease) (requestId : Option String) :
      Performs options i w (.clearCooldown lease requestId) () (w.clearCooldown lease requestId)
  | space (w : World) (lease : TikTokReadLease) (now : Int) :
      Performs options i w (.space lease now) () (w.space options lease now)
  | storeCooldown (w : World) (lease : TikTokReadLease) (count : Nat) (nextPermittedAt : Int)
      (retryAfterMs : Option Int) (requestId : Option String) :
      Performs options i w (.storeCooldown lease count nextPermittedAt retryAfterMs requestId) ()
        (w.storeCooldown lease count nextPermittedAt retryAfterMs requestId)
  | release (w : World) (lease : TikTokReadLease) :
      Performs options i w (.release lease) () (w.release lease)
  | send (w : World) (lease : TikTokReadLease) (startedAt : Int) :
      Performs options i w (.send lease startedAt) () (w.launch i lease startedAt)
  | receive (w : World) (lease : TikTokReadLease) (response : Response) :
      Performs options i w (.receive lease) response (w.land i)
  | other (w : World) (c : Call) (a : c.Result) (h : elsewhere c = true) :
      Performs options i w c a w

/-- The calls that go to the database. -/
def statement : Call → Bool
  | .now | .newLease | .jitter | .sleep _ | .send _ _ | .receive _ => false
  | _ => true

/-- The calls that may throw although they were performed. An exchange with TikTok that fails is
over. -/
def fallible : Call → Bool
  | .receive _ => true
  | c => statement c

/-- The answer of a call. Time passes with each. -/
inductive Exec (options : GovernorOptions) (i : Nat) :
    World → (c : Call) → Except Failure c.Result → World → Prop
  | done (w w' : World) (c : Call) (a : c.Result) (clock : Int) (h : Performs options i w c a w')
      (hclock : w'.clock ≤ clock) : Exec options i w c (.ok a) { w' with clock := clock }
  | lost (w w' : World) (c : Call) (a : c.Result) (e : Failure) (clock : Int)
      (hc : fallible c = true) (h : Performs options i w c a w') (hclock : w'.clock ≤ clock) :
      Exec options i w c (.error e) { w' with clock := clock }
  | failed (w : World) (c : Call) (e : Failure) (clock : Int) (hc : statement c = true)
      (hclock : w.clock ≤ clock) : Exec options i w c (.error e) { w with clock := clock }

/-- A call was performed, though its answer may be lost, or it was not. -/
theorem Exec.effect {options : GovernorOptions} {i : Nat} {w w' : World} {c : Call}
    {res : Except Failure c.Result} (h : Exec options i w c res w') :
    (∃ a w1 clock, Performs options i w c a w1 ∧ w1.clock ≤ clock ∧
      w' = { w1 with clock := clock } ∧ ∀ a', res = .ok a' → a' = a) ∨
      ∃ clock, w.clock ≤ clock ∧ w' = { w with clock := clock } ∧ statement c = true ∧
        ∀ a, res ≠ .ok a := by
  cases h with
  | done w1 _ a clock h hclock =>
    refine Or.inl ⟨a, w1, clock, h, hclock, rfl, ?_⟩
    intro a' ha
    cases ha
    rfl
  | lost w1 _ a e clock hc h hclock =>
    refine Or.inl ⟨a, w1, clock, h, hclock, rfl, ?_⟩
    intro a' ha
    cases ha
  | failed _ e clock hc hclock =>
    refine Or.inr ⟨clock, hclock, rfl, hc, ?_⟩
    intro a ha
    cases ha

/-- The connection of a thread that crashes is cut. -/
def machine (options : GovernorOptions) :
    Machine World Call (fun c => Except Failure c.Result) where
  work _ _ _ _ := False
  exec := Exec options
  onCrash i _ w := w.land i

/-! ## Jobs -/

/-- What a caller may do with its lease. -/
inductive LeaseOperation
  | requestStarted
  | succeeded (event : TikTokReadGovernorEvent)
  | throttled (event : TikTokReadGovernorEvent)
  | release
  deriving DecidableEq, Repr

section Jobs

variable (options : GovernorOptions)

def operate (lease : TikTokReadLease) : LeaseOperation → Program Bool Unit
  | .requestStarted => do
    let _ ← requestStarted lease
    pure ()
  | .succeeded event => succeeded lease event
  | .throttled event => do
    let _ ← throttled options lease event
    pure ()
  | .release => release lease

/-- A caller that goes on after an error. -/
def operateAll (lease : TikTokReadLease) : List LeaseOperation → Program Bool Unit
  | [] => pure ()
  | operation :: rest => do
    Js.tryCatch (operate options lease operation) (fun _ => pure ())
    operateAll lease rest

/-- What starts a program: any caller of the governor, or a read of a client. -/
inductive Job
  | caller (input : ReadInput) (operations : List LeaseOperation)
  | requestRaw (client : ClientOptions) (request : ReadRequest)

def caller (input : ReadInput) (operations : List LeaseOperation) : Program Bool Unit := do
  let lease ← acquire input
  operateAll options lease operations

/-- The program of a job as a thread. -/
def Job.thread : Job → Prog Call (fun c => Except Failure c.Result) Unit
  | caller input operations => Js.thread (read_system.caller options input operations) false
  | requestRaw client request =>
    Js.thread (read_only_client.requestRaw options client request) false

def Startable (p : Prog Call (fun c => Except Failure c.Result) Unit) : Prop :=
  ∃ job : Job, p = job.thread options

end Jobs

abbrev SystemPool := Pool World Call (fun c => Except Failure c.Result)

abbrev SystemLabel := Label Call (fun c => Except Failure c.Result)

/-- The runs of the jobs. -/
abbrev SystemRun (options : GovernorOptions) :=
  Run (PoolStep (machine options) (Startable options))

/-- A world before the first job. -/
def idle (w : World) : SystemPool := ⟨w, fun _ => none⟩

/-! ## Roles -/

structure Role where
  /-- The clock that the thread read last. -/
  reading : Option Int := none
  drawn : Option Nat := none
  /-- The lease that it was granted, and the clock of its claim. -/
  held : Option (TikTokReadLease × Int) := none
  /-- The clock from which its lease runs. -/
  startedAt : Option Int := none
  flying : Bool := false
  deriving DecidableEq, Repr

def start : Role := {}

/-- The thread was granted the lease. -/
def Holds (r : Role) (lease : TikTokReadLease) : Prop := ∃ acquiredAt, r.held = some (lease, acquiredAt)

def okCall (r : Role) : Call → Prop
  | .claim lease now permitted => r.reading = some now ∧ r.drawn = some lease.leaseId ∧
      ∀ time, permitted = some time → time ≤ now
  | .requestStarted lease now | .space lease now =>
    Holds r lease ∧ r.reading = some now ∧ r.flying = false
  | .clearCooldown lease _ | .storeCooldown lease _ _ _ _ | .release lease =>
    Holds r lease ∧ r.flying = false
  | .send lease startedAt => Holds r lease ∧ r.startedAt = some startedAt ∧ r.flying = false
  | .receive lease => Holds r lease ∧ r.flying = true
  | _ => True

def nextRole (r : Role) : (c : Call) → Except Failure c.Result → Role
  | .now, .ok now => { r with reading := some now }
  | .newLease, .ok leaseId => { r with drawn := some leaseId }
  | .claim lease now _, .ok count =>
    { r with
      drawn := none
      held := if count = 1 then some (lease, now) else none
      startedAt := if count = 1 then some now else none }
  | .claim _ _ _, .error _ => { r with drawn := none, held := none, startedAt := none }
  | .requestStarted _ now, .ok _ => { r with startedAt := some now }
  | .requestStarted _ _, .error _ => { r with startedAt := none }
  | .release _, _ => { r with startedAt := none }
  | .send _ _, .ok _ => { r with flying := true }
  | .receive _, _ => { r with flying := false }
  | _, _ => r

def protocol : Protocol Call (fun c => Except Failure c.Result) Role where
  ok := okCall
  next := nextRole

end tiktok_outreach.read_system
