-- The TikTok integration as a pool of threads over its tables, and the
-- protocol of its programs: which state a callback consumed, and which refresh
-- a thread claimed.
import TiktokOutreach.TiktokService
import TiktokOutreach.Lib.Tables

open runs executions tables json tiktok_outreach.tiktok_connection tiktok_outreach.oauth_handoff
  tiktok_outreach.tiktok_service

namespace tiktok_outreach.tiktok_system

/-! ## The system -/

/-- What happened, for the statements about runs. -/
inductive Event
  | stored (shopId tokenVersion : Nat)
  | started (shopId tokenVersion leaseId : Nat) (trigger : Trigger)
  | failed (shopId tokenVersion : Nat)
  | uncertain (shopId tokenVersion : Nat)
  deriving DecidableEq, Repr

structure World where
  states : Table Nat AuthorizationState := Table.empty
  nonces : List Text := []
  connections : Table Nat Connection := Table.empty
  clock : Int := 0
  /-- The next lease that is drawn. -/
  nextLease : Nat := 0
  /-- Oldest first. -/
  events : List Event := []

namespace World

def note (w : World) (event : Event) : World := { w with events := w.events ++ [event] }

def findState (w : World) (stateHash : Text) : Option (Nat × AuthorizationState) :=
  (w.states.findMany (fun _ row => row.stateHash = stateHash)).head?

/-- The condition of the write that consumes a state. -/
def usable (now : Int) (row : AuthorizationState) : Bool :=
  row.consumedAt.isNone && decide (now < row.expiresAt)

def consumeState (w : World) (id : Nat) (now : Int) : World :=
  { w with
    states := w.states.updateMany (fun k row => k = id && usable now row)
      (fun row => { row with consumedAt := some now }) }

def withdrawState (w : World) (id : Nat) (now : Int) : World :=
  { w with
    states := w.states.updateMany (fun k row => k = id && row.consumedAt.isNone)
      (fun row => { row with consumedAt := some now }) }

def authorize (w : World) (shopId : Nat) (data : Authorization) : World :=
  let row := Connection.authorized (w.connections.get shopId) data
  { w with connections := w.connections.set shopId row }.note (.stored shopId row.tokenVersion)

/-- An `updateMany` of the connection of a shop, with what it means. -/
def compareAndSet (w : World) (shopId : Nat) (condition : Connection → Bool)
    (update : Connection → Connection) (event : Event) : World :=
  match w.connections.get shopId with
  | none => w
  | some c =>
    if condition c then
      { w with connections := w.connections.set shopId (update c) }.note event
    else w

/-- The number of rows of an `updateMany`. -/
def matching (w : World) (shopId : Nat) (condition : Connection → Bool) : Nat :=
  if (w.connections.get shopId).any condition then 1 else 0

end World

/-- The condition of the claim of a refresh. -/
def claimable (tokenVersion : Nat) (c : Connection) : Bool :=
  c.refreshState ≠ .IN_PROGRESS && c.tokenVersion = tokenVersion

/-- The condition of the write that refuses a refresh. -/
def unchanged (tokenVersion : Nat) (refreshState : TokenRefreshState)
    (refreshTokenCiphertext : Option String) (c : Connection) : Bool :=
  c.tokenVersion = tokenVersion && c.refreshState = refreshState &&
    c.refreshTokenCiphertext = refreshTokenCiphertext

/-- The calls that read or write nothing of the world: what TikTok and the router answer is
free. -/
def elsewhere : Call → Bool
  | .sleep | .selectedShop | .findShop _ | .registerAtRouter _ | .exchange _ _ _
  | .getAuthorizedShops _ | .upsertShop _ | .refresh _ _ _ _ _ => true
  | _ => false

/-- What a call does that is performed. -/
inductive Performs : World → (c : Call) → c.Result → World → Prop
  | now (w : World) : Performs w .now w.clock w
  | newLease (w : World) : Performs w .newLease w.nextLease
      { w with nextLease := w.nextLease + 1 }
  | createState (w : World) (row : AuthorizationState) (id : Nat)
      (hid : w.states.get id = none) (hunique : w.findState row.stateHash = none) :
      Performs w (.createState row) id { w with states := w.states.set id row }
  | markRegistered (w : World) (id : Nat) : Performs w (.markRegistered id) ()
      { w with
        states := w.states.updateMany (fun k _ => k = id)
          (fun row => { row with routerRegistered := true }) }
  | withdrawState (w : World) (id : Nat) (now : Int) :
      Performs w (.withdrawState id now) () (w.withdrawState id now)
  | createNonce (w : World) (nonceHash : Text) (expiresAt : Int) (hnew : nonceHash ∉ w.nonces) :
      Performs w (.createNonce nonceHash expiresAt) () { w with nonces := nonceHash :: w.nonces }
  | findState (w : World) (stateHash : Text) :
      Performs w (.findState stateHash) (w.findState stateHash) w
  | consumeState (w : World) (id : Nat) (request : Request) (now : Int) :
      Performs w (.consumeState id request now)
        (if (w.states.get id).any (World.usable now) then 1 else 0) (w.consumeState id now)
  | authorizeConnection (w : World) (shopId : Nat) (data : Authorization) :
      Performs w (.authorizeConnection shopId data) () (w.authorize shopId data)
  | findConnection (w : World) (shopId : Nat) (c : Connection)
      (hget : w.connections.get shopId = some c) : Performs w (.findConnection shopId) c w
  | failPreparation (w : World) (shopId tokenVersion : Nat) (refreshState : TokenRefreshState)
      (ciphertext : Option String) (reason : Reason) (now : Int) :
      Performs w (.failPreparation shopId tokenVersion refreshState ciphertext reason now)
        (w.matching shopId (unchanged tokenVersion refreshState ciphertext))
        (w.compareAndSet shopId (unchanged tokenVersion refreshState ciphertext)
          (fun c => c.unprepared reason now) (.failed shopId tokenVersion))
  | claimRefresh (w : World) (shopId tokenVersion leaseId : Nat) (trigger : Trigger)
      (leaseExpiresAt now : Int) :
      Performs w (.claimRefresh shopId tokenVersion leaseId trigger leaseExpiresAt now)
        (w.matching shopId (claimable tokenVersion))
        (w.compareAndSet shopId (claimable tokenVersion)
          (fun c => c.claimed leaseId leaseExpiresAt now)
          (.started shopId tokenVersion leaseId trigger))
  | markUncertain (w : World) (shopId : Nat) (leaseId : Option Nat) (tokenVersion : Nat)
      (reason : Reason) (now : Int) :
      Performs w (.markUncertain shopId leaseId tokenVersion reason now)
        (w.matching shopId (fun c => c.underLease leaseId tokenVersion))
        (w.compareAndSet shopId (fun c => c.underLease leaseId tokenVersion)
          (fun c => c.uncertain reason now) (.uncertain shopId tokenVersion))
  | failRefresh (w : World) (shopId leaseId tokenVersion : Nat) (code : String) (now : Int) :
      Performs w (.failRefresh shopId leaseId tokenVersion code now)
        (w.matching shopId (fun c => c.underLease (some leaseId) tokenVersion))
        (w.compareAndSet shopId (fun c => c.underLease (some leaseId) tokenVersion)
          (fun c => c.refreshFailed code now) (.failed shopId tokenVersion))
  | persistRotation (w : World) (shopId leaseId tokenVersion : Nat) (data : Rotation) :
      Performs w (.persistRotation shopId leaseId tokenVersion data)
        (w.matching shopId (fun c => c.underLease (some leaseId) tokenVersion))
        (w.compareAndSet shopId (fun c => c.underLease (some leaseId) tokenVersion)
          (fun c => c.rotated data) (.stored shopId (tokenVersion + 1)))
  | other (w : World) (c : Call) (a : c.Result) (h : elsewhere c = true) : Performs w c a w

/-- The answer of a call. A call that throws may have been performed or not, and time passes. -/
inductive Exec (i : Nat) : World → (c : Call) → Except Failure c.Result → World → Prop
  | done (w w' : World) (c : Call) (a : c.Result) (clock : Int) (h : Performs w c a w')
      (hclock : w'.clock ≤ clock) : Exec i w c (.ok a) { w' with clock := clock }
  | lost (w w' : World) (c : Call) (a : c.Result) (e : Failure) (clock : Int)
      (h : Performs w c a w') (hclock : w'.clock ≤ clock) :
      Exec i w c (.error e) { w' with clock := clock }
  | failed (w : World) (c : Call) (e : Failure) (clock : Int) (hclock : w.clock ≤ clock) :
      Exec i w c (.error e) { w with clock := clock }

/-- A call was performed, though its answer may be lost, or it was not. -/
theorem Exec.effect {i : Nat} {w w' : World} {c : Call} {res : Except Failure c.Result}
    (h : Exec i w c res w') :
    (∃ a w1 clock, Performs w c a w1 ∧ w1.clock ≤ clock ∧ w' = { w1 with clock := clock } ∧
      ∀ a', res = .ok a' → a' = a) ∨
      ∃ clock, w.clock ≤ clock ∧ w' = { w with clock := clock } ∧ ∀ a, res ≠ .ok a := by
  cases h with
  | done w1 _ a clock h hclock =>
    refine Or.inl ⟨a, w1, clock, h, hclock, rfl, ?_⟩
    intro a' ha
    cases ha
    rfl
  | lost w1 _ a e clock h hclock =>
    refine Or.inl ⟨a, w1, clock, h, hclock, rfl, ?_⟩
    intro a' ha
    cases ha
  | failed _ e clock hclock =>
    refine Or.inr ⟨clock, hclock, rfl, ?_⟩
    intro a ha
    cases ha

def machine : Machine World Call (fun c => Except Failure c.Result) where
  work _ _ _ _ := False
  exec := Exec
  onCrash _ _ w := w

/-- What starts a program. -/
inductive Job
  | initiateAuthorization (browser state operationId : Text)
  | callback (request : Request)
  | privateCompletion (input : List (Text × Json)) (headers : Headers)
  | validAccessToken (validationMode : Bool)
  | refreshToken (shopId : Option Nat) (trigger : Trigger)

/-- The program of a job as a thread. -/
def Job.thread (env : Environment) : Job → Prog Call (fun c => Except Failure c.Result) Unit
  | initiateAuthorization browser state operationId =>
    Js.thread (tiktok_service.initiateAuthorization env browser state operationId) ()
  | callback request => Js.thread (tiktok_service.callback env request) ()
  | privateCompletion input headers =>
    Js.thread (tiktok_service.privateCompletion env input headers) ()
  | validAccessToken validationMode =>
    Js.thread (tiktok_service.validAccessToken env validationMode) ()
  | refreshToken shopId trigger => Js.thread (tiktok_service.refreshToken env shopId trigger) ()

def Startable (env : Environment) (p : Prog Call (fun c => Except Failure c.Result) Unit) : Prop :=
  ∃ job : Job, p = job.thread env

abbrev SystemPool := Pool World Call (fun c => Except Failure c.Result)

abbrev SystemLabel := Label Call (fun c => Except Failure c.Result)

/-- The runs of the jobs. -/
abbrev SystemRun (env : Environment) := Run (PoolStep machine (Startable env))

/-- A world before the first job. -/
def idle (w : World) : SystemPool := ⟨w, fun _ => none⟩

/-! ## Roles -/

/-- How far a thread is with an authorization state. -/
inductive StatePhase
  | out
  /-- It found the state under the hash. -/
  | found (stateHash : Text) (id : Nat) (stored : AuthorizationState)
  /-- It read the clock after that. -/
  | read (stateHash : Text) (id : Nat) (stored : AuthorizationState) (now : Int)
  /-- It consumed the state. -/
  | consumed (id : Nat) (request : Request)
  deriving DecidableEq, Repr

/-- How far a thread is with a refresh. -/
inductive RefreshPhase
  | out
  | drawn (leaseId : Nat)
  | claimed (shopId tokenVersion leaseId : Nat) (trigger : Trigger)
  deriving DecidableEq, Repr

structure Role where
  state : StatePhase := .out
  refresh : RefreshPhase := .out
  deriving DecidableEq, Repr

def start : Role := {}

/-- The request shows the code of the state with the hash, from the browser of the state. -/
def Shows (env : Environment) (request : Request) (stateHash : Text)
    (row : AuthorizationState) : Prop :=
  (∃ state code, validateTikTokCallbackInput request.input = .ok (state, code) ∧
    stateHash = env.crypto.digest state) ∧ belongs row request.binding = true

def okCall (env : Environment) (r : Role) : Call → Prop
  | .consumeState id request now => ∃ stateHash stored, r.state = .read stateHash id stored now ∧
      Shows env request stateHash stored
  | .exchange id request _ => r.state = .consumed id request
  | .failPreparation _ _ refreshState _ _ _ => refreshState = .IDLE ∨ refreshState = .FAILED
  | .claimRefresh _ _ leaseId _ _ _ => r.refresh = .drawn leaseId
  | .refresh shopId tokenVersion leaseId trigger _ =>
    r.refresh = .claimed shopId tokenVersion leaseId trigger
  | .failRefresh shopId leaseId tokenVersion _ _ | .persistRotation shopId leaseId tokenVersion _ =>
    ∃ trigger, r.refresh = .claimed shopId tokenVersion leaseId trigger
  | _ => True

def afterNow (now : Int) : StatePhase → StatePhase
  | .found stateHash id stored | .read stateHash id stored _ => .read stateHash id stored now
  | phase => phase

def nextRole (r : Role) : (c : Call) → Except Failure c.Result → Role
  | .now, .ok now => { r with state := afterNow now r.state }
  | .findState stateHash, .ok (some (id, stored)) => { r with state := .found stateHash id stored }
  | .consumeState id request _, .ok count =>
    { r with state := if count = 1 then .consumed id request else .out }
  | .consumeState _ _ _, .error _ => { r with state := .out }
  | .exchange _ _ _, _ => { r with state := .out }
  | .newLease, .ok leaseId => { r with refresh := .drawn leaseId }
  | .claimRefresh shopId tokenVersion leaseId trigger _ _, .ok count =>
    { r with refresh := if count = 1 then .claimed shopId tokenVersion leaseId trigger else .out }
  | .claimRefresh _ _ _ _ _ _, .error _ => { r with refresh := .out }
  | _, _ => r

def protocol (env : Environment) : Protocol Call (fun c => Except Failure c.Result) Role where
  ok := okCall env
  next := nextRole

end tiktok_outreach.tiktok_system
