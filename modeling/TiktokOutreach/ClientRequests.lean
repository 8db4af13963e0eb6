-- `requestRaw` of the client of the reads from TikTok over any governor
-- (packages/tiktok-adapter/src/real-read-only.ts). Every call that it makes of
-- its options may return anything and may throw.
import TiktokOutreach.Lib.Histories
import TiktokOutreach.ReadBoundary
import TiktokOutreach.ReadOnlyClient

open executions json tiktok_outreach.read_governor tiktok_outreach.read_boundary
  tiktok_outreach.read_only_client

namespace tiktok_outreach.client_requests

/-- The options that decide what is called. -/
structure RequestOptions extends ClientOptions where
  /-- A governor is given. -/
  governor : Bool := true
  deriving DecidableEq, Repr

/-- What `requestRaw` is asked for. A body is JSON, which always has a text. -/
structure RequestInput extends RawRequest where
  shopScope : Option String := none

/-- A diagnostic event, without its times. -/
structure TikTokDiagnostics where
  operation : TikTokReadOperation
  httpStatus : Nat
  providerCode : Option Int
  requestId : Option String
  retryCount : Nat
  shopScope : Option String
  deriving DecidableEq, Repr

inductive Call
  /-- The test of `validationActionClaimed`, which sets it at once. -/
  | claimValidationAction
  | acquire (input : ReadInput)
  | requestStarted (lease : TikTokReadLease)
  | succeeded (lease : TikTokReadLease) (event : TikTokReadGovernorEvent)
  | throttled (lease : TikTokReadLease) (event : TikTokReadGovernorEvent)
  | release (lease : TikTokReadLease)
  | now
  /-- The signature and the URL. -/
  | signedUrl (path : Text) (timestamp : Int)
  | fetch
  | diagnostics (event : TikTokDiagnostics)
  | random
  | sleep (ms : ℚ)

/-- What a call returns when it does not throw. -/
@[reducible] def Call.Result : Call → Type
  | claimValidationAction => Bool
  | acquire _ => TikTokReadLease
  | throttled _ _ | now => Int
  | fetch => Response
  | random => ℚ
  | _ => Unit

/-- A program whose local variable is `finalized`. -/
abbrev Request (α : Type) := Js Call Call.Result Failure Bool α

def query (c : Call) : Request c.Result := Js.call c

section Client

variable (options : RequestOptions) (input : RequestInput) (lease : Option TikTokReadLease)

def apiError (kind : TikTokErrorKind) (response : Option Response) (code : Option Int)
    (requestId : Option String) (message : String) (retryAfterMs : Option ℚ)
    (nextPermittedAt : Option Int) : Failure :=
  .api {
    kind, operation := input.operation, httpStatus := response.map (·.status), providerCode := code
    requestId, message, retryAfterMs, nextPermittedAt }

def backoff (attempt : Nat) (retryAfter : Option ℚ) : Request Unit := do
  let random ← query .random
  let jitter : Int := ⌊random * 250⌋
  query (.sleep (retryAfter.getD (min 4000 (250 * 2 ^ attempt) + jitter)))

def reportDiagnostics (response : Response) (code : Option Int) (requestId : Option String)
    (retryCount : Nat) : Request Unit :=
  query (.diagnostics
    ⟨input.operation, response.status, code, requestId, retryCount, input.shopScope⟩)

/-- The governor hears of a throttled read when there is a lease. -/
def throttledLease (event : TikTokReadGovernorEvent) : Request (Option Int) :=
  match lease with
  | none => pure none
  | some lease => do
    let nextPermittedAt ← query (.throttled lease event)
    return some nextPermittedAt

/-- A read that TikTok throttles. -/
def providerThrottled (response : Response) (code : Option Int) (requestId : Option String)
    (retryAfter : Option ℚ) : Request Response := do
  let nextPermittedAt ← throttledLease lease ⟨requestId, retryAfter, code, some response.status⟩
  Js.modifyLocals (fun _ => lease.isSome)
  Js.throw (apiError input .RATE_LIMIT (some response) code requestId
    "TikTok read operation is provider-throttled" retryAfter nextPermittedAt)

/-- A response without a payload. -/
def malformed (response : Response) (retryAfter : Option ℚ) (retryCount : Nat)
    (message : String) : Request Response :=
  if response.status = 429 then do
    reportDiagnostics input response none response.requestId retryCount
    providerThrottled input lease response none response.requestId retryAfter
  else Js.throw (apiError input .MALFORMED_RESPONSE (some response) none response.requestId message
    none none)

def succeededLease (event : TikTokReadGovernorEvent) : Request Unit :=
  match lease with
  | none => pure ()
  | some lease => query (.succeeded lease event)

/-- A payload that is no success. -/
def rejected (response : Response) (code : Option Int) (requestId message : Option String)
    (retryAfter : Option ℚ) (retry : Option (Option ℚ → Request Response)) : Request Response :=
  match errorKind response.status code (message.getD ""), retry with
  | .RATE_LIMIT, _ => providerThrottled input lease response code requestId retryAfter
  | .TEMPORARY, some again => again retryAfter
  | kind, _ => Js.throw (apiError input kind (some response) code requestId
      (message.getD "TikTok API request failed") retryAfter none)

def handleResponse (response : Response) (retryAfter : Option ℚ) (retryCount : Nat)
    (retry : Option (Option ℚ → Request Response)) : Request Response :=
  match response.body with
  | .invalid => malformed input lease response retryAfter retryCount
      "TikTok response was not valid JSON"
  | .noObject => malformed input lease response retryAfter retryCount
      (operationName input.operation ++ ": expected object")
  | .payload code payloadId message => do
    let requestId := payloadId.or response.requestId
    reportDiagnostics input response code requestId retryCount
    if 200 ≤ response.status ∧ response.status < 300 ∧ code = some 0 then do
      succeededLease lease ⟨requestId, none, code, none⟩
      Js.modifyLocals (fun _ => true)
      return response
    else rejected input lease response code requestId message retryAfter retry

def requestStartedLease : Request Unit :=
  match lease with
  | none => pure ()
  | some lease => query (.requestStarted lease)

/-- `fetch`, with an error of the network as a value. -/
def exchange : Request (Except String Response) :=
  Js.tryCatch
    (do
      let response ← query .fetch
      return .ok response)
    (fun cause => pure (.error (causeMessage cause)))

/-- One turn of the loop, with what tries again where that is allowed. -/
def turn (retryCount : Nat) (retry : Option (Option ℚ → Request Response)) : Request Response := do
  requestStartedLease lease
  let milliseconds ← query .now
  query (.signedUrl input.path (milliseconds / 1000))
  let answer ← exchange
  match answer, retry with
  | .error _, some again => again none
  | .error cause, none => Js.throw (apiError input .TEMPORARY none none none cause none none)
  | .ok response, retry => do
    let now ← query .now
    handleResponse input lease response (retryAfterMs response.retryAfter now) retryCount retry

/-- The loop, with the retries that are left: `retryCount` is what they lack to two. -/
def requestLoop : Nat → Request Response
  | 0 => turn input lease 2 none
  | left + 1 =>
    turn input lease (1 - left) (if retries options.toClientOptions input.operation then
      some (fun retryAfter => do
        backoff (1 - left) retryAfter
        requestLoop left)
    else none)

/-- `finally`: a lease that no outcome finalized is released. -/
def releaseUnfinalized : Request Unit := do
  let finalized ← Js.getLocals
  match lease, finalized with
  | some lease, false => Js.tryCatch (query (.release lease)) (fun _ => pure ())
  | _, _ => pure ()

/-- In validation mode a client does one action. -/
def claimAction : Request Unit :=
  if options.validationMode then do
    let claimed ← query .claimValidationAction
    if claimed then
      Js.throw (apiError input .PROVIDER none none none
        "Controlled validation permits at most one physical TikTok API request per action" none none)
    else pure ()
  else pure ()

def acquireLease : Request (Option TikTokReadLease) :=
  if options.governor then do
    let lease ← query (.acquire
      ⟨"TIKTOK_SHOP", input.shopScope.getD "AUTHORIZATION", input.operation⟩)
    return some lease
  else pure none

def requestRaw : Request Response :=
  match assertAllowedTikTokReadRequest input.operation input.method input.path with
  | .error _ => Js.throw (.error "TikTok request blocked by read-only allowlist")
  | .ok () => do
    claimAction options input
    let lease ← acquireLease options input
    Js.tryFinally (requestLoop options input lease 2) (releaseUnfinalized lease)

end Client

/-! ## The life of a client -/

abbrev Answers := History Call (fun c => Except Failure c.Result)

/-- A request that was made, with the rest of its program. -/
structure Started where
  input : RequestInput
  rest : Prog Call (fun c => Except Failure c.Result) Unit

structure ClientState where
  validationActionClaimed : Bool := false
  started : Nat → Option Started := fun _ => none

def ClientState.set (s : ClientState) (i : Nat) (started : Started) : Nat → Option Started :=
  fun j => if j = i then some started else s.started j

inductive ClientLabel
  | start (i : Nat) (input : RequestInput)
  | answer (i : Nat) (c : Call) (res : Except Failure c.Result)

/-- The client answers for its own flag. Everything else may answer anything. -/
def Answers.Possible (claimed : Bool) (c : Call) (res : Except Failure c.Result) : Prop :=
  match c with
  | .claimValidationAction => res = .ok claimed
  | _ => True

/-- The flag after a call. -/
def claimedAfter (claimed : Bool) : Call → Bool
  | .claimValidationAction => true
  | _ => claimed

/-- The requests of a client go on side by side, in any order. -/
inductive ClientStep (options : RequestOptions) : ClientState → ClientLabel → ClientState → Prop
  | start (s : ClientState) (i : Nat) (input : RequestInput) (hfree : s.started i = none) :
      ClientStep options s (.start i input)
        { s with started := s.set i ⟨input, (requestRaw options input).thread false⟩ }
  | answer (s : ClientState) (i : Nat) (input : RequestInput) (c : Call)
      (next : Except Failure c.Result → Prog Call (fun c => Except Failure c.Result) Unit)
      (res : Except Failure c.Result) (hstarted : s.started i = some ⟨input, .call c next⟩)
      (hres : Answers.Possible s.validationActionClaimed c res) :
      ClientStep options s (.answer i c res)
        { validationActionClaimed := claimedAfter s.validationActionClaimed c
          started := s.set i ⟨input, next res⟩ }

/-- The calls of one request with their answers. -/
def historyOf (i : Nat) (ls : List ClientLabel) : Answers :=
  ls.filterMap fun
    | .answer j c res => if j = i then some ⟨c, res⟩ else none
    | .start _ _ => none

end tiktok_outreach.client_requests
