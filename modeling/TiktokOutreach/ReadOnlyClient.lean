-- The client of the reads from TikTok, `TikTokReadOnlyHttpClient`
-- (packages/tiktok-adapter/src/real-read-only.ts): one lease for a read and
-- all its retries.
import TiktokOutreach.ReadGovernor

open executions tiktok_outreach.read_governor

namespace tiktok_outreach.read_only_client

/-! ## Answers of TikTok -/

/-- What exceeds a double. -/
def INFINITE : ℚ := 2 ^ 1024 - 2 ^ 970

def retryAfterMs (value : Option RetryAfter) (now : Int) : Option ℚ :=
  match value with
  | some (.seconds s) => if 0 ≤ s * 1000 ∧ s * 1000 < INFINITE then some (s * 1000) else none
  | some (.date time) => if now < time then some ((time - now : Int) : ℚ) else none
  | _ => none

/-- `/shop|cipher/i` -/
def namesShop (message : String) : Bool :=
  let text := message.toLower.toList
  text.tails.any (fun rest => "shop".toList.isPrefixOf rest || "cipher".toList.isPrefixOf rest)

def errorKind (status : Nat) (code : Option Int) (message : String) : TikTokErrorKind :=
  if status = 429 ∨ code = some 45101004 ∨ code = some 36009002 then .RATE_LIMIT
  else if 500 ≤ status ∨ code = some 36009003 ∨ code = some 36009007 then .TEMPORARY
  else if code = some 105002 then .AUTH_EXPIRED
  else if code = some 105001 then .REVOKED
  else if code = some 105005 then .PERMISSION
  else if code = some 106013 ∨ code = some 101000 ∧ namesShop message = true then
    .INVALID_SHOP_CIPHER
  else if code = some 101000 then .SHOP_AUTHORIZATION
  else .PROVIDER

def operationName : TikTokReadOperation → String
  | .GET_AUTHORIZED_SHOPS => "GET_AUTHORIZED_SHOPS"
  | .GET_CATEGORIES => "GET_CATEGORIES"
  | .SEARCH_CREATORS => "SEARCH_CREATORS"
  | .GET_CREATOR_PERFORMANCE => "GET_CREATOR_PERFORMANCE"
  | .LIST_CONVERSATIONS => "LIST_CONVERSATIONS"
  | .LIST_MESSAGES => "LIST_MESSAGES"

/-! ## The client -/

structure ClientOptions where
  validationMode : Bool := false
  automaticRetries : Bool := true
  deriving DecidableEq, Repr

/-- A read, with what is known of it before its lease is asked for. -/
structure ReadRequest extends ReadInput where
  /-- `assertAllowedTikTokReadRequest` lets it pass. -/
  allowed : Bool := true
  /-- The client has done its one request of a controlled validation. -/
  validationActionClaimed : Bool := false
  deriving DecidableEq, Repr

section Client

variable (governor : GovernorOptions) (options : ClientOptions)

/-- A read that may be tried again. -/
def retries (operation : TikTokReadOperation) : Bool :=
  options.automaticRetries && operation ≠ .SEARCH_CREATORS && !options.validationMode

def backoff (attempt : Nat) (retryAfter : Option ℚ) : Program Bool Unit := do
  let jitter ← query .jitter
  query (.sleep (retryAfter.getD (min 4000 (250 * 2 ^ attempt) + jitter)))

def apiError (lease : TikTokReadLease) (kind : TikTokErrorKind) (response : Option Response)
    (code : Option Int) (requestId : Option String) (message : String)
    (retryAfterMs : Option ℚ) (nextPermittedAt : Option Int) : Failure :=
  .api {
    kind, operation := lease.operation, httpStatus := response.map (·.status), providerCode := code
    requestId, message, retryAfterMs, nextPermittedAt }

def setFinalized : Program Bool Unit := Js.modifyLocals (fun _ => true)

/-- What goes on with the loop, after the wait that TikTok asked for or another one. -/
abbrev Retry := Option ℚ → Program Bool Response

/-- A read that TikTok throttles. -/
def providerThrottled (lease : TikTokReadLease) (response : Response) (code : Option Int)
    (requestId : Option String) (retryAfter : Option ℚ) : Program Bool Response := do
  let nextPermittedAt ← throttled governor lease
    ⟨requestId, retryAfter, code, some response.status⟩
  setFinalized
  Js.throw (apiError lease .RATE_LIMIT (some response) code requestId
    "TikTok read operation is provider-throttled" retryAfter (some nextPermittedAt))

/-- A response without a payload. -/
def malformed (lease : TikTokReadLease) (response : Response) (retryAfter : Option ℚ)
    (message : String) : Program Bool Response :=
  if response.status = 429 then
    providerThrottled governor lease response none response.requestId retryAfter
  else Js.throw (apiError lease .MALFORMED_RESPONSE (some response) none response.requestId message
    none none)

/-- A payload that is no success. -/
def rejected (lease : TikTokReadLease) (response : Response) (code : Option Int)
    (requestId message : Option String) (retryAfter : Option ℚ) (retry : Option Retry) :
    Program Bool Response :=
  match errorKind response.status code (message.getD ""), retry with
  | .RATE_LIMIT, _ => providerThrottled governor lease response code requestId retryAfter
  | .TEMPORARY, some again => again retryAfter
  | kind, _ => Js.throw (apiError lease kind (some response) code requestId
      (message.getD "TikTok API request failed") retryAfter none)

def handleResponse (lease : TikTokReadLease) (response : Response) (retryAfter : Option ℚ)
    (retry : Option Retry) : Program Bool Response :=
  match response.body with
  | .invalid => malformed governor lease response retryAfter "TikTok response was not valid JSON"
  | .noObject => malformed governor lease response retryAfter
      (operationName lease.operation ++ ": expected object")
  | .payload code payloadId message =>
    let requestId := payloadId.or response.requestId
    if 200 ≤ response.status ∧ response.status < 300 ∧ code = some 0 then do
      succeeded lease ⟨requestId, none, code, none⟩
      setFinalized
      return response
    else rejected governor lease response code requestId message retryAfter retry

/-- The text of an error of the network. -/
def causeMessage : Failure → String
  | .error message => message
  | .api e => e.message

/-- The exchange with TikTok: an error of the network is a value. -/
def exchange (lease : TikTokReadLease) (startedAt : Int) :
    Program Bool (Except String Response) := do
  query (.send lease startedAt)
  Js.tryCatch
    (do
      let response ← query (.receive lease)
      return .ok response)
    (fun e => pure (.error (causeMessage e)))

/-- One turn of the loop, with what tries again when that is allowed. -/
def turn (lease : TikTokReadLease) (retry : Option Retry) : Program Bool Response := do
  let startedAt ← requestStarted lease
  let _ ← query .now
  let answer ← exchange lease startedAt
  match answer, retry with
  | .error _, some again => again none
  | .error cause, none => Js.throw (apiError lease .TEMPORARY none none none cause none none)
  | .ok response, retry => do
    let now ← query .now
    handleResponse governor lease response (retryAfterMs response.retryAfter now) retry

/-- The loop, with the retries that are left. -/
def requestLoop (lease : TikTokReadLease) : Nat → Program Bool Response
  | 0 => turn governor lease none
  | left + 1 => turn governor lease (if retries options lease.operation then
      some (fun retryAfter => do
        backoff (1 - left) retryAfter
        requestLoop lease left)
    else none)

/-- `finally`: a lease that no outcome released is released. -/
def releaseUnfinalized (lease : TikTokReadLease) : Program Bool Unit := do
  let finalized ← Js.getLocals
  if finalized then pure ()
  else Js.tryCatch (release lease) (fun _ => pure ())

def requestRaw (request : ReadRequest) : Program Bool Response :=
  if !request.allowed then Js.throw (.error "TikTok request blocked by read-only allowlist")
  else if options.validationMode && request.validationActionClaimed then
    Js.throw (.api {
      kind := .PROVIDER
      operation := request.operation
      message :=
        "Controlled validation permits at most one physical TikTok API request per action" })
  else do
    let lease ← acquire request.toReadInput
    Js.tryFinally (requestLoop governor options lease 2) (releaseUnfinalized lease)

end Client

end tiktok_outreach.read_only_client
