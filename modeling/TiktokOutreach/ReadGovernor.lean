-- The governor of the reads from TikTok
-- (apps/api/src/integrations/tiktok-read-governor.ts): a lease for each group
-- of operations, a spacing between its holders, and a cooldown of each operation.
import TiktokOutreach.Lib.Executions
import TiktokOutreach.Lib.Tables

open executions tables

namespace tiktok_outreach.read_governor

/-! ## Rows -/

inductive TikTokReadOperation
  | GET_AUTHORIZED_SHOPS
  | GET_CATEGORIES
  | SEARCH_CREATORS
  | GET_CREATOR_PERFORMANCE
  | LIST_CONVERSATIONS
  | LIST_MESSAGES
  deriving DecidableEq, Repr

/-- The operations that share a lease. -/
inductive LeaseGroup
  | AUTHORIZED_SHOPS
  | SEARCH_CREATORS
  | SHOP_HISTORY_READS
  deriving DecidableEq, Repr

/-- The column `operation`: a read, or the group of a lease. -/
inductive RowOperation
  | read (operation : TikTokReadOperation)
  | lease (group : LeaseGroup)
  deriving DecidableEq, Repr

/-- The unique key of `ProviderReadThrottle`. -/
structure RowKey where
  provider : String
  shopScope : String
  operation : RowOperation
  deriving DecidableEq, Repr

structure ProviderReadThrottle where
  consecutiveThrottleCount : Nat := 0
  nextPermittedAt : Option Int := none
  spacingUntil : Option Int := none
  lastProviderRequestId : Option String := none
  retryAfterMs : Option Int := none
  leaseId : Option Nat := none
  leaseExpiresAt : Option Int := none
  deriving DecidableEq, Repr

/-- What a lease is asked for. -/
structure ReadInput where
  provider : String
  shopScope : String
  operation : TikTokReadOperation
  deriving DecidableEq, Repr

structure TikTokReadLease extends ReadInput where
  leaseId : Nat
  deriving DecidableEq, Repr

structure TikTokReadGovernorEvent where
  requestId : Option String := none
  retryAfterMs : Option ℚ := none
  providerCode : Option Int := none
  httpStatus : Option Nat := none
  deriving DecidableEq, Repr

/-! ## Errors -/

inductive TikTokErrorKind
  | AUTH_EXPIRED
  | PERMISSION
  | SHOP_AUTHORIZATION
  | INVALID_SHOP_CIPHER
  | RATE_LIMIT
  | TEMPORARY
  | MALFORMED_RESPONSE
  | REVOKED
  | PROVIDER
  deriving DecidableEq, Repr

structure TikTokApiError where
  kind : TikTokErrorKind
  operation : TikTokReadOperation
  httpStatus : Option Nat := none
  providerCode : Option Int := none
  requestId : Option String := none
  message : String
  retryAfterMs : Option ℚ := none
  nextPermittedAt : Option Int := none
  locallyBlocked : Bool := false
  deriving DecidableEq, Repr

inductive Failure
  | api (error : TikTokApiError)
  | error (message : String)
  deriving DecidableEq, Repr

/-! ## The calls -/

/-- The header `retry-after`, as the language reads it. -/
inductive RetryAfter
  | seconds (value : ℚ)
  | date (time : Int)
  | unreadable
  deriving DecidableEq, Repr

/-- The body of a response. -/
inductive Body
  | invalid
  | noObject
  | payload (code : Option Int) (requestId message : Option String)
  deriving DecidableEq, Repr

structure Response where
  status : Nat
  requestId : Option String := none
  retryAfter : Option RetryAfter := none
  body : Body
  deriving DecidableEq, Repr

/-- The statements of the governor, and what its client does. What `acquire` read of the cooldown
and the reading of the clock of `requestStarted` are there for the statements about runs. -/
inductive Call
  | now
  | newLease
  | upsert (key : RowKey)
  | claim (lease : TikTokReadLease) (now : Int) (permitted : Option Int)
  | find (key : RowKey)
  | requestStarted (lease : TikTokReadLease) (now : Int)
  | clearCooldown (lease : TikTokReadLease) (requestId : Option String)
  | space (lease : TikTokReadLease) (now : Int)
  | findRetryDelay (shopScope : String)
  | storeCooldown (lease : TikTokReadLease) (count : Nat) (nextPermittedAt : Int)
      (retryAfterMs : Option Int) (requestId : Option String)
  | release (lease : TikTokReadLease)
  | jitter
  | sleep (ms : ℚ)
  | send (lease : TikTokReadLease) (startedAt : Int)
  | receive (lease : TikTokReadLease)
  deriving DecidableEq, Repr

/-- What a call returns when it does not throw. -/
@[reducible] def Call.Result : Call → Type
  | now => Int
  | newLease | jitter => Nat
  | upsert _ | find _ => ProviderReadThrottle
  | claim _ _ _ => Nat
  | findRetryDelay _ => Option Int
  | receive _ => Response
  | _ => Unit

/-- A program with local variables. -/
abbrev Program (L α : Type) := Js Call Call.Result Failure L α

/-! ## The governor -/

/-- The options of the governor with their defaults, in milliseconds, and the start of the next
day in the time zone of the shop. -/
structure GovernorOptions where
  spacingMs : Nat := 750
  marketplaceSpacingMs : Nat
  leaseMs : Nat := 120000
  nextLocalDay : Int → Int

def CREATOR_MARKETPLACE_RETRY_MS : Int := 5000

def DEFAULT_MARKETPLACE_RETRY_DELAY_SECONDS : Int := 3

def MIN_MARKETPLACE_RETRY_DELAY_SECONDS : Int := 1

def marketplaceRetryDelayMs (seconds : Int) : Int := seconds * 1000

def safeDelay (value : Option ℚ) : Option Int :=
  (value.filter (fun ms => 0 ≤ ms)).map (fun ms => min ⌊ms⌋ (24 * 60 * 60000))

def latestDate (a b : Option Int) : Option Int :=
  match a, b with
  | some a, some b => some (max a b)
  | some a, none => some a
  | none, b => b

def leaseOperation : TikTokReadOperation → LeaseGroup
  | .GET_AUTHORIZED_SHOPS => .AUTHORIZED_SHOPS
  | .SEARCH_CREATORS => .SEARCH_CREATORS
  | _ => .SHOP_HISTORY_READS

def spacingMs (options : GovernorOptions) (operation : TikTokReadOperation) : Nat :=
  if operation = .SEARCH_CREATORS then options.marketplaceSpacingMs else options.spacingMs

/-- The row of an operation. -/
def ReadInput.operationKey (input : ReadInput) : RowKey :=
  ⟨input.provider, input.shopScope, .read input.operation⟩

/-- The row of the lease of an operation. -/
def ReadInput.groupKey (input : ReadInput) : RowKey :=
  ⟨input.provider, input.shopScope, .lease (leaseOperation input.operation)⟩

def TIKTOK_COOLING_DOWN : Int := 36009002

def TIKTOK_DAILY_QUOTA : Int := 45101004

section Governor

variable {L : Type} (options : GovernorOptions)

def query (c : Call) : Program L c.Result := Js.call c

def configuredMarketplaceRetryDelayMs (shopScope : String) : Program L Int := do
  let seconds ← query (.findRetryDelay shopScope)
  return marketplaceRetryDelayMs
    ((seconds.filter (fun s => MIN_MARKETPLACE_RETRY_DELAY_SECONDS ≤ s)).getD
      DEFAULT_MARKETPLACE_RETRY_DELAY_SECONDS)

/-- The error of an operation that cools down. -/
def coolingDown (input : ReadInput) (row : ProviderReadThrottle) : Failure :=
  .api {
    kind := .RATE_LIMIT
    operation := input.operation
    httpStatus := some 429
    providerCode := some TIKTOK_COOLING_DOWN
    requestId := row.lastProviderRequestId
    message := "TikTok read operation is cooling down; no provider request was made"
    retryAfterMs := row.retryAfterMs.map (fun ms => (ms : ℚ))
    nextPermittedAt := row.nextPermittedAt
    locallyBlocked := true }

/-- The error of an operation whose lease is taken or that comes too early. -/
def inFlight (input : ReadInput) (row : ProviderReadThrottle) (next : Int) : Failure :=
  .api {
    kind := .RATE_LIMIT
    operation := input.operation
    httpStatus := some 429
    requestId := row.lastProviderRequestId
    message :=
      "TikTok read operation is already in flight or locally paced; no provider request was made"
    retryAfterMs := row.retryAfterMs.map (fun ms => (ms : ℚ))
    nextPermittedAt := some next
    locallyBlocked := true }

def acquire (input : ReadInput) : Program L TikTokReadLease := do
  let now ← query .now
  let leaseId ← query .newLease
  let operationState ← query (.upsert input.operationKey)
  if operationState.nextPermittedAt.any (fun permitted => now < permitted) then
    Js.throw (coolingDown input operationState)
  else do
    let _ ← query (.upsert input.groupKey)
    let claimed ← query (.claim ⟨input, leaseId⟩ now operationState.nextPermittedAt)
    if claimed = 1 then return ⟨input, leaseId⟩
    else do
      let current ← query (.find input.groupKey)
      Js.throw (inFlight input operationState
        ((latestDate current.spacingUntil current.leaseExpiresAt).getD now))

/-- The reading of the clock is returned for the statements about runs. -/
def requestStarted (lease : TikTokReadLease) : Program L Int := do
  let now ← query .now
  query (.requestStarted lease now)
  return now

def release (lease : TikTokReadLease) : Program L Unit := query (.release lease)

def succeeded (lease : TikTokReadLease) (event : TikTokReadGovernorEvent) : Program L Unit := do
  let now ← query .now
  query (.clearCooldown lease event.requestId)
  query (.space lease now)
  release lease

/-- A throttled search of the marketplace waits as long as its job says. -/
def marketplaceRetry (operation : TikTokReadOperation) (event : TikTokReadGovernorEvent) : Bool :=
  operation = .SEARCH_CREATORS &&
    (event.httpStatus = some 429 || event.providerCode = some TIKTOK_COOLING_DOWN)

def localBackoffMs (lease : TikTokReadLease) (event : TikTokReadGovernorEvent) (count : Nat) :
    Program L Int :=
  if marketplaceRetry lease.operation event then configuredMarketplaceRetryDelayMs lease.shopScope
  else if lease.operation = .SEARCH_CREATORS then pure CREATOR_MARKETPLACE_RETRY_MS
  else pure (min (15 * 60000) (5000 * 2 ^ min (count - 1) 20))

def throttled (lease : TikTokReadLease) (event : TikTokReadGovernorEvent) : Program L Int := do
  let current ← query (.find lease.operationKey)
  let count := current.consecutiveThrottleCount + 1
  let retryAfterMs := safeDelay event.retryAfterMs
  let backoffMs ← localBackoffMs lease event count
  let cooldownMs := max backoffMs (retryAfterMs.getD 0)
  let now ← query .now
  let nextPermittedAt :=
    if event.providerCode = some TIKTOK_DAILY_QUOTA then options.nextLocalDay now
    else now + cooldownMs
  query (.storeCooldown lease count nextPermittedAt retryAfterMs event.requestId)
  release lease
  return nextPermittedAt

end Governor

end tiktok_outreach.read_governor
