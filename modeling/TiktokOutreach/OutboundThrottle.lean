-- The outbound provider governor (apps/worker/src/outbound-throttle.ts): one
-- limiter row for each provider, app scope, shop and operation, and the
-- permits and events that hang on it. Each method of the class is one
-- transaction, so each is one function from the stored rows to the next. A
-- `Date` is the milliseconds of its `getTime`, and a `uuid` is a number.
import Mathlib.Tactic

namespace tiktok_outreach.outbound_throttle

inductive OutboundProviderOperation
  | CREATE_CONVERSATION
  | SEND_MESSAGE
  deriving DecidableEq, Repr

/-- The values of the `state` column of a limiter. -/
inductive LimiterState
  | HEALTHY
  | RECOVERING
  | THROTTLED
  | TRANSIENT_BACKOFF
  | QUOTA_BLOCKED
  deriving DecidableEq, Repr

def MAX_RETRY_AFTER_MS : Int := 24 * 60 * 60000
def THROTTLE_BACKOFF_CAP_MS : Int := 60000
def TRANSIENT_BACKOFF_CAP_MS : Int := 30000
def JITTER_MAX_MS : Int := 500

/-! ## The backoff and the concurrency arithmetic -/

/-- `none` stands for `undefined`, `NaN` and the infinities, which the code treats alike. -/
def boundedRetryAfter : Option ℚ → Option Int
  | some value => if 0 ≤ value then some (min value.floor MAX_RETRY_AFTER_MS) else none
  | none => none

/-- `random` is the value that `Math.random` gave. -/
def exponentialBackoffWithJitter (consecutiveFailures : Int) (retryAfterMs : Option ℚ)
    (baseMs capMs : Int) (random : ℚ) : Int :=
  let exponent := min 20 (max 0 (consecutiveFailures - 1))
  let jitter := (max 0 (min (999999 / 1000000) random) * (JITTER_MAX_MS + 1)).floor
  let local_ := min capMs (baseMs * 2 ^ exponent.toNat + jitter)
  max local_ ((boundedRetryAfter retryAfterMs).getD 0)

def decreasedConcurrency (current : Int) : Int := max 1 (max 1 current / 2)

def increasedConcurrency (current technicalMax healthySuccessCount : Int) : Int × Int :=
  let safeCurrent := max 1 (min current technicalMax)
  let nextCount := healthySuccessCount + 1
  if safeCurrent < technicalMax ∧ safeCurrent ≤ nextCount then (safeCurrent + 1, 0)
  else (safeCurrent, nextCount)

/-! ## The stored rows -/

/-- The unique key of a limiter. It never changes, so it also stands for the `id` of the row. -/
structure LimiterKey where
  provider : String
  appScope : String
  shopId : Nat
  operation : OutboundProviderOperation
  deriving DecidableEq, Repr

structure Limiter where
  state : LimiterState := .HEALTHY
  effectiveConcurrency : Int
  technicalMaxConcurrency : Int
  healthySuccessCount : Int := 0
  consecutiveThrottleCount : Int := 0
  consecutiveFailureCount : Int := 0
  nextPermittedAt : Option Int := none
  lastRequestAt : Option Int := none
  lastSuccessAt : Option Int := none
  lastThrottleAt : Option Int := none
  lastHttpStatus : Option Int := none
  lastBusinessCode : Option String := none
  retryAfterMs : Option Int := none
  quotaBlockedAt : Option Int := none
  quotaCode : Option String := none
  quotaDetail : Option String := none
  deriving DecidableEq, Repr

structure PermitRow where
  id : Nat
  limiterId : LimiterKey
  owner : String
  expiresAt : Int
  deriving DecidableEq, Repr

structure Event where
  limiterId : LimiterKey
  outcome : String
  httpStatus : Option Int := none
  businessCode : Option String := none
  occurredAt : Int
  deriving DecidableEq, Repr

structure Store where
  limiters : LimiterKey → Option Limiter
  permits : List PermitRow
  events : List Event
  /-- The next fresh permit id. -/
  nextId : Nat

def Store.empty : Store := ⟨fun _ => none, [], [], 0⟩

def Store.setLimiter (db : Store) (key : LimiterKey) (row : Limiter) : Store :=
  { db with limiters := fun k => if k = key then some row else db.limiters k }

/-- The permits of one limiter, as `count` sees them. -/
def Store.permitsOf (db : Store) (key : LimiterKey) : List PermitRow :=
  db.permits.filter (fun p => p.limiterId = key)

def Store.deleteExpiredPermits (db : Store) (key : LimiterKey) (now : Int) : Store :=
  { db with permits := db.permits.filter (fun p => ¬ (p.limiterId = key ∧ p.expiresAt ≤ now)) }

/-- The permit that `acquire` hands to its caller. -/
structure Permit where
  id : Nat
  limiterId : LimiterKey
  owner : String
  operation : OutboundProviderOperation
  deriving DecidableEq, Repr

/-- `deleteMany` by id and owner, as every settlement does it. -/
def Store.deletePermit (db : Store) (permit : Permit) : Store :=
  { db with permits := db.permits.filter (fun p => ¬ (p.id = permit.id ∧ p.owner = permit.owner)) }

def Store.addEvent (db : Store) (e : Event) : Store := { db with events := db.events ++ [e] }

inductive DbError
  /-- `P2002`: a unique constraint failed. -/
  | uniqueViolation
  /-- `P2025`: a required row does not exist. -/
  | notFound
  deriving DecidableEq, Repr

inductive PermitResult
  | acquired (permit : Permit) (effectiveConcurrency : Int)
  | refused (delayMs : Int) (state : LimiterState) (throttledUntil : Option Int)
      (quotaCode : Option String)
  deriving DecidableEq, Repr

structure ResponseMeta where
  httpStatus : Option Int := none
  businessCode : Option String := none
  deriving DecidableEq, Repr

/-- Prisma leaves a column as it is when its new value is `undefined`. -/
def orKeep {α : Type} (new old : Option α) : Option α := new.or old

/-- What the constructor of the governor accepts. It throws when the bound fails. -/
structure Options where
  provider : String
  appScope : String
  initialConcurrency : Int
  technicalMaxConcurrency : Int
  permitLeaseMs : Int
  sendMessageIntervalMs : Option Int
  initial_le : initialConcurrency ≤ technicalMaxConcurrency

/-- The bounds of the concurrency in small configurations. -/
theorem two_le_four : (2 : Int) ≤ 4 := by omega

namespace Options

def key (options : Options) (shopId : Nat) (operation : OutboundProviderOperation) : LimiterKey :=
  ⟨options.provider, options.appScope, shopId, operation⟩

def technicalMax (options : Options) (operation : OutboundProviderOperation) : Int :=
  if operation = .SEND_MESSAGE then 1 else options.technicalMaxConcurrency

def initial (options : Options) (operation : OutboundProviderOperation) : Int :=
  if operation = .SEND_MESSAGE then 1 else options.initialConcurrency

def sendInterval (options : Options) : Int := max 1000 (options.sendMessageIntervalMs.getD 1000)

end Options

/-! ## `acquire` -/

/-- The upsert of the limiter, then the clamp to the technical maximum. -/
def preparedLimiter (row : Option Limiter) (initialConcurrency technicalMaxConcurrency : Int) :
    Limiter :=
  let limiter : Limiter := match row with
    | some l => { l with technicalMaxConcurrency }
    | none => { effectiveConcurrency := initialConcurrency, technicalMaxConcurrency }
  if technicalMaxConcurrency < limiter.effectiveConcurrency then
    { limiter with effectiveConcurrency := technicalMaxConcurrency, healthySuccessCount := 0 }
  else limiter

/-- A cooldown that is over lifts the limiter to `RECOVERING`. -/
def recoveredLimiter (limiter : Limiter) : Limiter :=
  if limiter.state ≠ .HEALTHY ∧ limiter.nextPermittedAt.isSome then
    { limiter with state := .RECOVERING, nextPermittedAt := none, retryAfterMs := none }
  else limiter

/-- The cooldown that still runs at `now`. -/
def runningCooldown (limiter : Limiter) (now : Int) : Option Int :=
  limiter.nextPermittedAt.filter (fun until_ => now < until_)

/-- The next admission of a `SEND_MESSAGE`, when it lies past `now`. -/
def pacedUntil (operation : OutboundProviderOperation) (limiter : Limiter) (interval : Int)
    (now : Int) : Option Int :=
  if operation = .SEND_MESSAGE then
    (limiter.lastRequestAt.map (· + interval)).filter (fun next => now < next)
  else none

/-- The wait for the earliest permit of a full limiter. -/
def fullDelay (permits : List PermitRow) (now : Int) : Int :=
  let untilExpiry := match (permits.map (·.expiresAt)).min? with
    | some expiresAt => expiresAt - now
    | none => 100
  max 25 (min 250 untilExpiry)

def acquire (options : Options) (shopId : Nat) (operation : OutboundProviderOperation)
    (owner : String) (now : Int) (db : Store) : Except DbError (PermitResult × Store) :=
  let key := options.key shopId operation
  let limiter := preparedLimiter (db.limiters key) (options.initial operation)
    (options.technicalMax operation)
  let db := (db.setLimiter key limiter).deleteExpiredPermits key now
  if limiter.state = .QUOTA_BLOCKED then
    .ok (.refused 60000 limiter.state none limiter.quotaCode, db)
  else match runningCooldown limiter now with
  | some until_ => .ok (.refused (max 25 (until_ - now)) limiter.state (some until_) none, db)
  | none =>
    let limiter := recoveredLimiter limiter
    let db := db.setLimiter key limiter
    match pacedUntil operation limiter options.sendInterval now with
    | some next => .ok (.refused (next - now) limiter.state (some next) none, db)
    | none =>
      let active := db.permitsOf key
      if limiter.effectiveConcurrency ≤ active.length then
        .ok (.refused (fullDelay active now) limiter.state none none, db)
      else if db.permits.any (fun p => p.owner = owner) then
        .error .uniqueViolation
      else
        let permit : PermitRow := ⟨db.nextId, key, owner, now + options.permitLeaseMs⟩
        let db := { db with permits := db.permits ++ [permit], nextId := db.nextId + 1 }
        let db := db.setLimiter key { limiter with lastRequestAt := some now }
        .ok (.acquired ⟨permit.id, key, owner, operation⟩ limiter.effectiveConcurrency,
          db.addEvent { limiterId := key, outcome := "ATTEMPT", occurredAt := now })

/-! ## The settlements of a permit -/

def healthyLimiter (limiter : Limiter) (meta_ : ResponseMeta) (now : Int) : Limiter :=
  let ramp := increasedConcurrency limiter.effectiveConcurrency limiter.technicalMaxConcurrency
    limiter.healthySuccessCount
  { limiter with
    state := if limiter.technicalMaxConcurrency ≤ ramp.1 then .HEALTHY
      else if limiter.state = .HEALTHY then .HEALTHY else .RECOVERING
    effectiveConcurrency := ramp.1
    healthySuccessCount := ramp.2
    consecutiveThrottleCount := 0
    consecutiveFailureCount := 0
    nextPermittedAt := none
    retryAfterMs := none
    lastSuccessAt := some now
    lastHttpStatus := orKeep meta_.httpStatus limiter.lastHttpStatus
    lastBusinessCode := orKeep meta_.businessCode limiter.lastBusinessCode }

def healthy (permit : Permit) (outcome : String) (meta_ : ResponseMeta) (now : Int)
    (db : Store) : Except DbError Store :=
  match db.limiters permit.limiterId with
  | none => .error .notFound
  | some limiter =>
    .ok (((db.deletePermit permit).setLimiter permit.limiterId
      (healthyLimiter limiter meta_ now)).addEvent
      ⟨permit.limiterId, outcome, meta_.httpStatus, meta_.businessCode, now⟩)

/-- The later of the stored cooldown and the new one. -/
def laterCooldown (stored : Option Int) (candidate : Int) : Int :=
  match stored with
  | some t => if candidate < t then t else candidate
  | none => candidate

/-- The `delayMs` of `throttle`. -/
def throttleDelay (limiter : Limiter) (retryAfterMs : Option ℚ) (random : ℚ) : Int :=
  exponentialBackoffWithJitter (limiter.consecutiveThrottleCount + 1) retryAfterMs 1000
    THROTTLE_BACKOFF_CAP_MS random

def throttledLimiter (limiter : Limiter) (meta_ : ResponseMeta) (retryAfterMs : Option ℚ)
    (random : ℚ) (now : Int) : Limiter :=
  { limiter with
    state := .THROTTLED
    effectiveConcurrency := decreasedConcurrency limiter.effectiveConcurrency
    healthySuccessCount := 0
    consecutiveThrottleCount := limiter.consecutiveThrottleCount + 1
    consecutiveFailureCount := 0
    nextPermittedAt := some (laterCooldown limiter.nextPermittedAt
      (now + throttleDelay limiter retryAfterMs random))
    lastThrottleAt := some now
    retryAfterMs := orKeep (boundedRetryAfter retryAfterMs) limiter.retryAfterMs
    lastHttpStatus := orKeep meta_.httpStatus limiter.lastHttpStatus
    lastBusinessCode := orKeep meta_.businessCode limiter.lastBusinessCode }

structure ThrottleResult where
  delayMs : Int
  effectiveConcurrency : Int
  nextPermittedAt : Int
  deriving DecidableEq, Repr

def throttle (permit : Permit) (meta_ : ResponseMeta) (retryAfterMs : Option ℚ) (random : ℚ)
    (now : Int) (db : Store) : Except DbError (ThrottleResult × Store) :=
  match db.limiters permit.limiterId with
  | none => .error .notFound
  | some limiter =>
    let delayMs := throttleDelay limiter retryAfterMs random
    .ok (⟨delayMs, decreasedConcurrency limiter.effectiveConcurrency,
        laterCooldown limiter.nextPermittedAt (now + delayMs)⟩,
      ((db.deletePermit permit).setLimiter permit.limiterId
        (throttledLimiter limiter meta_ retryAfterMs random now)).addEvent
      ⟨permit.limiterId, "THROTTLED", meta_.httpStatus, meta_.businessCode, now⟩)

/-- The `delayMs` of `transientFailure`. -/
def transientDelay (limiter : Limiter) (random : ℚ) : Int :=
  exponentialBackoffWithJitter (limiter.consecutiveFailureCount + 1) none 1000
    TRANSIENT_BACKOFF_CAP_MS random

def transientLimiter (limiter : Limiter) (meta_ : ResponseMeta) (random : ℚ) (now : Int) :
    Limiter :=
  { limiter with
    state := .TRANSIENT_BACKOFF
    consecutiveFailureCount := limiter.consecutiveFailureCount + 1
    nextPermittedAt := some (laterCooldown limiter.nextPermittedAt
      (now + transientDelay limiter random))
    lastHttpStatus := orKeep meta_.httpStatus limiter.lastHttpStatus
    lastBusinessCode := orKeep meta_.businessCode limiter.lastBusinessCode }

structure TransientResult where
  delayMs : Int
  nextPermittedAt : Int
  deriving DecidableEq, Repr

def transientFailure (permit : Permit) (meta_ : ResponseMeta) (random : ℚ) (now : Int)
    (db : Store) : Except DbError (TransientResult × Store) :=
  match db.limiters permit.limiterId with
  | none => .error .notFound
  | some limiter =>
    let delayMs := transientDelay limiter random
    .ok (⟨delayMs, laterCooldown limiter.nextPermittedAt (now + delayMs)⟩,
      ((db.deletePermit permit).setLimiter permit.limiterId
        (transientLimiter limiter meta_ random now)).addEvent
      ⟨permit.limiterId, "TRANSIENT", meta_.httpStatus, meta_.businessCode, now⟩)

def quotaBlockedLimiter (limiter : Limiter) (code detail : String) (meta_ : ResponseMeta)
    (now : Int) : Limiter :=
  { limiter with
    state := .QUOTA_BLOCKED
    healthySuccessCount := 0
    nextPermittedAt := none
    quotaBlockedAt := some now
    quotaCode := some code
    quotaDetail := some detail
    lastHttpStatus := orKeep meta_.httpStatus limiter.lastHttpStatus
    lastBusinessCode := some code }

def quotaBlocked (permit : Permit) (code detail : String) (meta_ : ResponseMeta) (now : Int)
    (db : Store) : Except DbError Store :=
  match db.limiters permit.limiterId with
  | none => .error .notFound
  | some limiter =>
    .ok (((db.deletePermit permit).setLimiter permit.limiterId
      (quotaBlockedLimiter limiter code detail meta_ now)).addEvent
      ⟨permit.limiterId, "QUOTA_BLOCKED", meta_.httpStatus, some code, now⟩)

def releasedLimiter (limiter : Limiter) (meta_ : ResponseMeta) : Limiter :=
  { limiter with
    lastHttpStatus := orKeep meta_.httpStatus limiter.lastHttpStatus
    lastBusinessCode := orKeep meta_.businessCode limiter.lastBusinessCode }

def release (permit : Permit) (outcome : String) (meta_ : ResponseMeta) (now : Int)
    (db : Store) : Except DbError Store :=
  match db.limiters permit.limiterId with
  | none => .error .notFound
  | some limiter =>
    .ok (((db.deletePermit permit).setLimiter permit.limiterId
      (releasedLimiter limiter meta_)).addEvent
      ⟨permit.limiterId, outcome, meta_.httpStatus, meta_.businessCode, now⟩)

/-- `isProviderThrottle`, on the business code as text. -/
def isProviderThrottle (httpStatus : Option Int) (businessCode : Option String) : Bool :=
  httpStatus = some 429 || businessCode.getD "" = "36009002"

/-! ## The two writes of a limiter from outside the class -/

/-- The limiter write of `publishHeartbeat` (apps/worker/src/main.ts), on one row. -/
def heartbeatLimiter (appScope : String) (key : LimiterKey) (limiter : Limiter) : Limiter :=
  if key.appScope = appScope ∧ key.operation = .SEND_MESSAGE ∧
      (limiter.effectiveConcurrency ≠ 1 ∨ limiter.technicalMaxConcurrency ≠ 1) then
    { limiter with
      effectiveConcurrency := 1, technicalMaxConcurrency := 1, healthySuccessCount := 0 }
  else limiter

def heartbeatReset (appScope : String) (db : Store) : Store :=
  { db with limiters := fun k => (db.limiters k).map (heartbeatLimiter appScope k) }

/-- The quota recovery of `OutreachService.resume` (apps/api/src/outreach/outreach.service.ts),
on one row. -/
def recoveryLimiter (shopId : Nat) (key : LimiterKey) (limiter : Limiter) : Limiter :=
  if key.shopId = shopId ∧ limiter.state = .QUOTA_BLOCKED then
    { limiter with
      state := .RECOVERING
      effectiveConcurrency := 1
      healthySuccessCount := 0
      consecutiveThrottleCount := 0
      consecutiveFailureCount := 0
      nextPermittedAt := none
      quotaBlockedAt := none
      quotaCode := none
      quotaDetail := none }
  else limiter

def quotaRecovery (shopId : Nat) (db : Store) : Store :=
  { db with limiters := fun k => (db.limiters k).map (recoveryLimiter shopId k) }

end tiktok_outreach.outbound_throttle
