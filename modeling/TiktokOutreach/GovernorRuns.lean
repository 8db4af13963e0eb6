-- The transactions of the governor as steps of runs. One lemma says what each
-- transaction does to the rows of one limiter, and the laws of the limiter
-- use that lemma only.
import TiktokOutreach.OutboundThrottle
import TiktokOutreach.Lib.Runs

open runs

namespace tiktok_outreach.outbound_throttle

/-! ## The rows after one write -/

@[simp] theorem setLimiter_self (db : Store) (key : LimiterKey) (row : Limiter) :
    (db.setLimiter key row).limiters key = some row := by
  simp [Store.setLimiter]

theorem setLimiter_of_ne (db : Store) {key k : LimiterKey} (row : Limiter) (h : k ≠ key) :
    (db.setLimiter key row).limiters k = db.limiters k := by
  simp [Store.setLimiter, h]

@[simp] theorem setLimiter_permits (db : Store) (key : LimiterKey) (row : Limiter) :
    (db.setLimiter key row).permits = db.permits := rfl

@[simp] theorem setLimiter_nextId (db : Store) (key : LimiterKey) (row : Limiter) :
    (db.setLimiter key row).nextId = db.nextId := rfl

@[simp] theorem deletePermit_limiters (db : Store) (permit : Permit) :
    (db.deletePermit permit).limiters = db.limiters := rfl

@[simp] theorem deletePermit_nextId (db : Store) (permit : Permit) :
    (db.deletePermit permit).nextId = db.nextId := rfl

@[simp] theorem deleteExpiredPermits_limiters (db : Store) (key : LimiterKey) (now : Int) :
    (db.deleteExpiredPermits key now).limiters = db.limiters := rfl

@[simp] theorem deleteExpiredPermits_nextId (db : Store) (key : LimiterKey) (now : Int) :
    (db.deleteExpiredPermits key now).nextId = db.nextId := rfl

@[simp] theorem addEvent_limiters (db : Store) (e : Event) :
    (db.addEvent e).limiters = db.limiters := rfl

@[simp] theorem addEvent_permits (db : Store) (e : Event) :
    (db.addEvent e).permits = db.permits := rfl

@[simp] theorem addEvent_nextId (db : Store) (e : Event) :
    (db.addEvent e).nextId = db.nextId := rfl

/-! ## The transactions as data -/

/-- One call of a method of the governor, by any worker, with any permit. -/
inductive GovernorOp
  | acquire (options : Options) (shopId : Nat) (operation : OutboundProviderOperation)
      (owner : String) (now : Int)
  | healthy (permit : Permit) (outcome : String) (meta_ : ResponseMeta) (now : Int)
  | throttle (permit : Permit) (meta_ : ResponseMeta) (retryAfterMs : Option ℚ) (random : ℚ)
      (now : Int)
  | transientFailure (permit : Permit) (meta_ : ResponseMeta) (random : ℚ) (now : Int)
  | quotaBlocked (permit : Permit) (code detail : String) (meta_ : ResponseMeta) (now : Int)
  | release (permit : Permit) (outcome : String) (meta_ : ResponseMeta) (now : Int)

/-- A step of a run: a governor transaction, or one of the two writes from outside. -/
inductive Op
  | governor (op : GovernorOp)
  | heartbeatReset (appScope : String)
  | quotaRecovery (shopId : Nat)

/-- A transaction that throws is rolled back. -/
def committed (db : Store) : Except DbError Store → Store
  | .ok db' => db'
  | .error _ => db

/-- The permit that an `acquire` handed out, when it did. -/
def grantedPermit : Except DbError (PermitResult × Store) → Option Permit
  | .ok (.acquired permit _, _) => some permit
  | _ => none

namespace GovernorOp

def now : GovernorOp → Int
  | acquire _ _ _ _ now => now
  | healthy _ _ _ now => now
  | throttle _ _ _ _ now => now
  | transientFailure _ _ _ now => now
  | quotaBlocked _ _ _ _ now => now
  | release _ _ _ now => now

def apply (op : GovernorOp) (db : Store) : Store :=
  committed db <| match op with
  | acquire options shopId operation owner now =>
    (outbound_throttle.acquire options shopId operation owner now db).map (·.2)
  | healthy permit outcome meta_ now => outbound_throttle.healthy permit outcome meta_ now db
  | throttle permit meta_ retryAfterMs random now =>
    (outbound_throttle.throttle permit meta_ retryAfterMs random now db).map (·.2)
  | transientFailure permit meta_ random now =>
    (outbound_throttle.transientFailure permit meta_ random now db).map (·.2)
  | quotaBlocked permit code detail meta_ now =>
    outbound_throttle.quotaBlocked permit code detail meta_ now db
  | release permit outcome meta_ now => outbound_throttle.release permit outcome meta_ now db

/-- The permit that a settlement gives back, and what it does to the limiter of that permit. -/
def settlement : GovernorOp → Option (Permit × (Limiter → Limiter))
  | acquire _ _ _ _ _ => none
  | healthy permit _ meta_ now => some (permit, fun l => healthyLimiter l meta_ now)
  | throttle permit meta_ retryAfterMs random now =>
    some (permit, fun l => throttledLimiter l meta_ retryAfterMs random now)
  | transientFailure permit meta_ random now =>
    some (permit, fun l => transientLimiter l meta_ random now)
  | quotaBlocked permit code detail meta_ now =>
    some (permit, fun l => quotaBlockedLimiter l code detail meta_ now)
  | release permit _ meta_ _ => some (permit, fun l => releasedLimiter l meta_)

end GovernorOp

def Op.apply (op : Op) (db : Store) : Store :=
  match op with
  | governor op => op.apply db
  | heartbeatReset appScope => outbound_throttle.heartbeatReset appScope db
  | quotaRecovery shopId => outbound_throttle.quotaRecovery shopId db

def runOps (ops : List Op) (db : Store) : Store := ops.foldl (fun db op => op.apply db) db

@[simp] theorem runOps_append (before after : List Op) (db : Store) :
    runOps (before ++ after) db = runOps after (runOps before db) := by
  simp [runOps]

@[simp] theorem runOps_cons (op : Op) (ops : List Op) (db : Store) :
    runOps (op :: ops) db = runOps ops (op.apply db) := rfl

theorem run_runOps (ops : List Op) (db : Store) :
    Run (stepOf Op.apply) db ops (runOps ops db) := run_foldl Op.apply ops db

/-! ## What a settlement does -/

/-- Every settlement gives its permit back and rewrites the limiter of the permit. It fails,
and so changes nothing, when the limiter does not exist. -/
theorem apply_settlement (op : GovernorOp) (db : Store) {permit : Permit}
    {f : Limiter → Limiter} (h : op.settlement = some (permit, f)) :
    ∃ e, op.apply db = match db.limiters permit.limiterId with
      | none => db
      | some l => ((db.deletePermit permit).setLimiter permit.limiterId (f l)).addEvent e := by
  cases op with
  | acquire => simp [GovernorOp.settlement] at h
  | healthy permit' outcome meta_ now =>
    simp only [GovernorOp.settlement, Option.some.injEq, Prod.mk.injEq] at h
    obtain ⟨rfl, rfl⟩ := h
    refine ⟨⟨permit'.limiterId, outcome, meta_.httpStatus, meta_.businessCode, now⟩, ?_⟩
    simp only [GovernorOp.apply, healthy]
    cases db.limiters permit'.limiterId <;> rfl
  | throttle permit' meta_ retryAfterMs random now =>
    simp only [GovernorOp.settlement, Option.some.injEq, Prod.mk.injEq] at h
    obtain ⟨rfl, rfl⟩ := h
    refine ⟨⟨permit'.limiterId, "THROTTLED", meta_.httpStatus, meta_.businessCode, now⟩, ?_⟩
    simp only [GovernorOp.apply, throttle]
    cases db.limiters permit'.limiterId <;> rfl
  | transientFailure permit' meta_ random now =>
    simp only [GovernorOp.settlement, Option.some.injEq, Prod.mk.injEq] at h
    obtain ⟨rfl, rfl⟩ := h
    refine ⟨⟨permit'.limiterId, "TRANSIENT", meta_.httpStatus, meta_.businessCode, now⟩, ?_⟩
    simp only [GovernorOp.apply, transientFailure]
    cases db.limiters permit'.limiterId <;> rfl
  | quotaBlocked permit' code detail meta_ now =>
    simp only [GovernorOp.settlement, Option.some.injEq, Prod.mk.injEq] at h
    obtain ⟨rfl, rfl⟩ := h
    refine ⟨⟨permit'.limiterId, "QUOTA_BLOCKED", meta_.httpStatus, some code, now⟩, ?_⟩
    simp only [GovernorOp.apply, quotaBlocked]
    cases db.limiters permit'.limiterId <;> rfl
  | release permit' outcome meta_ now =>
    simp only [GovernorOp.settlement, Option.some.injEq, Prod.mk.injEq] at h
    obtain ⟨rfl, rfl⟩ := h
    refine ⟨⟨permit'.limiterId, outcome, meta_.httpStatus, meta_.businessCode, now⟩, ?_⟩
    simp only [GovernorOp.apply, release]
    cases db.limiters permit'.limiterId <;> rfl

/-- A settlement rewrites the limiter of its own permit, and no other one. -/
theorem settlement_limiters (op : GovernorOp) (db : Store) {permit : Permit}
    {f : Limiter → Limiter} (h : op.settlement = some (permit, f)) (key : LimiterKey) :
    (op.apply db).limiters key =
      if key = permit.limiterId then (db.limiters key).map f else db.limiters key := by
  obtain ⟨e, he⟩ := apply_settlement op db h
  rw [he]
  by_cases hk : key = permit.limiterId
  · subst hk
    cases hl : db.limiters permit.limiterId with
    | none => simp [hl]
    | some l => simp
  · cases db.limiters permit.limiterId with
    | none => simp [hk]
    | some l => simp [setLimiter_of_ne _ _ hk, hk]

theorem settlement_permits (op : GovernorOp) (db : Store) {permit : Permit}
    {f : Limiter → Limiter} (h : op.settlement = some (permit, f)) :
    (op.apply db).permits = db.permits ∨
      (op.apply db).permits = (db.deletePermit permit).permits := by
  obtain ⟨e, he⟩ := apply_settlement op db h
  rw [he]
  cases db.limiters permit.limiterId with
  | none => exact Or.inl rfl
  | some l => exact Or.inr rfl

theorem settlement_nextId (op : GovernorOp) (db : Store) {permit : Permit}
    {f : Limiter → Limiter} (h : op.settlement = some (permit, f)) :
    (op.apply db).nextId = db.nextId := by
  obtain ⟨e, he⟩ := apply_settlement op db h
  rw [he]
  cases db.limiters permit.limiterId <;> rfl

/-! ## What `acquire` does -/

section Acquire

variable (options : Options) (shopId : Nat) (operation : OutboundProviderOperation)
  (owner : String) (now : Int) (db : Store)

/-- The limiter as `acquire` sees it after its first writes. -/
def seenLimiter : Limiter :=
  preparedLimiter (db.limiters (options.key shopId operation)) (options.initial operation)
    (options.technicalMax operation)

/-- What is true when `acquire` hands out `permit`, and the rows it leaves. -/
structure Granted (permit : Permit) (effectiveConcurrency : Int) (db' : Store) : Prop where
  not_blocked : (seenLimiter options shopId operation db).state ≠ .QUOTA_BLOCKED
  cooled : runningCooldown (seenLimiter options shopId operation db) now = none
  paced : pacedUntil operation (recoveredLimiter (seenLimiter options shopId operation db))
    options.sendInterval now = none
  room : ((db.deleteExpiredPermits (options.key shopId operation) now).permitsOf
    (options.key shopId operation)).length <
      (recoveredLimiter (seenLimiter options shopId operation db)).effectiveConcurrency
  count : effectiveConcurrency =
    (recoveredLimiter (seenLimiter options shopId operation db)).effectiveConcurrency
  permit_eq : permit = ⟨db.nextId, options.key shopId operation, owner, operation⟩
  limiter : db'.limiters (options.key shopId operation) =
    some { recoveredLimiter (seenLimiter options shopId operation db) with
      lastRequestAt := some now }
  others : ∀ k ≠ options.key shopId operation, db'.limiters k = db.limiters k
  permits : db'.permits = (db.deleteExpiredPermits (options.key shopId operation) now).permits ++
    [⟨db.nextId, options.key shopId operation, owner, now + options.permitLeaseMs⟩]
  nextId : db'.nextId = db.nextId + 1

/-- The rows that a refused `acquire` leaves. -/
structure Refused (db' : Store) : Prop where
  limiter : db'.limiters (options.key shopId operation) =
      some (seenLimiter options shopId operation db) ∨
    runningCooldown (seenLimiter options shopId operation db) now = none ∧
    (seenLimiter options shopId operation db).state ≠ .QUOTA_BLOCKED ∧
    db'.limiters (options.key shopId operation) =
      some (recoveredLimiter (seenLimiter options shopId operation db))
  others : ∀ k ≠ options.key shopId operation, db'.limiters k = db.limiters k
  permits : db'.permits = (db.deleteExpiredPermits (options.key shopId operation) now).permits
  nextId : db'.nextId = db.nextId

theorem acquire_cases {result : PermitResult} {db' : Store}
    (h : acquire options shopId operation owner now db = .ok (result, db')) :
    (∃ permit n, result = .acquired permit n ∧
      Granted options shopId operation owner now db permit n db') ∨
    (∃ d s u q, result = .refused d s u q) ∧ Refused options shopId operation now db db' := by
  unfold acquire at h
  simp only at h
  rw [show preparedLimiter (db.limiters (options.key shopId operation)) (options.initial operation)
    (options.technicalMax operation) = seenLimiter options shopId operation db from rfl] at h
  split at h
  · obtain ⟨rfl, rfl⟩ := by simpa using h
    refine Or.inr ⟨⟨_, _, _, _, rfl⟩, Or.inl (by simp), ?_, rfl, rfl⟩
    intro k hk
    simp [setLimiter_of_ne _ _ hk]
  rename_i hblocked
  split at h
  · obtain ⟨rfl, rfl⟩ := by simpa using h
    refine Or.inr ⟨⟨_, _, _, _, rfl⟩, Or.inl (by simp), ?_, rfl, rfl⟩
    intro k hk
    simp [setLimiter_of_ne _ _ hk]
  rename_i hcool
  split at h
  · obtain ⟨rfl, rfl⟩ := by simpa using h
    refine Or.inr ⟨⟨_, _, _, _, rfl⟩, Or.inr ⟨hcool, hblocked, by simp⟩, ?_, rfl, rfl⟩
    intro k hk
    simp [setLimiter_of_ne _ _ hk]
  rename_i hpaced
  split at h
  · obtain ⟨rfl, rfl⟩ := by simpa using h
    refine Or.inr ⟨⟨_, _, _, _, rfl⟩, Or.inr ⟨hcool, hblocked, by simp⟩, ?_, rfl, rfl⟩
    intro k hk
    simp [setLimiter_of_ne _ _ hk]
  rename_i hroom
  split at h
  · cases h
  obtain ⟨rfl, rfl⟩ := by simpa using h
  refine Or.inl ⟨_, _, rfl, hblocked, hcool, hpaced, not_le.1 hroom, rfl, rfl, by simp, ?_,
    rfl, rfl⟩
  intro k hk
  simp [Store.setLimiter, hk]

/-- The two ways an `acquire` of a run can end. A failed one changes nothing. -/
theorem apply_acquire_cases :
    (∃ permit n, grantedPermit (acquire options shopId operation owner now db) = some permit ∧
      Granted options shopId operation owner now db permit n
        ((GovernorOp.acquire options shopId operation owner now).apply db)) ∨
    (grantedPermit (acquire options shopId operation owner now db) = none ∧
      ((GovernorOp.acquire options shopId operation owner now).apply db = db ∨
        Refused options shopId operation now db
          ((GovernorOp.acquire options shopId operation owner now).apply db))) := by
  cases h : acquire options shopId operation owner now db with
  | error e =>
    refine Or.inr ⟨rfl, Or.inl ?_⟩
    simp [GovernorOp.apply, h, Except.map, committed]
  | ok r =>
    obtain ⟨result, db'⟩ := r
    have happly : (GovernorOp.acquire options shopId operation owner now).apply db = db' := by
      simp [GovernorOp.apply, h, Except.map, committed]
    rw [happly]
    rcases acquire_cases options shopId operation owner now db h with
      ⟨permit, n, rfl, hg⟩ | ⟨⟨d, s, u, q, rfl⟩, hr⟩
    · exact Or.inl ⟨permit, n, rfl, hg⟩
    · exact Or.inr ⟨rfl, Or.inr hr⟩

end Acquire

end tiktok_outreach.outbound_throttle
