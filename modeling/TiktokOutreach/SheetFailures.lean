-- The failures of the creator sheet: which of them are worth another attempt
-- (apps/api/src/creator-database/creator-sheet.gateway.ts), and when the page that waits for the
-- sheet is tried again.
import TiktokOutreach.CommandEffects
import TiktokOutreach.Lib.Texts
import TiktokOutreach.Lib.Values

open tables transactions texts values tiktok_outreach.creator_schema tiktok_outreach.creator_sync
  tiktok_outreach.command_effects

namespace tiktok_outreach.sheet_failures

/-! ## The texts of a response -/

/-- The letter cases and the texts of numbers. A text in lower case has no capital of ASCII. -/
structure Language where
  toLowerCase : String → String
  toUpperCase : String → String
  numberText : Option ℚ → String
  no_capital : ∀ s, ∀ c ∈ (toLowerCase s).toList, c.isUpper = false

/-- What a field of `null`, the call of a value and an object without a text throw. -/
def typeError : Failure := .other "TypeError"

section Texts

variable (lang : Language)

mutual

/-- `String(value)`, if it has one. A field `toString` of an object hides the function of that
name. -/
def stringOf : Value → Option String
  | .null => some "null"
  | .boolean b => some (if b then "true" else "false")
  | .number n => some (lang.numberText n)
  | .text s => some s
  | .array elements => (stringsOf elements).map (join ",")
  | .object fields => if (getField fields "toString").isSome then none else some "[object Object]"

/-- The texts of the elements of an array, where that of `null` is empty. -/
def stringsOf : List Value → Option (List String)
  | [] => some []
  | .null :: rest => (stringsOf rest).map (fun texts => "" :: texts)
  | value :: rest =>
    (stringOf value).bind (fun first => (stringsOf rest).map (fun texts => first :: texts))

end

/-- `text(value)` -/
def text : Option Value → Except Failure (Option String)
  | none => .ok none
  | some .null => .ok none
  | some value =>
    match stringOf lang value with
    | none => .error typeError
    | some s => .ok (if trim s = "" then none else some (trim s))

end Texts

/-- `value.name` -/
def property (name : String) (value : Value) : Except Failure (Option Value) :=
  match value with
  | .null => .error typeError
  | value => .ok (value.field name)

/-- `value?.name` -/
def optionalProperty (name : String) (value : Option Value) : Option Value :=
  value.bind (Value.field name)

/-- What `(errors ?? []).map` goes over. -/
def items : Option Value → Except Failure (List Value)
  | none => .ok []
  | some .null => .ok []
  | some (.array elements) => .ok elements
  | some _ => .error typeError

/-! ## `responseIsRetryable` -/

def RETRYABLE_REASONS : List String := ["rateLimitExceeded", "userRateLimitExceeded", "backendError"]

def RETRYABLE_STATUSES : List String :=
  ["RESOURCE_EXHAUSTED", "UNAVAILABLE", "DEADLINE_EXCEEDED", "INTERNAL", "ABORTED"]

def retryableStatus : Option Nat → Bool
  | none => true
  | some httpStatus => httpStatus = 408 || httpStatus = 409 || httpStatus = 425 ||
      httpStatus = 429 || 500 ≤ httpStatus

section Responses

variable (lang : Language)

/-- `text(item.reason)?.toLowerCase()` -/
def reasonOf (item : Value) : Except Failure (Option String) := do
  let reason ← property "reason" item
  let reason ← text lang reason
  return reason.map lang.toLowerCase

def reasonsOf : List Value → Except Failure (List (Option String))
  | [] => .ok []
  | item :: rest => do
    let reason ← reasonOf lang item
    let reasons ← reasonsOf rest
    return reason :: reasons

def responseIsRetryable (httpStatus : Option Nat) (payload : Value) : Except Failure Bool := do
  let error ← property "error" payload
  let status ← text lang (optionalProperty "status" error)
  let errors ← items (optionalProperty "errors" error)
  let reasons ← reasonsOf lang errors
  let reasons := (reasons.filterMap id).filter (· ≠ "")
  if RETRYABLE_REASONS.any (fun reason => reasons.contains reason) then return true
  else if RETRYABLE_STATUSES.contains ((status.map lang.toUpperCase).getD "") then return true
  else return retryableStatus httpStatus

/-- The error of a response: that of the sheet, or what its reading threw. -/
def failureFromResponse (httpStatus : Option Nat) (payload : Value) : Failure :=
  match responseIsRetryable lang httpStatus payload with
  | .ok retryable => .sheets retryable
  | .error e => e

/-- How a request to the sheet fails. -/
inductive Outcome
  /-- A response whose status is that of an error. -/
  | response (httpStatus : Nat) (payload : Value)
  /-- No response, or one that is not readable. -/
  | unanswered
  /-- The service account is missing or invalid. -/
  | notConfigured

def Outcome.failure : Outcome → Failure
  | response httpStatus payload => failureFromResponse lang (some httpStatus) payload
  | unanswered => .sheets true
  | notConfigured => .sheets false

/-! ## What a response names -/

/-- A reason of the response is one of those of a limit or of the backend, in any letter case. -/
def NamesLimit (payload : Value) : Prop :=
  ∃ errors, optionalProperty "errors" (payload.field "error") = some (.array errors) ∧
    ∃ item ∈ errors, ∃ reason, text lang (item.field "reason") = .ok (some reason) ∧
      ∃ name ∈ RETRYABLE_REASONS, lang.toLowerCase reason = lang.toLowerCase name

/-- There is a text, or nothing, to be read. -/
def Speaks (value : Option Value) : Prop := ∃ s, text lang value = .ok s

/-- Nothing of the response makes its reading throw. -/
def WellShaped (payload : Value) : Prop :=
  payload ≠ .null ∧ Speaks lang (optionalProperty "status" (payload.field "error")) ∧
    ∃ errors, items (optionalProperty "errors" (payload.field "error")) = .ok errors ∧
      ∀ item ∈ errors, item ≠ .null ∧ Speaks lang (item.field "reason")

/-- The status of the error, in capitals, is one of those that pass. -/
def PassingStatus (payload : Value) : Prop :=
  ∃ status, text lang (optionalProperty "status" (payload.field "error")) = .ok (some status) ∧
    lang.toUpperCase status ∈ RETRYABLE_STATUSES

variable {lang}

/-! ## What is worth another attempt -/

theorem property_eq {value : Value} (h : value ≠ .null) (name : String) :
    property name value = .ok (value.field name) := by
  cases value with
  | null => exact absurd rfl h
  | _ => rfl

variable (lang) in
/-- A text that is read is no error, and an error is that of the language. -/
theorem text_cases (value : Option Value) : Speaks lang value ∨ text lang value = .error typeError := by
  rcases value with _ | value
  · exact .inl ⟨none, rfl⟩
  · unfold Speaks text
    cases value with
    | null => exact .inl ⟨none, rfl⟩
    | _ =>
      simp only
      split
      · exact .inr rfl
      · exact .inl ⟨_, rfl⟩

theorem reasonOf_speaks {item : Value} (hitem : item ≠ .null)
    (hreason : Speaks lang (item.field "reason")) :
    ∃ reason : Option String, reasonOf lang item = .ok (reason.map lang.toLowerCase) := by
  obtain ⟨reason, hreason⟩ := hreason
  refine ⟨reason, ?_⟩
  unfold reasonOf
  rw [property_eq hitem]
  simp only [bind, Except.bind, hreason]
  rfl

theorem reasonOf_error {item : Value} (h : ¬ (item ≠ .null ∧ Speaks lang (item.field "reason"))) :
    reasonOf lang item = .error typeError := by
  unfold reasonOf
  by_cases hitem : item = .null
  · rw [hitem]
    rfl
  · have hsilent : ¬ Speaks lang (item.field "reason") := fun hspeaks => h ⟨hitem, hspeaks⟩
    have htext := (text_cases lang (item.field "reason")).resolve_left hsilent
    rw [property_eq hitem]
    simp only [bind, Except.bind, htext]

variable (lang) in
/-- The reasons of a response are texts in lower case. -/
theorem reasonsOf_cases (errors : List Value) :
    ((∀ item ∈ errors, item ≠ .null ∧ Speaks lang (item.field "reason")) ∧
      ∃ given : List (Option String), reasonsOf lang errors =
        .ok (given.map (Option.map lang.toLowerCase))) ∨
    (¬ (∀ item ∈ errors, item ≠ .null ∧ Speaks lang (item.field "reason")) ∧
      reasonsOf lang errors = .error typeError) := by
  induction errors with
  | nil => exact .inl ⟨by simp, [], rfl⟩
  | cons item rest ih =>
    unfold reasonsOf
    by_cases hitem : item ≠ .null ∧ Speaks lang (item.field "reason")
    · obtain ⟨reason, hreason⟩ := reasonOf_speaks hitem.1 hitem.2
      rcases ih with ⟨hrest, given, hgiven⟩ | ⟨hrest, herror⟩
      · refine .inl ⟨by simpa [hitem] using hrest, reason :: given, ?_⟩
        simp only [bind, Except.bind, hreason, hgiven]
        rfl
      · refine .inr ⟨by simpa [hitem] using hrest, ?_⟩
        simp only [bind, Except.bind, hreason, herror]
    · refine .inr ⟨fun hall => hitem (hall item List.mem_cons_self), ?_⟩
      rw [reasonOf_error hitem]
      rfl

/-- No text in lower case is one of the names, which have a capital each. -/
theorem no_reason_retries (given : List (Option String)) :
    RETRYABLE_REASONS.any (fun reason =>
      (((given.map (Option.map lang.toLowerCase)).filterMap id).filter (· ≠ "")).contains reason) =
        false := by
  have hcapitals : RETRYABLE_REASONS.all (·.toList.any Char.isUpper) = true := by decide
  rw [List.any_eq_false]
  intro name hname hcontained
  obtain ⟨c, hc, hupper⟩ := List.any_eq_true.1 (List.all_eq_true.1 hcapitals name hname)
  simp only [List.contains_iff_mem, List.mem_filter, List.mem_filterMap, List.mem_map, id_eq,
    exists_eq_right] at hcontained
  obtain ⟨⟨reason, _, hlower⟩, _⟩ := hcontained
  obtain ⟨s, _, rfl⟩ := Option.map_eq_some_iff.1 hlower
  rw [lang.no_capital s c hc] at hupper
  cases hupper

theorem passing_iff {payload : Value} {status : Option String}
    (h : text lang (optionalProperty "status" (payload.field "error")) = .ok status) :
    RETRYABLE_STATUSES.contains ((status.map lang.toUpperCase).getD "") = true ↔
      PassingStatus lang payload := by
  have hempty : "" ∉ RETRYABLE_STATUSES := by decide
  unfold PassingStatus
  rw [h, List.contains_iff_mem]
  cases status with
  | none => simp [hempty]
  | some s => simp

theorem items_cases (errors : Option Value) :
    (∃ elements, items errors = .ok elements) ∨ items errors = .error typeError := by
  unfold items
  split
  · exact .inl ⟨[], rfl⟩
  · exact .inl ⟨[], rfl⟩
  · exact .inl ⟨_, rfl⟩
  · exact .inr rfl

variable (lang) in
/-- The steps of `responseIsRetryable` behind the error of the payload. -/
theorem responseIsRetryable_eq {payload : Value} (hnull : payload ≠ .null)
    (httpStatus : Option Nat) :
    responseIsRetryable lang httpStatus payload =
      (text lang (optionalProperty "status" (payload.field "error"))).bind fun status =>
        (items (optionalProperty "errors" (payload.field "error"))).bind fun errors =>
        (reasonsOf lang errors).bind fun reasons =>
        if RETRYABLE_REASONS.any (fun reason =>
            ((reasons.filterMap id).filter (· ≠ "")).contains reason) then .ok true
        else if RETRYABLE_STATUSES.contains ((status.map lang.toUpperCase).getD "") then .ok true
        else .ok (retryableStatus httpStatus) := by
  unfold responseIsRetryable
  rw [property_eq hnull]
  rfl

theorem retryable_of_wellShaped {payload : Value} (h : WellShaped lang payload)
    (httpStatus : Option Nat) : ∃ retryable,
      responseIsRetryable lang httpStatus payload = .ok retryable ∧
        (retryable = true ↔ PassingStatus lang payload ∨ retryableStatus httpStatus = true) := by
  obtain ⟨hnull, ⟨status, hstatus⟩, errors, herrors, hall⟩ := h
  obtain ⟨_, given, hgiven⟩ | ⟨hbad, _⟩ := reasonsOf_cases lang errors
  · have hread := responseIsRetryable_eq lang hnull httpStatus
    rw [hstatus, herrors] at hread
    simp only [Except.bind, hgiven, no_reason_retries, Bool.false_eq_true, if_false] at hread
    rw [← passing_iff hstatus]
    by_cases hpasses : RETRYABLE_STATUSES.contains ((status.map lang.toUpperCase).getD "") = true
    · rw [if_pos hpasses] at hread
      exact ⟨true, hread, by simp only [hpasses, true_or]⟩
    · rw [if_neg hpasses] at hread
      exact ⟨_, hread, by simp only [hpasses, Bool.false_eq_true, false_or]⟩
  · exact absurd hall hbad

theorem throws_of_malformed {payload : Value} (h : ¬ WellShaped lang payload)
    (httpStatus : Option Nat) :
    responseIsRetryable lang httpStatus payload = .error typeError := by
  by_cases hnull : payload = .null
  · rw [hnull]
    rfl
  have hread := responseIsRetryable_eq lang hnull httpStatus
  rcases text_cases lang (optionalProperty "status" (payload.field "error")) with
    ⟨status, hstatus⟩ | hstatus
  · rcases items_cases (optionalProperty "errors" (payload.field "error")) with
      ⟨errors, herrors⟩ | herrors
    · rcases reasonsOf_cases lang errors with ⟨hall, _⟩ | ⟨_, herror⟩
      · exact absurd ⟨hnull, ⟨status, hstatus⟩, errors, herrors, hall⟩ h
      · rw [hread, hstatus, herrors]
        simp only [Except.bind, herror]
    · rw [hread, hstatus, herrors]
      rfl
  · rw [hread, hstatus]
    rfl

variable (lang) in
/-- A response is tried again when its reading throws, by its status or by its HTTP status. -/
theorem retryable_iff (httpStatus : Option Nat) (payload : Value) :
    googleSheetsFailure (failureFromResponse lang httpStatus payload) = true ↔
      ¬ WellShaped lang payload ∨ PassingStatus lang payload ∨
        retryableStatus httpStatus = true := by
  unfold failureFromResponse
  by_cases hshape : WellShaped lang payload
  · obtain ⟨retryable, hrun, hiff⟩ := retryable_of_wellShaped hshape httpStatus
    rw [hrun]
    simp [googleSheetsFailure, hshape, hiff]
  · rw [throws_of_malformed hshape httpStatus]
    simp [googleSheetsFailure, typeError, hshape]

end Responses

/-! ## Delays -/

/-- The delay of an attempt without its jitter. -/
def baseDelay (attempt : Nat) : Int :=
  SHEETS_RETRY_BASE_DELAYS_MS.getD
    (min (max 1 attempt - 1) (SHEETS_RETRY_BASE_DELAYS_MS.length - 1)) SHEETS_BLOCKED_RETRY_MS

/-- The table: no base is above the blocked interval, a tenth more is at most the next base, and
from the last one on there is no room for a jitter. -/
theorem base_table : ∀ i ≤ 6, (0 ≤ SHEETS_RETRY_BASE_DELAYS_MS.getD i SHEETS_BLOCKED_RETRY_MS ∧
      SHEETS_RETRY_BASE_DELAYS_MS.getD i SHEETS_BLOCKED_RETRY_MS ≤ 300000) ∧
    ∀ j ≤ 6, i < j ∨ i = 6 ∧ j = 6 →
      11 * SHEETS_RETRY_BASE_DELAYS_MS.getD i SHEETS_BLOCKED_RETRY_MS ≤
          10 * SHEETS_RETRY_BASE_DELAYS_MS.getD j SHEETS_BLOCKED_RETRY_MS ∨
        300000 ≤ SHEETS_RETRY_BASE_DELAYS_MS.getD j SHEETS_BLOCKED_RETRY_MS := by
  decide

theorem jitter_bounds {base room : Int} (hbase : 0 ≤ base) (hroom : 0 ≤ room) (random : ℚ) :
    0 ≤ (min ((base : ℚ) / 10) room * min 1 (max 0 random)).floor ∧
      10 * (min ((base : ℚ) / 10) room * min 1 (max 0 random)).floor ≤ base ∧
      (min ((base : ℚ) / 10) room * min 1 (max 0 random)).floor ≤ room := by
  have hbase' : (0 : ℚ) ≤ base := by exact_mod_cast hbase
  have hroom' : (0 : ℚ) ≤ room := by exact_mod_cast hroom
  have hfactor : 0 ≤ min 1 (max 0 random) := le_min zero_le_one (le_max_left 0 random)
  have hone : min 1 (max 0 random) ≤ 1 := min_le_left _ _
  have hmin : 0 ≤ min ((base : ℚ) / 10) room := le_min (by positivity) hroom'
  have hle : min ((base : ℚ) / 10) room * min 1 (max 0 random) ≤ min ((base : ℚ) / 10) room :=
    mul_le_of_le_one_right hmin hone
  have hfloor := Rat.floor_le (min ((base : ℚ) / 10) room * min 1 (max 0 random))
  refine ⟨Int.floor_nonneg.2 (mul_nonneg hmin hfactor), ?_, ?_⟩
  · have htenth := (hfloor.trans hle).trans (min_le_left _ _)
    have : (10 : ℚ) * (min ((base : ℚ) / 10) room * min 1 (max 0 random)).floor ≤ base := by
      linarith
    exact_mod_cast this
  · exact_mod_cast (hfloor.trans hle).trans (min_le_right _ _)

theorem sheetsRetryDelayMs_bounds (attempt : Nat) (random : ℚ) :
    baseDelay attempt ≤ sheetsRetryDelayMs attempt true random ∧
      sheetsRetryDelayMs attempt true random ≤ 300000 ∧
      10 * sheetsRetryDelayMs attempt true random ≤ 11 * baseDelay attempt := by
  have hindex : min (max 1 attempt - 1) 6 ≤ 6 := min_le_right _ _
  obtain ⟨⟨hnonneg, hle⟩, _⟩ := base_table _ hindex
  have hdelay : sheetsRetryDelayMs attempt true random = baseDelay attempt +
      (min ((baseDelay attempt : ℚ) / 10) (max 0 (300000 - baseDelay attempt) : Int) *
        min 1 (max 0 random)).floor := rfl
  have hbase : 0 ≤ baseDelay attempt := hnonneg
  have hblocked : baseDelay attempt ≤ 300000 := hle
  obtain ⟨h0, h10, hroom⟩ := jitter_bounds hbase (le_max_left 0 (300000 - baseDelay attempt)) random
  rw [hdelay]
  omega

/-- A later attempt does not wait less, whatever the two jitters are. -/
theorem sheetsRetryDelayMs_mono {a b : Nat} (hab : a < b) (ha : 1 ≤ a) (random random' : ℚ) :
    sheetsRetryDelayMs a true random ≤ sheetsRetryDelayMs b true random' := by
  obtain ⟨_, hle, htenth⟩ := sheetsRetryDelayMs_bounds a random
  obtain ⟨hbase, _, _⟩ := sheetsRetryDelayMs_bounds b random'
  have horder : min (max 1 a - 1) 6 < min (max 1 b - 1) 6 ∨
      min (max 1 a - 1) 6 = 6 ∧ min (max 1 b - 1) 6 = 6 := by omega
  have hstep : 11 * baseDelay a ≤ 10 * baseDelay b ∨ 300000 ≤ baseDelay b :=
    (base_table _ (min_le_right _ _)).2 _ (min_le_right _ _) horder
  omega

/-! ## The failures of a page -/

def attemptsOf (db : Db) (pageId : Nat) : Nat :=
  ((db.pages.get pageId).map (·.sheetsAttemptCount)).getD 0

/-- What is kept of a failure: how the request failed, its attempt, and what the page then waits
for, which is nothing while the operator pauses. -/
structure Retry where
  outcome : Outcome
  attempt : Nat
  delay : Option Int

def retryOf (db : Db) (pageId : Nat) (outcome : Outcome) (now : Int) : Retry where
  outcome
  attempt := attemptsOf db pageId
  delay := ((db.pages.get pageId).bind (·.nextSheetsAttemptAt)).map (· - now)

section Failures

variable (lang : Language) (pageId : Nat)

/-- The failures of a page: each attempt is recorded, its request fails, and the failure is
written. Between these transactions there are others, which take no attempt back. -/
inductive Failures (db : Db) : List Retry → Db → Prop
  | start : Failures db [] db
  | other {retries : List Retry} {db1 db2 : Db} :
    Failures db retries db1 → attemptsOf db1 pageId ≤ attemptsOf db2 pageId →
    Failures db retries db2
  | attempt {retries : List Retry} {db1 db2 db3 db4 : Db} {page staged : CreatorSyncPage}
    {leaseId targetId : Nat} {stage : Stage} {target : CreatorSearchPartition} {pause : Bool}
    {random : ℚ} {now : Int} (outcome : Outcome) :
    Failures db retries db1 →
    db1.pages.get pageId = some page →
    (recordSheetAttempt leaseId pageId (page.sheetsAttemptCount + 1) stage).run db1 =
      .ok ((), db2) →
    attemptsOf db2 pageId ≤ attemptsOf db3 pageId →
    db3.pages.get pageId = some staged →
    (sheetsFailure pageId staged targetId target pause
      (googleSheetsFailure (outcome.failure lang)) random now).run db3 = .ok ((), db4) →
    Failures db (retries ++ [retryOf db4 pageId outcome now]) db4

/-- Whether the failure is taken as one that passes. -/
def Retry.retryable (retry : Retry) : Bool := googleSheetsFailure (retry.outcome.failure lang)

def Retry.NamesLimit (retry : Retry) : Prop :=
  ∃ httpStatus payload, retry.outcome = .response httpStatus payload ∧
    sheet_failures.NamesLimit lang payload

/-- Every delay is between its base and the blocked interval, the delays of failures that pass
never decrease, and the failures that name a limit are such. -/
structure Policy (retries : List Retry) : Prop where
  short : ∀ retry ∈ retries, retry.retryable lang = true → ∀ delay ∈ retry.delay,
    baseDelay retry.attempt ≤ delay ∧ delay ≤ 300000 ∧ 10 * delay ≤ 11 * baseDelay retry.attempt
  blocked : ∀ retry ∈ retries, retry.retryable lang = false → ∀ delay ∈ retry.delay,
    delay = SHEETS_BLOCKED_RETRY_MS
  increasing : retries.Pairwise (fun a b => a.retryable lang = true → b.retryable lang = true →
    ∀ d ∈ a.delay, ∀ e ∈ b.delay, d ≤ e)
  limits : ∀ retry ∈ retries, retry.NamesLimit lang → retry.retryable lang = true

variable {lang pageId}

theorem attemptsOf_record {db db' : Db} {page : CreatorSyncPage} {leaseId attempt : Nat}
    {stage : Stage} (hpage : db.pages.get pageId = some page)
    (hrun : (recordSheetAttempt leaseId pageId attempt stage).run db = .ok ((), db')) :
    attemptsOf db' pageId = attempt := by
  obtain ⟨_, hdb'⟩ := recordSheetAttempt_effect hrun
  simp [hdb', attemptsOf, setJob, setPage, hpage]

/-- The row of the page after its failure. -/
theorem page_of_failure {db db' : Db} {page : CreatorSyncPage} {targetId : Nat}
    {target : CreatorSearchPartition} {pause retryable : Bool} {random : ℚ} {now : Int}
    (hpage : db.pages.get pageId = some page)
    (hrun : (sheetsFailure pageId page targetId target pause retryable random now).run db =
      .ok ((), db')) :
    db'.pages.get pageId = some { page with
      sheetsAttemptCount := max 1 page.sheetsAttemptCount
      nextSheetsAttemptAt := if pause then none else
        some (now + sheetsRetryDelayMs (max 1 page.sheetsAttemptCount) retryable random) } := by
  unfold sheetsFailure leaveJob at hrun
  simp only [Tx.run_bind, Tx.bind_eq_ok, run_updateJob, Except.ok.injEq, exists_eq_left'] at hrun
  obtain ⟨⟨_, db1⟩, hset, hpartition⟩ := hrun
  have hdb1 := run_setPage hset
  have hdb' := run_setPartition hpartition
  simp [hdb', hdb1, setPartition, setPage, hpage]

/-- Where the failure of an attempt finds and leaves the page. -/
theorem retryOf_failure {db db' : Db} {page : CreatorSyncPage} {targetId : Nat}
    {target : CreatorSearchPartition} {pause : Bool} {outcome : Outcome} {random : ℚ} {now : Int}
    (hpage : db.pages.get pageId = some page) (hpos : 1 ≤ page.sheetsAttemptCount)
    (hrun : (sheetsFailure pageId page targetId target pause
      (googleSheetsFailure (outcome.failure lang)) random now).run db = .ok ((), db')) :
    (retryOf db' pageId outcome now).attempt = page.sheetsAttemptCount ∧
      ∀ delay ∈ (retryOf db' pageId outcome now).delay,
        delay = sheetsRetryDelayMs page.sheetsAttemptCount
          ((retryOf db' pageId outcome now).retryable lang) random := by
  have hrow := page_of_failure hpage hrun
  have hmax : max 1 page.sheetsAttemptCount = page.sheetsAttemptCount := by omega
  rw [hmax] at hrow
  refine ⟨by simp [retryOf, attemptsOf, hrow], ?_⟩
  intro delay hdelay
  cases pause with
  | true => simp [retryOf, hrow] at hdelay
  | false =>
    simp only [retryOf, hrow, Option.bind_some, Bool.false_eq_true, if_false, Option.map_some,
      Option.mem_some_iff] at hdelay
    simp only [Retry.retryable, retryOf]
    omega

/-- What is kept of the failures so far: the attempts increase up to that of the page, and each
delay is the one of its attempt. -/
theorem failures_recorded {db db' : Db} {retries : List Retry}
    (h : Failures lang pageId db retries db') :
    (∀ retry ∈ retries, 1 ≤ retry.attempt ∧ retry.attempt ≤ attemptsOf db' pageId ∧
        ∀ delay ∈ retry.delay, ∃ random,
          delay = sheetsRetryDelayMs retry.attempt (retry.retryable lang) random) ∧
      retries.Pairwise (fun a b => a.attempt < b.attempt) := by
  induction h with
  | start => simp
  | other _ hle ih =>
    refine ⟨?_, ih.2⟩
    intro retry hretry
    obtain ⟨hpos, hattempt, hdelay⟩ := ih.1 retry hretry
    exact ⟨hpos, hattempt.trans hle, hdelay⟩
  | @attempt retries db1 db2 db3 db4 page staged leaseId targetId stage target pause random now
      outcome _ hpage hrecord hle hstaged hfail ih =>
    have h1 : attemptsOf db1 pageId = page.sheetsAttemptCount := by simp [attemptsOf, hpage]
    have h2 := attemptsOf_record hpage hrecord
    have h3 : attemptsOf db3 pageId = staged.sheetsAttemptCount := by simp [attemptsOf, hstaged]
    obtain ⟨hattempt, hdelay⟩ := retryOf_failure hstaged (by omega) hfail
    have h4 : attemptsOf db4 pageId = staged.sheetsAttemptCount := hattempt
    have hlast : ∀ retry ∈ retries, retry.attempt < (retryOf db4 pageId outcome now).attempt := by
      intro retry hretry
      have := (ih.1 retry hretry).2.1
      omega
    constructor
    · intro retry hretry
      rcases List.mem_append.1 hretry with hretry | hretry
      · obtain ⟨hpos, hup, hrandom⟩ := ih.1 retry hretry
        exact ⟨hpos, by omega, hrandom⟩
      · rw [List.mem_singleton] at hretry
        subst hretry
        refine ⟨by omega, by omega, fun delay hd => ⟨random, ?_⟩⟩
        rw [hattempt]
        exact hdelay delay hd
    · rw [List.pairwise_append]
      exact ⟨ih.2, List.pairwise_singleton _ _, by simpa using hlast⟩

/-- The response of a failure that names a limit has a status or an HTTP status that passes, or
cannot be read. -/
def Retry.Passes (lang : Language) (retry : Retry) : Prop :=
  ∃ httpStatus payload, retry.outcome = .response httpStatus payload ∧
    (¬ WellShaped lang payload ∨ PassingStatus lang payload ∨
      retryableStatus (some httpStatus) = true)

/-- The policy holds of a page when no failure of it names a limit by its reasons alone. -/
theorem sheets_retry_policy {db db' : Db} {retries : List Retry}
    (h : Failures lang pageId db retries db') :
    Policy lang retries ↔
      ∀ retry ∈ retries, retry.NamesLimit lang → retry.Passes lang := by
  obtain ⟨hrecorded, hincreasing⟩ := failures_recorded h
  have hpasses : ∀ {retry : Retry}, retry.NamesLimit lang →
      (retry.retryable lang = true ↔ retry.Passes lang) := by
    rintro retry ⟨httpStatus, payload, houtcome, _⟩
    have hiff := retryable_iff lang (some httpStatus) payload
    have hretry : retry.retryable lang =
        googleSheetsFailure (failureFromResponse lang (some httpStatus) payload) := by
      rw [Retry.retryable, houtcome]
      rfl
    rw [hretry, hiff]
    constructor
    · intro hpass
      exact ⟨httpStatus, payload, houtcome, hpass⟩
    · rintro ⟨status, other, hother, hpass⟩
      rw [houtcome, Outcome.response.injEq] at hother
      obtain ⟨rfl, rfl⟩ := hother
      exact hpass
  constructor
  · intro hpolicy retry hretry hnames
    exact (hpasses hnames).1 (hpolicy.limits retry hretry hnames)
  · intro hall
    refine ⟨?_, ?_, ?_, ?_⟩
    · intro retry hretry hretryable delay hdelay
      obtain ⟨random, hrandom⟩ := (hrecorded retry hretry).2.2 delay hdelay
      rw [hretryable] at hrandom
      rw [hrandom]
      exact sheetsRetryDelayMs_bounds retry.attempt random
    · intro retry hretry hblocked delay hdelay
      obtain ⟨random, hrandom⟩ := (hrecorded retry hretry).2.2 delay hdelay
      rw [hblocked] at hrandom
      rw [hrandom]
      rfl
    · refine List.Pairwise.imp_of_mem ?_ hincreasing
      intro a b ha hb hlt hra hrb d hd e he
      obtain ⟨hpos, _, hda⟩ := hrecorded a ha
      obtain ⟨random, hd⟩ := hda d hd
      obtain ⟨random', he⟩ := (hrecorded b hb).2.2 e he
      rw [hra] at hd
      rw [hrb] at he
      rw [hd, he]
      exact sheetsRetryDelayMs_mono hlt hpos random random'
    · intro retry hretry hnames
      exact (hpasses hnames).2 (hall retry hretry hnames)

end Failures

/-! ## Samples -/

theorem isUpper_toLower (c : Char) : c.toLower.isUpper = false := by
  unfold Char.toLower
  split
  · rename_i h
    unfold Char.isUpper
    simp only [decide_eq_false_iff_not, ge_iff_le, not_and, UInt32.le_iff_toNat_le,
      UInt32.toNat_add] at h ⊢
    have ha : ('a'.val - 'A'.val).toNat = 32 := by decide
    have hA : 'A'.val.toNat = 65 := by decide
    have hZ : 'Z'.val.toNat = 90 := by decide
    omega
  · rename_i h
    unfold Char.isUpper
    simpa using h

/-- The letter cases of ASCII. -/
def ascii : Language where
  toLowerCase := String.toLower
  toUpperCase := String.toUpper
  numberText := fun _ => ""
  no_capital := by
    intro s c hc
    unfold String.toLower at hc
    rw [String.toList_map] at hc
    obtain ⟨d, _, rfl⟩ := List.mem_map.1 hc
    exact isUpper_toLower d

def samplePage : CreatorSyncPage where
  creatorSearchPartitionId := 0
  pageNumber := 1
  privateRequestToken := "PARTITION:0:FIRST"
  privateNextToken := none
  privateSearchKey := "key"
  providerHasMore := false
  creatorsReturned := 0
  newUniqueCreators := 0
  duplicateRows := 0
  newCreatorOpenIds := []
  payload := []

def samplePartition : CreatorSearchPartition where
  partitionKey := "seed"
  partitionType := .V2_SEED
  categoryId := some "1"
  categoryChildId := some "2"
  categoryChildIds := ["2"]
  followersMin := none
  followersMax := none
  gmvBucket := some .G1
  gmvRange := none
  parentPartitionId := none
  queuePosition := 0

def sampleDb : Db where
  job := { leaseId := some 1 }
  partitions := Table.empty.set 0 samplePartition
  nextPartitionId := 1
  pages := Table.empty.set 0 samplePage
  nextPageId := 1
  creators := .empty
  categories := .empty

/-- The first attempt of the page fails so. -/
def recorded : Db := setJob (setPage sampleDb 0 (fun page => { page with
  sheetsAttemptCount := 1
  nextSheetsAttemptAt := none })) (fun job => { job with currentStage := .SAVING_SHEET })

/-- A response whose only reason is that of a rate limit. -/
def limited : Value := .object [("error", .object [("status", .text "PERMISSION_DENIED"),
  ("errors", .array [.object [("reason", .text "rateLimitExceeded")]])])]

theorem names_limited : NamesLimit ascii limited := by
  refine ⟨[.object [("reason", .text "rateLimitExceeded")]], rfl,
    .object [("reason", .text "rateLimitExceeded")], List.mem_cons_self, "rateLimitExceeded", ?_,
    "rateLimitExceeded", List.mem_cons_self, rfl⟩
  decide

theorem wellShaped_limited : WellShaped ascii limited := by
  refine ⟨by simp [limited], ⟨some "PERMISSION_DENIED", by decide⟩,
    [.object [("reason", .text "rateLimitExceeded")]], rfl, ?_⟩
  intro item hitem
  rw [List.mem_singleton] at hitem
  subst hitem
  exact ⟨by simp, some "rateLimitExceeded", by decide⟩

theorem toUpper_denied : ascii.toUpperCase "PERMISSION_DENIED" = "PERMISSION_DENIED" := by
  rw [← String.toList_inj]
  unfold ascii String.toUpper
  rw [String.toList_map]
  decide

/-- Any failure can be that of the first attempt. -/
theorem sample_failure (outcome : Outcome) : ∃ db, Failures ascii 0 sampleDb
    [retryOf db 0 outcome 1000] db ∧
      (retryOf db 0 outcome 1000).delay =
        some (sheetsRetryDelayMs 1 (googleSheetsFailure (outcome.failure ascii)) 0) := by
  have hrecord : (recordSheetAttempt 1 0 (samplePage.sheetsAttemptCount + 1) .SAVING_SHEET).run
      sampleDb = .ok ((), recorded) := rfl
  have hfail : ∀ retryable, ∃ db, (sheetsFailure 0 { samplePage with sheetsAttemptCount := 1 } 0
      samplePartition false retryable 0 1000).run recorded = .ok ((), db) := by
    intro retryable
    exact ⟨_, rfl⟩
  obtain ⟨db, hdb⟩ := hfail (googleSheetsFailure (outcome.failure ascii))
  have hrow := page_of_failure rfl hdb
  refine ⟨db, Failures.attempt outcome .start rfl hrecord le_rfl rfl hdb, ?_⟩
  simp [retryOf, hrow]

/-- A response with HTTP status 429 is tried again soon. -/
theorem the_policy_holds_for_429 :
    ∃ db, Failures ascii 0 sampleDb [retryOf db 0 (.response 429 limited) 1000] db ∧
      Policy ascii [retryOf db 0 (.response 429 limited) 1000] := by
  obtain ⟨db, hfailures, _⟩ := sample_failure (.response 429 limited)
  refine ⟨db, hfailures, (sheets_retry_policy hfailures).2 ?_⟩
  intro retry hretry _
  rw [List.mem_singleton] at hretry
  exact ⟨429, limited, by rw [hretry]; rfl, .inr (.inr rfl)⟩

/-- With HTTP status 403 the same reason waits for the blocked interval. -/
theorem a_rate_limit_is_blocked :
    NamesLimit ascii limited ∧ ∃ db, Failures ascii 0 sampleDb
      [retryOf db 0 (.response 403 limited) 1000] db ∧
      (retryOf db 0 (.response 403 limited) 1000).delay = some SHEETS_BLOCKED_RETRY_MS ∧
      ¬ Policy ascii [retryOf db 0 (.response 403 limited) 1000] := by
  have hblocked : googleSheetsFailure ((Outcome.response 403 limited).failure ascii) = false := by
    have hiff := retryable_iff ascii (some 403) limited
    have hfails : ¬ (¬ WellShaped ascii limited ∨ PassingStatus ascii limited ∨
        retryableStatus (some 403) = true) := by
      rintro (hshape | ⟨status, hstatus, hpassing⟩ | hhttp)
      · exact hshape wellShaped_limited
      · have htext : text ascii (some (.text "PERMISSION_DENIED")) =
            .ok (some "PERMISSION_DENIED") := by decide
        have hsame : Except.ok (some "PERMISSION_DENIED") = Except.ok (some status) :=
          htext.symm.trans hstatus
        cases hsame
        rw [toUpper_denied] at hpassing
        exact absurd hpassing (by decide)
      · exact absurd hhttp (by decide)
    rw [← hiff, Bool.not_eq_true] at hfails
    exact hfails
  obtain ⟨db, hfailures, hdelay⟩ := sample_failure (.response 403 limited)
  rw [hblocked] at hdelay
  refine ⟨names_limited, db, hfailures, hdelay, ?_⟩
  intro hpolicy
  have hretryable := hpolicy.limits _ List.mem_cons_self ⟨403, limited, rfl, names_limited⟩
  have hretry : (retryOf db 0 (.response 403 limited) 1000).retryable ascii = false := hblocked
  rw [hretry] at hretryable
  cases hretryable

end tiktok_outreach.sheet_failures
