-- The rows of the conversation history sync, and what its provider answers
-- (apps/api/src/history/history-processor.ts).
import TiktokOutreach.Lib.Transactions

open tables transactions

namespace tiktok_outreach.history_schema

/-! ## Rows -/

inductive HistorySyncState
  | QUEUED
  | RUNNING
  | BACKING_OFF
  | PAUSED
  | COMPLETE
  | FAILED
  deriving DecidableEq, Repr

inductive HistorySyncMode
  | INITIAL_BACKFILL
  | INCREMENTAL
  deriving DecidableEq, Repr

inductive HistorySyncPassKind
  | BACKFILL
  | HEAD
  | INCREMENTAL
  deriving DecidableEq, Repr

inductive HistorySyncPhase
  | LIST
  | MESSAGES
  deriving DecidableEq, Repr

inductive HistoryConversationWorkState
  | QUEUED
  | RUNNING
  | COMPLETE
  deriving DecidableEq, Repr

inductive Direction
  | INBOUND
  | OUTBOUND
  deriving DecidableEq, Repr

structure HistorySyncJob where
  shopId : String
  state : HistorySyncState := .QUEUED
  mode : HistorySyncMode := .INITIAL_BACKFILL
  passKind : HistorySyncPassKind := .BACKFILL
  phase : HistorySyncPhase := .LIST
  pageSequence : Nat := 0
  pagesProcessed : Nat := 0
  conversationsDiscovered : Nat := 0
  conversationsImported : Nat := 0
  conversationsCompleted : Nat := 0
  messagesImported : Nat := 0
  totalProviderRequests : Nat := 0
  consecutiveFailureCount : Nat := 0
  cursorRecoveryCount : Nat := 0
  backfillPagesSinceHead : Nat := 0
  incrementalPageIndex : Nat := 0
  privateBackfillPageToken : Option String := none
  privateIncrementalPageToken : Option String := none
  privatePendingNextPageToken : Option String := none
  privatePendingHasMore : Option Bool := none
  lastProviderCode : Option String := none
  lastErrorCategory : Option String := none
  lastSuccessfulProviderRequestAt : Option Int := none
  nextAttemptAt : Option Int := none
  leaseOwner : Option Nat := none
  leaseExpiresAt : Option Int := none
  startedAt : Option Int := none
  initialCompletedAt : Option Int := none
  completedAt : Option Int := none
  deriving DecidableEq, Repr

/-- The job and a conversation of the list page with this number, whose messages are read. -/
structure HistorySyncConversationWork where
  historySyncJobId : Nat
  pageSequence : Nat
  externalConversationId : String
  creatorImId : String
  username : Option String := none
  avatarUrl : Option String := none
  unreadCount : Int := 0
  state : HistoryConversationWorkState := .QUEUED
  privateMessagePageToken : Option String := none
  messagesImported : Nat := 0
  providerRequests : Nat := 0
  completedAt : Option Int := none
  deriving DecidableEq, Repr

structure Conversation where
  shopId : String
  creatorId : Nat
  unreadCount : Int
  lastSyncedAt : Int
  deriving DecidableEq, Repr

structure ConversationMessage where
  conversationId : String
  direction : Direction
  content : String
  providerCreatedAt : Int
  importSource : String
  deriving DecidableEq, Repr

/-- The conversations have the keys of their column `externalConversationId`, and the messages
those of `externalMessageId`. -/
structure Db where
  jobs : Table Nat HistorySyncJob
  nextJobId : Nat
  works : Table Nat HistorySyncConversationWork
  nextWorkId : Nat
  conversations : Table String Conversation
  messages : Table String ConversationMessage

def Db.initial : Db := ⟨.empty, 0, .empty, 0, .empty, .empty⟩

/-! ## What the provider answers -/

structure ProviderConversation where
  id : String
  creatorImId : String
  username : Option String := none
  avatarUrl : Option String := none
  unreadCount : Option Int := none
  deriving DecidableEq, Repr

structure ProviderMessage where
  id : String
  direction : Direction
  content : String
  createdAt : Int
  deriving DecidableEq, Repr

structure ProviderPage (α : Type) where
  items : List α
  nextPageToken : Option String := none
  hasMore : Bool
  deriving DecidableEq, Repr

inductive TikTokErrorKind
  | AUTH_EXPIRED
  | PERMISSION
  | SHOP_AUTHORIZATION
  | INVALID_SHOP_CIPHER
  | RATE_LIMIT
  | TEMPORARY
  | MALFORMED_RESPONSE
  | UNSUPPORTED_IDENTIFIER
  | REVOKED
  | PROVIDER
  deriving DecidableEq, Repr

def TikTokErrorKind.text : TikTokErrorKind → String
  | AUTH_EXPIRED => "AUTH_EXPIRED"
  | PERMISSION => "PERMISSION"
  | SHOP_AUTHORIZATION => "SHOP_AUTHORIZATION"
  | INVALID_SHOP_CIPHER => "INVALID_SHOP_CIPHER"
  | RATE_LIMIT => "RATE_LIMIT"
  | TEMPORARY => "TEMPORARY"
  | MALFORMED_RESPONSE => "MALFORMED_RESPONSE"
  | UNSUPPORTED_IDENTIFIER => "UNSUPPORTED_IDENTIFIER"
  | REVOKED => "REVOKED"
  | PROVIDER => "PROVIDER"

structure TikTokApiError where
  kind : TikTokErrorKind
  operation : String
  httpStatus : Option Nat := none
  providerCode : Option Int := none
  requestId : Option String := none
  message : String
  retryAfterMs : Option ℚ := none
  nextPermittedAt : Option Int := none
  locallyBlocked : Bool := false
  deriving DecidableEq, Repr

inductive Failure
  | api (error : TikTokApiError)
  | badRequest (message : String)
  | notFound
  | uniqueViolation
  | other (message : String)
  deriving DecidableEq, Repr

/-! ## Tables -/

inductive RowId
  | job (id : Nat)
  | work (id : Nat)
  | conversation (id : String)
  | message (id : String)
  deriving DecidableEq, Repr

/-- The lock of the eligibility of a creator in a shop. -/
structure LockKey where
  shopId : String
  creatorId : Nat
  deriving DecidableEq, Repr

namespace table

@[simp] def jobs : TableOf Db RowId Nat HistorySyncJob :=
  ⟨Db.jobs, fun db t => { db with jobs := t }, .job⟩
@[simp] def works : TableOf Db RowId Nat HistorySyncConversationWork :=
  ⟨Db.works, fun db t => { db with works := t }, .work⟩
@[simp] def conversations : TableOf Db RowId String Conversation :=
  ⟨Db.conversations, fun db t => { db with conversations := t }, .conversation⟩
@[simp] def messages : TableOf Db RowId String ConversationMessage :=
  ⟨Db.messages, fun db t => { db with messages := t }, .message⟩

end table

abbrev Transaction (α : Type) := Tx Db LockKey RowId Failure α

/-! ## Configuration -/

structure Config where
  successSpacingMs : Int
  incrementalIntervalMs : Int
  incrementalPages : Nat
  headEveryBackfillPages : Nat
  /-- `this.options.leaseMs ?? RUN_LEASE_MS` -/
  leaseMs : Int
  deriving DecidableEq, Repr

def RUN_LEASE_MS : Int := 2 * 60000
def TEMPORARY_BASE_MS : ℚ := 30000
def TEMPORARY_MAX_MS : ℚ := 30 * 60000
def SOURCE : String := "PERSISTENT_TIKTOK_HISTORY"

def Config.defaults : Config where
  successSpacingMs := 1000
  incrementalIntervalMs := 21600000
  incrementalPages := 3
  headEveryBackfillPages := 5
  leaseMs := RUN_LEASE_MS

/-! ## Tokens and errors -/

/-- A token that a condition takes as true: one that is there and not the empty text. -/
def given (token : Option String) : Option String := token.filter (· ≠ "")

def listCursor (job : HistorySyncJob) : Option String :=
  if job.passKind = .BACKFILL then job.privateBackfillPageToken
  else job.privateIncrementalPageToken

def publicErrorCode (error : TikTokApiError) : String :=
  match error.providerCode.filter (· ≠ 0), error.httpStatus.filter (· ≠ 0) with
  | some code, _ => toString code
  | none, some status => "HTTP_" ++ toString status
  | none, none => error.kind.text

def isCursorInvalid (job : HistorySyncJob) : Failure → Bool
  | .api error => error.operation = "LIST_CONVERSATIONS" && (given (listCursor job)).isSome &&
    error.kind = .PROVIDER && (error.httpStatus = some 400 || error.providerCode = some 100004 ||
      error.providerCode = some 11012003)
  | _ => false

end tiktok_outreach.history_schema
