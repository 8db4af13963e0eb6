-- What the TikTok integration keeps of authorization states and connections
-- (packages/db/prisma/schema.prisma), and the calls of its service: each
-- statement, each reading of the clock and each request to TikTok is one.
import TiktokOutreach.Lib.Executions
import TiktokOutreach.Lib.Json

open executions json

namespace tiktok_outreach.tiktok_connection

/-! ## Rows -/

/-- `TikTokAuthorizationState`, under its id -/
structure AuthorizationState where
  stateHash : Text
  expiresAt : Int
  consumedAt : Option Int := none
  browserHash : Option Text := none
  operationId : Option Text := none
  routerRegistered : Bool := false
  deriving DecidableEq, Repr

inductive TokenRefreshState
  | IDLE
  | IN_PROGRESS
  | FAILED
  | OUTCOME_UNCERTAIN
  deriving DecidableEq, Repr

/-- `IntegrationConnection` of the provider `TIKTOK_SHOP`, under its shop -/
structure Connection where
  status : String
  sellerOpenId : Option String := none
  grantedScopes : List String := []
  accessTokenCiphertext : Option String := none
  refreshTokenCiphertext : Option String := none
  accessTokenExpiresAt : Option Int := none
  refreshTokenExpiresAt : Option Int := none
  refreshState : TokenRefreshState := .IDLE
  refreshLeaseId : Option Nat := none
  refreshLeaseExpiresAt : Option Int := none
  refreshStartedAt : Option Int := none
  refreshUncertainAt : Option Int := none
  lastRefreshFailureAt : Option Int := none
  refreshFailureCount : Nat := 0
  lastErrorCode : Option String := none
  lastErrorMessage : Option String := none
  tokenVersion : Nat := 0
  deriving DecidableEq, Repr

/-- `TikTokSellerTokens` -/
structure SellerTokens where
  accessToken : String
  refreshToken : String
  accessTokenExpiresAt : Int
  refreshTokenExpiresAt : Int
  sellerOpenId : Option String := none
  grantedScopes : List String := []
  deriving DecidableEq, Repr

/-- An authorized shop, as TikTok names it. -/
structure AuthorizedShop where
  id : String
  region : String
  deriving DecidableEq, Repr

/-- A stored `Shop`. -/
structure Shop where
  id : Nat
  externalShopId : Option String
  deriving DecidableEq, Repr

inductive Trigger
  | AUTO
  | MANUAL
  deriving DecidableEq, Repr

/-! ## Requests of an authorization -/

/-- The query of a callback. -/
structure CallbackInput where
  state : Option Text := none
  code : Option Text := none
  error : Option Text := none
  deriving DecidableEq, Repr

structure Binding where
  browserHash : Text
  operationId : Option Text := none
  privateHandoff : Bool := false
  deriving DecidableEq, Repr

/-- What a call of `callback` was made with. -/
structure Request where
  input : CallbackInput
  binding : Binding
  deriving DecidableEq, Repr

/-! ## Writes -/

/-- The columns of an authorization that `callback` stores. -/
structure Authorization where
  status : String
  sellerOpenId : Option String
  grantedScopes : List String
  accessTokenCiphertext : String
  refreshTokenCiphertext : String
  accessTokenExpiresAt : Int
  refreshTokenExpiresAt : Int
  deriving DecidableEq, Repr

/-- The columns of a refresh that succeeded. -/
structure Rotation extends Authorization where
  lastErrorCode : Option String
  lastErrorMessage : Option String
  deriving DecidableEq, Repr

structure Reason where
  code : String
  message : String
  deriving DecidableEq, Repr

/-- The update and the create of the upsert in `callback`. -/
def Connection.authorized (existing : Option Connection) (data : Authorization) : Connection where
  status := data.status
  sellerOpenId := data.sellerOpenId.or (existing.bind (·.sellerOpenId))
  grantedScopes := data.grantedScopes
  accessTokenCiphertext := some data.accessTokenCiphertext
  refreshTokenCiphertext := some data.refreshTokenCiphertext
  accessTokenExpiresAt := some data.accessTokenExpiresAt
  refreshTokenExpiresAt := some data.refreshTokenExpiresAt
  tokenVersion := (existing.map (·.tokenVersion)).getD 0 + 1

/-- The claim of a refresh. -/
def Connection.claimed (c : Connection) (leaseId : Nat) (leaseExpiresAt now : Int) : Connection :=
  { c with
    refreshState := .IN_PROGRESS
    refreshLeaseId := some leaseId
    refreshLeaseExpiresAt := some leaseExpiresAt
    refreshStartedAt := some now }

/-- No lease is left. -/
def Connection.unleased (c : Connection) : Connection :=
  { c with
    refreshLeaseId := none
    refreshLeaseExpiresAt := none
    refreshStartedAt := none }

def Connection.uncertain (c : Connection) (reason : Reason) (now : Int) : Connection :=
  { c.unleased with
    status := "REFRESH_OUTCOME_UNCERTAIN"
    refreshState := .OUTCOME_UNCERTAIN
    refreshUncertainAt := some now
    accessTokenCiphertext := none
    refreshTokenCiphertext := none
    accessTokenExpiresAt := none
    refreshTokenExpiresAt := none
    lastRefreshFailureAt := some now
    refreshFailureCount := c.refreshFailureCount + 1
    lastErrorCode := some reason.code
    lastErrorMessage := some reason.message }

/-- A refresh failed before TikTok rotated the tokens. -/
def Connection.refreshFailed (c : Connection) (code : String) (now : Int) : Connection :=
  { c.unleased with
    status := "REFRESH_FAILED_RETRY_MANUALLY"
    refreshState := .FAILED
    lastRefreshFailureAt := some now
    refreshFailureCount := c.refreshFailureCount + 1
    lastErrorCode := some code
    lastErrorMessage :=
      some "TikTok token refresh failed before rotation was confirmed; stored tokens were not overwritten" }

/-- A refresh could not be prepared. -/
def Connection.unprepared (c : Connection) (reason : Reason) (now : Int) : Connection :=
  { c with
    status := "REAUTHORIZATION_REQUIRED"
    refreshState := .FAILED
    lastRefreshFailureAt := some now
    lastErrorCode := some reason.code
    lastErrorMessage := some reason.message }

def Connection.rotated (c : Connection) (data : Rotation) : Connection :=
  { c.unleased with
    status := data.status
    sellerOpenId := data.sellerOpenId
    grantedScopes := data.grantedScopes
    accessTokenCiphertext := some data.accessTokenCiphertext
    refreshTokenCiphertext := some data.refreshTokenCiphertext
    accessTokenExpiresAt := some data.accessTokenExpiresAt
    refreshTokenExpiresAt := some data.refreshTokenExpiresAt
    refreshState := .IDLE
    refreshFailureCount := 0
    lastErrorCode := data.lastErrorCode
    lastErrorMessage := data.lastErrorMessage
    tokenVersion := c.tokenVersion + 1 }

/-- The condition of every write that ends a refresh. -/
def Connection.underLease (c : Connection) (leaseId : Option Nat) (tokenVersion : Nat) : Bool :=
  c.refreshState = .IN_PROGRESS && c.refreshLeaseId = leaseId && c.tokenVersion = tokenVersion

/-! ## The calls -/

inductive Call
  | now
  | sleep
  | selectedShop
  | findShop (shopId : Nat)
  | newLease
  | createState (row : AuthorizationState)
  | registerAtRouter (id : Nat)
  | markRegistered (id : Nat)
  | withdrawState (id : Nat) (now : Int)
  | createNonce (nonceHash : Text) (expiresAt : Int)
  | findState (stateHash : Text)
  | consumeState (id : Nat) (request : Request) (now : Int)
  | exchange (id : Nat) (request : Request) (code : Text)
  | getAuthorizedShops (accessToken : String)
  | upsertShop (shop : AuthorizedShop)
  | authorizeConnection (shopId : Nat) (data : Authorization)
  | findConnection (shopId : Nat)
  | failPreparation (shopId tokenVersion : Nat) (refreshState : TokenRefreshState)
      (refreshTokenCiphertext : Option String) (reason : Reason) (now : Int)
  | claimRefresh (shopId tokenVersion leaseId : Nat) (trigger : Trigger) (leaseExpiresAt now : Int)
  | refresh (shopId tokenVersion leaseId : Nat) (trigger : Trigger) (refreshToken : String)
  | markUncertain (shopId : Nat) (leaseId : Option Nat) (tokenVersion : Nat) (reason : Reason)
      (now : Int)
  | failRefresh (shopId leaseId tokenVersion : Nat) (code : String) (now : Int)
  | persistRotation (shopId leaseId tokenVersion : Nat) (data : Rotation)
  deriving DecidableEq, Repr

/-- What a call returns when it does not throw. -/
@[reducible] def Call.Result : Call → Type
  | now => Int
  | selectedShop | findShop _ => Shop
  | newLease => Nat
  | createState _ => Nat
  | findState _ => Option (Nat × AuthorizationState)
  | consumeState _ _ _ => Nat
  | exchange _ _ _ | refresh _ _ _ _ _ => SellerTokens
  | getAuthorizedShops _ => List AuthorizedShop
  | upsertShop _ => Nat
  | findConnection _ => Connection
  | failPreparation _ _ _ _ _ _ | claimRefresh _ _ _ _ _ _ | markUncertain _ _ _ _ _
  | failRefresh _ _ _ _ _ | persistRotation _ _ _ _ => Nat
  | _ => Unit

inductive Failure
  | badRequest (message : String)
  | serviceUnavailable (message : String)
  /-- `TikTokAuthorizationError` -/
  | authorization (code message : String)
  | error (message : String)
  deriving DecidableEq, Repr

/-- A program of the service. -/
abbrev Program (α : Type) := Js Call Call.Result Failure Unit α

end tiktok_outreach.tiktok_connection
