-- The programs of the TikTok integration
-- (apps/api/src/integrations/tiktok.service.ts): the start and the end of an
-- authorization, and the refresh of a token with all that waits for it.
import TiktokOutreach.OauthHandoff

open executions json tiktok_outreach.tiktok_connection tiktok_outreach.oauth_handoff

namespace tiktok_outreach.tiktok_service

structure Config where
  /-- `tiktokCredentialsConfigured(config)` -/
  configured : Bool
  /-- `tiktokCategoryCredentialsConfigured(config)` -/
  categoryConfigured : Bool
  TIKTOK_OAUTH_ROUTER_ENABLED : Bool
  TIKTOK_OAUTH_INITIATIONS_ENABLED : Bool
  TIKTOK_OAUTH_HANDOFF_KEY : Text
  TIKTOK_TOKEN_REFRESH_MARGIN_SECONDS : Int

structure Environment where
  config : Config
  crypto : Crypto
  encryptTikTokToken : String → String
  /-- `none` where it throws -/
  decryptTikTokToken : String → Option String

/-! ## Statements of the language -/

def query (c : Call) : Program c.Result := Js.call c

def throw {α : Type} (e : Failure) : Program α := Js.throw e

/-- `if (condition) throw e` -/
def refuse (condition : Bool) (e : Failure) : Program Unit :=
  if condition then throw e else pure ()

def orThrow {α : Type} (e : Failure) : Option α → Program α
  | some a => pure a
  | none => throw e

section Service

variable (env : Environment)

def credentials : Program Unit :=
  refuse (!env.config.configured) (.serviceUnavailable "READ_ONLY_NOT_CONFIGURED")

def decrypt (ciphertext : String) : Program String :=
  orThrow (.error "Invalid encrypted token") (env.decryptTikTokToken ciphertext)

/-! ## Capabilities -/

def REQUIRED_RETURNED_READ_SCOPES : List String :=
  ["seller.creator_marketplace.read", "seller.affiliate_messages.write"]

structure Capabilities where
  missingReturnedScopes : List String
  missingCapabilities : List String

def evaluateTikTokReadCapabilities (grantedScopes : List String) (authorizedShopVerified : Bool) :
    Capabilities where
  missingReturnedScopes :=
    REQUIRED_RETURNED_READ_SCOPES.filter (fun scope => !grantedScopes.contains scope)
  missingCapabilities :=
    (if authorizedShopVerified then [] else ["AUTHORIZED_SHOP"]) ++
      (if grantedScopes.contains "seller.creator_marketplace.read" then []
        else ["CREATOR_MARKETPLACE"]) ++
      (if grantedScopes.contains "seller.affiliate_messages.write" then []
        else ["AFFILIATE_MESSAGE_HISTORY"])

/-! ## Authorizations -/

/-- The state and the operation id are drawn at random. -/
def initiateAuthorization (browser state operationId : Text) : Program Unit := do
  refuse (!env.config.TIKTOK_OAUTH_INITIATIONS_ENABLED || !isOpaque browser)
    (.badRequest "Account connections are temporarily unavailable")
  credentials env
  let now ← query .now
  let stored ← query (.createState {
    stateHash := env.crypto.digest state
    expiresAt := now + 10 * 60000
    browserHash := some (env.crypto.digest browser)
    operationId := some operationId })
  if env.config.TIKTOK_OAUTH_ROUTER_ENABLED then
    Js.tryCatch
      (do
        query (.registerAtRouter stored)
        query (.markRegistered stored))
      (fun _ => do
        let now ← query .now
        query (.withdrawState stored now)
        throw (.serviceUnavailable "Account authorization is unavailable"))
  else pure ()

/-- The loop that stores the authorized shops. -/
def upsertShops : List AuthorizedShop → Program (List (AuthorizedShop × Nat))
  | [] => pure []
  | shop :: shops => do
    let id ← query (.upsertShop shop)
    let persisted ← upsertShops shops
    return (shop, id) :: persisted

/-- What a callback stores of the tokens that it got. -/
def storeAuthorization (tokens : SellerTokens) : Program Unit := do
  let shops ← query (.getAuthorizedShops tokens.accessToken)
  refuse shops.isEmpty (.badRequest "TikTok returned no authorized shops")
  refuse (!shops.any (fun shop => shop.region = "ID"))
    (.badRequest "Authorization did not include an Indonesian shop")
  let persisted ← upsertShops shops
  let primary ← orThrow (.error "primary") (persisted.find? (fun shop => shop.1.region = "ID"))
  let missingScopes :=
    (evaluateTikTokReadCapabilities tokens.grantedScopes true).missingReturnedScopes
  query (.authorizeConnection primary.2 {
    status := if missingScopes.isEmpty then "SHOP_SELECTION_REQUIRED" else "MISSING_REQUIRED_SCOPES"
    sellerOpenId := tokens.sellerOpenId
    grantedScopes := tokens.grantedScopes
    accessTokenCiphertext := env.encryptTikTokToken tokens.accessToken
    refreshTokenCiphertext := env.encryptTikTokToken tokens.refreshToken
    accessTokenExpiresAt := tokens.accessTokenExpiresAt
    refreshTokenExpiresAt := tokens.refreshTokenExpiresAt })

/-- The state belongs to the browser of the call, and a private handoff to its operation. -/
def belongs (stored : AuthorizationState) (binding : Binding) : Bool :=
  (given stored.browserHash).isSome && (given stored.operationId).isSome &&
    stored.browserHash = some binding.browserHash &&
    (!binding.privateHandoff ||
      stored.routerRegistered && stored.operationId = binding.operationId)

def malformed : Failure → Failure
  | .authorization _ message => .badRequest message
  | e => e

def callback (request : Request) : Program Unit :=
  match validateTikTokCallbackInput request.input with
  | .error e => throw (malformed e)
  | .ok (state, code) => do
    let found ← query (.findState (env.crypto.digest state))
    let (id, stored) ← orThrow (.badRequest "Authorization state does not match") found
    refuse (!belongs stored request.binding)
      (.badRequest "Authorization belongs to another browser")
    refuse stored.consumedAt.isSome (.badRequest "Authorization state was already used")
    let now ← query .now
    refuse (stored.expiresAt ≤ now) (.badRequest "Authorization state expired")
    let now ← query .now
    let consumed ← query (.consumeState id request now)
    refuse (consumed ≠ 1) (.badRequest "Authorization state is no longer valid")
    credentials env
    let tokens ← Js.tryCatch (query (.exchange id request code))
      (fun _ => throw (.badRequest "TikTok authorization could not be completed"))
    storeAuthorization env tokens

def COMPLETE_PATH : Text := units "/api/v1/integrations/tiktok/private-completion"

/-- `Object.keys(input).sort().join(",")` -/
def sortedKeys (input : List (Text × Json)) : Text :=
  List.intercalate [comma] ((input.map Prod.fst).insertionSort (fun a b => before a b))

def textField (key : String) (input : List (Text × Json)) : Option Text :=
  match lookup (units key) input with
  | some (.str s) => some s
  | _ => none

def privateCompletion (input : List (Text × Json)) (headers : Headers) : Program Unit := do
  refuse (!env.config.TIKTOK_OAUTH_ROUTER_ENABLED ||
      sortedKeys input ≠ units "browserHash,code,operationId,state")
    (.badRequest "Authorization could not be completed")
  let now ← query .now
  let (nonceHash, expiresAt) ← orThrow (.error "OAUTH_PRIVATE_HANDOFF_REJECTED")
    (verifyHandoff env.crypto env.config.TIKTOK_OAUTH_HANDOFF_KEY COMPLETE_PATH (.obj input) headers
      now)
  query (.createNonce nonceHash expiresAt)
  let operationId ← orThrow (.badRequest "Authorization could not be completed")
    (given (textField "operationId" input))
  let browserHash ← orThrow (.badRequest "Authorization could not be completed")
    (given (textField "browserHash" input))
  refuse (!isDigest browserHash) (.badRequest "Authorization could not be completed")
  callback env {
    input := { state := textField "state" input, code := textField "code" input }
    binding := { browserHash, operationId := some operationId, privateHandoff := true } }

/-! ## Refreshes -/

/-- A ciphertext that counts as true. -/
def stored (ciphertext : Option String) : Option String := ciphertext.filter (fun text => !text.isEmpty)

def AMBIGUOUS_REFRESH_ERROR_CODES : List String :=
  ["TOKEN_NETWORK_ERROR", "TOKEN_MALFORMED_RESPONSE", "WRONG_AUTHORIZATION_IDENTITY"]

/-- The reason that `markRefreshUncertain` takes by default. -/
def persistenceUncertain : Reason :=
  ⟨"TOKEN_ROTATION_PERSISTENCE_UNCERTAIN",
    "TikTok may have rotated the token, but local persistence was not confirmed. Reauthorization is required."⟩

def markRefreshUncertain (shopId : Nat) (leaseId : Option Nat) (tokenVersion : Nat)
    (reason : Reason) : Program Bool := do
  let now ← query .now
  let marked ← query (.markUncertain shopId leaseId tokenVersion reason now)
  return marked = 1

def uncertainRefresh : Failure :=
  .serviceUnavailable "TikTok token refresh outcome is uncertain; reauthorization is required"

/-- The lease of a refresh in progress has run out. -/
def leaseExpired (connection : Connection) (now : Int) : Bool :=
  connection.refreshLeaseExpiresAt.any (fun expiresAt => expiresAt ≤ now)

/-- The loop of `waitForRefresh`, with the attempts that are left. -/
def waitForRefreshLoop (shopId initialTokenVersion : Nat) : Nat → Program String
  | 0 => throw (.serviceUnavailable "TikTok token refresh is still in progress")
  | attempts + 1 => do
    query .sleep
    let connection ← query (.findConnection shopId)
    if connection.refreshState = .IN_PROGRESS then do
      let now ← query .now
      if leaseExpired connection now then do
        let marked ← markRefreshUncertain shopId connection.refreshLeaseId connection.tokenVersion
          persistenceUncertain
        if marked then throw uncertainRefresh
        else waitForRefreshLoop shopId initialTokenVersion attempts
      else waitForRefreshLoop shopId initialTokenVersion attempts
    else if connection.refreshState = .IDLE && connection.status = "HEALTHY" &&
        decide (initialTokenVersion < connection.tokenVersion) then
      match stored connection.accessTokenCiphertext with
      | some ciphertext => decrypt env ciphertext
      | none =>
        throw (.serviceUnavailable "TikTok token refresh did not produce a healthy connection")
    else throw (.serviceUnavailable "TikTok token refresh did not produce a healthy connection")

def waitForRefresh (shopId initialTokenVersion : Nat) : Program String := do
  credentials env
  waitForRefreshLoop env shopId initialTokenVersion 300

/-- The columns of a refresh that succeeded, and the capabilities that are missing. -/
def rotation (connection : Connection) (refreshed : SellerTokens) (capabilities : Capabilities) :
    Rotation :=
  let healthy := capabilities.missingReturnedScopes.isEmpty &&
    capabilities.missingCapabilities.isEmpty
  { status := if !capabilities.missingReturnedScopes.isEmpty then "MISSING_REQUIRED_SCOPES"
      else if !capabilities.missingCapabilities.isEmpty then "MISSING_REQUIRED_CAPABILITIES"
      else "HEALTHY"
    sellerOpenId := refreshed.sellerOpenId.or connection.sellerOpenId
    grantedScopes := refreshed.grantedScopes
    accessTokenCiphertext := env.encryptTikTokToken refreshed.accessToken
    refreshTokenCiphertext := env.encryptTikTokToken refreshed.refreshToken
    accessTokenExpiresAt := refreshed.accessTokenExpiresAt
    refreshTokenExpiresAt := refreshed.refreshTokenExpiresAt
    lastErrorCode := if healthy then none else some "MISSING_REQUIRED_CAPABILITY"
    lastErrorMessage := if healthy then none else some
      ("Missing read capabilities: " ++ ", ".intercalate capabilities.missingCapabilities) }

/-- The error of a refresh at TikTok, as it is stored. -/
def errorCode : Failure → String
  | .authorization code _ => code
  | _ => "TOKEN_REFRESH_FAILED"

def ambiguous : Failure → Bool
  | .authorization code _ => AMBIGUOUS_REFRESH_ERROR_CODES.contains code
  | _ => false

def ambiguousReason (code : String) : Reason :=
  ⟨code, "TikTok token refresh returned no trustworthy outcome; token rotation cannot be determined. Reauthorization is required."⟩

/-- What follows an error of TikTok. -/
def refreshRejected (shopId leaseId tokenVersion : Nat) (e : Failure) : Program SellerTokens :=
  if ambiguous e then do
    let marked ← markRefreshUncertain shopId (some leaseId) tokenVersion
      (ambiguousReason (errorCode e))
    refuse (!marked) (.serviceUnavailable
      "TikTok connection changed during an uncertain refresh outcome; the newer token generation was preserved")
    throw uncertainRefresh
  else do
    let now ← query .now
    let failed ← query (.failRefresh shopId leaseId tokenVersion (errorCode e) now)
    refuse (failed ≠ 1) (.serviceUnavailable
      "TikTok connection changed during refresh failure handling; the newer token generation was preserved")
    throw (.serviceUnavailable "TikTok token refresh failed; automatic retry is blocked")

/-- The authorized shop, looked up with the new token. -/
def verifyShop (target : Shop) (refreshed : SellerTokens) : Program Bool :=
  Js.tryCatch
    (do
      let shops ← query (.getAuthorizedShops refreshed.accessToken)
      return target.externalShopId.any (fun id => shops.any (fun shop => shop.id = id)))
    (fun _ => pure false)

/-- The write of the new tokens. -/
def persistRefresh (shopId leaseId tokenVersion : Nat) (data : Rotation) : Program Unit :=
  Js.tryCatch
    (do
      let persisted ← query (.persistRotation shopId leaseId tokenVersion data)
      refuse (persisted ≠ 1) (.error "TOKEN_PERSISTENCE_COMPARE_AND_SET_FAILED"))
    (fun _ => do
      let _ ← Js.tryCatch
        (markRefreshUncertain shopId (some leaseId) tokenVersion persistenceUncertain)
        (fun _ => pure false)
      throw (.serviceUnavailable
        "TikTok token rotation persistence is uncertain; reauthorization is required"))

/-- A refresh that claimed the connection. -/
def runRefresh (target : Shop) (connection : Connection) (ciphertext : String) (leaseId : Nat)
    (trigger : Trigger) : Program String := do
  let previousRefresh ← decrypt env ciphertext
  let refreshed ← Js.tryCatch
    (query (.refresh target.id connection.tokenVersion leaseId trigger previousRefresh))
    (refreshRejected target.id leaseId connection.tokenVersion)
  let verified ← verifyShop target refreshed
  let capabilities := evaluateTikTokReadCapabilities refreshed.grantedScopes verified
  let data := rotation env connection refreshed capabilities
  persistRefresh target.id leaseId connection.tokenVersion data
  refuse (data.status ≠ "HEALTHY") (.serviceUnavailable
    ("TikTok refreshed token is missing required capabilities: " ++
      ", ".intercalate capabilities.missingCapabilities))
  return refreshed.accessToken

/-- A refresh that cannot start. -/
def refusePreparation (shopId : Nat) (connection : Connection) (ciphertext : Option String)
    (reason : Reason) (now : Int) : Program String := do
  let failed ← query (.failPreparation shopId connection.tokenVersion connection.refreshState
    ciphertext reason now)
  refuse (failed ≠ 1) (.serviceUnavailable
    "TikTok connection changed during refresh preparation; retry the operation")
  throw (.serviceUnavailable reason.message)

def missingRefreshToken : Reason :=
  ⟨"MISSING_REFRESH_TOKEN", "TikTok refresh token is missing; reauthorization is required"⟩

def refreshTokenExpired : Reason :=
  ⟨"REFRESH_TOKEN_EXPIRED", "TikTok refresh token expired; reauthorization is required"⟩

/-- The refresh of a connection that was read and may be refreshed. -/
def startRefresh (target : Shop) (connection : Connection) (trigger : Trigger) :
    Program String := do
  let now ← query .now
  match stored connection.refreshTokenCiphertext with
  | none => refusePreparation target.id connection none missingRefreshToken now
  | some ciphertext =>
    if !connection.refreshTokenExpiresAt.any (fun expiresAt => now < expiresAt) then
      refusePreparation target.id connection (some ciphertext) refreshTokenExpired now
    else do
      let leaseId ← query .newLease
      let now ← query .now
      let claimed ← query (.claimRefresh target.id connection.tokenVersion leaseId trigger
        (now + 120000) now)
      if claimed = 1 then runRefresh env target connection ciphertext leaseId trigger
      else waitForRefresh env target.id connection.tokenVersion

def findTarget : Option Nat → Program Shop
  | some shopId => query (.findShop shopId)
  | none => query .selectedShop

def refreshToken (shopId : Option Nat) (trigger : Trigger) : Program String := do
  let target ← findTarget shopId
  credentials env
  let connection ← query (.findConnection target.id)
  match connection.refreshState with
  | .OUTCOME_UNCERTAIN => throw uncertainRefresh
  | .IN_PROGRESS => do
    let now ← query .now
    if leaseExpired connection now then do
      let marked ← markRefreshUncertain target.id connection.refreshLeaseId connection.tokenVersion
        persistenceUncertain
      refuse marked uncertainRefresh
      waitForRefresh env target.id connection.tokenVersion
    else waitForRefresh env target.id connection.tokenVersion
  | .FAILED =>
    if trigger = .AUTO then throw (.serviceUnavailable
      "Automatic token refresh is blocked after a failed attempt; reauthorization or explicit recovery is required")
    else startRefresh env target connection trigger
  | .IDLE => startRefresh env target connection trigger

/-- The token of a validation, which is never refreshed. -/
def validationToken (connection : Connection) : Program String := do
  let now ← query .now
  let margin := env.config.TIKTOK_TOKEN_REFRESH_MARGIN_SECONDS * 1000
  let notReady : Failure := .serviceUnavailable
    "CONTROLLED_VALIDATION_TOKEN_NOT_READY: the current TikTok access token is not safely usable without refresh; reauthorize or manually prepare a healthy token before validation"
  refuse (!(connection.status = "HEALTHY" && connection.refreshState = .IDLE &&
      connection.accessTokenExpiresAt.any (fun expiresAt => now + margin < expiresAt)))
    notReady
  let ciphertext ← orThrow notReady (stored connection.accessTokenCiphertext)
  orThrow (.serviceUnavailable
      "CONTROLLED_VALIDATION_TOKEN_NOT_READY: the current TikTok access token is unreadable; reauthorization is required before validation")
    (env.decryptTikTokToken ciphertext)

def validAccessToken (validationMode : Bool) : Program String := do
  let shop ← query .selectedShop
  credentials env
  let margin := env.config.TIKTOK_TOKEN_REFRESH_MARGIN_SECONDS * 1000
  let connection ← query (.findConnection shop.id)
  if validationMode then validationToken env connection
  else if connection.refreshState = .IN_PROGRESS then
    waitForRefresh env shop.id connection.tokenVersion
  else do
    refuse (connection.refreshState = .OUTCOME_UNCERTAIN || connection.status ≠ "HEALTHY")
      (.serviceUnavailable
        "TikTok read capabilities are not healthy; reauthorization is required")
    match stored connection.accessTokenCiphertext, connection.accessTokenExpiresAt with
    | some ciphertext, some expiresAt => do
      let now ← query .now
      if now + margin < expiresAt then decrypt env ciphertext
      else refreshToken env (some shop.id) .AUTO
    | _, _ => throw (.serviceUnavailable
      "TikTok access token is unavailable; reauthorization required")

end Service

end tiktok_outreach.tiktok_service
