-- The client of TikTok's token service (packages/tiktok-adapter/src/auth.ts).
-- A `Date` is the milliseconds of its `getTime`.
import TiktokOutreach.Lib.Values
import TiktokOutreach.TiktokConnection

open values tiktok_outreach.tiktok_connection

namespace tiktok_outreach.auth_client

/-! ## The surroundings -/

/-- The functions of the language on texts. -/
structure Language where
  trim : String → String
  /-- `Number(text)`, when it is finite -/
  Number : String → Option ℚ
  /-- `String(n)` -/
  toText : ℚ → String

structure Response where
  status : Nat
  /-- What `response.json()` gives, or `none` when it throws. -/
  json : Option Value

/-- `response.ok` -/
def Response.ok (response : Response) : Bool := 200 ≤ response.status && response.status ≤ 299

structure Options where
  appKey : String
  appSecret : String
  /-- The address of a path with its parameters, or `none` when `new URL` throws. -/
  address : String → List (String × String) → Option String
  /-- The answer to a request, or `none` when `fetch` throws. -/
  fetch : String → Option Response

/-! ## Reading an answer -/

def text : Option Value → Option String
  | some (.text s) => if s = "" then none else some s
  | _ => none

/-- `numeric(value)`, when it is finite -/
def numeric (lang : Language) : Option Value → Option ℚ
  | some (.number n) => n
  | some (.text s) => if lang.trim s = "" then none else lang.Number s
  | _ => none

/-- `new Date(milliseconds)` -/
def date (milliseconds : ℚ) : Int := milliseconds.num.tdiv milliseconds.den

def malformed (message : String) : Failure :=
  .authorization "TOKEN_MALFORMED_RESPONSE" message

/-- The part of the payload that holds the tokens. -/
def tokenData (payload : Value) : Value :=
  match payload.field "data" with
  | some (.object fields) => .object fields
  | _ => payload

/-- `first ?? second` -/
def nullish (first second : Option Value) : Option Value :=
  match first with
  | none | some .null => second
  | some value => some value

def rawScopes (data : Value) : List Value :=
  match nullish (data.field "granted_scopes") (data.field "granted_permissions") with
  | some (.array elements) => elements
  | some (.text s) => (s.splitOn ",").map .text
  | _ => []

def grantedScopes (lang : Language) (data : Value) : List String :=
  (rawScopes data).filterMap fun
    | .text s => if lang.trim s = "" then none else some (lang.trim s)
    | _ => none

/-- The tokens in an answer that has the code zero. -/
def sellerTokens (lang : Language) (data : Value) : Except Failure SellerTokens :=
  match text (data.field "access_token"), text (data.field "refresh_token"),
    numeric lang (data.field "access_token_expire_in"),
    numeric lang (data.field "refresh_token_expire_in"), numeric lang (data.field "user_type") with
  | some accessToken, some refreshToken, some accessExpiry, some refreshExpiry, some userType =>
    if userType ≠ 0 then
      .error (.authorization "WRONG_AUTHORIZATION_IDENTITY" "A seller authorization is required")
    else .ok
      { accessToken := accessToken
        refreshToken := refreshToken
        accessTokenExpiresAt := date (accessExpiry * 1000)
        refreshTokenExpiresAt := date (refreshExpiry * 1000)
        sellerOpenId := text (data.field "open_id")
        grantedScopes := grantedScopes lang data }
  | _, _, _, _, _ => .error (malformed "TikTok token response omitted required fields")

/-- What `request` does with an answer that is JSON. -/
def decode (lang : Language) (response : Response) (payload : Value) :
    Except Failure SellerTokens :=
  match payload with
  | .null => .error (.error "Cannot read properties of null (reading 'code')")
  | payload =>
    match numeric lang (payload.field "code") with
    | none => .error (malformed "TikTok token response did not contain a trustworthy outcome")
    | some code =>
      if !response.ok && code = 0 then
        .error (malformed "TikTok token response did not contain a trustworthy outcome")
      else if code ≠ 0 then
        .error (.authorization ("TIKTOK_TOKEN_" ++ lang.toText code)
          ((text (payload.field "message")).getD "TikTok token request failed"))
      else sellerTokens lang (tokenData payload)

/-- What `request` does with what `fetch` did. -/
def receive (lang : Language) : Option Response → Except Failure SellerTokens
  | none => .error (.authorization "TOKEN_NETWORK_ERROR"
      "TikTok token service is temporarily unavailable")
  | some response =>
    match response.json with
    | none => .error (malformed "TikTok token response was not valid JSON")
    | some payload => decode lang response payload

/-! ## The requests -/

def request (lang : Language) (options : Options) (path : String)
    (values : List (String × String)) : Except Failure SellerTokens :=
  match options.address path
    ([("app_key", options.appKey), ("app_secret", options.appSecret)] ++ values) with
  | none => .error (.error "Invalid URL")
  | some url => receive lang (options.fetch url)

def exchange (lang : Language) (options : Options) (authCode : String) :
    Except Failure SellerTokens :=
  if authCode = "" ∨ authCode = "null" then
    .error (.authorization "MALFORMED_CALLBACK" "Authorization code is missing")
  else request lang options "/api/v2/token/get"
    [("auth_code", authCode), ("grant_type", "authorized_code")]

def refreshPath : String := "/api/v2/token/refresh"

def refreshValues (refreshToken : String) : List (String × String) :=
  [("refresh_token", refreshToken), ("grant_type", "refresh_token")]

def refresh (lang : Language) (options : Options) (refreshToken : String) :
    Except Failure SellerTokens :=
  if refreshToken = "" then
    .error (.authorization "MISSING_REFRESH_TOKEN" "Refresh token is missing")
  else request lang options refreshPath (refreshValues refreshToken)

end tiktok_outreach.auth_client
