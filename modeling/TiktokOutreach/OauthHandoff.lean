-- The checks of authorization inputs and the signed handoff of the router
-- (apps/api/src/integrations/oauth-handoff.ts, and
-- `validateTikTokCallbackInput` of tiktok.service.ts).
import TiktokOutreach.TiktokConnection

open json tiktok_outreach.tiktok_connection

namespace tiktok_outreach.oauth_handoff

/-- The functions of `node:crypto`, as texts of hexadecimal digits. -/
structure Crypto where
  /-- `createHash("sha256").update(value).digest("hex")` -/
  digest : Text → Text
  /-- `createHmac("sha256", Buffer.from(key, "hex")).update(value).digest("hex")` -/
  hmac : Text → Text → Text

/-! ## Forms -/

def isLower (c : UInt16) : Bool := decide (0x61 ≤ c) && decide (c ≤ 0x7A)

def isUpper (c : UInt16) : Bool := decide (0x41 ≤ c) && decide (c ≤ 0x5A)

/-- `/^[A-Za-z0-9_-]{43}$/` -/
def isOpaque (value : Text) : Bool :=
  value.length = 43 &&
    value.all (fun c => isLower c || isUpper c || isDigit c || c = 0x5F || c = 0x2D)

/-- `/^[a-f0-9]{64}$/` -/
def isDigest (value : Text) : Bool :=
  value.length = 64 &&
    value.all (fun c => (decide (0x61 ≤ c) && decide (c ≤ 0x66)) || isDigit c)

/-- `/[\x00-\x20\x7f]/` -/
def hasControl (value : Text) : Bool := value.any (fun c => decide (c ≤ 0x20) || c = 0x7F)

/-- A text that counts as true: one that is there and not empty. -/
def given (value : Option Text) : Option Text := value.filter (fun text => !text.isEmpty)

/-- The state and the code of a callback that is well formed. -/
def validateTikTokCallbackInput (input : CallbackInput) : Except Failure (Text × Text) :=
  match given input.state with
  | none => .error (.authorization "MISSING_STATE" "Authorization callback state is missing")
  | some state =>
    if (given input.error).isSome || input.code = some (units "null") then
      .error (.authorization "AUTHORIZATION_REJECTED" "Seller rejected TikTok authorization")
    else match given input.code with
      | none => .error (.authorization "MALFORMED_CALLBACK" "Authorization callback code is missing")
      | some code =>
        if !isOpaque state || decide (4096 < code.length) || hasControl code then
          .error (.authorization "MALFORMED_CALLBACK" "Authorization callback is malformed")
        else .ok (state, code)

/-! ## The handoff -/

/-- The order of `sort`, by code units. -/
def before (a b : Text) : Bool := decide (a ≤ b)

/-- The written members, with commas between them. -/
def canonicalMembers : List (Text × Text) → Text
  | [] => []
  | [(key, x)] => stringify (.str key) ++ colon :: x
  | (key, x) :: y :: rest =>
    stringify (.str key) ++ colon :: (x ++ comma :: canonicalMembers (y :: rest))

mutual

def canonicalBody : Json → Text
  | .arr elements => openBracket :: (canonicalElements elements ++ [closeBracket])
  | .obj members =>
    openBrace :: (canonicalMembers ((canonicalPairs members).insertionSort
      (fun a b => before a.1 b.1)) ++ [closeBrace])
  | .null => stringify .null
  | .bool b => stringify (.bool b)
  | .number literal => stringify (.number literal)
  | .str s => stringify (.str s)

def canonicalElements : List Json → Text
  | [] => []
  | [x] => canonicalBody x
  | x :: y :: rest => canonicalBody x ++ comma :: canonicalElements (y :: rest)

/-- The members with their values written. -/
def canonicalPairs : List (Text × Json) → List (Text × Text)
  | [] => []
  | (key, x) :: rest => (key, canonicalBody x) :: canonicalPairs rest

end

/-- `none` where the key is no digest. -/
def signature (crypto : Crypto) (key path timestamp nonce : Text) (body : Json) : Option Text :=
  if !isDigest key then none
  else some (crypto.hmac key (canonicalBody (.arr ([units "OUTREACH_PRIVATE_HANDOFF_V1",
    units "POST", path, timestamp, nonce, crypto.digest (canonicalBody body)].map .str))))

structure Headers where
  time : Text := []
  nonce : Text := []
  signature : Text := []
  deriving DecidableEq, Repr

/-- `String(Math.floor(now / 1000))` -/
def timestampOf (now : Int) : Text := units (toString (now / 1000))

def signHandoff (crypto : Crypto) (key path : Text) (body : Json) (now : Int) (nonce : Text) :
    Option Headers :=
  (signature crypto key path (timestampOf now) nonce body).map
    (fun mac => ⟨timestampOf now, nonce, mac⟩)

/-- `Number(timestamp)` of ten digits -/
def secondsOf (timestamp : Text) : Int :=
  timestamp.foldl (fun n c => 10 * n + ((c.toNat : Int) - 0x30)) 0

/-- The proof of a handoff, `none` where it throws. -/
def verifyHandoff (crypto : Crypto) (key path : Text) (body : Json) (headers : Headers)
    (now : Int) : Option (Text × Int) :=
  if !(headers.time.length = 10 && headers.time.all isDigit) || !isOpaque headers.nonce ||
      decide (60000 < |now - secondsOf headers.time * 1000|) ||
      decide (12000 < (canonicalBody body).length) || !isDigest headers.signature ||
      signature crypto key path headers.time headers.nonce body ≠ some headers.signature then none
  else some (crypto.digest headers.nonce, now + 120000)

end tiktok_outreach.oauth_handoff
