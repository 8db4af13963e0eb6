-- The adapter that sends for real
-- (packages/tiktok-adapter/src/real-outbound.ts): how a request is prepared,
-- and how its answer, or the want of one, is reported.
import TiktokOutreach.Lib.Values
import TiktokOutreach.Schema

open values tiktok_outreach.schema

namespace tiktok_outreach.real_outbound

/-! ## Errors and results -/

inductive Operation
  | CREATE_CONVERSATION
  | SEND_MESSAGE
  deriving DecidableEq, Repr

structure TikTokOutboundError where
  kind : TikTokOutboundErrorKind
  operation : Operation
  providerCode : Option ℚ
  requestId : Option String
  message : String
  retryAfterMs : Option ℚ := none
  httpStatus : Option ℚ := none
  deriving DecidableEq, Repr

inductive Failure
  | outbound (error : TikTokOutboundError)
  | other (message : String)
  deriving DecidableEq, Repr

structure CreateResult where
  conversationId : String
  isNew : Bool
  deriving DecidableEq, Repr

inductive SendMessageResult
  | SENT (messageId requestId : String) (httpStatus : Option ℚ)
  | DELIVERY_UNKNOWN (requestId : String) (httpStatus : Option ℚ)
  | RESTRICTED (requestId errorCode : String) (httpStatus : Option ℚ)
  | RETRYABLE_ERROR (requestId errorCode : String) (retryAfterMs httpStatus : Option ℚ)
  deriving DecidableEq, Repr

/-! ## The surroundings -/

/-- The functions of the language on texts. -/
structure Language where
  trim : String → String
  /-- `Number(text)`, when it is finite -/
  Number : String → Option ℚ
  /-- `Date.parse(text)`, when it is a date -/
  parseDate : String → Option Int
  /-- `String(n)` -/
  toText : ℚ → String
  /-- `JSON.stringify` -/
  stringify : Value → String
  /-- `none` when the text holds half a surrogate pair -/
  encodeURIComponent : String → Option String

structure HttpRequest where
  url : String
  accessToken : String
  body : String
  deriving DecidableEq, Repr

structure Response where
  status : Nat
  /-- The header `x-tts-request-id`. -/
  requestId : Option String := none
  /-- The header `retry-after`. -/
  retryAfter : Option String := none
  /-- What `response.json()` gives, or `none` when it throws. -/
  json : Option Value

/-- `response.ok` -/
def Response.ok (response : Response) : Bool := 200 ≤ response.status && response.status ≤ 299

structure Options where
  accessToken : Except Failure String
  shopCipher : Except Failure String
  /-- The signed address of a path with a timestamp, a shop cipher and a body; `new URL` can
  throw. -/
  address : String → Int → String → String → Except Failure String
  fetch : HttpRequest → Except Failure Response
  /-- What `now` reads before the request. -/
  startedAt : Int
  /-- What `now` reads when the answer is there. -/
  receivedAt : Int

/-! ## Reading an answer -/

def restrictedCreateCodes : List ℚ := [16030001, 16030003, 16030007, 16030009, 16032001, 45101021]

def restrictedSendCodes : List ℚ := [16030100, 16030101, 16032001]

def shopQuotaCodes : List ℚ := [16030002, 45101004]

def authCodes : List ℚ := [105001, 105002]

def permissionCodes : List ℚ := [105005]

def retryableCodes : List ℚ := [36009002, 36009003, 36009007]

def asObject : Value → Option Fields
  | .object fields => some fields
  | _ => none

def asString : Option Value → Option String
  | some (.text s) => if s = "" then none else some s
  | _ => none

def asNumber : Option Value → Option ℚ
  | some (.number n) => n
  | _ => none

def parseRetryAfterMs (lang : Language) (value : Option String) (nowMs : Int) : Option ℚ :=
  match value with
  | none => none
  | some value =>
    if lang.trim value = "" then none
    else
      let date : Option ℚ := (lang.parseDate value).map (fun time => ((time - nowMs : Int) : ℚ))
      let milliseconds : Option ℚ := match lang.Number value with
        | some seconds => if 0 ≤ seconds then some (seconds * 1000) else date
        | none => date
      milliseconds.bind (fun ms =>
        if 0 ≤ ms then some (min ((⌊ms⌋ : Int) : ℚ) (24 * 60 * 60000)) else none)

/-- The codes that restrict a recipient. -/
def restrictedCodes : Operation → List ℚ
  | .CREATE_CONVERSATION => restrictedCreateCodes
  | .SEND_MESSAGE => restrictedSendCodes

def errorKind (operation : Operation) (status : Nat) (code : Option ℚ) : TikTokOutboundErrorKind :=
  if code.getD (-1) ∈ authCodes then .AUTH
  else if code.getD (-1) ∈ permissionCodes then .PERMISSION
  else if code.getD (-1) ∈ shopQuotaCodes then .QUOTA
  else if code.getD (-1) ∈ restrictedCodes operation then .RESTRICTED
  else if status = 429 ∨ 500 ≤ status ∨ code.getD (-1) ∈ retryableCodes then .RETRYABLE
  else .PROVIDER

def rejectedMessage : Operation → String
  | .CREATE_CONVERSATION => "TikTok create conversation was rejected"
  | .SEND_MESSAGE => "TikTok send message was rejected"

/-- The number of a status as a value. -/
def statusValue (response : Response) : Value := .number (some response.status)

/-- What `request` does with an answer that is JSON. -/
def decode (lang : Language) (receivedAt : Int) (operation : Operation) (response : Response)
    (decoded : Fields) : Except Failure Fields :=
  let code := asNumber (getField decoded "code")
  let requestId := (asString (getField decoded "request_id")).or response.requestId
  if response.ok && code = some 0 then .ok (setField decoded "__httpStatus" (statusValue response))
  else
    let kind := errorKind operation response.status code
    .error (.outbound
      { kind := kind
        operation := operation
        providerCode := code
        requestId := requestId
        message := rejectedMessage operation
        retryAfterMs := if kind = .RETRYABLE then
          parseRetryAfterMs lang response.retryAfter receivedAt else none
        httpStatus := some response.status })

/-- What `request` does with an answer that is not JSON. -/
def undecoded (lang : Language) (receivedAt : Int) (operation : Operation) (response : Response) :
    Except Failure Fields :=
  let retryAfterMs := parseRetryAfterMs lang response.retryAfter receivedAt
  if response.status = 429 then
    .error (.outbound
      { kind := .RETRYABLE
        operation := operation
        providerCode := none
        requestId := response.requestId
        message := "TikTok throttled the request without a JSON body"
        retryAfterMs := retryAfterMs
        httpStatus := some response.status })
  else match operation with
    | .SEND_MESSAGE =>
      .ok ([("__deliveryUnknown", .boolean true)] ++
        (response.requestId.map (fun id => ("request_id", .text id))).toList ++
        [("__httpStatus", statusValue response)])
    | .CREATE_CONVERSATION =>
      .error (.outbound
        { kind := if 500 ≤ response.status ∨ response.status = 429 then .RETRYABLE
            else .MALFORMED_RESPONSE
          operation := operation
          providerCode := none
          requestId := response.requestId
          message := "TikTok returned a non-JSON conversation response"
          retryAfterMs := retryAfterMs
          httpStatus := some response.status })

/-- What `request` does with an answer. -/
def receive (lang : Language) (receivedAt : Int) (operation : Operation) (response : Response) :
    Except Failure Fields :=
  match response.json with
  | none => undecoded lang receivedAt operation response
  | some value => decode lang receivedAt operation response ((asObject value).getD [])

/-! ## The requests -/

/-- The `try` around `fetch`, which asks for the access token too. -/
def transmit (options : Options) (url body : String) : Except Failure Response := do
  let accessToken ← options.accessToken
  options.fetch { url, accessToken, body }

/-- What `request` does when nothing was received. -/
def noResponse : Operation → Except Failure Fields
  | .SEND_MESSAGE => .ok [("__deliveryUnknown", .boolean true)]
  | .CREATE_CONVERSATION =>
    .error (.outbound
      { kind := .RETRYABLE
        operation := .CREATE_CONVERSATION
        providerCode := none
        requestId := none
        message := "TikTok conversation request did not receive a response" })

def request (lang : Language) (options : Options) (operation : Operation) (path : String)
    (body : Value) : Except Failure Fields := do
  let timestamp := options.startedAt / 1000
  let shopCipher ← options.shopCipher
  let encodedBody := lang.stringify body
  let url ← options.address path timestamp shopCipher encodedBody
  match transmit options url encodedBody with
  | .error _ => noResponse operation
  | .ok response => receive lang options.receivedAt operation response

def conversationPath : String := "/affiliate_seller/202508/conversations"

def conversationBody (creatorOpenId : String) : Value :=
  .object [("creator_open_id", .text creatorOpenId),
    ("only_need_conversation_id", .boolean true)]

def createOrGetConversation (lang : Language) (options : Options) (creatorOpenId : String) :
    Except Failure CreateResult := do
  let response ← request lang options .CREATE_CONVERSATION conversationPath
    (conversationBody creatorOpenId)
  let data := (getField response "data").bind asObject
  let isNew := match data.bind (getField · "is_new") with
    | some (.boolean b) => b
    | _ => false
  match asString (data.bind (getField · "conversation_id")) with
  | some conversationId => return { conversationId, isNew }
  | none => throw (.outbound
      { kind := .MALFORMED_RESPONSE
        operation := .CREATE_CONVERSATION
        providerCode := some 0
        requestId := asString (getField response "request_id")
        message := "TikTok did not return a conversation ID"
        httpStatus := asNumber (getField response "__httpStatus") })

/-- The path of a conversation's messages. -/
def messagePath (lang : Language) (conversationId : String) : Except Failure String :=
  match lang.encodeURIComponent conversationId with
  | some id => .ok ("/affiliate_seller/202412/conversations/" ++ id ++ "/messages")
  | none => .error (.other "URI malformed")

def messageBody (lang : Language) (content : String) : Value :=
  .object [("msg_type", .text "TEXT"),
    ("content", .text (lang.stringify (.object [("content", .text content)])))]

/-- `response.__deliveryUnknown === true` -/
def deliveryUnknown (response : Fields) : Bool :=
  match getField response "__deliveryUnknown" with
  | some (.boolean true) => true
  | _ => false

/-- What `sendMessage` reads in what `request` returned. -/
def sendResult (response : Fields) : SendMessageResult :=
  let requestId := (asString (getField response "request_id")).getD "unknown-request"
  let httpStatus := asNumber (getField response "__httpStatus")
  if deliveryUnknown response then .DELIVERY_UNKNOWN requestId httpStatus
  else match asString (((getField response "data").bind asObject).bind (getField · "message_id")) with
    | some messageId => .SENT messageId requestId httpStatus
    | none => .DELIVERY_UNKNOWN requestId httpStatus

/-- `String(error.providerCode ?? fallback)` -/
def codeOr (lang : Language) (error : TikTokOutboundError) (fallback : String) : String :=
  match error.providerCode with
  | some code => lang.toText code
  | none => fallback

/-- The `catch` of `sendMessage`. -/
def sendFailure (lang : Language) : Failure → Except Failure SendMessageResult
  | .other _ => .ok (.DELIVERY_UNKNOWN "unknown-request" none)
  | .outbound error =>
    if error.kind = .RESTRICTED then
      .ok (.RESTRICTED (error.requestId.getD "unknown-request") (codeOr lang error "RESTRICTED")
        error.httpStatus)
    else if error.kind = .RETRYABLE then
      .ok (.RETRYABLE_ERROR (error.requestId.getD "unknown-request")
        (codeOr lang error "TEMPORARY") error.retryAfterMs error.httpStatus)
    else .error (.outbound error)

def sendMessage (lang : Language) (options : Options) (conversationId content : String) :
    Except Failure SendMessageResult :=
  let response : Except Failure Fields := do
    let path ← messagePath lang conversationId
    request lang options .SEND_MESSAGE path (messageBody lang content)
  match response with
  | .ok response => .ok (sendResult response)
  | .error error => sendFailure lang error

/-! ## What the worker makes of an exception -/

inductive SendException
  | RETRYABLE_PRE_SEND
  | UNKNOWN
  deriving DecidableEq, Repr

/-- apps/worker/src/outbound-mvp-policy.ts -/
def classifySendException (transmitted responseKnown : Bool) : SendException :=
  if transmitted && !responseKnown then .UNKNOWN else .RETRYABLE_PRE_SEND

end tiktok_outreach.real_outbound
