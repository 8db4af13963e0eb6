-- What the adapter reports of a request: of an answer that leaves it open
-- whether the message was accepted, and of a failure before the request is
-- issued.
import TiktokOutreach.RealOutbound

open values tiktok_outreach.real_outbound

namespace tiktok_outreach.outbound_reports

/-! ## The two mutations -/

inductive Mutation
  | create (creatorOpenId : String)
  | send (conversationId content : String)

/-- Where the preparation of a request can fail. -/
inductive Stage
  | path
  | shopCipher
  | address
  | accessToken
  deriving DecidableEq, Repr

inductive Report
  | created (result : CreateResult)
  | sent (result : SendMessageResult)
  deriving DecidableEq, Repr

namespace Mutation

def operation : Mutation → Operation
  | create _ => .CREATE_CONVERSATION
  | send _ _ => .SEND_MESSAGE

def path (lang : Language) : Mutation → Except Failure String
  | create _ => .ok conversationPath
  | send conversationId _ => messagePath lang conversationId

def body (lang : Language) : Mutation → Value
  | create creatorOpenId => conversationBody creatorOpenId
  | send _ content => messageBody lang content

end Mutation

section Reports

variable (lang : Language) (options : Options)

/-- What the adapter reports of a mutation. -/
def report : Mutation → Except Failure Report
  | .create creatorOpenId => (createOrGetConversation lang options creatorOpenId).map .created
  | .send conversationId content => (sendMessage lang options conversationId content).map .sent

/-- The error of a stage, with the stage. -/
def failsAt {α : Type} (stage : Stage) (outcome : Except Failure α) :
    Except (Stage × Failure) α :=
  outcome.mapError (fun failure => (stage, failure))

/-- The request of a mutation as `fetch` gets it, or where its preparation fails. -/
def prepare (m : Mutation) : Except (Stage × Failure) HttpRequest := do
  let path ← failsAt .path (m.path lang)
  let shopCipher ← failsAt .shopCipher options.shopCipher
  let body := lang.stringify (m.body lang)
  let url ← failsAt .address (options.address path (options.startedAt / 1000) shopCipher body)
  let accessToken ← failsAt .accessToken options.accessToken
  return { url, accessToken, body }

/-- The call of `request` of a mutation. -/
def requested (m : Mutation) : Except Failure Fields := do
  let path ← m.path lang
  request lang options m.operation path (m.body lang)

/-- What `request` makes of what `fetch` did. -/
def settled (operation : Operation) : Except Failure Response → Except Failure Fields
  | .error _ => noResponse operation
  | .ok response => receive lang options.receivedAt operation response

/-- What `sendMessage` makes of what `request` returned or threw. -/
def answered : Except Failure Fields → Except Failure SendMessageResult
  | .ok response => .ok (sendResult response)
  | .error error => sendFailure lang error

variable {lang options}

theorem failsAt_bind_eq_ok {α β : Type} {stage : Stage} {x : Except Failure α}
    {f : α → Except (Stage × Failure) β} {b : β} :
    (failsAt stage x >>= f) = .ok b ↔ ∃ a, x = .ok a ∧ f a = .ok b := by
  cases x <;> simp [failsAt, Except.mapError, bind, Except.bind]

theorem failsAt_bind_eq_error {α β : Type} {stage at_ : Stage} {x : Except Failure α}
    {f : α → Except (Stage × Failure) β} {failure : Failure} :
    (failsAt stage x >>= f) = .error (at_, failure) ↔
      (at_ = stage ∧ x = .error failure) ∨ ∃ a, x = .ok a ∧ f a = .error (at_, failure) := by
  cases x <;> simp [failsAt, Except.mapError, bind, Except.bind, eq_comm]

theorem requested_prepared {m : Mutation} {r : HttpRequest}
    (h : prepare lang options m = .ok r) :
    requested lang options m = settled lang options m.operation (options.fetch r) := by
  unfold prepare at h
  simp only [failsAt_bind_eq_ok] at h
  obtain ⟨path, hpath, shopCipher, hcipher, url, hurl, accessToken, htoken, hr⟩ := h
  cases hr
  unfold requested request transmit
  cases hfetch : options.fetch { url, accessToken, body := lang.stringify (m.body lang) } with
  | error failure => simp only [hpath, hcipher, hurl, htoken, hfetch, settled, bind, Except.bind]
  | ok response => simp only [hpath, hcipher, hurl, htoken, hfetch, settled, bind, Except.bind]

/-- A failure of the access token meets the `catch` of `fetch`, every other one passes through. -/
theorem requested_unprepared {m : Mutation} {stage : Stage} {failure : Failure}
    (h : prepare lang options m = .error (stage, failure)) :
    requested lang options m =
      if stage = .accessToken then noResponse m.operation else .error failure := by
  unfold prepare at h
  simp only [failsAt_bind_eq_error] at h
  unfold requested request transmit
  rcases h with ⟨rfl, hpath⟩ | ⟨path, hpath, h⟩
  · simp [hpath, bind, Except.bind]
  · rcases h with ⟨rfl, hcipher⟩ | ⟨shopCipher, hcipher, h⟩
    · simp [hpath, hcipher, bind, Except.bind]
    · rcases h with ⟨rfl, hurl⟩ | ⟨url, hurl, h⟩
      · simp [hpath, hcipher, hurl, bind, Except.bind]
      · rcases h with ⟨rfl, htoken⟩ | ⟨accessToken, htoken, h⟩
        · simp [hpath, hcipher, hurl, htoken, bind, Except.bind]
        · cases h

/-! ## Answers that leave the outcome open -/

/-- The numeric code of an answer. -/
def providerCode (response : Response) : Option ℚ :=
  asNumber ((response.json.bind asObject).bind (getField · "code"))

/-- No numeric code came back, and no throttle did. -/
def Ambiguous (outcome : Except Failure Response) : Prop :=
  ∀ response, outcome = .ok response → providerCode response = none ∧ response.status ≠ 429

/-- The message id of an answer. -/
def messageId (response : Response) : Option String :=
  asString (((response.json.bind asObject).bind (getField · "data")).bind asObject |>.bind
    (getField · "message_id"))

/-- `sendMessage` reports an open outcome as unknown, and a message as sent on positive evidence
only. -/
def ReportsOutcome (lang : Language) (options : Options) (conversationId content : String)
    (outcome : Except Failure Response) : Prop :=
  (Ambiguous outcome → ∃ requestId httpStatus,
    sendMessage lang options conversationId content =
      .ok (.DELIVERY_UNKNOWN requestId httpStatus)) ∧
  ∀ id requestId httpStatus,
    sendMessage lang options conversationId content = .ok (.SENT id requestId httpStatus) →
    ∃ response, outcome = .ok response ∧ response.ok = true ∧ providerCode response = some 0 ∧
      messageId response = some id

/-- An answer that is JSON, without a numeric code and without the status of a throttle. -/
def Uncoded (outcome : Except Failure Response) : Prop :=
  ∃ response value, outcome = .ok response ∧ response.json = some value ∧
    providerCode response = none ∧ response.status ≠ 429

theorem sendMessage_requested (conversationId content : String) :
    sendMessage lang options conversationId content =
      answered lang (requested lang options (.send conversationId content)) := rfl

theorem sendResult_unknown {response : Fields} (h : deliveryUnknown response = true) :
    ∃ requestId httpStatus, sendResult response = .DELIVERY_UNKNOWN requestId httpStatus := by
  unfold sendResult
  simp [h]

theorem sendResult_eq_sent {response : Fields} {id requestId : String} {httpStatus : Option ℚ}
    (h : sendResult response = .SENT id requestId httpStatus) :
    deliveryUnknown response = false ∧
      asString (((getField response "data").bind asObject).bind (getField · "message_id")) =
        some id := by
  unfold sendResult at h
  extract_lets requestId' httpStatus' at h
  cases hunknown : deliveryUnknown response with
  | true => simp [hunknown] at h
  | false =>
    rw [hunknown] at h
    refine ⟨rfl, ?_⟩
    split at h
    · cases h
    · split at h
      · rename_i hid
        simp only [SendMessageResult.SENT.injEq] at h
        rw [hid, h.1]
      · cases h

/-- An answer that is no object has no fields. -/
theorem getField_decoded (value : Value) (name : String) :
    getField ((asObject value).getD []) name = (asObject value).bind (getField · name) := by
  cases value <;> rfl

theorem providerCode_decoded {response : Response} {value : Value}
    (hjson : response.json = some value) :
    asNumber (getField ((asObject value).getD []) "code") = providerCode response := by
  unfold providerCode
  rw [hjson, getField_decoded]
  rfl

theorem settled_undecoded (lang : Language) (options : Options) {response : Response} (hjson : response.json = none)
    (hstatus : response.status ≠ 429) :
    ∃ fields, settled lang options .SEND_MESSAGE (.ok response) = .ok fields ∧
      deliveryUnknown fields = true := by
  have hsettled : settled lang options .SEND_MESSAGE (.ok response) =
      .ok ([("__deliveryUnknown", .boolean true)] ++
        (response.requestId.map (fun id => ("request_id", .text id))).toList ++
        [("__httpStatus", statusValue response)]) := by
    simp only [settled, receive, hjson, undecoded, if_neg hstatus]
  refine ⟨_, hsettled, ?_⟩
  cases response.requestId <;> simp [deliveryUnknown, getField]

/-- An answer without a code is an error that is no restriction. -/
theorem settled_uncoded (lang : Language) (options : Options) {response : Response}
    {value : Value} (hjson : response.json = some value) (hcode : providerCode response = none) :
    ∃ error : TikTokOutboundError, settled lang options .SEND_MESSAGE (.ok response) =
      .error (.outbound error) ∧ error.kind ≠ .RESTRICTED := by
  have hnone := providerCode_decoded hjson
  rw [hcode] at hnone
  refine ⟨_, by simp [settled, receive, hjson, decode, hnone]; rfl, ?_⟩
  simp only [errorKind, authCodes, permissionCodes, shopQuotaCodes, restrictedCodes,
    restrictedSendCodes]
  norm_num
  split <;> simp

/-- A message that is reported as sent was accepted. -/
theorem accepted_of_sent {outcome : Except Failure Response} {fields : Fields}
    {id requestId : String} {httpStatus : Option ℚ}
    (h : settled lang options .SEND_MESSAGE outcome = .ok fields)
    (hsent : sendResult fields = .SENT id requestId httpStatus) :
    ∃ response, outcome = .ok response ∧ response.ok = true ∧ providerCode response = some 0 ∧
      messageId response = some id := by
  obtain ⟨hknown, hid⟩ := sendResult_eq_sent hsent
  cases outcome with
  | error e =>
    simp only [settled, noResponse, Except.ok.injEq] at h
    subst h
    simp [deliveryUnknown, getField] at hknown
  | ok response =>
    refine ⟨response, rfl, ?_⟩
    simp only [settled, receive] at h
    cases hjson : response.json with
    | none =>
      by_cases hstatus : response.status = 429
      · simp [hjson, undecoded, hstatus] at h
      · obtain ⟨fields', hfields, hunknown⟩ := settled_undecoded lang options hjson hstatus
        simp only [settled, receive] at hfields
        rw [h] at hfields
        cases hfields
        rw [hknown] at hunknown
        cases hunknown
    | some value =>
      simp only [hjson, decode] at h
      split at h
      · rename_i haccepted
        have hok : response.ok = true ∧ asNumber (getField ((asObject value).getD []) "code") = some 0 := by
          simpa using haccepted
        refine ⟨hok.1, by rw [← providerCode_decoded hjson]; exact hok.2, ?_⟩
        have hfields : setField ((asObject value).getD []) "__httpStatus" (statusValue response) =
            fields := by simpa using h
        rw [← hfields, getField_setField_of_ne _ _ (by decide), getField_decoded] at hid
        unfold messageId
        rw [hjson]
        exact hid
      · cases h

theorem sendMessage_prepared {conversationId content : String} {r : HttpRequest}
    (h : prepare lang options (.send conversationId content) = .ok r) :
    sendMessage lang options conversationId content =
      answered lang (settled lang options .SEND_MESSAGE (options.fetch r)) := by
  rw [sendMessage_requested, requested_prepared h]
  rfl

theorem reported_of_sent {conversationId content id requestId : String} {httpStatus : Option ℚ}
    {r : HttpRequest} (h : prepare lang options (.send conversationId content) = .ok r)
    (hsent : sendMessage lang options conversationId content =
      .ok (.SENT id requestId httpStatus)) :
    ∃ response, options.fetch r = .ok response ∧ response.ok = true ∧
      providerCode response = some 0 ∧ messageId response = some id := by
  rw [sendMessage_prepared h] at hsent
  cases hsettled : settled lang options .SEND_MESSAGE (options.fetch r) with
  | ok fields =>
    rw [hsettled] at hsent
    exact accepted_of_sent hsettled (Except.ok.inj hsent)
  | error error =>
    rw [hsettled] at hsent
    cases error with
    | other message => simp [answered, sendFailure] at hsent
    | outbound e =>
      simp only [answered, sendFailure] at hsent
      split_ifs at hsent <;> simp at hsent

/-- The classification holds of every answer but the one that is JSON without a code: that one is
an error, retryable or not, and never unknown. -/
theorem open_outcomes_are_unknown {conversationId content : String} {r : HttpRequest}
    (h : prepare lang options (.send conversationId content) = .ok r) :
    ReportsOutcome lang options conversationId content (options.fetch r) ↔
      ¬ Uncoded (options.fetch r) := by
  constructor
  · rintro ⟨hunknown, -⟩ ⟨response, value, hfetch, hjson, hcode, hstatus⟩
    have hambiguous : Ambiguous (options.fetch r) := by
      intro response' hfetch'
      rw [hfetch] at hfetch'
      cases hfetch'
      exact ⟨hcode, hstatus⟩
    obtain ⟨requestId, httpStatus, hreport⟩ := hunknown hambiguous
    obtain ⟨error, herror, hkind⟩ := settled_uncoded lang options hjson hcode
    rw [sendMessage_prepared h, hfetch, herror] at hreport
    simp only [answered, sendFailure, if_neg hkind] at hreport
    split_ifs at hreport
    cases hreport
  · intro hcoded
    refine ⟨?_, fun id requestId httpStatus hsent => reported_of_sent h hsent⟩
    intro hambiguous
    rw [sendMessage_prepared h]
    cases hfetch : options.fetch r with
    | error e =>
      have hunknown : deliveryUnknown [("__deliveryUnknown", .boolean true)] = true := by decide
      obtain ⟨requestId, httpStatus, hreport⟩ := sendResult_unknown hunknown
      exact ⟨requestId, httpStatus, by simp only [answered, settled, noResponse, hreport]⟩
    | ok response =>
      obtain ⟨hcode, hstatus⟩ := hambiguous response hfetch
      cases hjson : response.json with
      | none =>
        obtain ⟨fields, hfields, hunknown⟩ :=
          settled_undecoded lang options hjson hstatus
        obtain ⟨requestId, httpStatus, hreport⟩ := sendResult_unknown hunknown
        exact ⟨requestId, httpStatus, by simp only [answered, hfields, hreport]⟩
      | some value => exact absurd ⟨response, value, hfetch, hjson, hcode, hstatus⟩ hcoded

end Reports

/-- The language on texts without spaces and without special characters. -/
def plainLanguage : Language where
  trim := id
  Number := fun _ => none
  parseDate := fun _ => none
  toText := fun n => toString n.num
  stringify := fun
    | .object [("content", .text s)] => "\x7b\"content\":\"" ++ s ++ "\"\x7d"
    | .object [("msg_type", .text t), ("content", .text s)] =>
      "\x7b\"msg_type\":\"" ++ t ++ "\",\"content\":\"" ++ s.replace "\"" "\\\"" ++ "\"\x7d"
    | .object [("creator_open_id", .text s), ("only_need_conversation_id", .boolean true)] =>
      "\x7b\"creator_open_id\":\"" ++ s ++ "\",\"only_need_conversation_id\":true\x7d"
    | _ => ""
  encodeURIComponent := some

/-- The options of a shop whose `fetch` does always the same. -/
def sampleOptions (outcome : Except Failure Response) : Options where
  accessToken := .ok "token"
  shopCipher := .ok "cipher"
  address := fun path timestamp shopCipher _ =>
    .ok ("https://open-api.tiktokglobalshop.com" ++ path ++ "?app_key=app&timestamp=" ++
      toString timestamp ++ "&shop_cipher=" ++ shopCipher ++ "&sign=")
  fetch := fun _ => outcome
  startedAt := 1700000000000
  receivedAt := 1700000000200

/-- A lost connection is reported as unknown. -/
theorem a_lost_connection_is_unknown :
    ReportsOutcome plainLanguage (sampleOptions (.error (.other "reset"))) "C-1" "Hello"
      (.error (.other "reset")) := by
  have hprepared : ∃ r, prepare plainLanguage (sampleOptions (.error (.other "reset")))
      (.send "C-1" "Hello") = .ok r := ⟨_, rfl⟩
  obtain ⟨r, hr⟩ := hprepared
  apply (open_outcomes_are_unknown hr).2
  rintro ⟨response, value, hfetch, -⟩
  cases hfetch

/-- An error of the server with an empty object as its body. -/
def serverError : Response := { status := 500, json := some (.object []) }

/-- An empty object from a failing server leaves the outcome open, and is reported as retryable. -/
theorem a_server_error_is_retried :
    Ambiguous (.ok serverError) ∧
    sendMessage plainLanguage (sampleOptions (.ok serverError)) "C-1" "Hello" =
      .ok (.RETRYABLE_ERROR "unknown-request" "TEMPORARY" none (some 500)) ∧
    ¬ ∀ lang options conversationId content r,
      prepare lang options (.send conversationId content) = .ok r →
      ReportsOutcome lang options conversationId content (options.fetch r) := by
  have hambiguous : Ambiguous (.ok serverError) := by
    intro response h
    cases h
    exact ⟨rfl, by decide⟩
  have hreport : sendMessage plainLanguage (sampleOptions (.ok serverError)) "C-1" "Hello" =
      .ok (.RETRYABLE_ERROR "unknown-request" "TEMPORARY" none (some 500)) := rfl
  refine ⟨hambiguous, hreport, ?_⟩
  intro h
  obtain ⟨hunknown, -⟩ := h plainLanguage (sampleOptions (.ok serverError)) "C-1" "Hello" _ rfl
  obtain ⟨requestId, httpStatus, hsent⟩ := hunknown hambiguous
  rw [hreport] at hsent
  cases hsent

/-! ## Failures before the request is issued -/

section EarlyFailures

variable {lang : Language} {options : Options}

/-- The kind of a provider's error. -/
def kind : Failure → Option schema.TikTokOutboundErrorKind
  | .outbound error => some error.kind
  | .other _ => none

/-- The failure goes through as it is, and is reported neither as an unknown delivery nor as a
retryable error of the provider. -/
def LetThrough (outcome : Except Failure Report) (failure : Failure) : Prop :=
  outcome = .error failure ∧ kind failure ≠ some .RETRYABLE

/-- The failures that each mutation lets through: none of the access token, and of the others
those that `sendMessage` does not report by itself. -/
def Passes : Mutation → Stage → Failure → Prop
  | .create _, stage, failure => stage ≠ .accessToken ∧ kind failure ≠ some .RETRYABLE
  | .send _ _, stage, failure =>
    stage ≠ .accessToken ∧ kind failure ≠ none ∧ kind failure ≠ some .RESTRICTED ∧
      kind failure ≠ some .RETRYABLE

theorem createOrGetConversation_requested (creatorOpenId : String) {failure : Failure}
    (h : requested lang options (.create creatorOpenId) = .error failure) :
    createOrGetConversation lang options creatorOpenId = .error failure := by
  have hrequest : request lang options .CREATE_CONVERSATION conversationPath
      (conversationBody creatorOpenId) = .error failure := h
  unfold createOrGetConversation
  rw [hrequest]
  rfl

theorem sendFailure_eq_error {failure : Failure} :
    sendFailure lang failure = .error failure ↔ kind failure ≠ none ∧
      kind failure ≠ some .RESTRICTED ∧ kind failure ≠ some .RETRYABLE := by
  cases failure with
  | other message => simp [sendFailure, kind]
  | outbound error =>
    simp only [sendFailure, kind]
    split_ifs with hrestricted hretryable
    · simp [hrestricted]
    · simp [hretryable]
    · simp [hrestricted, hretryable]

/-- Both mutations let the failures of a stage outside the `try` of `fetch` through, the message
only those that its own `catch` throws on. -/
theorem early_failures_go_through {m : Mutation} {stage : Stage} {failure : Failure}
    (h : prepare lang options m = .error (stage, failure)) :
    LetThrough (report lang options m) failure ↔ Passes m stage failure := by
  have hrequested := requested_unprepared h
  unfold LetThrough
  cases m with
  | create creatorOpenId =>
    simp only [Passes, report]
    by_cases hstage : stage = .accessToken
    · rw [if_pos hstage] at hrequested
      rw [createOrGetConversation_requested creatorOpenId hrequested]
      simp only [Except.map, Except.error.injEq, hstage, ne_eq, not_true_eq_false, false_and,
        iff_false, not_and, not_not]
      rintro rfl
      rfl
    · rw [if_neg hstage] at hrequested
      rw [createOrGetConversation_requested creatorOpenId hrequested]
      simp [Except.map, hstage]
  | send conversationId content =>
    simp only [Passes, report, sendMessage_requested, hrequested]
    by_cases hstage : stage = .accessToken
    · simp [hstage, Mutation.operation, noResponse, answered, Except.map]
    · have hthrown : Except.map Report.sent (sendFailure lang failure) = .error failure ↔
          sendFailure lang failure = .error failure := by
        cases sendFailure lang failure <;> simp [Except.map]
      simp only [if_neg hstage, answered, hthrown, sendFailure_eq_error]
      tauto

end EarlyFailures

/-- The error of the worker's supplier when no healthy token is stored. -/
def unhealthyToken : Failure :=
  .outbound
    { kind := .AUTH
      operation := .CREATE_CONVERSATION
      providerCode := none
      requestId := none
      message := "A healthy unexpired TikTok access token is required" }

/-- A shop without a healthy token. -/
def unhealthyOptions : Options :=
  { sampleOptions (.error (.other "reset")) with accessToken := .error unhealthyToken }

/-- A shop that is not selected. -/
def unselectedOptions : Options :=
  { sampleOptions (.error (.other "reset")) with
    shopCipher := .error
      (.other "LIVE_OUTBOUND_NOT_CONFIGURED: selected shop cipher is unavailable") }

theorem a_missing_cipher_goes_through :
    LetThrough (report plainLanguage unselectedOptions (.create "creator"))
      (.other "LIVE_OUTBOUND_NOT_CONFIGURED: selected shop cipher is unavailable") := by
  have hprepare : prepare plainLanguage unselectedOptions (.create "creator") =
      .error (.shopCipher,
        .other "LIVE_OUTBOUND_NOT_CONFIGURED: selected shop cipher is unavailable") := rfl
  exact (early_failures_go_through hprepare).2 ⟨by decide, by decide⟩

/-- A token that cannot be supplied makes an unknown delivery of a message that was never sent,
which the worker's own classification never does, and a retryable error of a conversation. -/
theorem an_unhealthy_token_is_unknown :
    (∀ responseKnown, classifySendException false responseKnown ≠ .UNKNOWN) ∧
    report plainLanguage unhealthyOptions (.send "C-1" "Hello") =
      .ok (.sent (.DELIVERY_UNKNOWN "unknown-request" none)) ∧
    (∃ e, report plainLanguage unhealthyOptions (.create "creator") = .error (.outbound e) ∧
      e.kind = .RETRYABLE) ∧
    ¬ ∀ lang options m stage failure, prepare lang options m = .error (stage, failure) →
      LetThrough (report lang options m) failure := by
  have hreport : report plainLanguage unhealthyOptions (.send "C-1" "Hello") =
      .ok (.sent (.DELIVERY_UNKNOWN "unknown-request" none)) := rfl
  refine ⟨by decide, hreport, ⟨_, rfl, rfl⟩, ?_⟩
  intro h
  have hthrough := h plainLanguage unhealthyOptions (.send "C-1" "Hello") .accessToken
    unhealthyToken rfl
  rw [LetThrough, hreport] at hthrough
  cases hthrough.1

end tiktok_outreach.outbound_reports
