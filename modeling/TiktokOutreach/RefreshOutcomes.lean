-- What becomes of a connection whose refresh was claimed: it is uncertain when
-- TikTok may have rotated its tokens, and failed with its tokens when TikTok
-- did not.
import TiktokOutreach.Lib.Transcripts
import TiktokOutreach.AuthClient
import TiktokOutreach.TiktokPlays

open executions values tables tiktok_outreach.tiktok_connection tiktok_outreach.tiktok_service
  tiktok_outreach.tiktok_system tiktok_outreach.auth_client

namespace tiktok_outreach.refresh_outcomes

/-! ## What TikTok can have done -/

section Answers

variable (lang : auth_client.Language) (options : Options)

/-- Where a refresh is issued to, when it is. -/
def issuedTo (refreshToken : String) : Option String :=
  if refreshToken = "" then none
  else options.address refreshPath
    ([("app_key", options.appKey), ("app_secret", options.appSecret)] ++
      refreshValues refreshToken)

/-- The answer that a refresh gets, with the stored token as far as it was decrypted. -/
def answerTo (previousRefresh : Option String) : Option Response :=
  (previousRefresh.bind (issuedTo options)).bind options.fetch

def Issued (previousRefresh : Option String) : Prop :=
  (previousRefresh.bind (issuedTo options)).isSome = true

/-- The numeric code of an answer. -/
def codeOf (response : Response) : Option ℚ :=
  response.json.bind (fun payload => numeric lang (payload.field "code"))

/-- A code other than zero came back. -/
def Coded (answer : Option Response) : Prop :=
  ∃ response code, answer = some response ∧ codeOf lang response = some code ∧ code ≠ 0

/-- All that the tokens of a seller consist of. -/
def SellerSet (data : Value) : Prop :=
  (text (data.field "access_token")).isSome = true ∧
  (text (data.field "refresh_token")).isSome = true ∧
  (numeric lang (data.field "access_token_expire_in")).isSome = true ∧
  (numeric lang (data.field "refresh_token_expire_in")).isSome = true ∧
  numeric lang (data.field "user_type") = some 0

/-- The tokens of a seller came back: with the code zero and the status of a success. -/
def Granted (answer : Option Response) : Prop :=
  ∃ response payload, answer = some response ∧ response.json = some payload ∧
    response.ok = true ∧ codeOf lang response = some 0 ∧ SellerSet lang (tokenData payload)

/-- The answer is the JSON text `null`. -/
def NullBody (answer : Option Response) : Prop :=
  ∃ response, answer = some response ∧ response.json = some .null

variable {lang options}

theorem ambiguous_malformed (message : String) : ambiguous (auth_client.malformed message) = true := by
  simp [ambiguous, auth_client.malformed, AMBIGUOUS_REFRESH_ERROR_CODES]

theorem sellerTokens_ok {data : Value} (h : SellerSet lang data) :
    ∃ tokens, sellerTokens lang data = .ok tokens := by
  obtain ⟨haccess, hrefresh, haccessExpiry, hrefreshExpiry, huser⟩ := h
  obtain ⟨accessToken, haccess⟩ := Option.isSome_iff_exists.1 haccess
  obtain ⟨refreshToken, hrefresh⟩ := Option.isSome_iff_exists.1 hrefresh
  obtain ⟨accessExpiry, haccessExpiry⟩ := Option.isSome_iff_exists.1 haccessExpiry
  obtain ⟨refreshExpiry, hrefreshExpiry⟩ := Option.isSome_iff_exists.1 hrefreshExpiry
  unfold sellerTokens
  simp [haccess, hrefresh, haccessExpiry, hrefreshExpiry, huser]

/-- An incomplete set of tokens is an ambiguous answer. -/
theorem sellerTokens_ambiguous {data : Value} (h : ¬ SellerSet lang data) :
    ∃ e, sellerTokens lang data = .error e ∧ ambiguous e = true := by
  unfold sellerTokens
  split
  · rename_i accessToken refreshToken accessExpiry refreshExpiry userType h1 h2 h3 h4 h5
    split
    · exact ⟨_, rfl, by decide⟩
    · rename_i huser
      have hzero : userType = 0 := by simpa using huser
      refine absurd ?_ h
      refine ⟨by simp [h1], by simp [h2], by simp [h3], by simp [h4], ?_⟩
      rw [h5, hzero]
  · exact ⟨_, rfl, by decide⟩

/-- The code of an error of TikTok is none of the ambiguous ones. -/
theorem not_ambiguous_of_code (code message : String) :
    ambiguous (.authorization ("TIKTOK_TOKEN_" ++ code) message) = false := by
  have hne : ∀ other : String, other.toList.take 2 ≠ ['T', 'I'] →
      "TIKTOK_TOKEN_" ++ code ≠ other := by
    rintro other hother rfl
    apply hother
    simp
  simp only [ambiguous, AMBIGUOUS_REFRESH_ERROR_CODES, List.contains_cons, List.contains_nil,
    Bool.or_false, Bool.or_eq_false_iff, beq_eq_false_iff_ne]
  exact ⟨hne _ (by decide), hne _ (by decide), hne _ (by decide)⟩

/-- An answer with a code. -/
theorem decode_of_code {response : Response} {payload : Value} {code : ℚ}
    (hcode : numeric lang (payload.field "code") = some code) :
    decode lang response payload =
      if !response.ok && code = 0 then
        .error (malformed "TikTok token response did not contain a trustworthy outcome")
      else if code ≠ 0 then
        .error (.authorization ("TIKTOK_TOKEN_" ++ lang.toText code)
          ((text (payload.field "message")).getD "TikTok token request failed"))
      else sellerTokens lang (tokenData payload) := by
  cases payload with
  | null => cases hcode
  | boolean b | number n | text t | array elements => cases hcode
  | object fields => simp only [decode, hcode]

theorem decode_of_no_code {response : Response} {payload : Value} (hnull : payload ≠ .null)
    (hcode : numeric lang (payload.field "code") = none) :
    decode lang response payload =
      .error (malformed "TikTok token response did not contain a trustworthy outcome") := by
  cases payload with
  | null => exact absurd rfl hnull
  | boolean b | number n | text t | array elements => rfl
  | object fields => simp only [decode, hcode]

theorem codeOf_json {response : Response} {payload : Value} (hjson : response.json = some payload) :
    codeOf lang response = numeric lang (payload.field "code") := by
  rw [codeOf, hjson]
  rfl

theorem receive_granted {answer : Option Response} (h : Granted lang answer) :
    ∃ tokens, receive lang answer = .ok tokens := by
  obtain ⟨response, payload, rfl, hjson, hok, hcode, hset⟩ := h
  rw [codeOf_json hjson] at hcode
  obtain ⟨tokens, htokens⟩ := sellerTokens_ok hset
  refine ⟨tokens, ?_⟩
  simp [receive, hjson, decode_of_code hcode, hok, htokens]

theorem receive_coded {answer : Option Response} (h : Coded lang answer) :
    ∃ e, receive lang answer = .error e ∧ ambiguous e = false := by
  obtain ⟨response, code, rfl, hcode, hne⟩ := h
  obtain ⟨payload, hjson, hnumeric⟩ := Option.bind_eq_some_iff.1 hcode
  refine ⟨_, ?_, not_ambiguous_of_code (lang.toText code)
    ((text (payload.field "message")).getD "TikTok token request failed")⟩
  simp [receive, hjson, decode_of_code hnumeric, hne]

theorem receive_null {answer : Option Response} (h : NullBody answer) :
    ∃ e, receive lang answer = .error e ∧ ambiguous e = false := by
  obtain ⟨response, rfl, hjson⟩ := h
  refine ⟨.error "Cannot read properties of null (reading 'code')", ?_, rfl⟩
  simp only [receive, hjson, decode]

/-- Whatever else comes back is ambiguous. -/
theorem receive_open {answer : Option Response} (hgranted : ¬ Granted lang answer)
    (hcoded : ¬ Coded lang answer) (hnull : ¬ NullBody answer) :
    ∃ e, receive lang answer = .error e ∧ ambiguous e = true := by
  cases answer with
  | none => exact ⟨_, rfl, by decide⟩
  | some response =>
    cases hjson : response.json with
    | none =>
      refine ⟨_, ?_, ambiguous_malformed "TikTok token response was not valid JSON"⟩
      simp only [receive, hjson]
    | some payload =>
      have hpayload : payload ≠ .null := by
        rintro rfl
        exact hnull ⟨response, rfl, hjson⟩
      have hreceive : receive lang (some response) = decode lang response payload := by
        simp only [receive, hjson]
      rw [hreceive]
      cases hcode : numeric lang (payload.field "code") with
      | none => exact ⟨_, decode_of_no_code hpayload hcode, ambiguous_malformed _⟩
      | some code =>
        have hzero : code = 0 := by
          by_contra hne
          exact hcoded ⟨response, code, rfl, by rw [codeOf_json hjson, hcode], hne⟩
        subst hzero
        rw [decode_of_code hcode]
        cases hok : response.ok with
        | false =>
          refine ⟨_, ?_, ambiguous_malformed
            "TikTok token response did not contain a trustworthy outcome"⟩
          simp
        | true =>
          have hset : ¬ SellerSet lang (tokenData payload) := by
            intro hset
            exact hgranted ⟨response, payload, rfl, hjson, hok, by rw [codeOf_json hjson, hcode],
              hset⟩
          simpa using sellerTokens_ambiguous hset

theorem refresh_issued {refreshToken url : String}
    (h : issuedTo options refreshToken = some url) :
    auth_client.refresh lang options refreshToken = receive lang (options.fetch url) := by
  unfold issuedTo at h
  unfold auth_client.refresh auth_client.request
  split at h
  · cases h
  · rename_i hne
    simp only [if_neg hne, h]

/-- A refresh that is not issued fails without a doubt. -/
theorem refresh_unissued {refreshToken : String} (h : issuedTo options refreshToken = none) :
    ∃ e, auth_client.refresh lang options refreshToken = .error e ∧ ambiguous e = false := by
  unfold issuedTo at h
  unfold auth_client.refresh auth_client.request
  split at h
  · rename_i hempty
    rw [if_pos hempty]
    exact ⟨_, rfl, by decide⟩
  · rename_i hne
    simp only [if_neg hne, h]
    exact ⟨_, rfl, rfl⟩

theorem not_coded_of_granted {answer : Option Response} (h : Granted lang answer) :
    ¬ Coded lang answer := by
  obtain ⟨response, payload, rfl, hjson, hok, hcode, hset⟩ := h
  rintro ⟨response', code, hresponse, hcode', hne⟩
  cases hresponse
  rw [hcode] at hcode'
  exact hne (Option.some.inj hcode').symm

theorem codeOf_null {response : Response} (hjson : response.json = some .null) :
    codeOf lang response = none := by
  rw [codeOf_json hjson]
  rfl

theorem not_coded_of_null {answer : Option Response} (h : NullBody answer) :
    ¬ Coded lang answer := by
  obtain ⟨response, rfl, hjson⟩ := h
  rintro ⟨response', code, hresponse, hcode, hne⟩
  cases hresponse
  rw [codeOf_null hjson] at hcode
  cases hcode

theorem not_granted_of_null {answer : Option Response} (h : NullBody answer) :
    ¬ Granted lang answer := by
  obtain ⟨response, rfl, hjson⟩ := h
  rintro ⟨response', payload, hresponse, hjson', hok, hcode, hset⟩
  cases hresponse
  rw [codeOf_null hjson] at hcode
  cases hcode

theorem answerTo_issued {refreshToken url : String} (h : issuedTo options refreshToken = some url) :
    answerTo options (some refreshToken) = options.fetch url := by
  simp [answerTo, h]

theorem issued_iff {refreshToken : String} :
    Issued options (some refreshToken) ↔ ∃ url, issuedTo options refreshToken = some url := by
  simp [Issued, Option.isSome_iff_exists]

/-- Tokens of the client are the provider's. -/
theorem granted_of_ok {refreshToken : String} {tokens : SellerTokens}
    (h : auth_client.refresh lang options refreshToken = .ok tokens) :
    Issued options (some refreshToken) ∧ Granted lang (answerTo options (some refreshToken)) := by
  cases hissued : issuedTo options refreshToken with
  | none =>
    obtain ⟨e, he, -⟩ := refresh_unissued hissued
    rw [h] at he
    cases he
  | some url =>
    rw [answerTo_issued hissued]
    refine ⟨issued_iff.2 ⟨url, hissued⟩, ?_⟩
    rw [refresh_issued hissued] at h
    by_contra hgranted
    have herror : ∃ e, receive lang (options.fetch url) = .error e := by
      by_cases hcoded : Coded lang (options.fetch url)
      · obtain ⟨e, he, -⟩ := receive_coded hcoded
        exact ⟨e, he⟩
      · by_cases hnull : NullBody (options.fetch url)
        · obtain ⟨e, he, -⟩ := receive_null hnull
          exact ⟨e, he⟩
        · obtain ⟨e, he, -⟩ := receive_open hgranted hcoded hnull
          exact ⟨e, he⟩
    obtain ⟨e, he⟩ := herror
    rw [h] at he
    cases he

/-- An ambiguous error of the client leaves open what TikTok did. -/
theorem open_of_ambiguous {refreshToken : String} {e : Failure}
    (h : auth_client.refresh lang options refreshToken = .error e) (he : ambiguous e = true) :
    Issued options (some refreshToken) ∧
      ¬ Coded lang (answerTo options (some refreshToken)) ∧
      ¬ Granted lang (answerTo options (some refreshToken)) ∧
      ¬ NullBody (answerTo options (some refreshToken)) := by
  cases hissued : issuedTo options refreshToken with
  | none =>
    obtain ⟨e', he', hfalse⟩ := refresh_unissued hissued
    rw [h] at he'
    cases he'
    rw [he] at hfalse
    cases hfalse
  | some url =>
    rw [answerTo_issued hissued]
    rw [refresh_issued hissued] at h
    refine ⟨issued_iff.2 ⟨url, hissued⟩, ?_, ?_, ?_⟩
    · intro hcoded
      obtain ⟨e', he', hfalse⟩ := receive_coded hcoded
      rw [h] at he'
      cases he'
      rw [he] at hfalse
      cases hfalse
    · intro hgranted
      obtain ⟨tokens, htokens⟩ := receive_granted hgranted
      rw [h] at htokens
      cases htokens
    · intro hnull
      obtain ⟨e', he', hfalse⟩ := receive_null hnull
      rw [h] at he'
      cases he'
      rw [he] at hfalse
      cases hfalse

/-- Any other error of the client: nothing was issued, or a code or the text `null` came back. -/
theorem settled_of_error {refreshToken : String} {e : Failure}
    (h : auth_client.refresh lang options refreshToken = .error e) (he : ambiguous e = false) :
    ¬ Issued options (some refreshToken) ∨
      Issued options (some refreshToken) ∧
        (Coded lang (answerTo options (some refreshToken)) ∨
          NullBody (answerTo options (some refreshToken))) := by
  cases hissued : issuedTo options refreshToken with
  | none => exact Or.inl (by simp [issued_iff, hissued])
  | some url =>
    rw [answerTo_issued hissued]
    refine Or.inr ⟨issued_iff.2 ⟨url, hissued⟩, ?_⟩
    rw [refresh_issued hissued] at h
    by_contra hneither
    rw [not_or] at hneither
    have hgranted : ¬ Granted lang (options.fetch url) := by
      intro hgranted
      obtain ⟨tokens, htokens⟩ := receive_granted hgranted
      rw [h] at htokens
      cases htokens
    obtain ⟨e', he', htrue⟩ := receive_open hgranted hneither.1 hneither.2
    rw [h] at he'
    cases he'
    rw [he] at htrue
    cases htrue

/-- Nothing answers a refresh that was not issued. -/
theorem answerTo_unissued {previousRefresh : Option String}
    (h : ¬ Issued options previousRefresh) : answerTo options previousRefresh = none := by
  unfold Issued at h
  unfold answerTo
  cases hbind : previousRefresh.bind (issuedTo options) with
  | none => rfl
  | some url => simp [hbind] at h

end Answers

/-! ## The call up to its persistence -/

section Calls

variable (env : Environment) (lang : auth_client.Language) (options : Options)

/-- The part of a claimed refresh before its tokens are persisted. -/
def beforePersistence (target : Shop) (connection : Connection) (ciphertext : String)
    (leaseId : Nat) (trigger : Trigger) : Program SellerTokens := do
  let previousRefresh ← decrypt env ciphertext
  Js.tryCatch
    (query (.refresh target.id connection.tokenVersion leaseId trigger previousRefresh))
    (refreshRejected target.id leaseId connection.tokenVersion)

/-- The part behind it. -/
def afterwards (target : Shop) (connection : Connection) (leaseId : Nat)
    (refreshed : SellerTokens) : Program String := do
  let verified ← verifyShop target refreshed
  let capabilities := evaluateTikTokReadCapabilities refreshed.grantedScopes verified
  let data := rotation env connection refreshed capabilities
  persistRefresh target.id leaseId connection.tokenVersion data
  refuse (data.status ≠ "HEALTHY") (.serviceUnavailable
    ("TikTok refreshed token is missing required capabilities: " ++
      ", ".intercalate capabilities.missingCapabilities))
  return refreshed.accessToken

theorem runRefresh_eq (target : Shop) (connection : Connection) (ciphertext : String)
    (leaseId : Nat) (trigger : Trigger) :
    runRefresh env target connection ciphertext leaseId trigger =
      beforePersistence env target connection ciphertext leaseId trigger >>=
        afterwards env target connection leaseId := by
  unfold beforePersistence
  rw [Js.bind_assoc]
  rfl

/-- The database is available, and TikTok answers through the client. -/
inductive Answers : World → (c : Call) → Except Failure c.Result → World → Prop
  | performed (w w' : World) (c : Call) (a : c.Result) (clock : Int) (hdb : elsewhere c = false)
      (h : Performs w c a w') (hclock : w'.clock ≤ clock) :
      Answers w c (.ok a) { w' with clock := clock }
  | refreshed (w : World) (shopId tokenVersion leaseId : Nat) (trigger : Trigger)
      (refreshToken : String) (clock : Int) (hclock : w.clock ≤ clock) :
      Answers w (.refresh shopId tokenVersion leaseId trigger refreshToken)
        (auth_client.refresh lang options refreshToken) { w with clock := clock }
  | other (w : World) (c : Call) (res : Except Failure c.Result) (clock : Int)
      (helse : elsewhere c = true)
      (hother : ∀ shopId tokenVersion leaseId trigger refreshToken,
        c ≠ .refresh shopId tokenVersion leaseId trigger refreshToken)
      (hclock : w.clock ≤ clock) : Answers w c res { w with clock := clock }

variable {env lang options}

theorem answers_refresh {w w' : World} {shopId tokenVersion leaseId : Nat} {trigger : Trigger}
    {refreshToken : String} {res : Except Failure SellerTokens}
    (h : Answers lang options w (.refresh shopId tokenVersion leaseId trigger refreshToken) res
      w') :
    res = auth_client.refresh lang options refreshToken ∧ w'.connections = w.connections := by
  cases h with
  | performed w1 _ a clock hdb hperforms hclock => cases hdb
  | refreshed _ _ _ _ _ clock hclock => exact ⟨rfl, rfl⟩
  | other _ _ clock helse hother hclock => exact absurd rfl (hother _ _ _ _ _)

theorem answers_now {w w' : World} {res : Except Failure Int}
    (h : Answers lang options w .now res w') : ∃ now, res = .ok now := by
  cases h with
  | performed w1 _ a clock hdb hperforms hclock => exact ⟨a, rfl⟩
  | other _ _ clock helse hother hclock => cases helse

theorem connections_compareAndSet (w : World) (shopId : Nat) (condition : Connection → Bool)
    (update : Connection → Connection) (event : Event) :
    (w.compareAndSet shopId condition update event).connections.get shopId =
      (w.connections.get shopId).map (fun c => if condition c then update c else c) := by
  unfold World.compareAndSet World.note
  cases hget : w.connections.get shopId with
  | none => simp [hget]
  | some c =>
    by_cases hc : condition c = true
    · simp [hc]
    · simp [hc, hget]

theorem answers_markUncertain {w w' : World} {shopId tokenVersion : Nat} {leaseId : Option Nat}
    {reason : Reason} {now : Int} {res : Except Failure Nat}
    (h : Answers lang options w (.markUncertain shopId leaseId tokenVersion reason now) res w') :
    (∃ count, res = .ok count) ∧ w'.connections.get shopId = (w.connections.get shopId).map
      (fun c => if c.underLease leaseId tokenVersion then c.uncertain reason now else c) := by
  cases h with
  | performed w1 _ a clock hdb hperforms hclock =>
    cases hperforms with
    | markUncertain => exact ⟨⟨_, rfl⟩, connections_compareAndSet w shopId _ _ _⟩
    | other _ _ helse => cases helse
  | other _ _ clock helse hother hclock => cases helse

theorem answers_failRefresh {w w' : World} {shopId leaseId tokenVersion : Nat} {code : String}
    {now : Int} {res : Except Failure Nat}
    (h : Answers lang options w (.failRefresh shopId leaseId tokenVersion code now) res w') :
    (∃ count, res = .ok count) ∧ w'.connections.get shopId = (w.connections.get shopId).map
      (fun c => if c.underLease (some leaseId) tokenVersion then c.refreshFailed code now
        else c) := by
  cases h with
  | performed w1 _ a clock hdb hperforms hclock =>
    cases hperforms with
    | failRefresh => exact ⟨⟨_, rfl⟩, connections_compareAndSet w shopId _ _ _⟩
    | other _ _ helse => cases helse
  | other _ _ clock helse hother hclock => cases helse

abbrev EndsWith (lang : auth_client.Language) (options : Options) {α : Type} (m : Program α)
    (steps : List (Made World Call)) (outcome : Except Failure α) : Prop :=
  Js.Ends (Answers lang options) m () steps outcome

theorem ends_query {c : Call} {steps : List (Made World Call)} {outcome : Except Failure c.Result} :
    EndsWith lang options (query c) steps outcome ↔
      ∃ w w', steps = [⟨w, c, w'⟩] ∧ Answers lang options w c outcome w' := Js.ends_call

theorem ends_refuse {condition : Bool} {e : Failure} {steps : List (Made World Call)}
    {outcome : Except Failure Unit} (h : EndsWith lang options (refuse condition e) steps outcome) :
    steps = [] := by
  unfold refuse at h
  split at h
  · exact (Js.ends_throw.1 h).1
  · exact (Js.ends_pure.1 h).1

/-- After a refusal nothing is called, and an error is thrown. -/
theorem ends_refuse_throw {condition : Bool} {e e' : Failure} {α : Type}
    {steps : List (Made World Call)} {outcome : Except Failure α}
    (h : EndsWith lang options (refuse condition e >>= fun _ => throw e') steps outcome) :
    steps = [] ∧ ∃ e, outcome = .error e := by
  rcases Js.ends_bind.1 h with ⟨e1, hrefuse, rfl⟩ | ⟨first, rest, a, rfl, hrefuse, hthrow⟩
  · exact ⟨ends_refuse hrefuse, e1, rfl⟩
  · obtain ⟨rfl, rfl⟩ := Js.ends_throw.1 hthrow
    exact ⟨by simp [ends_refuse hrefuse], e', rfl⟩

theorem ends_now {α : Type} {f : Int → Program α} {steps : List (Made World Call)}
    {outcome : Except Failure α} (h : EndsWith lang options (query .now >>= f) steps outcome) :
    ∃ first rest now, steps = first ++ rest ∧ EndsWith lang options (f now) rest outcome := by
  rcases Js.ends_bind.1 h with ⟨e, hnow, -⟩ | ⟨first, rest, now, hsteps, -, hrest⟩
  · obtain ⟨w, w', -, hanswers⟩ := ends_query.1 hnow
    obtain ⟨now, hok⟩ := answers_now hanswers
    cases hok
  · exact ⟨first, rest, now, hsteps, hrest⟩

/-- The write of the connection of a shop under a lease. -/
def WritesUnder (shopId leaseId tokenVersion : Nat) (update : Connection → Connection)
    (w w' : World) : Prop :=
  w'.connections.get shopId = (w.connections.get shopId).map
    (fun c => if c.underLease (some leaseId) tokenVersion then update c else c)

theorem ends_markRefreshUncertain {shopId leaseId tokenVersion : Nat} {reason : Reason}
    {steps : List (Made World Call)} {outcome : Except Failure Bool}
    (h : EndsWith lang options (markRefreshUncertain shopId (some leaseId) tokenVersion reason)
      steps outcome) :
    (∃ marked, outcome = .ok marked) ∧ ∃ first last now, steps = first ++ [last] ∧
      WritesUnder shopId leaseId tokenVersion (fun c => c.uncertain reason now)
        last.before last.after := by
  unfold markRefreshUncertain at h
  obtain ⟨first, rest, now, rfl, hrest⟩ := ends_now h
  rcases Js.ends_bind.1 hrest with ⟨e, hmark, -⟩ | ⟨second, third, count, rfl, hmark, hpure⟩
  · obtain ⟨w, w', -, hanswers⟩ := ends_query.1 hmark
    obtain ⟨⟨count, hok⟩, -⟩ := answers_markUncertain hanswers
    cases hok
  · obtain ⟨w, w', rfl, hanswers⟩ := ends_query.1 hmark
    obtain ⟨rfl, rfl⟩ := Js.ends_pure.1 hpure
    exact ⟨⟨_, rfl⟩, first, ⟨w, .markUncertain shopId (some leaseId) tokenVersion reason now, w'⟩,
      now, by simp, (answers_markUncertain hanswers).2⟩

/-- What a rejected refresh writes. -/
def rejection (e : Failure) (now : Int) (c : Connection) : Connection :=
  if ambiguous e then c.uncertain (ambiguousReason (errorCode e)) now
  else c.refreshFailed (errorCode e) now

/-- The last call of a rejected refresh is its write. -/
theorem ends_refreshRejected {shopId leaseId tokenVersion : Nat} {e : Failure}
    {steps : List (Made World Call)} {outcome : Except Failure SellerTokens}
    (h : EndsWith lang options (refreshRejected shopId leaseId tokenVersion e) steps outcome) :
    (∃ e', outcome = .error e') ∧ ∃ first last now, steps = first ++ [last] ∧
      WritesUnder shopId leaseId tokenVersion (rejection e now) last.before last.after := by
  unfold refreshRejected at h
  cases hambiguous : ambiguous e with
  | true =>
    rw [hambiguous, if_pos rfl] at h
    rcases Js.ends_bind.1 h with ⟨e1, hmark, -⟩ | ⟨first, rest, marked, rfl, hmark, hthrow⟩
    · obtain ⟨⟨marked, hok⟩, -⟩ := ends_markRefreshUncertain hmark
      cases hok
    · obtain ⟨-, first', last, now, rfl, hwrites⟩ := ends_markRefreshUncertain hmark
      obtain ⟨rfl, hthrown⟩ := ends_refuse_throw hthrow
      refine ⟨hthrown, first', last, now, by simp, ?_⟩
      have hrejection : rejection e now =
          fun c => c.uncertain (ambiguousReason (errorCode e)) now := by
        funext c
        simp [rejection, hambiguous]
      rw [hrejection]
      exact hwrites
  | false =>
    rw [hambiguous, if_neg (by decide)] at h
    obtain ⟨first, rest, now, rfl, hrest⟩ := ends_now h
    rcases Js.ends_bind.1 hrest with ⟨e1, hfail, -⟩ | ⟨second, third, count, rfl, hfail, hthrow⟩
    · obtain ⟨w, w', -, hanswers⟩ := ends_query.1 hfail
      obtain ⟨⟨count, hok⟩, -⟩ := answers_failRefresh hanswers
      cases hok
    · obtain ⟨w, w', rfl, hanswers⟩ := ends_query.1 hfail
      obtain ⟨rfl, hthrown⟩ := ends_refuse_throw hthrow
      refine ⟨hthrown, first, ⟨w, .failRefresh shopId leaseId tokenVersion (errorCode e) now, w'⟩,
        now, by simp, ?_⟩
      have hwrites := (answers_failRefresh hanswers).2
      simpa [WritesUnder, rejection, hambiguous] using hwrites

/-- A claimed refresh up to its persistence: it cannot read its token, it gets tokens, or it is
rejected with a last write. -/
theorem ends_beforePersistence {target : Shop} {connection : Connection} {ciphertext : String}
    {leaseId : Nat} {trigger : Trigger} {steps : List (Made World Call)}
    {outcome : Except Failure SellerTokens}
    (h : EndsWith lang options
      (beforePersistence env target connection ciphertext leaseId trigger) steps outcome) :
    (env.decryptTikTokToken ciphertext = none ∧ steps = [] ∧ ∃ e, outcome = .error e) ∨
    ∃ previousRefresh, env.decryptTikTokToken ciphertext = some previousRefresh ∧
      ((∃ tokens last, auth_client.refresh lang options previousRefresh = .ok tokens ∧
          outcome = .ok tokens ∧ steps = [last] ∧
          last.after.connections = last.before.connections) ∨
        ∃ e first last now, auth_client.refresh lang options previousRefresh = .error e ∧
          (∃ e', outcome = .error e') ∧ steps = first ++ [last] ∧
          WritesUnder target.id leaseId connection.tokenVersion (rejection e now)
            last.before last.after) := by
  unfold beforePersistence decrypt at h
  cases hdecrypt : env.decryptTikTokToken ciphertext with
  | none =>
    rw [hdecrypt] at h
    rcases Js.ends_bind.1 h with ⟨e, hthrow, rfl⟩ | ⟨first, rest, a, rfl, hthrow, -⟩
    · exact Or.inl ⟨rfl, (Js.ends_throw.1 hthrow).1, e, rfl⟩
    · cases (Js.ends_throw.1 hthrow).2
  | some previousRefresh =>
    rw [hdecrypt] at h
    refine Or.inr ⟨previousRefresh, rfl, ?_⟩
    rcases Js.ends_bind.1 h with ⟨e, hpure, rfl⟩ | ⟨first, rest, a, rfl, hpure, hrest⟩
    · cases (Js.ends_pure.1 hpure).2
    · obtain ⟨rfl, ha⟩ := Js.ends_pure.1 hpure
      cases ha
      rcases Js.ends_tryCatch.1 hrest with ⟨tokens, hcall, rfl⟩ | ⟨second, third, e, rfl, hcall, hrejected⟩
      · obtain ⟨w, w', rfl, hanswers⟩ := ends_query.1 hcall
        obtain ⟨hrefresh, hsame⟩ := answers_refresh hanswers
        exact Or.inl ⟨tokens, _, hrefresh.symm, rfl, rfl, hsame⟩
      · obtain ⟨w, w', rfl, hanswers⟩ := ends_query.1 hcall
        obtain ⟨hrefresh, -⟩ := answers_refresh hanswers
        obtain ⟨hthrown, first, last, now, rfl, hwrites⟩ := ends_refreshRejected hrejected
        exact Or.inr ⟨e, _ :: first, last, now, hrefresh.symm, hthrown, rfl, hwrites⟩

/-! ## The outcomes -/

/-- The connection is still under the lease of the call. -/
def Own (shopId leaseId tokenVersion : Nat) (w : World) : Prop :=
  ∃ c, w.connections.get shopId = some c ∧ c.underLease (some leaseId) tokenVersion = true

/-- The tokens are gone. -/
def Cleared (c : Connection) : Prop :=
  c.accessTokenCiphertext = none ∧ c.refreshTokenCiphertext = none ∧
    c.accessTokenExpiresAt = none ∧ c.refreshTokenExpiresAt = none

/-- The tokens are the same. -/
def SameTokens (c c' : Connection) : Prop :=
  c'.accessTokenCiphertext = c.accessTokenCiphertext ∧
    c'.refreshTokenCiphertext = c.refreshTokenCiphertext ∧
    c'.accessTokenExpiresAt = c.accessTokenExpiresAt ∧
    c'.refreshTokenExpiresAt = c.refreshTokenExpiresAt

/-- How a call leaves its connection, from the world of its last call to the world it ends in: by
what TikTok can have done. -/
structure Classified (lang : auth_client.Language) (options : Options)
    (previousRefresh : Option String) (shopId leaseId tokenVersion : Nat)
    (outcome : Except Failure SellerTokens) (w w' : World) : Prop where
  uncertain : (∃ c', w'.connections.get shopId = some c' ∧
      c'.refreshState = .OUTCOME_UNCERTAIN ∧ Cleared c') ↔
    Issued options previousRefresh ∧ ¬ Coded lang (answerTo options previousRefresh) ∧
      ¬ Granted lang (answerTo options previousRefresh)
  failed : (∃ c c', w.connections.get shopId = some c ∧ w'.connections.get shopId = some c' ∧
      c'.refreshState = .FAILED ∧ SameTokens c c') ↔
    Coded lang (answerTo options previousRefresh) ∨ ¬ Issued options previousRefresh
  released : (∃ e, outcome = .error e) → ¬ Own shopId leaseId tokenVersion w'

/-- The world of the last call and the world it left, or the first world twice. -/
def lastCall (w₀ : World) (steps : List (Made World Call)) : World × World :=
  (steps.getLast?.map (fun step => (step.before, step.after))).getD (w₀, w₀)

theorem writes_of_own {shopId leaseId tokenVersion : Nat} {update : Connection → Connection}
    {w w' : World} (h : WritesUnder shopId leaseId tokenVersion update w w')
    (hown : Own shopId leaseId tokenVersion w) :
    ∃ c, w.connections.get shopId = some c ∧ w'.connections.get shopId = some (update c) := by
  obtain ⟨c, hget, hunder⟩ := hown
  refine ⟨c, hget, ?_⟩
  rw [h, hget]
  simp [hunder]

theorem same_of_not_own {shopId leaseId tokenVersion : Nat} {update : Connection → Connection}
    {w w' : World} (h : WritesUnder shopId leaseId tokenVersion update w w')
    (hown : ¬ Own shopId leaseId tokenVersion w) :
    w'.connections.get shopId = w.connections.get shopId := by
  rw [h]
  cases hget : w.connections.get shopId with
  | none => rfl
  | some c =>
    have hunder : c.underLease (some leaseId) tokenVersion = false := by
      by_contra hne
      exact hown ⟨c, hget, by simpa using hne⟩
    simp [hunder]

/-- The condition under which a call classifies its outcome: the stored token can be decrypted,
and the answer is not the JSON text `null`. -/
def Decided (env : Environment) (options : Options) (ciphertext : String) : Prop :=
  (env.decryptTikTokToken ciphertext).isSome = true ∧
    ¬ NullBody (answerTo options (env.decryptTikTokToken ciphertext))

section Outcomes

variable {shopId leaseId tokenVersion : Nat} {outcome : Except Failure SellerTokens} {w w' : World}
  {refreshToken : String} {c : Connection}

theorem classified_ambiguous {e : Failure} {now : Int}
    (h : auth_client.refresh lang options refreshToken = .error e) (he : ambiguous e = true)
    (hget' : w'.connections.get shopId = some (rejection e now c)) :
    Classified lang options (some refreshToken) shopId leaseId tokenVersion outcome w w' := by
  obtain ⟨hissued, hcoded, hgranted, -⟩ := open_of_ambiguous h he
  rw [rejection, if_pos he] at hget'
  constructor
  · simp only [hget', Option.some.injEq, exists_eq_left', hissued, hcoded, hgranted,
      not_false_eq_true, and_self, iff_true]
    exact ⟨rfl, rfl, rfl, rfl, rfl⟩
  · simp [hget', Connection.uncertain, hissued, hcoded]
  · rintro - ⟨c', hc', hunder⟩
    rw [hget'] at hc'
    cases hc'
    simp [Connection.underLease, Connection.uncertain] at hunder

/-- A rejection that is not ambiguous classifies the outcome unless the answer was `null`. -/
theorem classified_rejected {e : Failure} {now : Int}
    (h : auth_client.refresh lang options refreshToken = .error e) (he : ambiguous e = false)
    (hget : w.connections.get shopId = some c)
    (hget' : w'.connections.get shopId = some (rejection e now c)) :
    Classified lang options (some refreshToken) shopId leaseId tokenVersion outcome w w' ↔
      ¬ NullBody (answerTo options (some refreshToken)) := by
  have hrejection : rejection e now c = c.refreshFailed (errorCode e) now := by
    simp [rejection, he]
  rw [hrejection] at hget'
  constructor
  · intro hclassified hnull
    have hissued : Issued options (some refreshToken) := by
      by_contra hissued
      rw [answerTo_unissued hissued] at hnull
      obtain ⟨response, hresponse, -⟩ := hnull
      cases hresponse
    obtain ⟨c', hc', hstate, -⟩ := hclassified.uncertain.2
      ⟨hissued, not_coded_of_null hnull, not_granted_of_null hnull⟩
    rw [hget'] at hc'
    cases hc'
    cases hstate
  · intro hnull
    have hknown : Coded lang (answerTo options (some refreshToken)) ∨
        ¬ Issued options (some refreshToken) := by
      rcases settled_of_error h he with hissued | ⟨-, hcoded | hnull'⟩
      · exact Or.inr hissued
      · exact Or.inl hcoded
      · exact absurd hnull' hnull
    constructor
    · constructor
      · rintro ⟨c', hc', hstate, -⟩
        rw [hget'] at hc'
        cases hc'
        cases hstate
      · rintro ⟨hissued, hcoded, -⟩
        exact absurd hissued (hknown.resolve_left hcoded)
    · constructor
      · intro _
        exact hknown
      · intro _
        exact ⟨c, _, hget, hget', rfl, rfl, rfl, rfl, rfl⟩
    · rintro - ⟨c', hc', hunder⟩
      rw [hget'] at hc'
      cases hc'
      simp [Connection.underLease, Connection.refreshFailed] at hunder

theorem classified_granted {tokens : SellerTokens}
    (h : auth_client.refresh lang options refreshToken = .ok tokens)
    (hsame : w'.connections = w.connections) (hget : w.connections.get shopId = some c)
    (hunder : c.underLease (some leaseId) tokenVersion = true) :
    Classified lang options (some refreshToken) shopId leaseId tokenVersion (.ok tokens) w w' := by
  obtain ⟨hissued, hgranted⟩ := granted_of_ok h
  have hcoded := not_coded_of_granted hgranted
  have hstate : c.refreshState = .IN_PROGRESS := by
    simp only [Connection.underLease, Bool.and_eq_true, decide_eq_true_eq] at hunder
    exact hunder.1.1
  constructor
  · simp [hsame, hget, hstate, hgranted]
  · simp [hsame, hget, hstate, hcoded, hissued]
  · rintro ⟨e, he⟩
    cases he

end Outcomes

/-- A call that still holds its lease when it makes its last call classifies its outcome exactly
when it is decided; a call that lost its lease changes nothing any more. -/
theorem refresh_outcomes_are_classified {target : Shop} {connection : Connection}
    {ciphertext : String} {leaseId : Nat} {trigger : Trigger} {steps : List (Made World Call)}
    {outcome : Except Failure SellerTokens} (w₀ : World)
    (h : EndsWith lang options
      (beforePersistence env target connection ciphertext leaseId trigger) steps outcome) :
    (Own target.id leaseId connection.tokenVersion (lastCall w₀ steps).1 →
      (Classified lang options (env.decryptTikTokToken ciphertext) target.id leaseId
        connection.tokenVersion outcome (lastCall w₀ steps).1 (lastCall w₀ steps).2 ↔
        Decided env options ciphertext)) ∧
    (¬ Own target.id leaseId connection.tokenVersion (lastCall w₀ steps).1 →
      (lastCall w₀ steps).2.connections.get target.id =
        (lastCall w₀ steps).1.connections.get target.id) := by
  have hlast : ∀ (first : List (Made World Call)) (last : Made World Call),
      lastCall w₀ (first ++ [last]) = (last.before, last.after) := by
    intro first last
    simp [lastCall]
  rcases ends_beforePersistence h with ⟨hdecrypt, rfl, herror⟩ |
    ⟨previousRefresh, hdecrypt, ⟨tokens, last, hrefresh, rfl, rfl, hsame⟩ |
      ⟨e, first, last, now, hrefresh, herror, rfl, hwrites⟩⟩
  · refine ⟨?_, fun _ => rfl⟩
    intro hown
    constructor
    · intro hclassified
      exact absurd hown (hclassified.released herror)
    · rintro ⟨hsome, -⟩
      simp [hdecrypt] at hsome
  · have hw := hlast [] last
    rw [List.nil_append] at hw
    rw [hw]
    refine ⟨?_, fun _ => by rw [hsame]⟩
    rintro ⟨c, hget, hunder⟩
    rw [hdecrypt]
    refine iff_of_true (classified_granted hrefresh hsame hget hunder) ⟨by simp [hdecrypt], ?_⟩
    rw [hdecrypt]
    intro hnull
    exact not_granted_of_null hnull (granted_of_ok hrefresh).2
  · rw [hlast]
    refine ⟨?_, fun hown => same_of_not_own hwrites hown⟩
    intro hown
    obtain ⟨c, hget, hget'⟩ := writes_of_own hwrites hown
    unfold Decided
    rw [hdecrypt]
    simp only [Option.isSome_some, true_and]
    cases he : ambiguous e with
    | true =>
      obtain ⟨-, -, -, hnull⟩ := open_of_ambiguous hrefresh he
      exact iff_of_true (classified_ambiguous hrefresh he hget') hnull
    | false => exact classified_rejected hrefresh he hget hget'

end Calls

/-! ## Samples -/

/-- The language on texts without spaces. -/
def plainLanguage : auth_client.Language where
  trim := id
  Number := fun _ => none
  toText := fun n => toString n.num

/-- A token service that always gives the same answer. -/
def sampleOptions (answer : Option Response) : Options where
  appKey := "app"
  appSecret := "secret"
  address := fun path values => some ("https://auth.tiktok-shops.com" ++ path ++ "?" ++
    "&".intercalate (values.map (fun value => value.1 ++ "=" ++ value.2)))
  fetch := fun _ => answer

/-- The tokens of a seller. -/
def sampleGrant : Response where
  status := 200
  json := some (.object
    [("code", .number (some 0)),
      ("data", .object
        [("access_token", .text "access"),
          ("refresh_token", .text "refresh"),
          ("access_token_expire_in", .number (some 1000)),
          ("refresh_token_expire_in", .number (some 2000)),
          ("user_type", .number (some 0))])])

def sampleConnection : Connection where
  status := "HEALTHY"
  accessTokenCiphertext := some "old"
  refreshTokenCiphertext := some "old refresh"
  accessTokenExpiresAt := some 0
  refreshTokenExpiresAt := some 2000000
  tokenVersion := 1

/-- The connection is claimed under the lease 0. -/
def sampleWorld : World where
  connections := Table.empty.set 1 (sampleConnection.claimed 0 120000 0)

def sampleCall (env : Environment) : Program SellerTokens :=
  beforePersistence env sampleShop sampleConnection "old refresh" 0 .MANUAL

theorem own_sampleWorld : Own 1 0 1 sampleWorld :=
  ⟨sampleConnection.claimed 0 120000 0, by simp [sampleWorld], by decide⟩

/-- A sample call goes on with the client's answer. -/
theorem ends_sampleCall {options : Options} {rest : List (Made World Call)} {e : Failure}
    {outcome : Except Failure SellerTokens}
    (hrefresh : auth_client.refresh plainLanguage options "old refresh" = .error e)
    (hrest : EndsWith plainLanguage options (refreshRejected 1 0 1 e) rest outcome) :
    EndsWith plainLanguage options (sampleCall sampleEnvironment)
      (⟨sampleWorld, .refresh 1 1 0 .MANUAL "old refresh", sampleWorld⟩ :: rest) outcome := by
  have hanswers : Answers plainLanguage options sampleWorld
      (.refresh 1 1 0 .MANUAL "old refresh") (.error e) sampleWorld := by
    rw [← hrefresh]
    exact .refreshed sampleWorld 1 1 0 .MANUAL "old refresh" 0 le_rfl
  refine Js.ends_bind.2 (Or.inr ⟨[], _, "old refresh", rfl, Js.ends_pure.2 ⟨rfl, rfl⟩, ?_⟩)
  exact Js.ends_tryCatch.2 (Or.inr ⟨[_], rest, e, rfl,
    ends_query.2 ⟨_, _, rfl, hanswers⟩, hrest⟩)

theorem granted_refresh_is_classified :
    Classified plainLanguage (sampleOptions (some sampleGrant)) (some "old refresh") 1 0 1
      (auth_client.refresh plainLanguage (sampleOptions (some sampleGrant)) "old refresh")
      sampleWorld sampleWorld := by
  have hends : EndsWith plainLanguage (sampleOptions (some sampleGrant))
      (sampleCall sampleEnvironment)
      [⟨sampleWorld, .refresh 1 1 0 .MANUAL "old refresh", sampleWorld⟩]
      (auth_client.refresh plainLanguage (sampleOptions (some sampleGrant)) "old refresh") := by
    refine Js.ends_bind.2 (Or.inr ⟨[], _, "old refresh", rfl, Js.ends_pure.2 ⟨rfl, rfl⟩, ?_⟩)
    refine Js.ends_tryCatch.2 (Or.inl ⟨_, ends_query.2 ⟨sampleWorld, sampleWorld, rfl, ?_⟩, rfl⟩)
    exact .refreshed sampleWorld 1 1 0 .MANUAL "old refresh" 0 le_rfl
  refine ((refresh_outcomes_are_classified sampleWorld hends).1 own_sampleWorld).2 ⟨rfl, ?_⟩
  rintro ⟨response, hresponse, hjson⟩
  cases hresponse
  cases hjson

/-- An answer whose body is the JSON text `null`. -/
def sampleNull : Response := { status := 200, json := some .null }

/-- The world that the failed refresh leaves. -/
def failedWorld : World :=
  sampleWorld.compareAndSet 1 (fun c => c.underLease (some 0) 1)
    (fun c => c.refreshFailed "TOKEN_REFRESH_FAILED" 0) (.failed 1 1)

theorem ends_null : ∃ e, EndsWith plainLanguage (sampleOptions (some sampleNull))
    (sampleCall sampleEnvironment)
    [⟨sampleWorld, .refresh 1 1 0 .MANUAL "old refresh", sampleWorld⟩,
      ⟨sampleWorld, .now, sampleWorld⟩,
      ⟨sampleWorld, .failRefresh 1 0 1 "TOKEN_REFRESH_FAILED" 0, failedWorld⟩]
    (.error e) := by
  have hnow : Answers plainLanguage (sampleOptions (some sampleNull)) sampleWorld .now
      (.ok (0 : Int)) sampleWorld :=
    .performed sampleWorld sampleWorld .now (0 : Int) 0 rfl (.now sampleWorld) le_rfl
  have hfail : Answers plainLanguage (sampleOptions (some sampleNull)) sampleWorld
      (.failRefresh 1 0 1 "TOKEN_REFRESH_FAILED" 0) (.ok (1 : Nat)) failedWorld := by
    have hclock : { failedWorld with clock := 0 } = failedWorld := rfl
    rw [← hclock]
    exact .performed sampleWorld failedWorld (.failRefresh 1 0 1 "TOKEN_REFRESH_FAILED" 0)
      (1 : Nat) 0 rfl (.failRefresh sampleWorld 1 0 1 "TOKEN_REFRESH_FAILED" 0) le_rfl
  refine ⟨.serviceUnavailable "TikTok token refresh failed; automatic retry is blocked",
    ends_sampleCall rfl ?_⟩
  unfold refreshRejected
  rw [if_neg (by decide)]
  refine Js.ends_bind.2 (Or.inr ⟨[_], [_], 0, rfl, ends_query.2 ⟨_, _, rfl, hnow⟩, ?_⟩)
  refine Js.ends_bind.2 (Or.inr ⟨[_], [], 1, rfl,
    ends_query.2 ⟨_, _, rfl, hfail⟩, ?_⟩)
  exact Js.ends_bind.2 (Or.inr ⟨[], [], (), rfl, Js.ends_pure.2 ⟨rfl, rfl⟩,
    Js.ends_throw.2 ⟨rfl, rfl⟩⟩)

/-- A refresh was issued and `null` came back: the connection keeps the tokens that TikTok may
have rotated. A token that cannot be decrypted leaves the connection in progress. -/
theorem a_null_answer_keeps_the_tokens :
    (Issued (sampleOptions (some sampleNull)) (some "old refresh") ∧
      (failedWorld.connections.get 1).map (fun c => (c.refreshState, c.refreshTokenCiphertext)) =
        some (.FAILED, some "old refresh")) ∧
    (∃ e, EndsWith plainLanguage (sampleOptions none)
      (sampleCall { sampleEnvironment with decryptTikTokToken := fun _ => none }) []
      (.error e)) ∧
    ¬ ∀ env lang options target connection ciphertext leaseId trigger steps outcome w₀,
      EndsWith lang options
        (beforePersistence env target connection ciphertext leaseId trigger) steps outcome →
      Own target.id leaseId connection.tokenVersion (lastCall w₀ steps).1 →
      Classified lang options (env.decryptTikTokToken ciphertext) target.id leaseId
        connection.tokenVersion outcome (lastCall w₀ steps).1 (lastCall w₀ steps).2 := by
  refine ⟨⟨rfl, by decide⟩, ?_, ?_⟩
  · exact ⟨_, Js.ends_bind.2 (Or.inl ⟨_, Js.ends_throw.2 ⟨rfl, rfl⟩, rfl⟩)⟩
  · intro h
    obtain ⟨e, hends⟩ := ends_null
    have hclassified := h sampleEnvironment plainLanguage (sampleOptions (some sampleNull))
      sampleShop sampleConnection "old refresh" 0 .MANUAL _ _ sampleWorld hends own_sampleWorld
    have hnull : NullBody (answerTo (sampleOptions (some sampleNull)) (some "old refresh")) :=
      ⟨sampleNull, rfl, rfl⟩
    have hissued : Issued (sampleOptions (some sampleNull)) (some "old refresh") := rfl
    obtain ⟨c', hget, hstate, -⟩ := hclassified.uncertain.2
      ⟨hissued, not_coded_of_null hnull, not_granted_of_null hnull⟩
    have hfailed : (failedWorld.connections.get 1).map (·.refreshState) = some .FAILED := by decide
    have hget' : failedWorld.connections.get 1 = some c' := hget
    rw [hget', Option.map_some, hstate] at hfailed
    cases hfailed

end tiktok_outreach.refresh_outcomes
