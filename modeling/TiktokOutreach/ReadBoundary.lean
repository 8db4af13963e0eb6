-- The boundary of the reads from TikTok
-- (packages/tiktok-adapter/src/real-read-only.ts): the path that the allowlist
-- lets pass, and the path of the URL that is fetched.
import TiktokOutreach.Lib.UrlPaths
import TiktokOutreach.ReadGovernor

open json url_paths tiktok_outreach.read_governor

namespace tiktok_outreach.read_boundary

/-! ## The allowlist -/

inductive Method
  | GET
  | POST
  deriving DecidableEq, Repr

/-- A regular expression of the allowlist: a text, or a text with one segment left open. -/
inductive PathPattern
  | exactly (path : Text)
  | segment (before after : Text)

def PathPattern.test (pattern : PathPattern) (path : Text) : Bool :=
  match pattern with
  | .exactly expected => path == expected
  | .segment before after =>
    let middle := (path.drop before.length).take (path.length - before.length - after.length)
    path == before ++ middle ++ after && middle ≠ [] && !middle.contains slash

structure AllowedRequest where
  operation : TikTokReadOperation
  method : Method
  path : PathPattern

def ALLOWED_REQUESTS : List AllowedRequest := [
  ⟨.GET_AUTHORIZED_SHOPS, .GET, .exactly (units "/authorization/202309/shops")⟩,
  ⟨.GET_CATEGORIES, .GET, .exactly (units "/product/202309/categories")⟩,
  ⟨.SEARCH_CREATORS, .POST,
    .exactly (units "/affiliate_seller/202508/marketplace_creators/search")⟩,
  ⟨.GET_CREATOR_PERFORMANCE, .GET,
    .segment (units "/affiliate_seller/202508/marketplace_creators/") []⟩,
  ⟨.LIST_CONVERSATIONS, .GET, .exactly (units "/affiliate_seller/202412/conversations")⟩,
  ⟨.LIST_MESSAGES, .GET,
    .segment (units "/affiliate_seller/202412/conversation/") (units "/messages")⟩]

/-- Some entry of the operation and the method has the path. -/
def isAllowed (operation : TikTokReadOperation) (method : Method) (path : Text) : Bool :=
  ALLOWED_REQUESTS.any fun entry =>
    entry.operation == operation && entry.method == method && entry.path.test path

inductive Rejection
  /-- TIKTOK_READ_ONLY_BOUNDARY_REJECTED -/
  | boundary (method : Method) (path : Text)
  | unsupportedIdentifier (operation : TikTokReadOperation) (message : String)
  | provider (operation : TikTokReadOperation) (message : String)
  /-- `encodeURIComponent` meets a surrogate without its other half. -/
  | malformedUri
  /-- The path is none that a URL of the base could have. -/
  | invalidUrl

def assertAllowedTikTokReadRequest (operation : TikTokReadOperation) (method : Method)
    (path : Text) : Except Rejection Unit :=
  if isAllowed operation method path then .ok () else .error (.boundary method path)

/-! ## The requests -/

/-- What `requestRaw` is asked for, without the query and the tokens. -/
structure RawRequest where
  operation : TikTokReadOperation
  method : Method
  path : Text

/-- A URL that is fetched, with the path of its signature. -/
structure Fetched where
  method : Method
  signedPath : Text
  url : Url

/-- `requestRaw`, up to its first `fetch`. -/
def requestRaw (baseUrl : Url) (input : RawRequest) : Except Rejection Fetched := do
  assertAllowedTikTokReadRequest input.operation input.method input.path
  match resolve baseUrl input.path with
  | none => throw .invalidUrl
  | some url => return { method := input.method, signedPath := input.path, url }

def encoded (identifier : Text) : Except Rejection Text :=
  match encodeURIComponent identifier with
  | none => .error .malformedUri
  | some text => .ok text

def getCreatorPerformance (creatorOpenId : Text) : Except Rejection RawRequest := do
  if creatorOpenId = [] ∨ (units "im:").isPrefixOf creatorOpenId then
    throw (.unsupportedIdentifier .GET_CREATOR_PERFORMANCE
      "Creator performance requires creator_open_id, not creator_im_id")
  let identifier ← encoded creatorOpenId
  return {
    operation := .GET_CREATOR_PERFORMANCE
    method := .GET
    path := units "/affiliate_seller/202508/marketplace_creators/" ++ identifier }

/-- A page size that is no number is `none`: no comparison rejects it. -/
def listMessages (conversationId : Text) (pageSize : Option ℚ) : Except Rejection RawRequest := do
  if conversationId = [] ∨ pageSize.any (fun size => size < 1 ∨ 20 < size) then
    throw (.provider .LIST_MESSAGES "Message history requires a conversation and page_size 1..20")
  let identifier ← encoded conversationId
  return {
    operation := .LIST_MESSAGES
    method := .GET
    path := units "/affiliate_seller/202412/conversation/" ++ identifier ++ units "/messages" }

/-- The reads whose path holds an identifier. -/
inductive IdentifiedRead
  | creatorPerformance (creatorOpenId : Text)
  | messages (conversationId : Text) (pageSize : Option ℚ)

def IdentifiedRead.identifier : IdentifiedRead → Text
  | .creatorPerformance creatorOpenId => creatorOpenId
  | .messages conversationId _ => conversationId

def IdentifiedRead.request : IdentifiedRead → Except Rejection RawRequest
  | .creatorPerformance creatorOpenId => getCreatorPerformance creatorOpenId
  | .messages conversationId pageSize => listMessages conversationId pageSize

/-- The URL has the path that was checked and signed, which is one of the operation. -/
structure WithinBoundary (request : RawRequest) (fetched : Fetched) : Prop where
  asChecked : fetched.url.pathname = request.path
  asSigned : fetched.url.pathname = fetched.signedPath
  allowed : isAllowed request.operation request.method fetched.url.pathname = true

/-! ## Where the boundary holds -/

theorem test_segment (before after : Text) {middle : Text} (hne : middle ≠ [])
    (hslash : slash ∉ middle) :
    (PathPattern.segment before after).test (before ++ middle ++ after) = true := by
  simp [PathPattern.test, hne, hslash]

theorem encoded_eq_ok {identifier text : Text} (h : encoded identifier = .ok text) :
    encodeURIComponent identifier = some text := by
  unfold encoded at h
  split at h
  · cases h
  · next heq => rw [heq, Except.ok.inj h]

theorem request_creatorPerformance {creatorOpenId : Text} {request : RawRequest}
    (h : getCreatorPerformance creatorOpenId = .ok request) :
    creatorOpenId ≠ [] ∧ ∃ identifier, encodeURIComponent creatorOpenId = some identifier ∧
      request = ⟨.GET_CREATOR_PERFORMANCE, .GET,
        units "/affiliate_seller/202508/marketplace_creators/" ++ identifier⟩ := by
  unfold getCreatorPerformance at h
  split at h
  · cases h
  · next hid =>
    cases hencoded : encoded creatorOpenId with
    | error e =>
      rw [hencoded] at h
      cases h
    | ok identifier =>
      rw [hencoded] at h
      exact ⟨fun hnil => hid (Or.inl hnil), identifier, encoded_eq_ok hencoded,
        (Except.ok.inj h).symm⟩

theorem request_messages {conversationId : Text} {pageSize : Option ℚ} {request : RawRequest}
    (h : listMessages conversationId pageSize = .ok request) :
    conversationId ≠ [] ∧ ∃ identifier, encodeURIComponent conversationId = some identifier ∧
      request = ⟨.LIST_MESSAGES, .GET,
        units "/affiliate_seller/202412/conversation/" ++ identifier ++ units "/messages"⟩ := by
  unfold listMessages at h
  split at h
  · cases h
  · next hid =>
    cases hencoded : encoded conversationId with
    | error e =>
      rw [hencoded] at h
      cases h
    | ok identifier =>
      rw [hencoded] at h
      exact ⟨fun hnil => hid (Or.inl hnil), identifier, encoded_eq_ok hencoded,
        (Except.ok.inj h).symm⟩

/-- A path of kept segments that is allowed is fetched as it is. -/
theorem fetched_of_kept {baseUrl : Url} {request : RawRequest} (segment : Text)
    (segments : List Text) (hpath : request.path = joined (segment :: segments))
    (hne : segment ≠ []) (hkept : ∀ s ∈ segment :: segments, Kept s)
    (hallowed : isAllowed request.operation request.method request.path = true) :
    ∃ fetched, requestRaw baseUrl request = .ok fetched ∧ WithinBoundary request fetched := by
  have hresolve : resolve baseUrl request.path =
      some { baseUrl with path := segment :: segments } := by
    rw [hpath]
    exact resolve_joined hne hkept
  have hpathname : ({ baseUrl with path := segment :: segments } : Url).pathname =
      request.path := hpath.symm
  refine ⟨⟨request.method, request.path, _⟩, ?_, hpathname, hpathname, ?_⟩
  · simp only [requestRaw, assertAllowedTikTokReadRequest, hallowed, if_true, hresolve]
    rfl
  · rw [hpathname]
    exact hallowed

theorem fixed_segments_kept : ∀ s ∈ [units "affiliate_seller", units "202508", units "202412",
    units "marketplace_creators", units "conversation", units "messages"], Kept s := by
  have hunits : [units "affiliate_seller", units "202508", units "202412",
      units "marketplace_creators", units "conversation", units "messages"].all
      (fun s => s.all isKept && !isSingleDot s && !isDoubleDot s) = true := by
    decide
  intro s hs
  obtain ⟨⟨h1, h2⟩, h3⟩ : ((∀ c ∈ s, isKept c = true) ∧ isSingleDot s = false) ∧
      isDoubleDot s = false := by
    simpa using List.all_eq_true.1 hunits s hs
  exact ⟨h1, h2, h3⟩

/-- An identifier that is no dot segment is fetched at its endpoint. -/
theorem within_of_not_dots {baseUrl : Url} {read : IdentifiedRead} {request : RawRequest}
    (h : read.request = .ok request) (hdot : read.identifier ≠ units ".")
    (hdots : read.identifier ≠ units "..") :
    ∃ fetched, requestRaw baseUrl request = .ok fetched ∧ WithinBoundary request fetched := by
  have hfixed := fixed_segments_kept
  cases read with
  | creatorPerformance creatorOpenId =>
    obtain ⟨hne, identifier, hid, rfl⟩ := request_creatorPerformance h
    have hkept := kept_of_encodeURIComponent hid hdot hdots
    have htest := test_segment (units "/affiliate_seller/202508/marketplace_creators/") []
      (encodeURIComponent_ne_nil hid hne) (slash_notMem_of_encodeURIComponent hid)
    rw [List.append_nil] at htest
    apply fetched_of_kept (units "affiliate_seller")
      [units "202508", units "marketplace_creators", identifier]
    · simp [joined, units]
    · decide
    · intro s hs
      simp only [List.mem_cons, List.not_mem_nil, or_false] at hs
      rcases hs with rfl | rfl | rfl | rfl
      · exact hfixed _ (by simp)
      · exact hfixed _ (by simp)
      · exact hfixed _ (by simp)
      · exact hkept
    · simp [isAllowed, ALLOWED_REQUESTS, htest]
  | messages conversationId pageSize =>
    obtain ⟨hne, identifier, hid, rfl⟩ := request_messages h
    have hkept := kept_of_encodeURIComponent hid hdot hdots
    have htest := test_segment (units "/affiliate_seller/202412/conversation/")
      (units "/messages") (encodeURIComponent_ne_nil hid hne)
      (slash_notMem_of_encodeURIComponent hid)
    apply fetched_of_kept (units "affiliate_seller")
      [units "202412", units "conversation", identifier, units "messages"]
    · simp [joined, units]
    · decide
    · intro s hs
      simp only [List.mem_cons, List.not_mem_nil, or_false] at hs
      rcases hs with rfl | rfl | rfl | rfl | rfl
      · exact hfixed _ (by simp)
      · exact hfixed _ (by simp)
      · exact hfixed _ (by simp)
      · exact hkept
      · exact hfixed _ (by simp)
    · simp only [isAllowed, ALLOWED_REQUESTS, List.any_cons, htest]
      simp

/-! ## Where it does not -/

/-- A dot segment is removed from the URL, and the path that was checked had it. -/
theorem not_within_of_dots {baseUrl : Url} {read : IdentifiedRead} {request : RawRequest}
    {fetched : Fetched} (h : read.request = .ok request)
    (hid : read.identifier = units "." ∨ read.identifier = units "..")
    (hfetched : requestRaw baseUrl request = .ok fetched) : ¬ WithinBoundary request fetched := by
  intro hwithin
  cases read with
  | creatorPerformance creatorOpenId =>
    obtain ⟨-, identifier, hencoded, rfl⟩ := request_creatorPerformance h
    rcases hid with rfl | rfl
    · obtain rfl : units "." = identifier := Option.some.inj hencoded
      obtain rfl := Except.ok.inj hfetched
      exact absurd hwithin.asChecked (by simp only [Url.pathname]; decide)
    · obtain rfl : units ".." = identifier := Option.some.inj hencoded
      obtain rfl := Except.ok.inj hfetched
      exact absurd hwithin.asChecked (by simp only [Url.pathname]; decide)
  | messages conversationId pageSize =>
    obtain ⟨-, identifier, hencoded, rfl⟩ := request_messages h
    rcases hid with rfl | rfl
    · obtain rfl : units "." = identifier := Option.some.inj hencoded
      obtain rfl := Except.ok.inj hfetched
      exact absurd hwithin.asChecked (by simp only [Url.pathname]; decide)
    · obtain rfl : units ".." = identifier := Option.some.inj hencoded
      obtain rfl := Except.ok.inj hfetched
      exact absurd hwithin.asChecked (by simp only [Url.pathname]; decide)

/-- The URL that is fetched for an identifier has the path that was checked, and
is one of the operation, if and only if the identifier is no dot segment. -/
theorem read_within_boundary_iff {baseUrl : Url} {read : IdentifiedRead} {request : RawRequest}
    (h : read.request = .ok request) :
    (∃ fetched, requestRaw baseUrl request = .ok fetched ∧ WithinBoundary request fetched) ↔
      read.identifier ≠ units "." ∧ read.identifier ≠ units ".." := by
  constructor
  · rintro ⟨fetched, hfetched, hwithin⟩
    constructor
    · intro hdot
      exact not_within_of_dots h (Or.inl hdot) hfetched hwithin
    · intro hdots
      exact not_within_of_dots h (Or.inr hdots) hfetched hwithin
  · rintro ⟨hdot, hdots⟩
    exact within_of_not_dots h hdot hdots

def sampleBase : Url := { origin := units "https://provider.example.test", path := [[]] }

/-- An identifier with a slash in it stays one segment. -/
theorem creator_with_a_slash_within_boundary : ∃ request fetched,
    getCreatorPerformance (units "../search") = .ok request ∧
      requestRaw sampleBase request = .ok fetched ∧ WithinBoundary request fetched := by
  have h : (IdentifiedRead.creatorPerformance (units "../search")).request = .ok
      ⟨.GET_CREATOR_PERFORMANCE, .GET,
        units "/affiliate_seller/202508/marketplace_creators/..%2Fsearch"⟩ := rfl
  obtain ⟨fetched, hfetched, hwithin⟩ :=
    (@read_within_boundary_iff sampleBase _ _ h).2 (by decide)
  exact ⟨_, fetched, h, hfetched, hwithin⟩

/-- The creator `..` is asked for at the endpoint above that of the creators. -/
theorem creator_dots_leave_boundary : ∃ request fetched,
    getCreatorPerformance (units "..") = .ok request ∧
      requestRaw sampleBase request = .ok fetched ∧
      fetched.url.pathname = units "/affiliate_seller/202508/" ∧
      request.path = units "/affiliate_seller/202508/marketplace_creators/.." ∧
      fetched.url.pathname ≠ fetched.signedPath ∧
      isAllowed request.operation request.method fetched.url.pathname = false := by
  refine ⟨_, _, rfl, rfl, ?_, ?_, ?_, ?_⟩
  all_goals decide

end tiktok_outreach.read_boundary
