-- What the read-only adapter takes from the answers of the provider
-- (packages/tiktok-adapter/src/real-read-only.ts): conversations and messages.
-- A number is an exact rational, and a `Date` the milliseconds of its `getTime`.
import TiktokOutreach.Lib.Decoders
import TiktokOutreach.Lib.Values
import TiktokOutreach.HistorySchema

open values decoders
open tiktok_outreach.history_schema (TikTokApiError Direction)

namespace tiktok_outreach.read_responses

/-! ## Fields -/

/-- The functions of the language on texts: the spaces of Unicode, the number of a text when it is
finite, and JSON. -/
structure Language where
  trim : String → String
  Number : String → Option ℚ
  parse : String → Option Value
  stringify : Value → String

def malformed (operation : String) (requestId : Option String) (message : String) :
    TikTokApiError where
  kind := .MALFORMED_RESPONSE
  operation
  requestId
  message

def object (value : Option Value) (label : String) : Except TikTokApiError Fields :=
  match value with
  | some (.object fields) => .ok fields
  | _ => .error (malformed label none (label ++ ": expected object"))

def string : Option Value → Option String
  | some (.text s) => if s = "" then none else some s
  | _ => none

def number (lang : Language) : Option Value → Option ℚ
  | some (.number q) => q
  | some (.text s) => if lang.trim s = "" then none else lang.Number s
  | _ => none

def array : Option Value → List Value
  | some (.array elements) => elements
  | _ => []

/-- `array(value).filter((item) => typeof item === "string")` -/
def strings (value : Option Value) : List String :=
  (array value).filterMap (fun item => match item with
    | .text s => some s
    | _ => none)

/-- A field that is used as an object, and as an empty one where it is none. -/
def part : Option Value → Fields
  | some (.object fields) => fields
  | _ => []

/-! ## Conversations and messages -/

structure ProviderConversation where
  id : String
  creatorImId : String
  username : Option String := none
  avatarUrl : Option String := none
  unreadCount : Option ℚ := none
  deriving DecidableEq, Repr

structure ProviderMessage where
  id : String
  conversationId : String
  creatorImId : Option String
  direction : Direction
  content : String
  createdAt : Int
  deriving DecidableEq, Repr

structure ProviderPage (α : Type) where
  items : List α
  nextPageToken : Option String
  hasMore : Bool
  deriving DecidableEq, Repr

def isTrue : Option Value → Bool
  | some (.boolean b) => b
  | _ => false

/-- `typeof data.has_more === "boolean" ? data.has_more : Boolean(nextPageToken)` -/
def moreOf (hasMore : Option Value) (nextPageToken : Option String) : Bool :=
  match hasMore with
  | some (.boolean b) => b
  | _ => nextPageToken.isSome

/-- The end of `listConversations` and of `listMessages`. -/
def pageOf {α : Type} (error : TikTokApiError) (data : Fields) (items : List α) :
    Except TikTokApiError (ProviderPage α) :=
  let nextPageToken := string (getField data "next_page_token")
  if isTrue (getField data "has_more") && nextPageToken.isNone then .error error
  else .ok ⟨items, nextPageToken, moreOf (getField data "has_more") nextPageToken⟩

section Pages

variable (lang : Language)

def toConversation (requestId : Option String) (item : Value) :
    Except TikTokApiError ProviderConversation := do
  let conversation ← object (some item) "conversation"
  match string (getField conversation "id"), string (getField conversation "creator_im_id") with
  | some id, some creatorImId => .ok {
      id
      creatorImId
      username := string (getField conversation "username")
      avatarUrl := string (getField conversation "avatar")
      unreadCount := number lang (getField conversation "unread_count") }
  | _, _ => .error (malformed "LIST_CONVERSATIONS" requestId
      "Conversation omitted id or creator_im_id")

def listConversations (response : Fields) :
    Except TikTokApiError (ProviderPage ProviderConversation) := do
  let requestId := string (getField response "request_id")
  let data ← object (getField response "data") "LIST_CONVERSATIONS.data"
  let items ← (array (getField data "conversations")).mapM (toConversation lang requestId)
  pageOf (malformed "LIST_CONVERSATIONS" requestId
    "Conversation page has_more was true without next_page_token") data items

/-- The text of a message, which may stand in an object in JSON. -/
def contentOf (content : String) : String :=
  match lang.parse content with
  | some parsed => (string (parsed.field "content")).getD content
  | none => content

/-- `new Date(created * 1000)` -/
def dateOf (created : ℚ) : Int := ⌊created * 1000⌋

/-- `creatorImId` is the one of the cursor. -/
def toMessage (creatorImId requestId : Option String) (item : Value) :
    Except TikTokApiError ProviderMessage := do
  let wrapper ← object (some item) "message"
  let body ← object (getField wrapper "message_body") "message_body"
  let error := malformed "LIST_MESSAGES" requestId
    "Message omitted required identifiers or a valid epoch-second timestamp"
  match string (getField body "id"), string (getField body "conversation_id"),
      string (getField body "sender_id"), number lang (getField body "create_time") with
  | some id, some providerConversationId, some senderId, some created =>
    if created ≤ 0 ∨ 100000000000 ≤ created then .error error
    else .ok {
      id
      conversationId := providerConversationId
      creatorImId
      direction := if creatorImId = some senderId then .INBOUND else .OUTBOUND
      content := contentOf lang ((string (getField body "content")).getD "")
      createdAt := dateOf created }
  | _, _, _, _ => .error error

def listMessages (creatorImId : Option String) (response : Fields) :
    Except TikTokApiError (ProviderPage ProviderMessage) := do
  let requestId := string (getField response "request_id")
  let data ← object (getField response "data") "LIST_MESSAGES.data"
  let items ← (array (getField data "messages")).mapM (toMessage lang creatorImId requestId)
  pageOf (malformed "LIST_MESSAGES" requestId
    "Message page has_more was true without next_page_token") data items

end Pages

/-! ## What comes out of the fields -/

theorem string_ne_empty (value : Option Value) : string value ≠ some "" := by
  unfold string
  split
  · split
    · nofun
    · rename_i hne
      simpa using hne
  · nofun

theorem string_text {s : String} (h : s ≠ "") : string (some (.text s)) = some s := by
  simp [string, h]

theorem ne_empty_of_string {value : Option Value} {s : String} (h : string value = some s) :
    s ≠ "" := by
  rintro rfl
  exact string_ne_empty value h

def writeText (text : Option String) : Value := text.elim .null .text

theorem string_writeText {text : Option String} (h : text ≠ some "") :
    string (some (writeText text)) = text := by
  cases text with
  | none => rfl
  | some s => exact string_text (fun hs => h (by rw [hs]))

def writeNumber (value : Option ℚ) : Value := value.elim .null (fun q => .number (some q))

@[simp] theorem number_writeNumber (lang : Language) (value : Option ℚ) :
    number lang (some (writeNumber value)) = value := by
  cases value <;> rfl

def writeStrings (texts : List String) : Value := .array (texts.map .text)

@[simp] theorem strings_writeStrings (texts : List String) :
    strings (some (writeStrings texts)) = texts := by
  unfold strings writeStrings array
  induction texts with
  | nil => rfl
  | cons s texts ih => simp

theorem object_eq_ok {value : Option Value} {label : String} {fields : Fields} :
    object value label = .ok fields ↔ value = some (.object fields) := by
  unfold object
  split
  · simp
  · rename_i hne
    simp only [reduceCtorEq, false_iff]
    exact fun h => hne fields h

theorem kind_of_object {value : Option Value} {label : String} {e : TikTokApiError}
    (h : object value label = .error e) : e.kind = .MALFORMED_RESPONSE := by
  unfold object at h
  split at h
  · cases h
  · cases h
    rfl

theorem bind_eq_ok {α β : Type} {x : Except TikTokApiError α} {f : α → Except TikTokApiError β}
    {b : β} : x >>= f = .ok b ↔ ∃ a, x = .ok a ∧ f a = .ok b := by
  cases x <;> simp [bind, Except.bind]

theorem bind_eq_error {α β : Type} {x : Except TikTokApiError α}
    {f : α → Except TikTokApiError β} {e : TikTokApiError} :
    x >>= f = .error e ↔ x = .error e ∨ ∃ a, x = .ok a ∧ f a = .error e := by
  cases x <;> simp [bind, Except.bind]

/-! ## Pages -/

/-- A page with more behind it says where. -/
structure ProviderPage.WellFormed {α : Type} (Item : α → Prop) (page : ProviderPage α) : Prop where
  items : ∀ item ∈ page.items, Item item
  nextPageToken : page.nextPageToken ≠ some ""
  hasMore : page.hasMore = true → page.nextPageToken.isSome = true

/-- What `listConversations` and `listMessages` have in common. -/
def pages {α : Type} (label items : String) (toItem : Option String → Value → Except TikTokApiError α)
    (error : Option String → TikTokApiError) (response : Fields) :
    Except TikTokApiError (ProviderPage α) := do
  let data ← object (getField response "data") label
  let list ← (array (getField data items)).mapM (toItem (string (getField response "request_id")))
  pageOf (error (string (getField response "request_id"))) data list

def writePage {α : Type} (items : String) (writeItem : α → Value) (page : ProviderPage α) : Fields :=
  [("data", .object [(items, .array (page.items.map writeItem)),
    ("next_page_token", writeText page.nextPageToken), ("has_more", .boolean page.hasMore)])]

section PageDecoders

variable {α : Type} {label items : String}
  {toItem : Option String → Value → Except TikTokApiError α} {writeItem : α → Value}
  {Item : α → Prop} {error : Option String → TikTokApiError}

theorem wellFormed_pageOf {error : TikTokApiError} {data : Fields} {list : List α}
    {page : ProviderPage α} (h : pageOf error data list = .ok page)
    (hlist : ∀ item ∈ list, Item item) : page.WellFormed Item := by
  unfold pageOf at h
  dsimp only at h
  split at h
  · cases h
  · rename_i hmore
    cases h
    refine ⟨hlist, string_ne_empty _, fun htrue => ?_⟩
    cases htoken : string (getField data "next_page_token") with
    | some token => rfl
    | none =>
      rw [htoken, Option.isNone_none, Bool.and_true] at hmore
      dsimp only at htrue
      rw [htoken] at htrue
      unfold moreOf at htrue
      unfold isTrue at hmore
      split at htrue
      · exact absurd htrue (by simp_all)
      · cases htrue

theorem inverts_pages (hitem : ∀ requestId, Inverts (toItem requestId) writeItem Item)
    (htoken : items ≠ "next_page_token") (hmore : items ≠ "has_more") :
    Inverts (pages label items toItem error) (writePage items writeItem)
      (ProviderPage.WellFormed Item) where
  sound {response page} h := by
    unfold pages at h
    rw [bind_eq_ok] at h
    obtain ⟨data, _, h⟩ := h
    rw [bind_eq_ok] at h
    obtain ⟨list, hlist, hpage⟩ := h
    exact wellFormed_pageOf hpage ((inverts_mapM (hitem _)).sound hlist)
  complete {page} h := by
    unfold pages
    rw [bind_eq_ok]
    refine ⟨_, object_eq_ok.2 rfl, ?_⟩
    rw [bind_eq_ok]
    have hread : getField [(items, Value.array (page.items.map writeItem)),
        ("next_page_token", writeText page.nextPageToken),
        ("has_more", .boolean page.hasMore)] items =
          some (.array (page.items.map writeItem)) := by
      simp [getField, htoken.symm, hmore.symm]
    rw [hread]
    refine ⟨page.items, (inverts_mapM (hitem _)).complete h.items, ?_⟩
    have htext : string (getField [(items, Value.array (page.items.map writeItem)),
        ("next_page_token", writeText page.nextPageToken),
        ("has_more", .boolean page.hasMore)] "next_page_token") = page.nextPageToken :=
      string_writeText h.nextPageToken
    unfold pageOf
    dsimp only
    rw [htext]
    have hkeep : ¬ ((isTrue (some (.boolean page.hasMore)) && page.nextPageToken.isNone) = true) := by
      intro hboth
      rw [Bool.and_eq_true] at hboth
      have hsome := h.hasMore hboth.1
      rw [Option.isNone_iff_eq_none] at hboth
      rw [hboth.2] at hsome
      cases hsome
    exact if_neg hkeep

theorem kind_of_pages (hitem : ∀ requestId value e, toItem requestId value = .error e →
      e.kind = .MALFORMED_RESPONSE) (herror : ∀ requestId, (error requestId).kind = .MALFORMED_RESPONSE)
    {response : Fields} {e : TikTokApiError} (h : pages label items toItem error response = .error e) :
    e.kind = .MALFORMED_RESPONSE := by
  unfold pages at h
  rw [bind_eq_error] at h
  rcases h with hdata | ⟨data, _, h⟩
  · exact kind_of_object hdata
  · rw [bind_eq_error] at h
    rcases h with hlist | ⟨list, _, hpage⟩
    · obtain ⟨value, _, hvalue⟩ := error_of_mapM hlist
      exact hitem _ _ _ hvalue
    · unfold pageOf at hpage
      dsimp only at hpage
      split at hpage
      · cases hpage
        exact herror _
      · cases hpage

end PageDecoders

/-! ## Conversations -/

structure ProviderConversation.WellFormed (conversation : ProviderConversation) : Prop where
  id : conversation.id ≠ ""
  creatorImId : conversation.creatorImId ≠ ""
  username : conversation.username ≠ some ""
  avatarUrl : conversation.avatarUrl ≠ some ""

def writeConversation (conversation : ProviderConversation) : Value :=
  .object [("id", .text conversation.id), ("creator_im_id", .text conversation.creatorImId),
    ("username", writeText conversation.username), ("avatar", writeText conversation.avatarUrl),
    ("unread_count", writeNumber conversation.unreadCount)]

section Conversations

variable (lang : Language) (requestId : Option String)

theorem inverts_toConversation :
    Inverts (toConversation lang requestId) writeConversation ProviderConversation.WellFormed where
  sound {item conversation} h := by
    unfold toConversation at h
    rw [bind_eq_ok] at h
    obtain ⟨fields, _, h⟩ := h
    split at h
    · rename_i hid him
      cases h
      exact ⟨ne_empty_of_string hid, ne_empty_of_string him, string_ne_empty _, string_ne_empty _⟩
    · cases h
  complete {conversation} h := by
    unfold toConversation writeConversation
    rw [bind_eq_ok]
    refine ⟨_, object_eq_ok.2 rfl, ?_⟩
    simp [getField, string_text h.id, string_text h.creatorImId, string_writeText h.username,
      string_writeText h.avatarUrl]

theorem kind_of_toConversation {item : Value} {e : TikTokApiError}
    (h : toConversation lang requestId item = .error e) : e.kind = .MALFORMED_RESPONSE := by
  unfold toConversation at h
  rw [bind_eq_error] at h
  rcases h with hitem | ⟨fields, _, h⟩
  · exact kind_of_object hitem
  · split at h
    · cases h
    · cases h
      rfl

theorem listConversations_eq_pages : listConversations lang =
    pages "LIST_CONVERSATIONS.data" "conversations" (toConversation lang)
      (fun requestId => malformed "LIST_CONVERSATIONS" requestId
        "Conversation page has_more was true without next_page_token") := rfl

/-- The pages of conversations that can come out are the well-formed ones, each is read again from
what is written for it, and an answer that gives no page is refused as malformed. -/
theorem conversation_pages_round_trip :
    (∀ page, (∃ response, listConversations lang response = .ok page) ↔
      page.WellFormed ProviderConversation.WellFormed) ∧
    (∀ response page, listConversations lang response = .ok page →
      listConversations lang (writePage "conversations" writeConversation page) = .ok page) ∧
    ∀ response e, listConversations lang response = .error e → e.kind = .MALFORMED_RESPONSE := by
  have hpages : Inverts (listConversations lang) (writePage "conversations" writeConversation)
      (ProviderPage.WellFormed ProviderConversation.WellFormed) := by
    rw [listConversations_eq_pages]
    exact inverts_pages (inverts_toConversation lang) (by decide) (by decide)
  refine ⟨hpages.accepted, fun _ _ h => hpages.again h, fun response e h => ?_⟩
  rw [listConversations_eq_pages] at h
  exact kind_of_pages (fun requestId _ _ h => kind_of_toConversation lang requestId h)
    (fun _ => rfl) h

end Conversations

/-! ## Messages -/

/-- The messages that a cursor of the creator gives. -/
structure ProviderMessage.WellFormed (creator : Option String) (message : ProviderMessage) :
    Prop where
  id : message.id ≠ ""
  conversationId : message.conversationId ≠ ""
  creatorImId : message.creatorImId = creator
  /-- Only a creator who was given can have sent a message. -/
  direction : message.direction = .INBOUND → ∃ sender, sender ≠ "" ∧ creator = some sender
  notBefore : 0 ≤ message.createdAt
  before : message.createdAt < 100000000000000

section Messages

variable (lang : Language) (creatorImId requestId : Option String)

def sampleOpening : String := "\x7b\"content\":\""

def quotationMark : Char := Char.ofNat 34
def backslash : Char := Char.ofNat 92

/-- A content behind its opening. -/
def sampleQuoted : List Char → List Char
  | [] => "\"\x7d".toList
  | c :: rest =>
    if c = quotationMark ∨ c = backslash then backslash :: c :: sampleQuoted rest
    else c :: sampleQuoted rest

def sampleUnquoted : List Char → Option (List Char)
  | c :: d :: rest =>
    if c = quotationMark then if d :: rest = "\x7d".toList then some [] else none
    else if c = backslash then (sampleUnquoted rest).map (d :: ·)
    else (sampleUnquoted (d :: rest)).map (c :: ·)
  | _ => none

def sampleLanguage : Language where
  trim := id
  Number _ := none
  parse s :=
    if sampleOpening.toList <+: s.toList then
      (sampleUnquoted (s.toList.drop 12)).map (fun content =>
        .object [("content", .text (String.ofList content))])
    else none
  stringify
    | .object [(name, .text content)] =>
      if name = "content" then String.ofList (sampleOpening.toList ++ sampleQuoted content.toList)
      else "null"
    | _ => "null"

end Messages

end tiktok_outreach.read_responses
