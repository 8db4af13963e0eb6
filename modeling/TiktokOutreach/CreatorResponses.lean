-- What the read-only adapter takes from the answers of the provider
-- (packages/tiktok-adapter/src/real-read-only.ts): shops, categories and creators,
-- and the ranges that a search asks for.
import Mathlib.Data.String.Basic
import TiktokOutreach.Preview
import TiktokOutreach.ReadResponses

open values decoders
open tiktok_outreach.history_schema (TikTokApiError)
open tiktok_outreach.read_responses

namespace tiktok_outreach.creator_responses

/-! ## Shops and categories -/

structure AuthorizedTikTokShop where
  id : String
  cipher : String
  code : Option String := none
  name : String
  region : String
  sellerType : Option String := none
  deriving DecidableEq, Repr

structure TikTokShopCategory where
  id : String
  parentId : String
  localName : String
  isLeaf : Bool
  deriving DecidableEq, Repr

def toShop (requestId : Option String) (item : Value) :
    Except TikTokApiError AuthorizedTikTokShop := do
  let shop ← object (some item) "authorized shop"
  match string (getField shop "id"), string (getField shop "cipher"),
      string (getField shop "name"), string (getField shop "region") with
  | some id, some cipher, some name, some region => .ok {
      id
      cipher
      name
      region
      code := string (getField shop "code")
      sellerType := string (getField shop "seller_type") }
  | _, _, _, _ => .error (malformed "GET_AUTHORIZED_SHOPS" requestId
      "Authorized shop omitted a required identity field")

def toCategory (requestId : Option String) (item : Value) :
    Except TikTokApiError TikTokShopCategory := do
  let category ← object (some item) "category"
  match string (getField category "id"), string (getField category "parent_id"),
      string (getField category "local_name"), getField category "is_leaf" with
  | some id, some parentId, some localName, some (.boolean isLeaf) =>
    .ok ⟨id, parentId, localName, isLeaf⟩
  | _, _, _, _ => .error (malformed "GET_CATEGORIES" requestId
      "Category omitted a required field")

/-- `response` is what `requestRaw` returns. -/
def getAuthorizedShops (response : Fields) :
    Except TikTokApiError (List AuthorizedTikTokShop) := do
  let data ← object (getField response "data") "GET_AUTHORIZED_SHOPS.data"
  (array (getField data "shops")).mapM (toShop (string (getField response "request_id")))

def getCategories (response : Fields) : Except TikTokApiError (List TikTokShopCategory) := do
  let data ← object (getField response "data") "GET_CATEGORIES.data"
  (array (getField data "categories")).mapM (toCategory (string (getField response "request_id")))

/-! ## Creators -/

structure Money where
  amount : String
  currency : String
  deriving DecidableEq, Repr

structure CreatorCandidate where
  creatorOpenId : String
  creatorUserId : Option String := none
  username : Option String := none
  nickname : Option String := none
  categoryIds : List String := []
  followerCount : Option ℚ := none
  gmv : Option Money := none
  unitsSold : Option ℚ := none
  avgVideoViews : Option ℚ := none
  avgLiveViewers : Option ℚ := none
  engagementRate : Option ℚ := none
  avatarUrl : Option String := none
  liveGmv : Option Money := none
  videoGmv : Option Money := none
  gmvRange : Option String := none
  topAgeRanges : List String := []
  majorGender : Option String := none
  majorGenderPercentage : Option ℚ := none
  selectionRegion : String
  discoveryOrdinal : Nat
  deriving DecidableEq, Repr

structure CreatorSearchPage where
  creators : List CreatorCandidate
  nextPageToken : Option String
  searchKey : String
  hasMore : Bool
  deriving DecidableEq, Repr

section Creators

variable (lang : Language)

def money : Option Value → Option Money
  | some (.object record) =>
    match string (getField record "amount"), string (getField record "currency") with
    | some amount, some currency =>
      if (lang.Number amount).isSome then some ⟨amount, currency⟩ else none
    | _, _ => none
  | _ => none

def mapCreator (value : Value) (ordinal : Nat) : Except TikTokApiError CreatorCandidate := do
  let creator ← object (some value) "creator"
  let avatar := part (getField creator "avatar")
  let gmvRange := part (getField creator "gmv_range")
  let demographics := part (getField creator "top_follower_demographics")
  let majorGender := part (getField demographics "major_gender")
  match string (getField creator "creator_open_id") with
  | none => .error {
      kind := .UNSUPPORTED_IDENTIFIER
      operation := "MAP_CREATOR"
      message := "Marketplace creator response omitted creator_open_id" }
  | some creatorOpenId => .ok {
      creatorOpenId
      creatorUserId := string (getField creator "creator_user_id")
      username := string (getField creator "username")
      nickname := string (getField creator "nickname")
      categoryIds := strings (getField creator "category_ids")
      followerCount := number lang (getField creator "follower_count")
      gmv := money lang (getField creator "gmv")
      unitsSold := number lang (getField creator "units_sold")
      avgVideoViews := number lang (getField creator "avg_ec_video_view_count")
      avgLiveViewers := number lang (getField creator "avg_ec_live_uv")
      engagementRate := number lang (getField creator "engagement_rate")
      avatarUrl := string (getField avatar "url")
      liveGmv := money lang (getField creator "live_gmv")
      videoGmv := money lang (getField creator "video_gmv")
      gmvRange := string (getField gmvRange "formatted_range")
      topAgeRanges := strings (getField demographics "age_ranges")
      majorGender := string (getField majorGender "gender")
      majorGenderPercentage := (number lang (getField majorGender "percentage")).map (· / 10000)
      selectionRegion := (string (getField creator "selection_region")).getD "UNKNOWN"
      discoveryOrdinal := ordinal }

/-- `searchKey` is the one of the cursor. -/
def searchCreators (searchKey : Option String) (response : Fields) :
    Except TikTokApiError CreatorSearchPage := do
  let data ← object (getField response "data") "SEARCH_CREATORS.data"
  let next := string (getField data "next_page_token")
  let creators ← mapIdxFrom (fun index item => mapCreator lang item index) 0
    (array (getField data "creators"))
  return {
    creators
    searchKey := ((string (getField data "search_key")).or searchKey).getD ""
    nextPageToken := next
    hasMore := next.isSome }

/-- `value ?? fallback` -/
def orElse (value : Option Value) (fallback : Value) : Value :=
  match value with
  | none | some .null => fallback
  | some value => value

def getCreatorPerformance (creatorOpenId : String) (response : Fields) :
    Except TikTokApiError CreatorCandidate := do
  if creatorOpenId = "" || creatorOpenId.startsWith "im:" then
    throw {
      kind := .UNSUPPORTED_IDENTIFIER
      operation := "GET_CREATOR_PERFORMANCE"
      message := "Creator performance requires creator_open_id, not creator_im_id" }
  let data ← object (getField response "data") "GET_CREATOR_PERFORMANCE.data"
  let providerCreator ← object (getField data "creator") "GET_CREATOR_PERFORMANCE.data.creator"
  let mapped ← mapCreator lang (.object (setField providerCreator "creator_open_id"
    (orElse (getField providerCreator "creator_open_id") (.text creatorOpenId)))) 0
  if mapped.creatorOpenId ≠ creatorOpenId then
    throw {
      kind := .UNSUPPORTED_IDENTIFIER
      operation := "GET_CREATOR_PERFORMANCE"
      requestId := string (getField response "request_id")
      message := "Creator performance identity did not match request" }
  return mapped

end Creators

def AuthorizedTikTokShop.WellFormed (shop : AuthorizedTikTokShop) : Prop :=
  (shop.id ≠ "" ∧ shop.cipher ≠ "" ∧ shop.name ≠ "" ∧ shop.region ≠ "") ∧
    shop.code ≠ some "" ∧ shop.sellerType ≠ some ""

def TikTokShopCategory.WellFormed (category : TikTokShopCategory) : Prop :=
  category.id ≠ "" ∧ category.parentId ≠ "" ∧ category.localName ≠ ""

def writeShop (shop : AuthorizedTikTokShop) : Value :=
  .object [("id", .text shop.id), ("cipher", .text shop.cipher), ("name", .text shop.name),
    ("region", .text shop.region), ("code", writeText shop.code),
    ("seller_type", writeText shop.sellerType)]

def writeCategory (category : TikTokShopCategory) : Value :=
  .object [("id", .text category.id), ("parent_id", .text category.parentId),
    ("local_name", .text category.localName), ("is_leaf", .boolean category.isLeaf)]

/-- A shop without one of its four names is refused, and never taken in part. -/
theorem inverts_toShop (requestId : Option String) :
    Inverts (toShop requestId) writeShop AuthorizedTikTokShop.WellFormed where
  sound {item shop} h := by
    unfold toShop at h
    rw [bind_eq_ok] at h
    obtain ⟨fields, _, h⟩ := h
    split at h
    · rename_i hid hcipher hname hregion
      cases h
      exact ⟨⟨ne_empty_of_string hid, ne_empty_of_string hcipher, ne_empty_of_string hname,
        ne_empty_of_string hregion⟩, string_ne_empty _, string_ne_empty _⟩
    · cases h
  complete {shop} h := by
    obtain ⟨⟨hid, hcipher, hname, hregion⟩, hcode, hseller⟩ := h
    unfold toShop writeShop
    rw [bind_eq_ok]
    refine ⟨_, object_eq_ok.2 rfl, ?_⟩
    simp [getField, string_text hid, string_text hcipher, string_text hname, string_text hregion,
      string_writeText hcode, string_writeText hseller]

theorem inverts_toCategory (requestId : Option String) :
    Inverts (toCategory requestId) writeCategory TikTokShopCategory.WellFormed where
  sound {item category} h := by
    unfold toCategory at h
    rw [bind_eq_ok] at h
    obtain ⟨fields, _, h⟩ := h
    split at h
    · rename_i hid hparent hname _
      cases h
      exact ⟨ne_empty_of_string hid, ne_empty_of_string hparent, ne_empty_of_string hname⟩
    · cases h
  complete {category} h := by
    obtain ⟨hid, hparent, hname⟩ := h
    unfold toCategory writeCategory
    rw [bind_eq_ok]
    refine ⟨_, object_eq_ok.2 rfl, ?_⟩
    simp [getField, string_text hid, string_text hparent, string_text hname]

/-! ## What comes out of an answer about creators -/

/-- The amount is the text of a number. -/
structure Money.WellFormed (lang : Language) (sum : Money) : Prop where
  amount : sum.amount ≠ ""
  currency : sum.currency ≠ ""
  number : (lang.Number sum.amount).isSome = true

structure CreatorCandidate.WellFormed (lang : Language) (creator : CreatorCandidate) : Prop where
  creatorOpenId : creator.creatorOpenId ≠ ""
  creatorUserId : creator.creatorUserId ≠ some ""
  username : creator.username ≠ some ""
  nickname : creator.nickname ≠ some ""
  gmv : ∀ sum ∈ creator.gmv, sum.WellFormed lang
  avatarUrl : creator.avatarUrl ≠ some ""
  liveGmv : ∀ sum ∈ creator.liveGmv, sum.WellFormed lang
  videoGmv : ∀ sum ∈ creator.videoGmv, sum.WellFormed lang
  gmvRange : creator.gmvRange ≠ some ""
  majorGender : creator.majorGender ≠ some ""
  selectionRegion : creator.selectionRegion ≠ ""

def writeMoney : Option Money → Value
  | none => .null
  | some sum => .object [("amount", .text sum.amount), ("currency", .text sum.currency)]

def writeCreator (creator : CreatorCandidate) : Value :=
  .object [("creator_open_id", .text creator.creatorOpenId),
    ("creator_user_id", writeText creator.creatorUserId),
    ("username", writeText creator.username), ("nickname", writeText creator.nickname),
    ("category_ids", writeStrings creator.categoryIds),
    ("follower_count", writeNumber creator.followerCount), ("gmv", writeMoney creator.gmv),
    ("units_sold", writeNumber creator.unitsSold),
    ("avg_ec_video_view_count", writeNumber creator.avgVideoViews),
    ("avg_ec_live_uv", writeNumber creator.avgLiveViewers),
    ("engagement_rate", writeNumber creator.engagementRate),
    ("avatar", .object [("url", writeText creator.avatarUrl)]),
    ("live_gmv", writeMoney creator.liveGmv), ("video_gmv", writeMoney creator.videoGmv),
    ("gmv_range", .object [("formatted_range", writeText creator.gmvRange)]),
    ("top_follower_demographics", .object [("age_ranges", writeStrings creator.topAgeRanges),
      ("major_gender", .object [("gender", writeText creator.majorGender),
        ("percentage", writeNumber (creator.majorGenderPercentage.map (· * 10000)))])]),
    ("selection_region", .text creator.selectionRegion)]

section CreatorDecoders

variable (lang : Language)

theorem wellFormed_money {value : Option Value} {sum : Money} (h : sum ∈ money lang value) :
    sum.WellFormed lang := by
  rw [Option.mem_def] at h
  unfold money at h
  split at h
  · split at h
    · rename_i hamount hcurrency
      split at h
      · rename_i hnumber
        cases h
        exact ⟨ne_empty_of_string hamount, ne_empty_of_string hcurrency, hnumber⟩
      · cases h
    · cases h
  · cases h

variable {lang} in
theorem money_writeMoney {sum : Option Money} (h : ∀ m ∈ sum, m.WellFormed lang) :
    money lang (some (writeMoney sum)) = sum := by
  cases sum with
  | none => rfl
  | some m =>
    have hm := h m rfl
    simp [money, writeMoney, getField, string_text hm.amount, string_text hm.currency, hm.number]

theorem inverts_mapCreator (ordinal : Nat) :
    Inverts (fun value => mapCreator lang value ordinal) writeCreator
      (fun creator => creator.WellFormed lang ∧ creator.discoveryOrdinal = ordinal) where
  sound {value creator} h := by
    unfold mapCreator at h
    rw [bind_eq_ok] at h
    obtain ⟨fields, _, h⟩ := h
    dsimp only at h
    split at h
    · cases h
    · rename_i hid
      cases h
      refine ⟨⟨ne_empty_of_string hid, string_ne_empty _, string_ne_empty _, string_ne_empty _,
        fun _ => wellFormed_money lang, string_ne_empty _, fun _ => wellFormed_money lang,
        fun _ => wellFormed_money lang, string_ne_empty _, string_ne_empty _, ?_⟩, rfl⟩
      dsimp only
      cases hregion : string (getField fields "selection_region") with
      | none => decide
      | some region => exact ne_empty_of_string hregion
  complete {creator} h := by
    obtain ⟨h, rfl⟩ := h
    have hpercentage : (creator.majorGenderPercentage.map (· * 10000)).map (· / 10000) =
        creator.majorGenderPercentage := by
      cases creator.majorGenderPercentage <;> simp
    unfold mapCreator writeCreator
    rw [bind_eq_ok]
    refine ⟨_, object_eq_ok.2 rfl, ?_⟩
    simp only [getField, List.reverse_cons, List.reverse_nil, List.nil_append, List.cons_append,
      List.find?_cons, String.reduceEq, decide_false, decide_true, Option.map_some, part,
      string_text h.creatorOpenId, string_text h.selectionRegion, string_writeText h.creatorUserId,
      string_writeText h.username, string_writeText h.nickname, string_writeText h.avatarUrl,
      string_writeText h.gmvRange, string_writeText h.majorGender, money_writeMoney h.gmv,
      money_writeMoney h.liveGmv, money_writeMoney h.videoGmv, strings_writeStrings,
      number_writeNumber, hpercentage, Option.getD_some]

/-- The fields of an answer that are read. -/
def creatorFields : List String :=
  ["creator_open_id", "creator_user_id", "username", "nickname", "category_ids", "follower_count",
    "gmv", "units_sold", "avg_ec_video_view_count", "avg_ec_live_uv", "engagement_rate", "avatar",
    "live_gmv", "video_gmv", "gmv_range", "top_follower_demographics", "selection_region"]

/-- No other field has a part in the creator. -/
theorem mapCreator_congr (creator creator' : Fields)
    (h : ∀ name ∈ creatorFields, getField creator name = getField creator' name) (ordinal : Nat) :
    mapCreator lang (.object creator) ordinal = mapCreator lang (.object creator') ordinal := by
  unfold mapCreator
  simp only [object, bind, Except.bind]
  simp (disch := decide) only [h]

/-- The pages of a search. The key of a page that has none of its own is that of the cursor. -/
structure CreatorSearchPage.WellFormed (lang : Language) (searchKey : Option String)
    (page : CreatorSearchPage) : Prop where
  creators : ∀ c ∈ page.creators.zipIdx, c.1.WellFormed lang ∧ c.1.discoveryOrdinal = c.2
  nextPageToken : page.nextPageToken ≠ some ""
  searchKey : page.searchKey = "" → searchKey.getD "" = ""
  hasMore : page.hasMore = page.nextPageToken.isSome

def writeSearchPage (page : CreatorSearchPage) : Fields :=
  [("data", .object [("creators", .array (page.creators.map writeCreator)),
    ("search_key", .text page.searchKey), ("next_page_token", writeText page.nextPageToken)])]

theorem inverts_searchCreators (searchKey : Option String) :
    Inverts (searchCreators lang searchKey) writeSearchPage
      (CreatorSearchPage.WellFormed lang searchKey) where
  sound {response page} h := by
    unfold searchCreators at h
    rw [bind_eq_ok] at h
    obtain ⟨data, _, h⟩ := h
    rw [bind_eq_ok] at h
    obtain ⟨creators, hcreators, h⟩ := h
    cases h
    refine ⟨(inverts_mapIdxFrom (inverts_mapCreator lang) 0).sound hcreators, string_ne_empty _, ?_,
      rfl⟩
    intro hempty
    dsimp only at hempty
    cases hkey : string (getField data "search_key") with
    | none =>
      rw [hkey] at hempty
      exact hempty
    | some key =>
      rw [hkey] at hempty
      exact absurd hempty (ne_empty_of_string hkey)
  complete {page} h := by
    unfold searchCreators writeSearchPage
    rw [bind_eq_ok]
    refine ⟨_, object_eq_ok.2 rfl, ?_⟩
    rw [bind_eq_ok]
    refine ⟨page.creators, (inverts_mapIdxFrom (inverts_mapCreator lang) 0).complete h.creators, ?_⟩
    have htoken : string (getField [("creators", Value.array (page.creators.map writeCreator)),
        ("search_key", .text page.searchKey), ("next_page_token", writeText page.nextPageToken)]
          "next_page_token") = page.nextPageToken := string_writeText h.nextPageToken
    have hkey : ((string (getField [("creators", Value.array (page.creators.map writeCreator)),
        ("search_key", .text page.searchKey), ("next_page_token", writeText page.nextPageToken)]
          "search_key")).or searchKey).getD "" = page.searchKey := by
      change ((string (some (.text page.searchKey))).or searchKey).getD "" = page.searchKey
      by_cases hempty : page.searchKey = ""
      · rw [hempty]
        exact h.searchKey hempty
      · rw [string_text hempty]
        rfl
    rw [htoken, hkey, ← h.hasMore]
    rfl

theorem kind_of_searchCreators {searchKey : Option String} {response : Fields} {e : TikTokApiError}
    (h : searchCreators lang searchKey response = .error e) :
    e.kind = .MALFORMED_RESPONSE ∨ e.kind = .UNSUPPORTED_IDENTIFIER := by
  unfold searchCreators at h
  rw [bind_eq_error] at h
  rcases h with hdata | ⟨data, _, h⟩
  · exact .inl (kind_of_object hdata)
  · rw [bind_eq_error] at h
    rcases h with hcreators | ⟨creators, _, h⟩
    · obtain ⟨value, _, hvalue⟩ := error_of_mapM hcreators
      unfold mapCreator at hvalue
      rw [bind_eq_error] at hvalue
      rcases hvalue with hcreator | ⟨fields, _, hvalue⟩
      · exact .inl (kind_of_object hcreator)
      · split at hvalue
        · cases hvalue
          exact .inr rfl
        · cases hvalue
    · cases h

/-- The pages of a search that can come out are the well-formed ones, and each is read again from
what is written for it. An answer that gives no page is refused: it is malformed, or it names a
creator without an open id. -/
theorem search_pages_round_trip (searchKey : Option String) :
    (∀ page, (∃ response, searchCreators lang searchKey response = .ok page) ↔
      page.WellFormed lang searchKey) ∧
    (∀ response page, searchCreators lang searchKey response = .ok page →
      searchCreators lang searchKey (writeSearchPage page) = .ok page) ∧
    ∀ response e, searchCreators lang searchKey response = .error e →
      e.kind = .MALFORMED_RESPONSE ∨ e.kind = .UNSUPPORTED_IDENTIFIER := by
  have hpages := inverts_searchCreators lang searchKey
  exact ⟨hpages.accepted, fun _ _ h => hpages.again h, fun _ _ h => kind_of_searchCreators lang h⟩

/-! ### One creator -/

def writePerformance (creator : Fields) : Fields :=
  [("data", .object [("creator", .object creator)])]

theorem getCreatorPerformance_eq_ok {creatorOpenId : String} {response : Fields}
    {creator : CreatorCandidate} : getCreatorPerformance lang creatorOpenId response = .ok creator ↔
      ¬ (creatorOpenId = "" ∨ creatorOpenId.startsWith "im:" = true) ∧
      creator.creatorOpenId = creatorOpenId ∧
      ∃ data provider, getField response "data" = some (.object data) ∧
        getField data "creator" = some (.object provider) ∧
        mapCreator lang (.object (setField provider "creator_open_id"
          (orElse (getField provider "creator_open_id") (.text creatorOpenId)))) 0 = .ok creator := by
  unfold getCreatorPerformance
  by_cases hid : creatorOpenId = "" ∨ creatorOpenId.startsWith "im:" = true
  · have hcondition : (creatorOpenId = "" || creatorOpenId.startsWith "im:") = true := by
      simpa using hid
    rw [if_pos hcondition]
    exact iff_of_false nofun (fun h => h.1 hid)
  · have hcondition : ¬ (creatorOpenId = "" || creatorOpenId.startsWith "im:") = true := by
      simpa using hid
    rw [if_neg hcondition]
    simp only [object_eq_ok, bind_eq_ok, hid, not_false_eq_true, true_and]
    constructor
    · rintro ⟨data, hdata, provider, hprovider, mapped, hmapped, h⟩
      split at h
      · cases h
      · rename_i hsame
        cases h
        exact ⟨not_not.1 hsame, data, provider, hdata, hprovider, hmapped⟩
    · rintro ⟨hsame, data, provider, hdata, hprovider, hmapped⟩
      refine ⟨data, hdata, provider, hprovider, creator, hmapped, ?_⟩
      rw [if_neg (not_not.2 hsame)]
      rfl

theorem getField_setField_self (fields : Fields) (name : String) (value : Value) :
    getField (setField fields name value) name = some value := by
  simp [getField, setField]

/-- A creator whose answer leaves its id out has the id of the request. Beyond the id, only the other
fields of a creator have a part in what is read of it. -/
theorem getCreatorPerformance_congr {creatorOpenId : String} {creator creator' : Fields}
    (hid : orElse (getField creator "creator_open_id") (.text creatorOpenId) =
      orElse (getField creator' "creator_open_id") (.text creatorOpenId))
    (h : ∀ name ∈ creatorFields, name ≠ "creator_open_id" →
      getField creator name = getField creator' name) :
    getCreatorPerformance lang creatorOpenId (writePerformance creator) =
      getCreatorPerformance lang creatorOpenId (writePerformance creator') := by
  have hmapped := mapCreator_congr lang
    (setField creator "creator_open_id"
      (orElse (getField creator "creator_open_id") (.text creatorOpenId)))
    (setField creator' "creator_open_id"
      (orElse (getField creator' "creator_open_id") (.text creatorOpenId)))
    (fun name hname => by
      by_cases hname' : name = "creator_open_id"
      · rw [hname', getField_setField_self, getField_setField_self, hid]
      · rw [getField_setField_of_ne _ _ (Ne.symm hname'),
          getField_setField_of_ne _ _ (Ne.symm hname'), h name hname hname']) 0
  have hdata : ∀ fields : Fields, object (getField (writePerformance fields) "data")
      "GET_CREATOR_PERFORMANCE.data" = .ok [("creator", .object fields)] := fun _ => rfl
  have hcreator : ∀ fields : Fields, object (getField [("creator", .object fields)] "creator")
      "GET_CREATOR_PERFORMANCE.data.creator" = .ok fields := fun _ => rfl
  have hrequest : ∀ fields : Fields,
      getField (writePerformance fields) "request_id" = none := fun _ => rfl
  unfold getCreatorPerformance
  simp only [hdata, hcreator, hrequest, bind, Except.bind, hmapped]

/-- What can be read of a creator is that creator, well-formed and not under an id of the
conversations. Beyond its id, which the answer may leave out, only the fields of a creator have a
part in what is read of it. -/
theorem performance_answers_the_request (creatorOpenId : String) :
    (∀ creator, (∃ response, getCreatorPerformance lang creatorOpenId response = .ok creator) ↔
      creator.WellFormed lang ∧ creator.discoveryOrdinal = 0 ∧
        creator.creatorOpenId = creatorOpenId ∧ ¬ creatorOpenId.startsWith "im:" = true) ∧
    ∀ creator creator' : Fields,
      orElse (getField creator "creator_open_id") (.text creatorOpenId) =
        orElse (getField creator' "creator_open_id") (.text creatorOpenId) →
      (∀ name ∈ creatorFields, name ≠ "creator_open_id" →
        getField creator name = getField creator' name) →
      getCreatorPerformance lang creatorOpenId (writePerformance creator) =
        getCreatorPerformance lang creatorOpenId (writePerformance creator') := by
  refine ⟨fun creator => ⟨?_, ?_⟩, fun _ _ hid h => getCreatorPerformance_congr lang hid h⟩
  · rintro ⟨response, h⟩
    obtain ⟨hid, hsame, _, _, _, _, hmapped⟩ := (getCreatorPerformance_eq_ok lang).1 h
    obtain ⟨hwell, hordinal⟩ := (inverts_mapCreator lang 0).sound hmapped
    exact ⟨hwell, hordinal, hsame, fun him => hid (.inr him)⟩
  · rintro ⟨hwell, hordinal, hsame, him⟩
    obtain ⟨fields, hfields⟩ : ∃ fields, writeCreator creator = .object fields := ⟨_, rfl⟩
    refine ⟨writePerformance fields, (getCreatorPerformance_eq_ok lang).2 ⟨?_, hsame, _, fields, rfl,
      rfl, ?_⟩⟩
    · rintro (hempty | him')
      · exact hwell.creatorOpenId (hsame.trans hempty)
      · exact him him'
    · have hread := (inverts_mapCreator lang 0).complete ⟨hwell, hordinal⟩
      rw [hfields] at hread
      rw [← hread]
      refine mapCreator_congr lang _ _ (fun name _ => ?_) 0
      have hfound : getField fields "creator_open_id" = some (.text creator.creatorOpenId) := by
        unfold writeCreator at hfields
        rw [← (Value.object.inj hfields)]
        rfl
      by_cases hname : name = "creator_open_id"
      · rw [hname, getField_setField_self, hfound]
        rfl
      · exact getField_setField_of_ne _ _ (Ne.symm hname)

end CreatorDecoders

/-! ## What a search asks for -/

/-- The filters of a search are those of a campaign, with what only the provider filters by. -/
structure SearchFilters extends preview.CreatorFilters where
  parentCategoryId : Option String := none
  childCategoryIds : List String := []
  marketplaceGmvRanges : List String := []
  deriving DecidableEq, Repr

/-- A documented interval, with both of its ends. -/
structure Boundary where
  name : String
  low : ℚ
  /-- `none` is `Number.POSITIVE_INFINITY`. -/
  high : Option ℚ
  deriving DecidableEq, Repr

def UNITS_SOLD_RANGES : List Boundary :=
  [⟨"UNITS_SOLD_RANGE_0_10", 0, some 10⟩, ⟨"UNITS_SOLD_RANGE_10_100", 10, some 100⟩,
    ⟨"UNITS_SOLD_RANGE_100_1000", 100, some 1000⟩, ⟨"UNITS_SOLD_RANGE_1000_AND_ABOVE", 1000, none⟩]

/-- Only the exact ends of documented intervals are asked for, any others stay local. -/
def discreteRanges (min max : Option ℚ) (boundaries : List Boundary) : Option (List String) :=
  if min.isNone && max.isNone then none
  else if min.any (fun m => m ∉ boundaries.map (·.low)) ||
      max.any (fun m => m ∉ boundaries.filterMap (·.high)) then none
  else
    let selected := (boundaries.filter (fun b => min.all (fun m => b.high.all (m ≤ ·)) &&
      max.all (b.low ≤ ·))).map (·.name)
    if selected.isEmpty then none else some selected

/-- The body of a search. -/
structure SearchBody where
  search_key : Option String
  keyword : Option String
  category : Option (List (String × List String))
  count_ge : Option ℚ
  count_le : Option ℚ
  gmv_ranges : Option (List String)
  units_sold_ranges : Option (List String)
  deriving DecidableEq, Repr

def searchBody (filters : SearchFilters) (searchKey : Option String) : SearchBody where
  search_key := preview.given searchKey
  keyword := preview.given filters.keyword
  category :=
    match filters.parentCategoryId with
    | some parent => some [(parent, filters.childCategoryIds)]
    | none => (filters.categoryIds.filter (fun ids => !ids.isEmpty)).map
        (fun ids => ids.map (fun id => (id, [])))
  count_ge := filters.minFollowers
  count_le := filters.maxFollowers
  gmv_ranges :=
    if filters.marketplaceGmvRanges.isEmpty then none else some filters.marketplaceGmvRanges
  units_sold_ranges := discreteRanges filters.minUnitsSold none UNITS_SOLD_RANGES

/-- The value lies in the interval, with both of its ends. -/
def Boundary.Holds (b : Boundary) (value : ℚ) : Prop := b.low ≤ value ∧ ∀ high ∈ b.high, value ≤ high

/-- What the body asks of the followers and of the units sold. -/
structure SearchBody.Admits (body : SearchBody) (creator : preview.CreatorCandidate) : Prop where
  count_ge : ∀ least ∈ body.count_ge, ∃ count ∈ creator.followerCount, least ≤ count
  count_le : ∀ greatest ∈ body.count_le, ∃ count ∈ creator.followerCount, count ≤ greatest
  units_sold_ranges : ∀ names ∈ body.units_sold_ranges, ∃ sold ∈ creator.unitsSold,
    ∃ b ∈ UNITS_SOLD_RANGES, b.name ∈ names ∧ b.Holds sold

section Searches

theorem mem_of_discreteRanges {min max : Option ℚ} {boundaries : List Boundary}
    {names : List String} {b : Boundary} {value : ℚ}
    (h : discreteRanges min max boundaries = some names) (hb : b ∈ boundaries)
    (hvalue : b.Holds value) (hmin : ∀ least ∈ min, least ≤ value)
    (hmax : ∀ greatest ∈ max, value ≤ greatest) : b.name ∈ names := by
  unfold discreteRanges at h
  split at h
  · cases h
  · split at h
    · cases h
    · dsimp only at h
      split at h
      · cases h
      · cases h
        refine List.mem_map.2 ⟨b, List.mem_filter.2 ⟨hb, ?_⟩, rfl⟩
        rw [Bool.and_eq_true, Option.all_eq_true, Option.all_eq_true]
        constructor
        · intro least hleast
          rw [Option.all_eq_true]
          intro high hhigh
          exact decide_eq_true ((hmin least hleast).trans (hvalue.2 high hhigh))
        · intro greatest hgreatest
          exact decide_eq_true (hvalue.1.trans (hmax greatest hgreatest))

theorem documented_of_discreteRanges {min max : Option ℚ} {boundaries : List Boundary}
    {names : List String} (h : discreteRanges min max boundaries = some names) :
    ∀ least ∈ min, ∃ b ∈ boundaries, b.low = least := by
  intro least hleast
  unfold discreteRanges at h
  split at h
  · cases h
  · split at h
    · cases h
    · rename_i hedges
      rw [Option.mem_def] at hleast
      subst hleast
      by_contra hnone
      refine hedges (Bool.or_eq_true_iff.2 (.inl (decide_eq_true (fun hmem => hnone ?_))))
      simpa using hmem

/-- The intervals leave no gap above their first one. -/
theorem holds_of_nonneg {value : ℚ} (h : 0 ≤ value) : ∃ b ∈ UNITS_SOLD_RANGES, b.Holds value := by
  unfold UNITS_SOLD_RANGES Boundary.Holds
  by_cases h10 : value ≤ 10
  · exact ⟨_, List.mem_cons_self, h, by simpa using h10⟩
  · by_cases h100 : value ≤ 100
    · exact ⟨_, List.mem_cons_of_mem _ List.mem_cons_self, (not_le.1 h10).le, by simpa using h100⟩
    · by_cases h1000 : value ≤ 1000
      · exact ⟨_, List.mem_cons_of_mem _ (List.mem_cons_of_mem _ List.mem_cons_self),
          (not_le.1 h100).le, by simpa using h1000⟩
      · exact ⟨_, List.mem_cons_of_mem _ (List.mem_cons_of_mem _ (List.mem_cons_of_mem _
          List.mem_cons_self)), (not_le.1 h1000).le, nofun⟩

/-- What a value that is there and not below means. -/
theorem exists_of_not_below {value least : Option ℚ} (h : preview.below value least = false) :
    ∀ m ∈ least, ∃ v ∈ value, m ≤ v := by
  intro m hm
  rw [Option.mem_def] at hm
  subst hm
  cases value with
  | none => simp [preview.below] at h
  | some v => exact ⟨v, rfl, by simpa [preview.below] using h⟩

theorem exists_of_not_above {value greatest : Option ℚ} (h : preview.above value greatest = false) :
    ∀ m ∈ greatest, ∃ v ∈ value, v ≤ m := by
  intro m hm
  rw [Option.mem_def] at hm
  subst hm
  cases value with
  | none => simp [preview.above] at h
  | some v => exact ⟨v, rfl, by simpa [preview.above] using h⟩

theorem numbers_of_matchesFilters {lang : preview.Language} {creator : preview.CreatorCandidate}
    {filters : preview.CreatorFilters} (h : preview.matchesFilters lang creator filters = true) :
    preview.below creator.followerCount filters.minFollowers = false ∧
      preview.above creator.followerCount filters.maxFollowers = false ∧
      preview.below creator.unitsSold filters.minUnitsSold = false := by
  unfold preview.matchesFilters at h
  simp only [Bool.if_false_left, Bool.if_true_right, Bool.and_eq_true, Bool.not_eq_true',
    decide_eq_false_iff_not, Bool.not_eq_true] at h
  tauto

/-- What a search asks of the followers and of the units sold leaves out no creator that the local
filters let pass. -/
theorem search_asks_for_all_that_matches (lang : preview.Language) (filters : SearchFilters)
    (searchKey : Option String) (creator : preview.CreatorCandidate)
    (h : preview.matchesFilters lang creator filters.toCreatorFilters = true) :
    (searchBody filters searchKey).Admits creator := by
  obtain ⟨hmin, hmax, hunits⟩ := numbers_of_matchesFilters h
  refine ⟨exists_of_not_below hmin, exists_of_not_above hmax, fun names hnames => ?_⟩
  obtain ⟨least, hleast⟩ : ∃ least, filters.minUnitsSold = some least := by
    cases hnone : filters.minUnitsSold with
    | some least => exact ⟨least, rfl⟩
    | none =>
      simp [searchBody, hnone, discreteRanges] at hnames
  obtain ⟨sold, hsold, hle⟩ := exists_of_not_below hunits least hleast
  obtain ⟨edge, hedge, hlow⟩ := documented_of_discreteRanges hnames least hleast
  have hnonneg : 0 ≤ edge.low := by
    simp only [UNITS_SOLD_RANGES, List.mem_cons, List.not_mem_nil, or_false] at hedge
    rcases hedge with rfl | rfl | rfl | rfl <;> norm_num
  obtain ⟨b, hb, hholds⟩ := holds_of_nonneg (hnonneg.trans (hlow.trans_le hle))
  refine ⟨sold, hsold, b, hb, ?_, hholds⟩
  refine mem_of_discreteRanges hnames hb hholds ?_ nofun
  intro m hm
  rw [hleast, Option.mem_def, Option.some.injEq] at hm
  exact hm ▸ hle

theorem search_asks_for_all_that_matches_in_the_sample :
    (searchBody { minFollowers := some 1000, minUnitsSold := some 10 } none).Admits
      { creatorOpenId := "open", followerCount := some 1200, unitsSold := some 100,
        discoveryOrdinal := 0 } :=
  search_asks_for_all_that_matches ⟨id, id, id, fun _ => 0, fun _ => "", inferInstance⟩
    { minFollowers := some 1000, minUnitsSold := some 10 } none
    { creatorOpenId := "open", followerCount := some 1200, unitsSold := some 100,
      discoveryOrdinal := 0 } (by decide +kernel)

end Searches

end tiktok_outreach.creator_responses
