-- The preview of a campaign (`buildPreview` of packages/domain/src/index.ts):
-- which creators of a list may be written to, and which of them are selected.
-- A number is an exact rational, and a `Date` the milliseconds of its `getTime`.
import TiktokOutreach.Lib.Selection
import TiktokOutreach.Schema

open tables tiktok_outreach.schema

namespace tiktok_outreach.preview

/-! ## Texts and numbers -/

/-- The functions of the language on texts: the cases and the spaces of Unicode, the number of a
numeric text, the text of a date, and the order of `localeCompare`. -/
structure Language where
  toLowerCase : String → String
  toUpperCase : String → String
  trim : String → String
  Number : String → ℚ
  toISOString : Int → String
  localeCompare : LinearOrder String

/-- `text.includes(part)` -/
def includes (text part : String) : Bool :=
  text.toList.tails.any (fun rest => part.toList.isPrefixOf rest)

def MIN_SAFE_INTEGER : ℚ := -(2 ^ 53 - 1)

/-! ## Creators and filters -/

structure Money where
  amount : String
  currency : String
  deriving DecidableEq, Repr

structure CreatorCandidate where
  creatorOpenId : String
  username : Option String := none
  nickname : Option String := none
  categoryIds : List String := []
  followerCount : Option ℚ := none
  gmv : Option Money := none
  unitsSold : Option ℚ := none
  avgVideoViews : Option ℚ := none
  avgLiveViewers : Option ℚ := none
  engagementRate : Option ℚ := none
  discoveryOrdinal : ℚ
  deriving DecidableEq, Repr

structure CreatorFilters where
  keyword : Option String := none
  categoryIds : Option (List String) := none
  minFollowers : Option ℚ := none
  maxFollowers : Option ℚ := none
  minGmv : Option ℚ := none
  maxGmv : Option ℚ := none
  gmvCurrency : Option String := none
  minUnitsSold : Option ℚ := none
  minAvgVideoViews : Option ℚ := none
  minAvgLiveViewers : Option ℚ := none
  minEngagementRate : Option ℚ := none
  deriving DecidableEq, Repr

inductive RankingMetric
  | GMV
  | UNITS_SOLD
  | FOLLOWERS
  | AVG_VIDEO_VIEWS
  | AVG_LIVE_VIEWERS
  | ENGAGEMENT_RATE
  | TIKTOK_RELEVANCE
  deriving DecidableEq, Repr

structure ContactState where
  lastContactedAt : Option Int := none
  doNotContact : Bool := false
  unresolvedDelivery : Bool := false
  historical : Bool := false
  deriving DecidableEq, Repr

inductive SkipReason
  | INVALID_MESSAGING_ID
  | FILTER_MISMATCH
  | DUPLICATE
  | DO_NOT_CONTACT
  | DELIVERY_UNKNOWN
  | COOLDOWN
  | CONTACTED_BY_APP_WITHIN_COOLDOWN
  | ACTIVE_RESERVATION
  deriving DecidableEq, Repr

structure EvaluatedCreator extends CreatorCandidate where
  eligibility : Eligibility
  skipReason : Option SkipReason
  skipDetail : Option String
  rankingValue : ℚ
  selected : Bool
  deriving DecidableEq, Repr

structure PreviewSummary where
  requested : Int
  fetchedOccurrences : Nat
  excludedByFilter : Nat
  skippedDuplicates : Nat
  skippedDoNotContact : Nat
  skippedUnknownDelivery : Nat
  skippedCooldown : Nat
  skippedActiveReservation : Nat
  eligible : Nat
  selected : Int
  shortfall : Int
  truncated : Bool
  gmvCurrencyCounts : Table String Nat
  gmvMixedCurrency : Bool
  expectedGmvCurrency : Option String
  gmvExcludedCurrencyMismatch : Nat

structure PreviewResult where
  creators : List EvaluatedCreator
  summary : PreviewSummary

/-- The input of `buildPreview`. A set is a list of its members. -/
structure PreviewInput where
  creators : List CreatorCandidate
  filters : CreatorFilters := {}
  contacts : Table String ContactState := Table.empty
  activeReservations : List String := []
  requested : Int
  cooldownDays : Int
  rankingMetric : RankingMetric
  rankingDirection : Option RankingDirection := none
  now : Int
  truncated : Bool := false

section Preview

variable (lang : Language)

def numericGmv (creator : CreatorCandidate) : Option ℚ :=
  creator.gmv.map (fun gmv => lang.Number gmv.amount)

/-- A text that is there and not empty. -/
def given (text : Option String) : Option String := text.filter (fun t => t ≠ "")

/-- `min != null && (value == null || value < min)` -/
def below (value : Option ℚ) (least : Option ℚ) : Bool :=
  least.any (fun m => value.all (fun v => v < m))

/-- `max != null && (value == null || value > max)` -/
def above (value : Option ℚ) (greatest : Option ℚ) : Bool :=
  greatest.any (fun m => value.all (fun v => m < v))

def matchesFilters (creator : CreatorCandidate) (filters : CreatorFilters) : Bool :=
  let keyword := filters.keyword.map (fun keyword => lang.toLowerCase (lang.trim keyword))
  if (given keyword).any (fun keyword => !includes
      (lang.toLowerCase (creator.username.getD "" ++ " " ++ creator.nickname.getD "")) keyword) then
    false
  else if filters.categoryIds.any (fun ids =>
      !ids.isEmpty && !ids.any (fun id => creator.categoryIds.contains id)) then false
  else if below creator.followerCount filters.minFollowers then false
  else if above creator.followerCount filters.maxFollowers then false
  else if (given filters.gmvCurrency).any (fun currency =>
      creator.gmv.map (fun gmv => lang.toUpperCase gmv.currency) ≠
        some (lang.toUpperCase currency)) then false
  else if below (numericGmv lang creator) filters.minGmv then false
  else if above (numericGmv lang creator) filters.maxGmv then false
  else if below creator.unitsSold filters.minUnitsSold then false
  else if below creator.avgVideoViews filters.minAvgVideoViews then false
  else if below creator.avgLiveViewers filters.minAvgLiveViewers then false
  else if below creator.engagementRate filters.minEngagementRate then false
  else true

def rankingValue (creator : CreatorCandidate) : RankingMetric → ℚ
  | .GMV => (numericGmv lang creator).getD MIN_SAFE_INTEGER
  | .UNITS_SOLD => creator.unitsSold.getD MIN_SAFE_INTEGER
  | .FOLLOWERS => creator.followerCount.getD MIN_SAFE_INTEGER
  | .AVG_VIDEO_VIEWS => creator.avgVideoViews.getD MIN_SAFE_INTEGER
  | .AVG_LIVE_VIEWERS => creator.avgLiveViewers.getD MIN_SAFE_INTEGER
  | .ENGAGEMENT_RATE => creator.engagementRate.getD MIN_SAFE_INTEGER
  | .TIKTOK_RELEVANCE => -creator.discoveryOrdinal

/-! ## `buildPreview` -/

def MAX_CONTACT_COOLDOWN_DAYS : Int := 100000000

/-- Every integer is whole. -/
def assertContactCooldownDays (value : Int) : Except String Unit :=
  if value < 0 ∨ MAX_CONTACT_COOLDOWN_DAYS < value then
    .error "Contact cooldown must be a whole number from 0 to 100000000 days"
  else .ok ()

def cutoff (input : PreviewInput) : Int := input.now - input.cooldownDays * 86400000

/-- The reason to skip a creator whose open id was seen before or not, and its detail. -/
def skip (input : PreviewInput) (seen : List String) (creator : CreatorCandidate) :
    Option SkipReason × Option String :=
  let contact := (input.contacts.get creator.creatorOpenId).getD {}
  if creator.creatorOpenId = "" then (some .INVALID_MESSAGING_ID, none)
  else if !matchesFilters lang creator input.filters then (some .FILTER_MISMATCH, none)
  else if seen.contains creator.creatorOpenId then (some .DUPLICATE, none)
  else if contact.doNotContact then (some .DO_NOT_CONTACT, none)
  else if contact.unresolvedDelivery then (some .DELIVERY_UNKNOWN, none)
  else match contact.lastContactedAt.filter (fun lastContactedAt => cutoff input < lastContactedAt) with
    | some lastContactedAt =>
      if contact.historical then
        (some .COOLDOWN, some ("Historical contact at " ++ lang.toISOString lastContactedAt))
      else
        (some .CONTACTED_BY_APP_WITHIN_COOLDOWN,
          some ("App contact at " ++ lang.toISOString lastContactedAt))
    | none =>
      if input.activeReservations.contains creator.creatorOpenId then
        (some .ACTIVE_RESERVATION, none)
      else (none, none)

def evaluate (input : PreviewInput) (seen : List String) (creator : CreatorCandidate) :
    EvaluatedCreator :=
  let skipped := skip lang input seen creator
  { creator with
    eligibility := if skipped.1.isSome then .EXCLUDED else .ELIGIBLE
    skipReason := skipped.1
    skipDetail := skipped.2
    rankingValue := rankingValue lang creator input.rankingMetric
    selected := false }

/-- `if (creator.creatorOpenId) seen.add(creator.creatorOpenId)` -/
def addSeen (seen : List String) (creator : CreatorCandidate) : List String :=
  if creator.creatorOpenId = "" then seen else creator.creatorOpenId :: seen

/-- The loop over the creators, with the open ids seen so far. -/
def evaluateFrom (input : PreviewInput) : List String → List CreatorCandidate → List EvaluatedCreator
  | _, [] => []
  | seen, creator :: rest =>
    evaluate lang input seen creator :: evaluateFrom input (addSeen seen creator) rest

def multiplier (direction : Option RankingDirection) : ℚ := if direction = some .ASC then 1 else -1

/-- `a.localeCompare(b) <= 0` -/
def localeLe (a b : String) : Bool :=
  @decide (lang.localeCompare.le a b) (lang.localeCompare.toDecidableLE a b)

/-- The comparison of the sort does not put `a` behind `b`. -/
def notBehind (input : PreviewInput) (a b : EvaluatedCreator) : Bool :=
  let byMetric := (a.rankingValue - b.rankingValue) * multiplier input.rankingDirection
  if byMetric = 0 then localeLe lang a.creatorOpenId b.creatorOpenId else byMetric < 0

/-- The number of elements of `slice(0, stop)`. -/
def sliceLength (length : Nat) (stop : Int) : Nat :=
  (if stop < 0 then (length : Int) + stop else stop).toNat

/-- The creators that are eligible with their positions, in the order of the sort. -/
def ranked (input : PreviewInput) (evaluated : List EvaluatedCreator) :
    List (EvaluatedCreator × Nat) :=
  selection.ranking (fun a b => notBehind lang input a.1 b.1)
    (evaluated.zipIdx.filter (fun c => c.1.eligibility = .ELIGIBLE))

/-- The loop that marks the first ones of them as selected. -/
def markSelected (input : PreviewInput) (evaluated : List EvaluatedCreator) :
    List EvaluatedCreator :=
  let order := ranked lang input evaluated
  let chosen := order.take (sliceLength order.length input.requested)
  evaluated.zipIdx.map (fun c => { c.1 with selected := (chosen.map (·.2)).contains c.2 })

def count (creators : List EvaluatedCreator) (reason : SkipReason) : Nat :=
  creators.countP (fun creator => creator.skipReason = some reason)

def gmvCurrencyCounts (creators : List CreatorCandidate) : Table String Nat :=
  (creators.filterMap (fun creator => given (creator.gmv.map (·.currency)))).foldl
    (fun counts currency =>
      counts.set (lang.toUpperCase currency) ((counts.get (lang.toUpperCase currency)).getD 0 + 1))
    Table.empty

def summarize (input : PreviewInput) (creators : List EvaluatedCreator) : PreviewSummary :=
  let eligible := creators.countP (fun creator => creator.eligibility = .ELIGIBLE)
  let selected := min input.requested eligible
  let counts := gmvCurrencyCounts lang input.creators
  { requested := input.requested
    fetchedOccurrences := creators.length
    excludedByFilter := count creators .FILTER_MISMATCH + count creators .INVALID_MESSAGING_ID
    skippedDuplicates := count creators .DUPLICATE
    skippedDoNotContact := count creators .DO_NOT_CONTACT
    skippedUnknownDelivery := count creators .DELIVERY_UNKNOWN
    skippedCooldown := count creators .COOLDOWN + count creators .CONTACTED_BY_APP_WITHIN_COOLDOWN
    skippedActiveReservation := count creators .ACTIVE_RESERVATION
    eligible
    selected
    shortfall := max 0 (input.requested - selected)
    truncated := input.truncated
    gmvCurrencyCounts := counts
    gmvMixedCurrency := decide (1 < counts.rows.length)
    expectedGmvCurrency := input.filters.gmvCurrency.map lang.toUpperCase
    gmvExcludedCurrencyMismatch :=
      match given input.filters.gmvCurrency with
      | some expected => creators.countP (fun creator => creator.gmv.any (fun gmv =>
          lang.toUpperCase gmv.currency ≠ lang.toUpperCase expected))
      | none => 0 }

def buildPreview (input : PreviewInput) : Except String PreviewResult := do
  assertContactCooldownDays input.cooldownDays
  let creators := markSelected lang input (evaluateFrom lang input [] input.creators)
  return { creators, summary := summarize lang input creators }

end Preview

end tiktok_outreach.preview
