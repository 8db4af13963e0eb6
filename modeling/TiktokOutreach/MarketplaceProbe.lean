-- The diagnostic probe of the creator search (scripts/marketplace-discovery-probe.ts): its
-- arguments, and the loop that reads page after page until it has what it looks for.
import TiktokOutreach.Lib.Firsts
import TiktokOutreach.Lib.Listings
import TiktokOutreach.CreatorResponses

open first_keys listings
open tiktok_outreach.creator_responses (CreatorCandidate)

namespace tiktok_outreach.marketplace_probe

def PAGE_SIZE : Nat := 20
def MIN_FOLLOWERS : ℚ := 1000
def MAX_FOLLOWERS : ℚ := 1500
def MAX_OUTPUT_CREATORS : Nat := 20

inductive ProbeMode
  | SINGLE
  | PAGINATED
  deriving DecidableEq, Repr

inductive RequestMode
  | NEW_SEARCH
  | CONTINUATION
  deriving DecidableEq, Repr

structure ProbeRequestInput where
  page : Nat
  pageSize : Nat := PAGE_SIZE
  searchKey : Option String
  pageToken : Option String
  deriving DecidableEq, Repr

structure ProbeRequestDiagnostic where
  timestamp : String
  durationMs : Int
  httpStatus : Option Nat := none
  providerCode : Option Int := none
  requestId : Option String := none
  deriving DecidableEq, Repr

structure ProbeRequestSuccess extends ProbeRequestDiagnostic where
  creators : List CreatorCandidate
  searchKey : Option String := none
  nextPageToken : Option String := none
  deriving DecidableEq, Repr

structure ProbeRequestFailure where
  diagnostic : ProbeRequestDiagnostic
  message : String
  deriving DecidableEq, Repr

structure RequestRecord extends ProbeRequestDiagnostic where
  page : Nat
  requestMode : RequestMode
  creatorsReturned : Nat
  searchKeyPresent : Bool
  pageTokenInputPresent : Bool
  nextPageTokenPresent : Bool
  localMatchingCount : Nat
  totalUniqueMatches : Nat
  deriving DecidableEq, Repr

inductive StopReason
  | SINGLE_REQUEST_COMPLETE
  | MAX_PAGES_REACHED
  | TARGET_REACHED
  | NEXT_PAGE_TOKEN_ABSENT
  | SEARCH_KEY_ABSENT
  | DAILY_QUOTA_REACHED_AT_PAGE (page : Nat)
  | THROTTLED_AT_PAGE (page : Nat)
  | PROVIDER_ERROR_AT_PAGE (page : Nat) (message : String)
  deriving DecidableEq, Repr

def StopReason.text : StopReason → String
  | SINGLE_REQUEST_COMPLETE => "SINGLE_REQUEST_COMPLETE"
  | MAX_PAGES_REACHED => "MAX_PAGES_REACHED"
  | TARGET_REACHED => "TARGET_REACHED"
  | NEXT_PAGE_TOKEN_ABSENT => "NEXT_PAGE_TOKEN_ABSENT"
  | SEARCH_KEY_ABSENT => "SEARCH_KEY_ABSENT"
  | DAILY_QUOTA_REACHED_AT_PAGE page => "DAILY_QUOTA_REACHED_AT_PAGE_" ++ toString page
  | THROTTLED_AT_PAGE page => "THROTTLED_AT_PAGE_" ++ toString page
  | PROVIDER_ERROR_AT_PAGE page message =>
    "PROVIDER_ERROR_AT_PAGE_" ++ toString page ++ ": " ++ message

structure ProbeOptions where
  mode : ProbeMode
  target : Nat
  maxPages : Nat
  delayMs : Nat
  deriving DecidableEq, Repr

/-! ## The arguments -/

structure CliOptions extends ProbeOptions where
  saveReport : Bool
  deriving DecidableEq, Repr

/-- The variables of `parseArguments`. -/
structure Arguments where
  mode : Option ProbeMode := none
  target : Nat := 20
  maxPages : Nat := 12
  delayMs : Nat := 3000
  saveReport : Bool := false
  deriving DecidableEq, Repr

/-- `Number(argument)` is an integer that is not below the least one. -/
def integerOf (Number : String → Option ℚ) (least : Nat) (argument : String) : Option Nat :=
  match Number argument with
  | some value => if value.den = 1 ∧ (least : ℚ) ≤ value then some value.num.toNat else none
  | none => none

def readArguments (Number : String → Option ℚ) : List String → Arguments → Except String Arguments
  | [], arguments => .ok arguments
  | argument :: rest, arguments =>
    if argument = "--single" then
      readArguments Number rest { arguments with mode := some .SINGLE }
    else if argument = "--save-report" then
      readArguments Number rest { arguments with saveReport := true }
    else if argument ∈ ["--target", "--max-pages", "--delay-ms"] then
      match rest with
      | [] => .error (argument ++ " requires a valid integer")
      | given :: rest =>
        match integerOf Number (if argument = "--delay-ms" then 0 else 1) given with
        | none => .error (argument ++ " requires a valid integer")
        | some value =>
          readArguments Number rest { arguments with
            target := if argument = "--target" then value else arguments.target
            maxPages := if argument = "--max-pages" then value else arguments.maxPages
            delayMs := if argument = "--delay-ms" then value else arguments.delayMs
            mode := arguments.mode.or (some .PAGINATED) }
    else .error ("Unknown argument: " ++ argument)

def parseArguments (Number : String → Option ℚ) (arguments : List String) :
    Except String CliOptions := do
  let given ← readArguments Number arguments {}
  match given.mode with
  | none => .error "Choose --single or controlled pagination arguments"
  | some mode =>
    if MAX_OUTPUT_CREATORS < given.target then
      .error "--target cannot exceed 20 for this diagnostic"
    else if mode = .PAGINATED && 12 < given.maxPages then
      .error "--max-pages cannot exceed the diagnostic ceiling of 12"
    else if mode = .PAGINATED && given.delayMs < 3000 then
      .error "Controlled pagination requires --delay-ms of at least 3000"
    else .ok ⟨⟨mode, given.target, given.maxPages, given.delayMs⟩, given.saveReport⟩

/-! ## The loop -/

def matchesFollowerRange (creator : CreatorCandidate) : Bool :=
  creator.followerCount.any (fun count => MIN_FOLLOWERS ≤ count && count ≤ MAX_FOLLOWERS)

/-- A character that an id of a request may show. -/
def shown (c : Char) : Bool := c.isAlphanum || c = '.' || c = '_' || c = ':' || c = '-'

/-- A character that is not shown has an underscore for each of its UTF-16 code units. -/
def sanitizeRequestId (value : Option String) : Option String :=
  (value.map (fun text => String.ofList ((text.toList.flatMap (fun c =>
    if shown c then [c] else if c.toNat < 0x10000 then ['_'] else ['_', '_'])).take 128))).filter
      (fun text => text ≠ "")

/-- A text that is there and not empty. -/
def present (text : Option String) : Bool := text.any (fun t => t ≠ "")

/-- What the probe does outside of itself. -/
inductive Event
  | request (input : ProbeRequestInput)
  | sleep (milliseconds : Nat)
  deriving DecidableEq, Repr

structure ProbeState where
  events : List Event := []
  requests : List RequestRecord := []
  /-- The values of `matchedByOpenId`. -/
  matched : List CreatorCandidate := []
  stableSearchKey : Option String := none
  pageToken : Option String := none
  deriving DecidableEq, Repr

structure ProbeResult extends ProbeOptions where
  stopReason : StopReason
  requests : List RequestRecord
  matchedCreators : List CreatorCandidate
  /-- What was done on the way. -/
  events : List Event

section Probe

variable (sanitizeMessage : String → String) (options : ProbeOptions)
  (request : ProbeRequestInput → Except ProbeRequestFailure ProbeRequestSuccess)

def errorStopReason (error : ProbeRequestFailure) (page : Nat) : StopReason :=
  if error.diagnostic.providerCode = some 45101004 then .DAILY_QUOTA_REACHED_AT_PAGE page
  else if error.diagnostic.providerCode = some 36009002 || error.diagnostic.httpStatus = some 429
  then .THROTTLED_AT_PAGE page
  else .PROVIDER_ERROR_AT_PAGE page (sanitizeMessage error.message)

def modeOf (page : Nat) : RequestMode := if page = 1 then .NEW_SEARCH else .CONTINUATION

def inputOf (page : Nat) (s : ProbeState) : ProbeRequestInput where
  page
  searchKey := if page = 1 then none else s.stableSearchKey
  pageToken := if page = 1 then none else s.pageToken

def failedRecord (input : ProbeRequestInput) (error : ProbeRequestFailure) (s : ProbeState) :
    RequestRecord where
  toProbeRequestDiagnostic := { error.diagnostic with
    requestId := sanitizeRequestId error.diagnostic.requestId }
  page := input.page
  requestMode := modeOf input.page
  creatorsReturned := 0
  searchKeyPresent := present s.stableSearchKey
  pageTokenInputPresent := present input.pageToken
  nextPageTokenPresent := false
  localMatchingCount := 0
  totalUniqueMatches := s.matched.length

def record (input : ProbeRequestInput) (response : ProbeRequestSuccess)
    (matched : List CreatorCandidate) : RequestRecord where
  toProbeRequestDiagnostic := { response.toProbeRequestDiagnostic with
    requestId := sanitizeRequestId response.requestId }
  page := input.page
  requestMode := modeOf input.page
  creatorsReturned := response.creators.length
  searchKeyPresent := present response.searchKey
  pageTokenInputPresent := present input.pageToken
  nextPageTokenPresent := present response.nextPageToken
  localMatchingCount := (response.creators.filter matchesFollowerRange).length
  totalUniqueMatches := matched.length

/-- What a page leaves, before it is decided whether there is another one. -/
def pageState (input : ProbeRequestInput) (response : ProbeRequestSuccess) (s : ProbeState) :
    ProbeState :=
  let matched := (response.creators.filter matchesFollowerRange).foldl
    (addWithin (·.creatorOpenId) options.target) s.matched
  { s with
    stableSearchKey := if input.page = 1 then response.searchKey else s.stableSearchKey
    requests := s.requests ++ [record input response matched]
    matched }

def stopOf (page : Nat) (response : ProbeRequestSuccess) (s : ProbeState) : Option StopReason :=
  if options.mode = .SINGLE then some .SINGLE_REQUEST_COMPLETE
  else if options.target ≤ s.matched.length then some .TARGET_REACHED
  else if options.maxPages ≤ page then some .MAX_PAGES_REACHED
  else if !present response.nextPageToken then some .NEXT_PAGE_TOKEN_ABSENT
  else if !present s.stableSearchKey then some .SEARCH_KEY_ABSENT
  else none

/-- One turn of the loop, with the reason to stop behind it. -/
def turn (page : Nat) (s : ProbeState) : ProbeState × Option StopReason :=
  let input := inputOf page s
  let s := { s with events := s.events ++ [.request input] }
  match request input with
  | .error error =>
    ({ s with requests := s.requests ++ [failedRecord input error s] },
      some (errorStopReason sanitizeMessage error page))
  | .ok response =>
    let s := pageState options input response s
    match stopOf options page response s with
    | some reason => (s, some reason)
    | none => ({ s with
        pageToken := response.nextPageToken
        events := s.events ++ [.sleep options.delayMs] }, none)

def defaultStop : StopReason :=
  if options.mode = .SINGLE then .SINGLE_REQUEST_COMPLETE else .MAX_PAGES_REACHED

def loop : Nat → Nat → ProbeState → ProbeState × StopReason
  | 0, _, s => (s, defaultStop options)
  | left + 1, page, s =>
    match turn sanitizeMessage options request page s with
    | (s, some reason) => (s, reason)
    | (s, none) => loop left (page + 1) s

def physicalPageLimit : Nat := if options.mode = .SINGLE then 1 else options.maxPages

def runMarketplaceProbe : ProbeResult :=
  let (s, stopReason) := loop sanitizeMessage options request (physicalPageLimit options) 1 {}
  { options with
    stopReason
    requests := s.requests
    matchedCreators := s.matched
    events := s.events }

end Probe

end tiktok_outreach.marketplace_probe
