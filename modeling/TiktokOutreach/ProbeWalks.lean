-- What a run of the probe does: it walks along the tokens of the provider at a measured pace, and
-- keeps the first creators of its range that it meets.
import TiktokOutreach.MarketplaceProbe

open first_keys listings
open tiktok_outreach.creator_responses (CreatorCandidate)

namespace tiktok_outreach.marketplace_probe

/-! ## Walks -/

def firstInput : ProbeRequestInput where
  page := 1
  searchKey := none
  pageToken := none

section Walks

variable (sanitizeMessage : String → String) (options : ProbeOptions)
  (request : ProbeRequestInput → Except ProbeRequestFailure ProbeRequestSuccess)

/-- The requests that follow the tokens: each page is asked for under the token of the one before
it, and under the search key of the first one. -/
inductive Follows : List ProbeRequestInput → Prop
  | first : Follows [firstInput]
  | next {inputs : List ProbeRequestInput} {i : ProbeRequestInput}
      {response first : ProbeRequestSuccess} (h : Follows (inputs ++ [i]))
      (hresponse : request i = .ok response) (htoken : present response.nextPageToken = true)
      (hfirst : request firstInput = .ok first) (hkey : present first.searchKey = true) :
      Follows (inputs ++ [i] ++ [{
        page := inputs.length + 2
        searchKey := first.searchKey
        pageToken := response.nextPageToken }])

/-- The creators of the range on the page of a request. -/
def found (i : ProbeRequestInput) : List CreatorCandidate :=
  match request i with
  | .ok response => response.creators.filter matchesFollowerRange
  | .error _ => []

/-- What is kept of the pages: the first creators of the range, each id once. -/
def kept (inputs : List ProbeRequestInput) : List CreatorCandidate :=
  (firsts (·.creatorOpenId) (inputs.flatMap (found request))).take options.target

/-- A record for each request, with what had been kept by then. -/
structure Reported (inputs : List ProbeRequestInput) (records : List RequestRecord) : Prop where
  length : records.length = inputs.length
  page : ∀ n (h : n < records.length), records[n].page = n + 1
  localMatchingCount : ∀ n (h : n < records.length) (h' : n < inputs.length),
    records[n].localMatchingCount = (found request inputs[n]).length
  totalUniqueMatches : ∀ n (h : n < records.length),
    records[n].totalUniqueMatches = (kept options request (inputs.take (n + 1))).length

/-- The loop goes on: all requests were answered, and the next one follows them. -/
structure Going (inputs : List ProbeRequestInput) (s : ProbeState) : Prop where
  room : inputs.length < physicalPageLimit options
  follows : Follows request (inputs ++ [inputOf (inputs.length + 1) s])
  stableSearchKey : inputs ≠ [] →
    ∃ first, request firstInput = .ok first ∧ s.stableSearchKey = first.searchKey
  events : s.events =
    inputs.flatMap (fun i => [Event.request i, Event.sleep options.delayMs])
  matched : s.matched = kept options request inputs
  requests : Reported options request inputs s.requests

/-- The loop has stopped behind the last of the requests. -/
structure Stopped (inputs : List ProbeRequestInput) (s : ProbeState) (reason : StopReason) :
    Prop where
  room : inputs.length ≤ physicalPageLimit options
  follows : Follows request inputs
  events : s.events = (inputs.map Event.request).intersperse (.sleep options.delayMs)
  matched : s.matched = kept options request inputs
  requests : Reported options request inputs s.requests
  target : reason = .TARGET_REACHED → options.target ≤ s.matched.length
  absent : reason = .NEXT_PAGE_TOKEN_ABSENT → s.matched.length < options.target ∧
    ∃ before i response, inputs = before ++ [i] ∧ request i = .ok response ∧
      present response.nextPageToken = false

end Walks

section Turns

variable {sanitizeMessage : String → String} {options : ProbeOptions}
  {request : ProbeRequestInput → Except ProbeRequestFailure ProbeRequestSuccess}
  {inputs : List ProbeRequestInput} {s : ProbeState}

theorem kept_append (i : ProbeRequestInput) : kept options request (inputs ++ [i]) =
    (found request i).foldl (addWithin (·.creatorOpenId) options.target)
      (kept options request inputs) := by
  unfold kept
  rw [foldl_addWithin_take, List.flatMap_append, List.flatMap_singleton, firsts_append]

theorem kept_of_error {i : ProbeRequestInput} {error : ProbeRequestFailure}
    (h : request i = .error error) :
    kept options request (inputs ++ [i]) = kept options request inputs := by
  have hnone : found request i = [] := by
    unfold found
    rw [h]
  rw [kept_append, hnone, List.foldl_nil]

theorem length_kept_le (inputs : List ProbeRequestInput) :
    (kept options request inputs).length ≤ options.target := List.length_take_le _ _

theorem reported_nil : Reported options request [] [] where
  length := rfl
  page := nofun
  localMatchingCount := nofun
  totalUniqueMatches := nofun

theorem Reported.snoc {records : List RequestRecord} (h : Reported options request inputs records)
    {i : ProbeRequestInput} {r : RequestRecord} (hpage : r.page = inputs.length + 1)
    (hlocal : r.localMatchingCount = (found request i).length)
    (htotal : r.totalUniqueMatches = (kept options request (inputs ++ [i])).length) :
    Reported options request (inputs ++ [i]) (records ++ [r]) := by
  have hlength := h.length
  have hcases : ∀ n, n < (records ++ [r]).length → n < records.length ∨ n = records.length := by
    intro n hn
    rw [List.length_append, List.length_singleton] at hn
    omega
  constructor
  · simp [hlength]
  · intro n hn
    rcases hcases n hn with hlt | rfl
    · rw [List.getElem_append_left hlt]
      exact h.page n hlt
    · rw [List.getElem_concat_length rfl, hpage, hlength]
  · intro n hn hn'
    rcases hcases n hn with hlt | rfl
    · rw [List.getElem_append_left hlt, List.getElem_append_left (hlength ▸ hlt)]
      exact h.localMatchingCount n hlt (hlength ▸ hlt)
    · rw [List.getElem_concat_length rfl, List.getElem_concat_length hlength, hlocal]
  · intro n hn
    rcases hcases n hn with hlt | rfl
    · rw [List.getElem_append_left hlt, List.take_append_of_le_length (by omega)]
      exact h.totalUniqueMatches n hlt
    · rw [List.getElem_concat_length rfl, List.take_of_length_le (by simp [hlength]), htotal]

/-- A pause stands between any two requests, and none behind the last one. -/
theorem intersperse_requests (delayMs : Nat) (inputs : List ProbeRequestInput)
    (i : ProbeRequestInput) :
    inputs.flatMap (fun i => [Event.request i, Event.sleep delayMs]) ++ [Event.request i] =
      ((inputs ++ [i]).map Event.request).intersperse (.sleep delayMs) := by
  induction inputs with
  | nil => rfl
  | cons j inputs ih =>
    rw [List.flatMap_cons, List.append_assoc, ih]
    cases inputs <;> simp

/-! ## Turns -/

theorem going_start (h : 0 < physicalPageLimit options) : Going options request [] {} where
  room := h
  follows := .first
  stableSearchKey := fun hne => absurd rfl hne
  events := rfl
  matched := List.take_nil.symm
  requests := reported_nil

/-- A request that fails is the last one. -/
theorem stopped_of_error (h : Going options request inputs s) {error : ProbeRequestFailure}
    (herror : request (inputOf (inputs.length + 1) s) = .error error) :
    Stopped options request (inputs ++ [inputOf (inputs.length + 1) s])
      { s with
        events := s.events ++ [.request (inputOf (inputs.length + 1) s)]
        requests := s.requests ++ [failedRecord (inputOf (inputs.length + 1) s) error
          { s with events := s.events ++ [.request (inputOf (inputs.length + 1) s)] }] }
      (errorStopReason sanitizeMessage error (inputs.length + 1)) where
  room := by
    rw [List.length_append, List.length_singleton]
    exact h.room
  follows := h.follows
  events := by
    rw [h.events]
    exact intersperse_requests _ _ _
  matched := h.matched.trans (kept_of_error herror).symm
  requests := by
    refine h.requests.snoc rfl ?_ ?_
    · unfold found
      rw [herror]
      rfl
    · rw [kept_of_error herror, ← h.matched]
      rfl
  target := by
    unfold errorStopReason
    split
    · nofun
    · split
      · nofun
      · nofun
  absent := by
    unfold errorStopReason
    split
    · nofun
    · split
      · nofun
      · nofun

/-- What an answered request leaves. -/
theorem answered (h : Going options request inputs s) {response : ProbeRequestSuccess}
    (hresponse : request (inputOf (inputs.length + 1) s) = .ok response) {s' : ProbeState}
    (hs' : s' = pageState options (inputOf (inputs.length + 1) s) response
      { s with events := s.events ++ [.request (inputOf (inputs.length + 1) s)] }) :
    s'.matched = kept options request (inputs ++ [inputOf (inputs.length + 1) s]) ∧
      Reported options request (inputs ++ [inputOf (inputs.length + 1) s]) s'.requests ∧
      s'.events =
        ((inputs ++ [inputOf (inputs.length + 1) s]).map Event.request).intersperse
          (.sleep options.delayMs) ∧
      ∃ first, request firstInput = .ok first ∧ s'.stableSearchKey = first.searchKey := by
  have hfound : found request (inputOf (inputs.length + 1) s) =
      response.creators.filter matchesFollowerRange := by
    unfold found
    rw [hresponse]
  have hmatched : s'.matched =
      kept options request (inputs ++ [inputOf (inputs.length + 1) s]) := by
    rw [hs', kept_append, hfound, ← h.matched]
    rfl
  refine ⟨hmatched, ?_, ?_, ?_⟩
  · rw [hs']
    refine h.requests.snoc rfl ?_ ?_
    · rw [hfound]
      rfl
    · rw [← hmatched, hs']
      rfl
  · rw [hs', ← intersperse_requests, ← h.events]
    rfl
  · rw [hs']
    by_cases hnil : inputs = []
    · subst hnil
      exact ⟨response, hresponse, rfl⟩
    · obtain ⟨first, hfirst, hkey⟩ := h.stableSearchKey hnil
      refine ⟨first, hfirst, ?_⟩
      have hpage : inputs.length + 1 ≠ 1 := by
        have := List.length_pos_iff.2 hnil
        omega
      unfold pageState inputOf
      dsimp only
      rw [if_neg hpage, hkey]

theorem stopOf_target {page : Nat} {response : ProbeRequestSuccess} {s : ProbeState}
    (h : stopOf options page response s = some .TARGET_REACHED) :
    options.target ≤ s.matched.length := by
  unfold stopOf at h
  split at h
  · cases h
  · split at h
    · rename_i htarget
      exact htarget
    · split_ifs at h <;> cases h

theorem stopOf_absent {page : Nat} {response : ProbeRequestSuccess} {s : ProbeState}
    (h : stopOf options page response s = some .NEXT_PAGE_TOKEN_ABSENT) :
    s.matched.length < options.target ∧ present response.nextPageToken = false := by
  unfold stopOf at h
  split at h
  · cases h
  · split at h
    · cases h
    · rename_i htarget
      split at h
      · cases h
      · split at h
        · rename_i htoken
          exact ⟨not_le.1 htarget, by simpa using htoken⟩
        · split at h
          · cases h
          · cases h

/-- What it takes to go on. -/
theorem stopOf_none {page : Nat} {response : ProbeRequestSuccess} {s : ProbeState}
    (h : stopOf options page response s = none) :
    page < physicalPageLimit options ∧ present response.nextPageToken = true ∧
      present s.stableSearchKey = true := by
  unfold stopOf at h
  split_ifs at h with hmode _ hpages htoken hkey
  unfold physicalPageLimit
  rw [if_neg hmode]
  exact ⟨not_le.1 hpages, by simpa using htoken, by simpa using hkey⟩

theorem inputOf_of_ne {page : Nat} (h : page ≠ 1) (s : ProbeState) : inputOf page s = {
    page
    searchKey := s.stableSearchKey
    pageToken := s.pageToken } := by
  unfold inputOf
  rw [if_neg h, if_neg h]

theorem stopped_turn (h : Going options request inputs s) {s' : ProbeState} {reason : StopReason}
    (hturn : turn sanitizeMessage options request (inputs.length + 1) s = (s', some reason)) :
    Stopped options request (inputs ++ [inputOf (inputs.length + 1) s]) s' reason := by
  unfold turn at hturn
  dsimp only at hturn
  split at hturn
  · rename_i error herror
    rw [Prod.mk.injEq, Option.some.injEq] at hturn
    obtain ⟨rfl, rfl⟩ := hturn
    exact stopped_of_error h herror
  · rename_i response hresponse
    split at hturn
    · rename_i reason' hreason
      rw [Prod.mk.injEq, Option.some.injEq] at hturn
      obtain ⟨hs', rfl⟩ := hturn
      rw [hs'] at hreason
      obtain ⟨hmatched, hrequests, hevents, _⟩ := answered h hresponse hs'.symm
      constructor
      · rw [List.length_append, List.length_singleton]
        exact h.room
      · exact h.follows
      · exact hevents
      · exact hmatched
      · exact hrequests
      · rintro rfl
        exact stopOf_target hreason
      · rintro rfl
        obtain ⟨hroom, htoken⟩ := stopOf_absent hreason
        exact ⟨hroom, inputs, _, response, rfl, hresponse, htoken⟩
    · cases hturn

theorem going_turn (h : Going options request inputs s) {s' : ProbeState}
    (hturn : turn sanitizeMessage options request (inputs.length + 1) s = (s', none)) :
    Going options request (inputs ++ [inputOf (inputs.length + 1) s]) s' := by
  unfold turn at hturn
  dsimp only at hturn
  split at hturn
  · cases hturn
  · rename_i response hresponse
    split at hturn
    · cases hturn
    · rename_i hnone
      generalize hmid : pageState options (inputOf (inputs.length + 1) s) response
        { s with events := s.events ++ [.request (inputOf (inputs.length + 1) s)] } = mid
          at hturn hnone
      obtain ⟨hmatched, hrequests, hevents, first, hfirst, hkey⟩ := answered h hresponse hmid.symm
      obtain ⟨hroom, htoken, hpresent⟩ := stopOf_none hnone
      rw [hkey] at hpresent
      rw [Prod.mk.injEq] at hturn
      obtain ⟨rfl, _⟩ := hturn
      constructor
      · simpa using hroom
      · have hnext := Follows.next h.follows hresponse htoken hfirst hpresent
        have hlater : inputs.length + 1 + 1 ≠ 1 := by omega
        rw [List.length_append, List.length_singleton, inputOf_of_ne hlater, hkey]
        exact hnext
      · exact fun _ => ⟨first, hfirst, hkey⟩
      · rw [List.flatMap_append, hevents, ← intersperse_requests]
        simp
      · exact hmatched
      · exact hrequests

variable (sanitizeMessage) in
/-- The loop always ends in a turn that says why. -/
theorem stopped_loop (left : Nat) (h : Going options request inputs s)
    (hleft : inputs.length + left = physicalPageLimit options) :
    ∃ all, Stopped options request all
      (loop sanitizeMessage options request left (inputs.length + 1) s).1
      (loop sanitizeMessage options request left (inputs.length + 1) s).2 := by
  induction left generalizing inputs s with
  | zero =>
    have := h.room
    omega
  | succ left ih =>
    unfold loop
    cases hturn : turn sanitizeMessage options request (inputs.length + 1) s with
    | mk s' reason =>
      cases reason with
      | some reason => exact ⟨_, stopped_turn h hturn⟩
      | none =>
        have hgoing := going_turn h hturn
        have hlength : (inputs ++ [inputOf (inputs.length + 1) s]).length = inputs.length + 1 := by
          simp
        have hrest := ih hgoing (by rw [hlength]; omega)
        rw [hlength] at hrest
        exact hrest

variable (sanitizeMessage request) in
theorem stopped_run (h : 0 < physicalPageLimit options) :
    ∃ all s, Stopped options request all s
      (runMarketplaceProbe sanitizeMessage options request).stopReason ∧
      (runMarketplaceProbe sanitizeMessage options request).events = s.events ∧
      (runMarketplaceProbe sanitizeMessage options request).requests = s.requests ∧
      (runMarketplaceProbe sanitizeMessage options request).matchedCreators = s.matched := by
  have hstart : Going options request [] {} := going_start h
  obtain ⟨all, hstopped⟩ := stopped_loop sanitizeMessage (physicalPageLimit options) hstart
    (Nat.zero_add _)
  exact ⟨all, _, hstopped, rfl, rfl, rfl⟩

end Turns

/-! ## Accepted arguments -/

/-- The bounds that the arguments have from the start, and that each of them keeps. -/
def Arguments.Bounded (arguments : Arguments) : Prop :=
  1 ≤ arguments.target ∧ 1 ≤ arguments.maxPages

theorem le_of_integerOf {Number : String → Option ℚ} {least value : Nat} {argument : String}
    (h : integerOf Number least argument = some value) : least ≤ value := by
  unfold integerOf at h
  split at h
  · rename_i q _
    split at h
    · rename_i hq
      rw [Option.some.injEq] at h
      have hnum : (q.num : ℚ) = q := (Rat.den_eq_one_iff q).1 hq.1
      have hcast : ((least : Int) : ℚ) ≤ (q.num : ℚ) := by
        rw [hnum]
        exact_mod_cast hq.2
      have hle : (least : Int) ≤ q.num := by exact_mod_cast hcast
      omega
    · cases h
  · cases h

theorem bounded_readArguments {Number : String → Option ℚ} {given : List String}
    {arguments read : Arguments} (hbounded : arguments.Bounded)
    (h : readArguments Number given arguments = .ok read) : read.Bounded := by
  induction given, arguments using readArguments.induct Number with
  | case1 arguments =>
    rw [readArguments, Except.ok.injEq] at h
    exact h ▸ hbounded
  | case2 rest arguments ih =>
    unfold readArguments at h
    rw [if_pos rfl] at h
    exact ih hbounded h
  | case3 rest arguments _ ih =>
    unfold readArguments at h
    rw [if_neg (by decide), if_pos rfl] at h
    exact ih hbounded h
  | case4 argument arguments hsingle hsave hnamed =>
    rw [readArguments, if_neg hsingle, if_neg hsave, if_pos hnamed] at h
    cases h
  | case5 argument arguments hsingle hsave hnamed given rest hnone =>
    rw [readArguments, if_neg hsingle, if_neg hsave, if_pos hnamed] at h
    simp only [hnone] at h
    cases h
  | case6 argument arguments hsingle hsave hnamed given rest value hvalue ih =>
    rw [readArguments, if_neg hsingle, if_neg hsave, if_pos hnamed] at h
    simp only [hvalue] at h
    refine ih ⟨?_, ?_⟩ h
    · dsimp only
      split
      · rename_i htarget
        rw [htarget, if_neg (by decide)] at hvalue
        exact le_of_integerOf hvalue
      · exact hbounded.1
    · dsimp only
      split
      · rename_i hpages
        rw [hpages, if_neg (by decide)] at hvalue
        exact le_of_integerOf hvalue
      · exact hbounded.2
  | case7 argument rest arguments hsingle hsave hnamed =>
    unfold readArguments at h
    rw [if_neg hsingle, if_neg hsave, if_neg hnamed] at h
    cases h

structure CliOptions.Bounded (options : CliOptions) : Prop where
  target_pos : 1 ≤ options.target
  target_le : options.target ≤ 20
  maxPages_pos : 1 ≤ options.maxPages
  maxPages_le : options.mode = .PAGINATED → options.maxPages ≤ 12
  delayMs : options.mode = .PAGINATED → 3000 ≤ options.delayMs

theorem bounded_of_parseArguments {Number : String → Option ℚ} {arguments : List String}
    {options : CliOptions} (h : parseArguments Number arguments = .ok options) :
    options.Bounded := by
  unfold parseArguments at h
  cases hread : readArguments Number arguments {} with
  | error message =>
    rw [hread] at h
    cases h
  | ok read =>
    obtain ⟨htarget, hpages⟩ := bounded_readArguments ⟨by decide, by decide⟩ hread
    rw [hread] at h
    dsimp only [bind, Except.bind] at h
    split at h
    · cases h
    · split_ifs at h with hout hmax hdelay
      cases h
      simp only [MAX_OUTPUT_CREATORS, not_lt, Bool.and_eq_true, decide_eq_true_eq, not_and] at *
      exact ⟨htarget, hout, hpages, fun hmode => hmax hmode, fun hmode => hdelay hmode⟩

/-! ## Whole runs -/

/-- The requests among what was done. -/
def asked (events : List Event) : List ProbeRequestInput :=
  events.filterMap (fun event => match event with
    | .request i => some i
    | .sleep _ => none)

theorem asked_intersperse (inputs : List ProbeRequestInput) (delayMs : Nat) :
    asked ((inputs.map Event.request).intersperse (.sleep delayMs)) = inputs := by
  induction inputs with
  | nil => rfl
  | cons i inputs ih =>
    cases inputs with
    | nil => rfl
    | cons j inputs =>
      unfold asked at ih ⊢
      rw [List.map_cons] at ih ⊢
      rw [List.map_cons, List.intersperse_cons_cons, List.filterMap_cons, List.filterMap_cons]
      exact congrArg (List.cons i) ih

section Runs

variable {sanitizeMessage : String → String} {options : ProbeOptions}
  {request : ProbeRequestInput → Except ProbeRequestFailure ProbeRequestSuccess} {run : ProbeResult}

/-- What is known of a run, in terms of what it did. -/
theorem stopped_asked (hlimit : 0 < physicalPageLimit options)
    (hrun : runMarketplaceProbe sanitizeMessage options request = run) :
    ∃ s, Stopped options request (asked run.events) s run.stopReason ∧ run.events = s.events ∧
      run.requests = s.requests ∧ run.matchedCreators = s.matched := by
  obtain ⟨all, s, hstopped, hevents, hrequests, hmatched⟩ :=
    stopped_run sanitizeMessage request hlimit
  rw [hrun] at hstopped hevents hrequests hmatched
  refine ⟨s, ?_, hevents, hrequests, hmatched⟩
  rw [hevents, hstopped.events, asked_intersperse]
  exact hstopped

theorem Follows.length_pos {inputs : List ProbeRequestInput} (h : Follows request inputs) :
    0 < inputs.length := by
  cases h <;> simp

/-- For every provider: under arguments that are accepted the probe does at most twelve requests, and
one in a single run. They follow the tokens of the provider, a pause of at least three seconds
stands between any two of them, and at most twenty creators come out. -/
theorem probe_is_bounded {Number : String → Option ℚ} {arguments : List String}
    {options : CliOptions} (h : parseArguments Number arguments = .ok options)
    (hrun : runMarketplaceProbe sanitizeMessage options.toProbeOptions request = run) :
    Follows request (asked run.events) ∧
      run.events = ((asked run.events).map Event.request).intersperse (.sleep options.delayMs) ∧
      (options.mode = .SINGLE → (asked run.events).length = 1) ∧
      (options.mode = .PAGINATED → (asked run.events).length ≤ options.maxPages ∧
        options.maxPages ≤ 12 ∧ 3000 ≤ options.delayMs) ∧
      run.matchedCreators.length ≤ options.target ∧ options.target ≤ 20 := by
  have hbounded := bounded_of_parseArguments h
  have hlimit : 0 < physicalPageLimit options.toProbeOptions := by
    unfold physicalPageLimit
    split
    · decide
    · exact hbounded.maxPages_pos
  obtain ⟨s, hstopped, hevents, _, hmatched⟩ := stopped_asked hlimit hrun
  have hroom := hstopped.room
  unfold physicalPageLimit at hroom
  refine ⟨hstopped.follows, hevents.trans hstopped.events, fun hmode => ?_, fun hmode => ?_, ?_,
    hbounded.target_le⟩
  · rw [if_pos hmode] at hroom
    exact le_antisymm hroom hstopped.follows.length_pos
  · rw [if_neg (by rw [hmode]; decide)] at hroom
    exact ⟨hroom, hbounded.maxPages_le hmode, hbounded.delayMs hmode⟩
  · rw [hmatched, hstopped.matched]
    exact length_kept_le _

/-- What comes out are the first creators of the range on the pages that were answered, each id once
and as many as there is room for, and there is a record that tells the truth for each request. -/
theorem probe_keeps_the_first_matches (hlimit : 0 < physicalPageLimit options)
    (hrun : runMarketplaceProbe sanitizeMessage options request = run) :
    run.matchedCreators = (firsts (·.creatorOpenId)
        ((asked run.events).flatMap (found request))).take options.target ∧
      Reported options request (asked run.events) run.requests := by
  obtain ⟨s, hstopped, _, hrequests, hmatched⟩ := stopped_asked hlimit hrun
  rw [hrequests, hmatched]
  exact ⟨hstopped.matched, hstopped.requests⟩

/-! ### The listing of the provider -/

/-- The listing that the tokens of the provider lead through. -/
def listing : Paging (Option String) ProbeRequestSuccess where
  start := none
  more response := present response.nextPageToken
  next response := response.nextPageToken

/-- What was got of the listing by the requests. -/
def Got (request : ProbeRequestInput → Except ProbeRequestFailure ProbeRequestSuccess)
    (inputs : List ProbeRequestInput) (token : Option String) (response : ProbeRequestSuccess) :
    Prop :=
  ∃ i ∈ inputs, i.pageToken = token ∧ request i = .ok response

theorem readTo_of_follows {inputs : List ProbeRequestInput} (h : Follows request inputs) :
    ∀ i ∈ inputs, listing.ReadTo (Got request inputs) i.pageToken := by
  induction h with
  | first =>
    intro i hi
    rw [List.mem_singleton] at hi
    subst hi
    exact Paging.readTo_start
  | @next inputs i response first _ hresponse htoken hfirst hkey ih =>
    have hmono : ∀ token got, Got request (inputs ++ [i]) token got →
        Got request (inputs ++ [i] ++ [{
          page := inputs.length + 2
          searchKey := first.searchKey
          pageToken := response.nextPageToken }]) token got := by
      rintro token got ⟨j, hj, hgot⟩
      exact ⟨j, List.mem_append_left _ hj, hgot⟩
    intro j hj
    rcases List.mem_append.1 hj with hold | hnew
    · exact Paging.readTo_mono hmono (ih j hold)
    · rw [List.mem_singleton] at hnew
      subst hnew
      have hi : i ∈ inputs ++ [i] := List.mem_append_right _ List.mem_cons_self
      exact Paging.readTo_next (Paging.readTo_mono hmono (ih i hi))
        (hmono _ _ ⟨i, hi, rfl, hresponse⟩) htoken

/-- Over a listing that does not change: what comes out is in the range and on the pages of the
listing, under one id each. A probe that reached its target has as many creators as that, and one
that stopped for want of a token has found every creator of the range that the listing holds. -/
theorem probe_reads_the_listing (hlimit : 0 < physicalPageLimit options)
    (hrun : runMarketplaceProbe sanitizeMessage options request = run)
    {page : Option String → ProbeRequestSuccess}
    (hpage : ∀ i response, request i = .ok response → response = page i.pageToken) :
    (run.matchedCreators.map (·.creatorOpenId)).Nodup ∧
    (∀ c ∈ run.matchedCreators, matchesFollowerRange c = true ∧
      ∃ token, listing.Within page token ∧ c ∈ (page token).creators) ∧
    (run.stopReason = .TARGET_REACHED → run.matchedCreators.length = options.target) ∧
    (run.stopReason = .NEXT_PAGE_TOKEN_ABSENT → ∀ token, listing.Within page token →
      ∀ c ∈ (page token).creators, matchesFollowerRange c = true →
        ∃ kept ∈ run.matchedCreators, kept.creatorOpenId = c.creatorOpenId) := by
  obtain ⟨s, hstopped, _, _, hmatched⟩ := stopped_asked hlimit hrun
  rw [hmatched, hstopped.matched]
  have hread := readTo_of_follows hstopped.follows
  have hfixed : ∀ token response, Got request (asked run.events) token response →
      response = page token := by
    rintro token response ⟨i, _, rfl, hresponse⟩
    exact hpage i response hresponse
  refine ⟨?_, ?_, ?_, ?_⟩
  · unfold kept
    rw [List.map_take]
    exact (nodup_firsts _).sublist (List.take_sublist _ _)
  · intro c hc
    have hfound := mem_of_mem_firsts (List.mem_of_mem_take hc)
    obtain ⟨i, hi, hci⟩ := List.mem_flatMap.1 hfound
    unfold found at hci
    split at hci
    · rename_i response hresponse
      obtain ⟨hmem, hrange⟩ := List.mem_filter.1 hci
      refine ⟨hrange, i.pageToken, Paging.readTo_mono hfixed (hread i hi), ?_⟩
      rw [← hpage i response hresponse]
      exact hmem
    · cases hci
  · intro hreason
    have htarget := hstopped.target hreason
    rw [hstopped.matched] at htarget
    exact le_antisymm (length_kept_le _) htarget
  · intro hreason token htoken c hc hrange
    obtain ⟨hroom, before, i, response, hinputs, hresponse, hlast⟩ := hstopped.absent hreason
    have hi : i ∈ asked run.events := by
      rw [hinputs]
      exact List.mem_append_right _ List.mem_cons_self
    have hout := Paging.readOut_last (hread i hi) ⟨i, hi, rfl, hresponse⟩ hlast
    obtain ⟨j, hj, _, hpagej⟩ := Paging.got_of_readOut hfixed hout htoken
    have hcj : c ∈ found request j := by
      unfold found
      rw [hpagej]
      exact List.mem_filter.2 ⟨hc, hrange⟩
    obtain ⟨k, hk, hkey⟩ : ∃ k ∈ firsts (fun c : CreatorCandidate => c.creatorOpenId)
        ((asked run.events).flatMap (found request)), k.creatorOpenId = c.creatorOpenId :=
      exists_mem_firsts (List.mem_flatMap.2 ⟨j, hj, hcj⟩)
    refine ⟨k, ?_, hkey⟩
    rw [hstopped.matched] at hroom
    unfold kept at hroom ⊢
    rw [List.length_take] at hroom
    rw [List.take_of_length_le (by omega)]
    exact hk

end Runs

/-! ### A provider with two pages -/

def sampleNumber (text : String) : Option ℚ := if text = "2" then some 2 else none

def sampleCreator (creatorOpenId : String) (followers : ℚ) : CreatorCandidate where
  creatorOpenId
  followerCount := some followers
  selectionRegion := "ID"
  discoveryOrdinal := 0

def samplePage : Option String → ProbeRequestSuccess
  | none => {
      timestamp := "2026-08-24T00:00:00.000Z"
      durationMs := 120
      creators := [sampleCreator "a" 1200, sampleCreator "b" 5]
      searchKey := some "key"
      nextPageToken := some "second" }
  | some _ => {
      timestamp := "2026-08-24T00:00:03.000Z"
      durationMs := 90
      creators := [sampleCreator "a" 1200, sampleCreator "c" 1500]
      searchKey := some "key" }

def sampleRequest (i : ProbeRequestInput) : Except ProbeRequestFailure ProbeRequestSuccess :=
  .ok (samplePage i.pageToken)

def sampleOptions : ProbeOptions := ⟨.PAGINATED, 20, 12, 3000⟩

theorem probe_is_bounded_in_the_sample :
    ∃ run, runMarketplaceProbe id ⟨.PAGINATED, 20, 2, 3000⟩ sampleRequest = run ∧
      (asked run.events).length ≤ 2 ∧ run.matchedCreators.length ≤ 20 := by
  have h : parseArguments sampleNumber ["--max-pages", "2"] =
      .ok ⟨⟨.PAGINATED, 20, 2, 3000⟩, false⟩ := rfl
  have hrun : runMarketplaceProbe id ⟨.PAGINATED, 20, 2, 3000⟩ sampleRequest = _ := rfl
  obtain ⟨_, _, _, hpages, hmatched, _⟩ := probe_is_bounded h hrun
  exact ⟨_, hrun, (hpages rfl).1, hmatched⟩

theorem probe_keeps_the_first_matches_in_the_sample :
    (runMarketplaceProbe id sampleOptions sampleRequest).matchedCreators =
      [sampleCreator "a" 1200, sampleCreator "c" 1500] ∧
    (runMarketplaceProbe id sampleOptions sampleRequest).requests.length = 2 := by
  have hrun : runMarketplaceProbe id sampleOptions sampleRequest = _ := rfl
  obtain ⟨hmatched, hrequests⟩ := probe_keeps_the_first_matches (by decide) hrun
  refine ⟨hmatched.trans ?_, hrequests.length.trans ?_⟩
  · decide +kernel
  · decide +kernel

theorem probe_reads_the_listing_in_the_sample :
    ∃ kept ∈ (runMarketplaceProbe id sampleOptions sampleRequest).matchedCreators,
      kept.creatorOpenId = "c" := by
  have hrun : runMarketplaceProbe id sampleOptions sampleRequest = _ := rfl
  have hpage : ∀ i response, sampleRequest i = .ok response → response = samplePage i.pageToken :=
    fun i response h => (Except.ok.inj h).symm
  obtain ⟨_, _, _, habsent⟩ := probe_reads_the_listing (by decide) hrun hpage
  refine habsent (by decide +kernel) (some "second") ?_ (sampleCreator "c" 1500) (by decide)
    (by decide +kernel)
  exact Paging.readTo_next (p := samplePage none) Paging.readTo_start rfl rfl

end tiktok_outreach.marketplace_probe
