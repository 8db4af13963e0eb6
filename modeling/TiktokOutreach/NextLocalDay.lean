-- When the cooldown of a daily quota ends
-- (apps/api/src/integrations/tiktok-read-governor.ts): the next midnight in the
-- time zone of the shop is put together from a date and from an offset that is
-- read at another instant, and is right as long as the offset is the same there.
import TiktokOutreach.Lib.Calendar
import TiktokOutreach.ReadGovernor
import Mathlib.Data.Set.Finite.Basic

open calendar executions tiktok_outreach.read_governor

namespace tiktok_outreach.next_local_day

/-! ## Time zones -/

/-- A time zone with finitely many changes of its offset. -/
structure TimeZone where
  /-- The offset from UTC at an instant in milliseconds, in seconds. -/
  offset : Int → Int
  bounds : ∀ t, -(12 * 3600) ≤ offset t ∧ offset t ≤ 14 * 3600
  changes : {t | offset t ≠ offset (t - 1)}.Finite

def DAY_MS : Int := 86400000

def MARGIN_MS : Int := 5 * 60000

section Zones

variable (zone : TimeZone)

def offsetMs (t : Int) : Int := zone.offset t * 1000

/-- What the clocks of the zone show at an instant, in milliseconds. -/
def localTime (t : Int) : Int := t + offsetMs zone t

def localDate (t : Int) : Date := dateOfDay (localTime zone t / DAY_MS)

/-! ## `nextLocalDay` -/

/-- A year as it is written without its era. -/
def yearOfEra (year : Int) : Int := if 0 < year then year else 1 - year

/-- The parts of a date and a time that are shown as numbers. -/
structure DateTimeParts where
  year : Int
  month : Fin 12
  day : Int
  hour : Int
  minute : Int
  second : Int
  deriving DecidableEq

def formatToParts (t : Int) : DateTimeParts where
  year := yearOfEra (localDate zone t).year
  month := (localDate zone t).month
  day := (localDate zone t).day
  hour := localTime zone t % DAY_MS / 3600000
  minute := localTime zone t % DAY_MS / 60000 % 60
  second := localTime zone t % DAY_MS / 1000 % 60

/-- Years of two digits are those of the twentieth century. -/
def fullYear (year : Int) : Int := if 0 ≤ year ∧ year ≤ 99 then 1900 + year else year

/-- `Date.UTC` -/
def dateUTC (year : Int) (month : Fin 12) (day hour minute second : Int) : Int :=
  makeDay (fullYear year) month day * DAY_MS + hour * 3600000 + minute * 60000 + second * 1000

def nextLocalDay (now : Int) : Int :=
  let dateParts := formatToParts zone now
  let nominalUtc := dateUTC dateParts.year dateParts.month (dateParts.day + 1) 0 0 0
  let localAtNominal := formatToParts zone nominalUtc
  let offset := dateUTC localAtNominal.year localAtNominal.month localAtNominal.day
    localAtNominal.hour localAtNominal.minute localAtNominal.second - nominalUtc
  nominalUtc - offset + MARGIN_MS

end Zones

/-! ## The end of a cooldown -/

section Laws

variable {zone : TimeZone} {now t : Int}

/-- The cooldown ends later, and on the day after. -/
structure EndsNextDay (zone : TimeZone) (now : Int) : Prop where
  later : now < nextLocalDay zone now
  dayAfter : (localDate zone (nextLocalDay zone now)).dayNumber =
    (localDate zone now).dayNumber + 1

/-- The next date begins then in UTC. -/
def nextMidnight (zone : TimeZone) (now : Int) : Int := ((localDate zone now).dayNumber + 1) * DAY_MS

/-- The next date begins then by the offset of its midnight in UTC, with the margin. -/
def opening (zone : TimeZone) (now : Int) : Int :=
  nextMidnight zone now - offsetMs zone (nextMidnight zone now) + MARGIN_MS

/-- The offset of the midnight in UTC is good enough for the local midnight. -/
structure Aligned (zone : TimeZone) (now : Int) : Prop where
  modern : 100 ≤ (localDate zone now).year
  /-- From now on the offset does not grow by what is left of the day. -/
  left : offsetMs zone (nextMidnight zone now) - offsetMs zone now <
    nextMidnight zone now - localTime zone now + MARGIN_MS
  /-- The clocks are not set forward behind the local midnight and before that in UTC. -/
  forward : offsetMs zone (nextMidnight zone now) - offsetMs zone (opening zone now) ≤ MARGIN_MS
  /-- Nor are they set back by a day. -/
  back : offsetMs zone (opening zone now) - offsetMs zone (nextMidnight zone now) <
    DAY_MS - MARGIN_MS

theorem dayNumber_localDate (zone : TimeZone) (t : Int) :
    (localDate zone t).dayNumber = localTime zone t / DAY_MS := dayNumber_dateOfDay _

theorem offsetMs_bounds (zone : TimeZone) (t : Int) :
    -(12 * 3600000) ≤ offsetMs zone t ∧ offsetMs zone t ≤ 14 * 3600000 := by
  have hbounds := zone.bounds t
  unfold offsetMs
  omega

/-! ## The years -/

theorem shownYear_of_modern {year : Int} (h : 100 ≤ year) : fullYear (yearOfEra year) = year := by
  unfold yearOfEra fullYear
  split_ifs <;> omega

/-- Before that a year is taken for one that comes much later. -/
theorem shownYear_of_early {year : Int} (h : year < 100) :
    100 ≤ fullYear (yearOfEra year) ∧ year + 199 ≤ fullYear (yearOfEra year) := by
  unfold yearOfEra fullYear
  split_ifs <;> omega

theorem one_hundred_le_shownYear (year : Int) : 100 ≤ fullYear (yearOfEra year) := by
  by_cases h : 100 ≤ year
  · rw [shownYear_of_modern h]
    exact h
  · exact (shownYear_of_early (by omega)).1

/-! ## The instants -/

/-- What is shown is read back where the year is. -/
theorem dateUTC_formatToParts (hsecond : t % 1000 = 0) (hyear : 100 ≤ (localDate zone t).year) :
    dateUTC (formatToParts zone t).year (formatToParts zone t).month (formatToParts zone t).day
      (formatToParts zone t).hour (formatToParts zone t).minute (formatToParts zone t).second =
      localTime zone t := by
  have hday : makeDay (localDate zone t).year (localDate zone t).month (localDate zone t).day =
      localTime zone t / DAY_MS := dayNumber_localDate zone t
  have hlocal : localTime zone t % 1000 = 0 := by
    unfold localTime offsetMs
    omega
  simp only [dateUTC, formatToParts, shownYear_of_modern hyear, hday]
  unfold DAY_MS
  omega

/-- The next date in UTC as the code takes it, in the year that is shown. -/
def nominalUtc (zone : TimeZone) (now : Int) : Int :=
  makeDay (fullYear (yearOfEra (localDate zone now).year)) (localDate zone now).month
    ((localDate zone now).day + 1) * DAY_MS

theorem year_of_nominalUtc (zone : TimeZone) (now : Int) :
    100 ≤ (localDate zone (nominalUtc zone now)).year := by
  have hshown := one_hundred_le_shownYear (localDate zone now).year
  have hinMonth := (localDate zone now).inMonth
  have hoffset := offsetMs_bounds zone (nominalUtc zone now)
  -- the clocks of the zone may show the day before, but that is one of the year too
  apply le_yearFromDay
  have hcentury := dayFromYear_le hshown
  have hmake := dayFromYear_le_makeDay (fullYear (yearOfEra (localDate zone now).year))
    (localDate zone now).month hinMonth.1
  have hnext : makeDay (fullYear (yearOfEra (localDate zone now).year)) (localDate zone now).month
      ((localDate zone now).day + 1) = makeDay (fullYear (yearOfEra (localDate zone now).year))
      (localDate zone now).month (localDate zone now).day + 1 := by
    unfold makeDay
    omega
  have hlocal : makeDay (fullYear (yearOfEra (localDate zone now).year)) (localDate zone now).month
      (localDate zone now).day ≤ localTime zone (nominalUtc zone now) / DAY_MS := by
    unfold localTime
    generalize offsetMs zone (nominalUtc zone now) = offset at hoffset
    unfold nominalUtc DAY_MS
    rw [hnext]
    omega
  omega

theorem nextLocalDay_eq (zone : TimeZone) (now : Int) :
    nextLocalDay zone now =
      nominalUtc zone now - offsetMs zone (nominalUtc zone now) + MARGIN_MS := by
  have hnominal : dateUTC (formatToParts zone now).year (formatToParts zone now).month
      ((formatToParts zone now).day + 1) 0 0 0 = nominalUtc zone now := by
    simp [dateUTC, formatToParts, nominalUtc]
  have hsecond : nominalUtc zone now % 1000 = 0 := by
    unfold nominalUtc DAY_MS
    omega
  simp only [nextLocalDay, hnominal, dateUTC_formatToParts hsecond (year_of_nominalUtc zone now)]
  unfold localTime
  omega

theorem nominalUtc_of_modern (h : 100 ≤ (localDate zone now).year) :
    nominalUtc zone now = nextMidnight zone now := by
  unfold nominalUtc nextMidnight Date.dayNumber makeDay
  rw [shownYear_of_modern h]
  congr 1
  omega

theorem nextLocalDay_of_modern (h : 100 ≤ (localDate zone now).year) :
    nextLocalDay zone now = opening zone now := by
  rw [nextLocalDay_eq, nominalUtc_of_modern h, opening]

theorem later_opening_iff : now < opening zone now ↔
    offsetMs zone (nextMidnight zone now) - offsetMs zone now <
      nextMidnight zone now - localTime zone now + MARGIN_MS := by
  unfold opening localTime
  constructor <;> intro <;> omega

theorem dayAfter_opening_iff :
    (localDate zone (opening zone now)).dayNumber = (localDate zone now).dayNumber + 1 ↔
      offsetMs zone (nextMidnight zone now) - offsetMs zone (opening zone now) ≤ MARGIN_MS ∧
        offsetMs zone (opening zone now) - offsetMs zone (nextMidnight zone now) <
          DAY_MS - MARGIN_MS := by
  rw [dayNumber_localDate, localTime]
  generalize hthere : offsetMs zone (opening zone now) = there
  unfold opening nextMidnight DAY_MS MARGIN_MS
  constructor
  · intro h
    exact ⟨by omega, by omega⟩
  · rintro ⟨hforward, hback⟩
    omega

theorem endsNextDay_of_aligned (h : Aligned zone now) : EndsNextDay zone now := by
  have hopening := nextLocalDay_of_modern h.modern
  constructor
  · rw [hopening]
    exact later_opening_iff.2 h.left
  · rw [hopening]
    exact dayAfter_opening_iff.2 ⟨h.forward, h.back⟩

/-- Where the offset is the same for a day and a half, the cooldown ends on the next day. -/
theorem endsNextDay_of_steady (hyear : 100 ≤ (localDate zone now).year)
    (hsteady : ∀ t, now - 12 * 3600000 ≤ t → t ≤ now + 39 * 3600000 →
      zone.offset t = zone.offset now) : EndsNextDay zone now := by
  apply endsNextDay_of_aligned
  have hoffset := offsetMs_bounds zone now
  have hday := dayNumber_localDate zone now
  have hleft : localTime zone now < nextMidnight zone now ∧
      nextMidnight zone now ≤ localTime zone now + DAY_MS := by
    unfold nextMidnight
    rw [hday]
    unfold DAY_MS
    omega
  have hlocal : localTime zone now = now + offsetMs zone now := rfl
  have hmidnight : offsetMs zone (nextMidnight zone now) = offsetMs zone now := by
    unfold offsetMs
    rw [hsteady _ (by unfold DAY_MS at hleft; omega) (by unfold DAY_MS at hleft; omega)]
  have hopening : offsetMs zone (opening zone now) = offsetMs zone now := by
    have hinstant : opening zone now = nextMidnight zone now - offsetMs zone now + MARGIN_MS := by
      rw [opening, hmidnight]
    have hnear : now ≤ opening zone now ∧ opening zone now ≤ now + DAY_MS + MARGIN_MS := by
      rw [hinstant]
      unfold MARGIN_MS
      omega
    unfold DAY_MS MARGIN_MS at hnear
    unfold offsetMs
    rw [hsteady _ (by omega) (by omega)]
  constructor
  · exact hyear
  · rw [hmidnight]
    unfold MARGIN_MS
    omega
  · rw [hmidnight, hopening]
    unfold MARGIN_MS
    omega
  · rw [hmidnight, hopening]
    unfold DAY_MS MARGIN_MS
    omega

end Laws

/-! ## A spring night -/

/-- The governor of a shop in a time zone. -/
def inZone (zone : TimeZone) (options : GovernorOptions) : GovernorOptions :=
  { options with nextLocalDay := nextLocalDay zone }

/-- What is stored is the next local day of the last reading of the clock. -/
def clockProtocol (zone : TimeZone) :
    Protocol Call (fun c => Except Failure c.Result) (Option Int) where
  ok
    | last, .storeCooldown _ _ permitted _ _ => last.map (nextLocalDay zone) = some permitted
    | _, _ => True
  next
    | _, .now, .ok (now : Int) => some now
    | last, _, _ => last

section Governor

variable {L : Type} {zone : TimeZone} {options : GovernorOptions} {lease : TikTokReadLease}
  {event : TikTokReadGovernorEvent}

/-- A call that stores no cooldown. -/
theorem triple_other {c : Call} (hok : ∀ last, (clockProtocol zone).ok last c) :
    Js.Triple (clockProtocol zone) (fun _ => True) (query c : Program L c.Result)
      (fun _ _ => True) (fun _ _ => True) :=
  Js.triple_call (fun last _ => hok last) (fun _ _ _ => trivial) (fun _ _ _ => trivial)

theorem triple_localBackoffMs (count : Nat) :
    Js.Triple (clockProtocol zone) (fun _ => True)
      (localBackoffMs lease event count : Program L Int) (fun _ _ => True) (fun _ _ => True) := by
  unfold localBackoffMs
  split_ifs
  · unfold configuredMarketplaceRetryDelayMs
    exact Js.triple_bind (triple_other (fun _ => trivial))
      (fun _ => Js.triple_pure (fun _ _ => trivial))
  · exact Js.triple_pure (fun _ _ => trivial)
  · exact Js.triple_pure (fun _ _ => trivial)

/-- The cooldown of a daily quota is stored until the next local day. -/
theorem throttled_stores_nextLocalDay (hquota : event.providerCode = some TIKTOK_DAILY_QUOTA) :
    Js.Triple (clockProtocol zone) (fun _ => True)
      (throttled (inZone zone options) lease event : Program L Int)
      (fun permitted last => last.map (nextLocalDay zone) = some permitted) (fun _ _ => True) := by
  unfold throttled
  refine Js.triple_bind (triple_other (fun _ => trivial)) (fun current => ?_)
  refine Js.triple_bind (triple_localBackoffMs _) (fun backoffMs => ?_)
  have hnow : Js.Triple (clockProtocol zone) (fun _ => True) (query .now : Program L Int)
      (fun now last => last = some now) (fun _ _ => True) :=
    Js.triple_call (fun _ _ => trivial) (fun _ _ _ => rfl) (fun _ _ _ => trivial)
  refine Js.triple_bind hnow (fun now => ?_)
  dsimp only
  rw [if_pos hquota]
  have hstore : ∀ count retryAfterMs, Js.Triple (clockProtocol zone) (fun last => last = some now)
      (query (.storeCooldown lease count (nextLocalDay zone now) retryAfterMs event.requestId) :
        Program L Unit) (fun _ last => last = some now) (fun _ _ => True) := by
    intro count retryAfterMs
    refine Js.triple_call ?_ (fun _ _ h => h) (fun _ _ _ => trivial)
    rintro last rfl
    rfl
  refine Js.triple_bind (hstore _ _) (fun _ => ?_)
  have hrelease : Js.Triple (clockProtocol zone) (fun last => last = some now)
      (release lease : Program L Unit) (fun _ last => last = some now) (fun _ _ => True) :=
    Js.triple_call (fun _ _ => trivial) (fun _ _ h => h) (fun _ _ _ => trivial)
  refine Js.triple_bind hrelease (fun _ => Js.triple_pure ?_)
  rintro last rfl
  rfl

end Governor

end tiktok_outreach.next_local_day
