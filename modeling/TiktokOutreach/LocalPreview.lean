-- The preview of a campaign that is cloned from another one: `cloneFromPreview`
-- (apps/api/src/outreach/outreach.service.ts) and `rebuildLocalPreview`
-- (local-preview.ts). The rows that they write for the snapshots of the creators
-- and for the audit are left out.
import TiktokOutreach.PreviewRules
import TiktokOutreach.OutreachService

open tables tiktok_outreach.schema tiktok_outreach.preview tiktok_outreach.preview_rules
  tiktok_outreach.outreach_service

namespace tiktok_outreach.local_preview

/-! ## Rows -/

/-- What a preview reads of the contact of a creator. -/
structure ContactRow where
  lastContactedAt : Option Int := none
  doNotContact : Bool := false
  unresolvedDelivery : Bool := false
  historyCoverageStart : Option Int := none
  lastCampaignId : Option CampaignId := none
  deriving DecidableEq, Repr

/-- A stored creator with its verified open ids and its contact with the shop. -/
structure ExistingCreator where
  creatorOpenId : Option String
  verifiedIds : List String
  contact : Option ContactRow
  deriving DecidableEq, Repr

/-- What a preview reads besides its run and its campaign. -/
structure Facts where
  existingCreators : List ExistingCreator
  /-- The open ids of the creators whose reservation in the shop has not expired. -/
  reservations : List (Option String)
  unresolvedHistoricalCreators : Nat
  unresolvedHistoricalOutboundContacts : Nat

/-- The columns of a campaign that a preview takes over. -/
structure PreviewCampaign where
  state : CampaignState
  filters : CreatorFilters
  cooldownDays : Int
  rankingMetric : RankingMetric
  rankingDirection : RankingDirection

/-- The numbers of a summary, as its column has them. -/
def summaryColumn (s : PreviewSummary) : List (String × Int) :=
  [("requested", s.requested),
    ("fetchedOccurrences", s.fetchedOccurrences),
    ("excludedByFilter", s.excludedByFilter),
    ("skippedDuplicates", s.skippedDuplicates),
    ("skippedDoNotContact", s.skippedDoNotContact),
    ("skippedUnknownDelivery", s.skippedUnknownDelivery),
    ("skippedCooldown", s.skippedCooldown),
    ("skippedActiveReservation", s.skippedActiveReservation),
    ("eligible", s.eligible),
    ("selected", s.selected),
    ("shortfall", s.shortfall),
    ("gmvExcludedCurrencyMismatch", s.gmvExcludedCurrencyMismatch)]

/-! ## `rebuildLocalPreview` -/

section Rebuild

variable (lang : Language)

def contactState (contact : Option ContactRow) : ContactState where
  lastContactedAt := contact.bind (·.lastContactedAt)
  doNotContact := contact.any (·.doNotContact)
  unresolvedDelivery := contact.any (·.unresolvedDelivery)
  historical := contact.any (fun c => c.historyCoverageStart.isSome) &&
    !contact.any (fun c => c.lastCampaignId.isSome)

/-- The creator has the open id, and evidence for it. -/
def exact (openId : String) (creator : ExistingCreator) : Bool :=
  creator.creatorOpenId = some openId && creator.verifiedIds.contains openId

structure CloneInput where
  productName : String
  messageTemplate : String
  targetCount : Int

/-- The number of the code units of a text. -/
def utf16Length (text : String) : Nat :=
  (text.toList.map (fun c => if c.toNat < 0x10000 then 1 else 2)).sum

def assertCampaignWithinLimit (requested maxRecipientsPerCampaign : Int) : Except Failure Unit :=
  if requested < 1 then .error (.badRequest "Target count must be a positive integer")
  else if maxRecipientsPerCampaign < requested then
    .error (.badRequest ("Target exceeds the campaign recipient ceiling of " ++
      toString maxRecipientsPerCampaign))
  else .ok ()

def validateCloneInput (env : Environment) (input : CloneInput)
    (maxRecipientsPerCampaign : Int) : Except Failure Unit := do
  assertCampaignWithinLimit input.targetCount maxRecipientsPerCampaign
  if lang.trim input.messageTemplate = "" then
    .error (.badRequest "Message template is required")
  else if 2000 < utf16Length input.messageTemplate then
    .error (.badRequest "Message template exceeds the provider limit of 2,000 characters")
  else
    match env.renderMessage input.messageTemplate "Creator" (lang.trim input.productName)
        "YYYYMMDD_001" with
    | .error message => .error (.badRequest message)
    | .ok _ => .ok ()

end Rebuild

/-! ## The accounts -/

/-- The equations of a stored summary. -/
structure StoredAccounts (summary : List (String × Int)) : Prop where
  fetched : numberValue summary "fetchedOccurrences" = numberValue summary "excludedByFilter" +
    numberValue summary "skippedDuplicates" + numberValue summary "skippedDoNotContact" +
    numberValue summary "skippedUnknownDelivery" + numberValue summary "skippedCooldown" +
    numberValue summary "skippedActiveReservation" + numberValue summary "eligible"
  shortfall : numberValue summary "selected" + numberValue summary "shortfall" =
    numberValue summary "requested"

@[simp] theorem numberValue_withValue (summary : List (String × Int)) (key key' : String)
    (value : Int) : numberValue (withValue summary key value) key' =
      if key' = key then value else numberValue summary key' := by
  unfold numberValue withValue
  rw [List.lookup_append]
  by_cases hkey : key' = key
  · have hnone : (summary.filter (fun entry => entry.1 ≠ key)).lookup key' = none := by
      rw [List.lookup_eq_none_iff]
      intro entry hentry
      have hne : entry.1 ≠ key := by simpa using (List.mem_filter.1 hentry).2
      simp [hkey, hne.symm]
    rw [hnone, if_pos hkey, hkey]
    simp
  · have hbeq : (key' == key) = false := beq_false_of_ne hkey
    have hsame : (summary.filter (fun entry => entry.1 ≠ key)).lookup key' =
        summary.lookup key' := by
      induction summary with
      | nil => rfl
      | cons entry rest ih =>
        obtain ⟨name, number⟩ := entry
        by_cases hentry : name = key
        · rw [List.filter_cons_of_neg (by simp [hentry]), ih, List.lookup_cons, hentry, hbeq]
        · rw [List.filter_cons_of_pos (by simp [hentry]), List.lookup_cons, List.lookup_cons, ih]
    have hrest : [(key, value)].lookup key' = none := by
      rw [List.lookup_cons, hbeq]
      rfl
    rw [hsame, hrest, Option.or_none, if_neg hkey]

theorem storedAccounts_summaryColumn {s : PreviewSummary} (h : Accounts s) :
    StoredAccounts (summaryColumn s) := by
  have hfetched := h.fetched
  have hshortfall := h.shortfall
  constructor
  · simp [numberValue, summaryColumn, List.lookup_cons]
    omega
  · simp [numberValue, summaryColumn, List.lookup_cons]
    omega

def sampleEnvironment : Environment where
  renderMessage := fun template _ _ _ => .ok template
  sha256 := id
  shopDate := fun _ now => now

def sampleCampaign : PreviewCampaign := ⟨.PREVIEW_READY, {}, 30, .FOLLOWERS, .DESC⟩

end tiktok_outreach.local_preview
