-- The creation of a campaign: `create` (apps/api/src/outreach/outreach.service.ts) and the
-- allocation of its name (campaign-naming.ts). An integer is whole, and the numbers of the names
-- are exact.
import TiktokOutreach.LocalPreview

open tables transactions tiktok_outreach.schema tiktok_outreach.preview
  tiktok_outreach.outreach_service tiktok_outreach.local_preview

namespace tiktok_outreach.campaign_creation

/-! ## Names -/

/-- The number of a name of the day, `/^${dateKey}_(\d+)$/`. -/
def numberOf (dateKey name : String) : Option Nat :=
  ((name.toList).dropPrefix? (dateKey ++ "_").toList).bind (fun digits =>
    if digits ≠ [] ∧ digits.all (·.isDigit) then
      some (digits.foldl (fun n c => 10 * n + (c.toNat - '0'.toNat)) 0)
    else none)

/-- `String(n).padStart(width, "0")` -/
def padStart (width n : Nat) : String :=
  String.ofList (List.replicate (width - (Nat.toDigits 10 n).length) '0' ++ Nat.toDigits 10 n)

/-- The key of a date in Jakarta, with two digits for the month and the day. -/
def campaignDateKeyWib (year month day : Nat) : String :=
  padStart 1 year ++ padStart 2 month ++ padStart 2 day

/-- The name for a campaign on a day, from the names of the campaigns that there are. -/
def allocateCampaignName (dateKey : String) (names : List String) : String :=
  dateKey ++ "_" ++ padStart 3 ((names.filterMap (numberOf dateKey)).foldl max 0 + 1)

/-! ## `create` -/

inductive AppMode
  | mock
  | read_only
  deriving DecidableEq, Repr

structure CampaignCreateInput where
  productName : Option String := none
  targetCount : Int
  candidateLimit : Option Int := none
  cooldownDays : Int
  messageTemplate : Option String := none
  filters : CreatorFilters := {}
  rankingMetric : String
  rankingDirection : Option String := none

def OUTREACH_GMV_CURRENCY : String := "USD"

def DEFAULT_OUTREACH_MESSAGE_TEMPLATE : String :=
  "Halo kak \x7b\x7bcreator_display_name\x7d\x7d\n\nAku dari tim PROYA, mau mengajak Kakak untuk " ++
  "bekerja sama sebagai affiliate.\n\nSyarat:\nAkun TikTok Kakak sudah bisa menggunakan keranjang " ++
  "kuning.\n\nAlur kerja sama:\nKami akan mengirimkan video cuplikan dari live PROYA yang sudah " ++
  "siap di-upload. Kakak tinggal upload videonya ke akun TikTok dan memasukkan keranjang kuning " ++
  "produk PROYA.\n\nBenefit:\nKakak tidak perlu membuat video dari awal dan bisa mendapatkan komisi " ++
  "10% dari setiap penjualan melalui video tersebut.\n\nKalau tertarik, silakan langsung hubungi " ++
  "WhatsApp tim PROYA di:\n+62 811-2026-2826\n\nKami tunggu pesan WhatsApp dari Kakak ya 🙌\n" ++
  "Terima kasih!"

def rankingMetric : String → Option RankingMetric
  | "GMV" => some .GMV
  | "UNITS_SOLD" => some .UNITS_SOLD
  | "FOLLOWERS" => some .FOLLOWERS
  | "AVG_VIDEO_VIEWS" => some .AVG_VIDEO_VIEWS
  | "AVG_LIVE_VIEWERS" => some .AVG_LIVE_VIEWERS
  | "ENGAGEMENT_RATE" => some .ENGAGEMENT_RATE
  | "TIKTOK_RELEVANCE" => some .TIKTOK_RELEVANCE
  | _ => none

/-- No direction is the descending one. The check lets an empty text pass, which is stored and read
as the descending one too. -/
def rankingDirection : Option String → Option RankingDirection
  | none => some .DESC
  | some "" => some .DESC
  | some "ASC" => some .ASC
  | some "DESC" => some .DESC
  | some _ => none

/-- A new campaign, with its columns that only a preview reads. -/
structure CreatedCampaign where
  campaign : Campaign
  candidateLimit : Int
  filters : CreatorFilters
  rankingMetric : RankingMetric

section Create

variable (env : Environment) (lang : Language) (mode : AppMode)

/-- `min != null && max != null && min > max` -/
def crossed (least greatest : Option ℚ) : Bool := least.any (fun l => greatest.any (fun g => g < l))

def usesGmv (input : CampaignCreateInput) : Bool :=
  input.rankingMetric = "GMV" || input.filters.minGmv.isSome || input.filters.maxGmv.isSome

/-- The filters with the currency that the server sets. -/
def ownedFilters (input : CampaignCreateInput) : CreatorFilters :=
  { input.filters with
    gmvCurrency := if usesGmv input then
      match mode with
      | .mock => some "IDR"
      | .read_only => some OUTREACH_GMV_CURRENCY
    else none }

def messageTemplate (input : CampaignCreateInput) : String :=
  match input.messageTemplate with
  | some template => if lang.trim template = "" then DEFAULT_OUTREACH_MESSAGE_TEMPLATE else template
  | none => DEFAULT_OUTREACH_MESSAGE_TEMPLATE

def productName (name : Option String) : String := (name.map lang.trim).getD ""

def candidateLimit (input : CampaignCreateInput) : Int :=
  min 10000 (input.candidateLimit.getD (max (input.targetCount * 2) (input.targetCount + 500)))

/-- The campaign for the input of a shop with that ceiling, on the day and beside the campaigns with
the names. -/
def create (maxRecipientsPerCampaign : Int) (dateKey : String) (names : List String)
    (input : CampaignCreateInput) : Except Failure CreatedCampaign := do
  let template := messageTemplate lang input
  let product := productName lang input.productName
  assertCampaignWithinLimit input.targetCount maxRecipientsPerCampaign
  if lang.trim template = "" then .error (.badRequest "Message template is required")
  else match assertContactCooldownDays input.cooldownDays with
  | .error message => .error (.badRequest message)
  | .ok () =>
    if 2000 < utf16Length template then .error (.badRequest
      "Message template exceeds the mock provider limit of 2,000 characters")
    else if input.candidateLimit.any (· < input.targetCount) then .error (.badRequest
      "Candidate limit must be an integer at least as large as the target")
    else match rankingMetric input.rankingMetric, rankingDirection input.rankingDirection with
    | none, _ => .error (.badRequest "Unsupported ranking metric")
    | some _, none => .error (.badRequest "Unsupported ranking direction")
    | some metric, some direction =>
      if crossed input.filters.minFollowers input.filters.maxFollowers then .error (.badRequest
        "Minimum followers cannot exceed maximum followers")
      else if crossed input.filters.minGmv input.filters.maxGmv then .error (.badRequest
        "Minimum GMV cannot exceed maximum GMV")
      else match env.renderMessage template "Creator" product "YYYYMMDD_001" with
      | .error message => .error (.badRequest message)
      | .ok _ => .ok {
          campaign := {
            name := allocateCampaignName dateKey names
            productName := product
            targetCount := input.targetCount
            cooldownDays := input.cooldownDays
            messageTemplate := template
            rankingDirection := direction }
          candidateLimit := candidateLimit input
          filters := ownedFilters mode input
          rankingMetric := metric }

end Create

/-! ## What an accepted campaign is -/

/-- What the checks of `create` leave. -/
structure Accepted (env : Environment) (lang : Language) (ceiling : Int) (dateKey : String)
    (names : List String) (input : CampaignCreateInput) (created : CreatedCampaign) : Prop where
  positive : 1 ≤ input.targetCount
  within : input.targetCount ≤ ceiling
  target : created.campaign.targetCount = input.targetCount
  limit : created.candidateLimit = candidateLimit input
  limited : ∀ limit, input.candidateLimit = some limit → input.targetCount ≤ limit
  cooldown : created.campaign.cooldownDays = input.cooldownDays ∧
    assertContactCooldownDays input.cooldownDays = .ok ()
  name : created.campaign.name = allocateCampaignName dateKey names
  draft : created.campaign.state = .DRAFT
  rendered : ∃ rendered, env.renderMessage created.campaign.messageTemplate "Creator"
    created.campaign.productName "YYYYMMDD_001" = .ok rendered

theorem accepted_of_create {env : Environment} {lang : Language} {mode : AppMode} {ceiling : Int}
    {dateKey : String} {names : List String} {input : CampaignCreateInput}
    {created : CreatedCampaign}
    (h : create env lang mode ceiling dateKey names input = .ok created) :
    Accepted env lang ceiling dateKey names input created := by
  unfold create at h
  extract_lets template product at h
  change (Except.bind _ _) = _ at h
  rw [Tx.bind_eq_ok] at h
  obtain ⟨_, hlimit, h⟩ := h
  unfold assertCampaignWithinLimit at hlimit
  split at hlimit
  · cases hlimit
  next hpositive =>
  split at hlimit
  · cases hlimit
  next hwithin =>
  split at h
  · cases h
  split at h
  · cases h
  next hcooldown =>
  split at h
  · cases h
  split at h
  · cases h
  next hlimited =>
  split at h
  · cases h
  · cases h
  split at h
  · cases h
  split at h
  · cases h
  split at h
  · cases h
  next rendered hrendered =>
  cases h
  refine ⟨by omega, by omega, rfl, rfl, ?_, ⟨rfl, hcooldown⟩, rfl, rfl, rendered, hrendered⟩
  intro limit hsome
  simp only [hsome, Option.any_some, decide_eq_true_eq] at hlimited
  omega

theorem rendered_of_validate {env : Environment} {lang : Language} {input : CloneInput}
    {ceiling : Int} (h : validateCloneInput lang env input ceiling = .ok ()) :
    ∃ rendered, env.renderMessage input.messageTemplate "Creator" (lang.trim input.productName)
      "YYYYMMDD_001" = .ok rendered := by
  unfold validateCloneInput at h
  change (Except.bind _ _) = _ at h
  rw [Tx.bind_eq_ok] at h
  obtain ⟨_, _, h⟩ := h
  split at h
  · cases h
  split at h
  · cases h
  split at h
  · cases h
  next rendered hrendered => exact ⟨rendered, hrendered⟩

end tiktok_outreach.campaign_creation
