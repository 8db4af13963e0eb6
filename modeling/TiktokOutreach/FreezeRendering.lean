-- Which of the templates that were accepted can be frozen whatever the creators are
-- called: those without a placeholder for the name. A template is accepted with the
-- name `Creator`, and a freeze renders it with the names of the creators.
import TiktokOutreach.CampaignCreation
import TiktokOutreach.FreezeRuns
import TiktokOutreach.RenderMessage

open tables transactions json replacements tiktok_outreach.schema tiktok_outreach.preview
  tiktok_outreach.preview_rules tiktok_outreach.outreach_service tiktok_outreach.local_preview
  tiktok_outreach.freeze_runs tiktok_outreach.campaign_creation tiktok_outreach.render_message

namespace tiktok_outreach.freeze_rendering

/-! ## Texts as code units -/

/-- A character outside the first plane has two code units. -/
def codeUnits (c : Char) : Text :=
  if c.toNat < 0x10000 then [UInt16.ofNat c.toNat]
  else [UInt16.ofNat (0xD800 + (c.toNat - 0x10000) / 0x400),
    UInt16.ofNat (0xDC00 + (c.toNat - 0x10000) % 0x400)]

def utf16 (s : String) : Text := s.toList.flatMap codeUnits

/-- The functions of the domain package, where `decode` gives a text for code units. -/
def domainEnvironment (decode : Text → String) (sha256 : String → String)
    (shopDate : Nat → Int → Int) : Environment where
  renderMessage template creatorDisplayName productName campaignName :=
    match render_message.renderMessage (utf16 template)
      ⟨utf16 creatorDisplayName, utf16 productName, utf16 campaignName⟩ with
    | .ok rendered => .ok (decode rendered)
    | .error message => .error (decode message)
  sha256
  shopDate

section Domain

variable {decode : Text → String} {sha256 : String → String} {shopDate : Nat → Int → Int}
  {template creatorDisplayName product name : String}

theorem domain_ok {rendered : Text} (h : render_message.renderMessage (utf16 template)
    ⟨utf16 creatorDisplayName, utf16 product, utf16 name⟩ = .ok rendered) :
    (domainEnvironment decode sha256 shopDate).renderMessage template creatorDisplayName product
      name = .ok (decode rendered) := by
  simp [domainEnvironment, h]

theorem domain_error {message : Text} (h : render_message.renderMessage (utf16 template)
    ⟨utf16 creatorDisplayName, utf16 product, utf16 name⟩ = .error message) :
    (domainEnvironment decode sha256 shopDate).renderMessage template creatorDisplayName product
      name = .error (decode message) := by
  simp [domainEnvironment, h]

end Domain

/-! ## Templates that can be frozen -/

/-- The template and the product name of a campaign that was created or cloned. -/
inductive AcceptedTemplate (env : Environment) (lang : Language) : String → String → Prop
  | create {mode : AppMode} {maxRecipientsPerCampaign : Int} {dateKey : String}
      {names : List String} {input : CampaignCreateInput} {created : CreatedCampaign}
      (h : create env lang mode maxRecipientsPerCampaign dateKey names input = .ok created) :
      AcceptedTemplate env lang created.campaign.messageTemplate created.campaign.productName
  | clone {input : CloneInput} {maxRecipientsPerCampaign : Int}
      (h : validateCloneInput lang env input maxRecipientsPerCampaign = .ok ()) :
      AcceptedTemplate env lang input.messageTemplate (lang.trim input.productName)

/-- A freeze of the campaign, which has these texts, does not fail because a message is not
rendered. An error of `renderMessage` is the only one that is not an exception of its own. -/
def RendersIn (env : Environment) (template product name : String) (id : CampaignId) (db : Db) :
    Prop :=
  ∀ (version : Int) (campaign : Campaign)
    (expiresAt deletedAt eligibilityCheckedAt frozenAt : Int),
    campaign.messageTemplate = template → campaign.productName = product → campaign.name = name →
      ∀ message, (freeze env id version campaign expiresAt deletedAt eligibilityCheckedAt
        frozenAt).run db ≠ .error (.other message)

/-- That is so whatever is in the database: whoever is selected, with whatever names. -/
def AlwaysRenders (env : Environment) (template product name : String) : Prop :=
  ∀ id db, RendersIn env template product name id db

/-! ## Plain names of campaigns -/

/-- No brace and no dollar. -/
structure Quiet (value : Text) : Prop where
  opening : openBrace ∉ value
  closing : closeBrace ∉ value
  dollar : dollar ∉ value

theorem isPlain_of_quiet {value : Text} (h : Quiet value) : isPlain value := by
  have hdollar := h.dollar
  unfold isPlain
  clear h
  fun_induction parts value with
  | case1 c d rest hd => simp [hd.1] at hdollar
  | case2 c d rest _ hd => simp [hd.1] at hdollar
  | case3 c d rest _ _ hd => simp [hd.1] at hdollar
  | case4 c d rest _ _ _ hd => simp [hd.1] at hdollar
  | case5 c d rest _ _ _ _ ih =>
    rw [List.mem_cons, not_or] at hdollar
    simpa [Part.isUnit] using ih hdollar.2
  | case6 c => rfl
  | case7 => rfl

/-- A digit or an underscore. -/
def nameChar (c : Char) : Bool := c.isDigit || c = '_'

theorem codeUnits_of_nameChar {c : Char} (h : nameChar c) :
    codeUnits c = [UInt16.ofNat c.toNat] ∧ 48 ≤ c.toNat ∧ c.toNat ≤ 95 := by
  have hrange : 48 ≤ c.toNat ∧ c.toNat ≤ 95 := by
    rw [nameChar, Bool.or_eq_true] at h
    rcases h with hdigit | hscore
    · simp only [Char.isDigit, Bool.and_eq_true, decide_eq_true_eq] at hdigit
      obtain ⟨hlow, hhigh⟩ := hdigit
      have hlow' : 48 ≤ c.toNat := UInt32.le_iff_toNat_le.1 hlow
      have hhigh' : c.toNat ≤ 57 := UInt32.le_iff_toNat_le.1 hhigh
      omega
    · rw [decide_eq_true_eq] at hscore
      subst hscore
      decide
  refine ⟨?_, hrange⟩
  unfold codeUnits
  rw [if_pos (by omega)]

theorem quiet_utf16 {s : String} (h : ∀ c ∈ s.toList, nameChar c) : Quiet (utf16 s) := by
  have hunits : ∀ u ∈ utf16 s, 48 ≤ u.toNat ∧ u.toNat ≤ 95 := by
    intro u hu
    obtain ⟨c, hc, hu⟩ := List.mem_flatMap.1 hu
    obtain ⟨hcode, hlow, hhigh⟩ := codeUnits_of_nameChar (h c hc)
    rw [hcode, List.mem_singleton] at hu
    subst hu
    have hsize : c.toNat < UInt16.size := hhigh.trans_lt (by decide)
    rw [UInt16.toNat_ofNat_of_lt' hsize]
    exact ⟨hlow, hhigh⟩
  constructor
  · intro hmem
    exact absurd (hunits _ hmem).2 (by decide)
  · intro hmem
    exact absurd (hunits _ hmem).2 (by decide)
  · intro hmem
    exact absurd (hunits _ hmem).1 (by decide)

theorem nameChar_padStart (width n : Nat) : ∀ c ∈ (padStart width n).toList, nameChar c := by
  intro c hc
  unfold padStart at hc
  rw [String.toList_ofList, List.mem_append] at hc
  rcases hc with hzero | hdigit
  · rw [List.eq_of_mem_replicate hzero]
    rfl
  · have hc := Nat.isDigit_of_mem_toDigits (by omega) (by omega) hdigit
    simp [nameChar, hc]

theorem nameChar_allocated (year month day : Nat) (names : List String) :
    ∀ c ∈ (allocateCampaignName (campaignDateKeyWib year month day) names).toList, nameChar c := by
  intro c hc
  unfold allocateCampaignName campaignDateKeyWib at hc
  simp only [String.toList_append, List.mem_append] at hc
  rcases hc with (((hyear | hmonth) | hday) | hscore) | hnumber
  · exact nameChar_padStart _ _ c hyear
  · exact nameChar_padStart _ _ c hmonth
  · exact nameChar_padStart _ _ c hday
  · have hsame : c = '_' := by simpa using hscore
    rw [hsame]
    rfl
  · exact nameChar_padStart _ _ c hnumber

theorem utf16_allocated_ne_nil (year month day : Nat) (names : List String) :
    utf16 (allocateCampaignName (campaignDateKeyWib year month day) names) ≠ [] := by
  intro hnil
  have hscore : '_' ∈ (allocateCampaignName (campaignDateKeyWib year month day) names).toList := by
    unfold allocateCampaignName
    simp
  exact absurd ((List.flatMap_eq_nil_iff.1 hnil) '_' hscore) (by decide)

theorem quiet_sample_name : Quiet (utf16 "YYYYMMDD_001") := by
  constructor <;> decide

theorem sample_name_ne_nil : utf16 "YYYYMMDD_001" ≠ [] := by decide

/-! ## Pairs around a value -/

theorem hasPair_cons_of_ne {c : UInt16} (hopen : c ≠ openBrace) (hclose : c ≠ closeBrace)
    (t : Text) : hasPair (c :: t) = hasPair t := by
  cases t with
  | nil => rfl
  | cons d t => simp [hasPair, hopen, hclose]

theorem hasPair_append_of_ne {c : UInt16} (hopen : c ≠ openBrace) (hclose : c ≠ closeBrace)
    (x t : Text) : hasPair (x ++ c :: t) = (hasPair x || hasPair t) := by
  induction x with
  | nil => simp [hasPair, hasPair_cons_of_ne hopen hclose]
  | cons d x ih =>
    cases x with
    | nil =>
      rw [List.nil_append, hasPair_cons_of_ne hopen hclose] at ih
      simp [hasPair, hopen, hclose, hasPair_cons_of_ne hopen hclose]
    | cons e x =>
      rw [List.cons_append, List.cons_append, hasPair, ← List.cons_append, ih, hasPair]
      simp only [Bool.or_assoc]

/-- A value without braces keeps the texts before it and behind it apart. -/
theorem hasPair_across {value : Text} (hvalue : value ≠ []) (hquiet : Quiet value) (x t : Text) :
    hasPair (x ++ (value ++ t)) = (hasPair x || hasPair t) := by
  obtain ⟨c, rest, rfl⟩ := List.exists_cons_of_ne_nil hvalue
  have hopening := hquiet.opening
  have hclosing := hquiet.closing
  clear hquiet hvalue
  induction rest generalizing x c with
  | nil =>
    rw [List.mem_singleton] at hopening hclosing
    exact hasPair_append_of_ne (Ne.symm hopening) (Ne.symm hclosing) x t
  | cons d rest ih =>
    rw [List.mem_cons, not_or] at hopening hclosing
    rw [List.cons_append, hasPair_append_of_ne (Ne.symm hopening.1) (Ne.symm hclosing.1)]
    have hrest := ih [] d hopening.2 hclosing.2
    rw [List.nil_append] at hrest
    rw [hrest]
    simp [hasPair]

/-- Two values without braces leave pairs in the same replacements. -/
theorem hasPair_replaceFrom {p : Pattern UInt16} {value value' : Text} (hvalue : value ≠ [])
    (hvalue' : value' ≠ []) (hquiet : Quiet value) (hquiet' : Quiet value')
    (t : Text) (skip : Nat) (before before' x : Text) :
    hasPair (x ++ replaceFrom p (fun _ _ _ => value) skip before t) =
      hasPair (x ++ replaceFrom p (fun _ _ _ => value') skip before' t) := by
  induction t generalizing skip before before' x with
  | nil => rfl
  | cons a t ih =>
    cases skip with
    | succ skip =>
      rw [replaceFrom, replaceFrom]
      exact ih skip _ _ x
    | zero =>
      rw [replaceFrom, replaceFrom]
      cases p (a :: t) with
      | none =>
        have hrest := ih 0 (before ++ [a]) (before' ++ [a]) (x ++ [a])
        simpa using hrest
      | some n =>
        have hrest := ih (n - 1) (before ++ [a]) (before' ++ [a]) []
        rw [List.nil_append, List.nil_append] at hrest
        dsimp only
        rw [hasPair_across hvalue hquiet, hasPair_across hvalue' hquiet', hrest]

/-! ## Templates without a placeholder for the name -/

theorem rendering_without_creator {template : Text} (h : ¬ Occurs .creator_display_name template)
    (values : Values) : rendering template values =
      replace .campaign_name values.campaignName (replace .product_name values.productName
        template) := by
  have hfirst : Placeholder.creator_display_name ∈ approved := List.mem_cons_self
  have habsent : replace .creator_display_name values.creatorDisplayName template = template :=
    Delimited.replaceAll_absent (D := placeholders) hfirst (fun raw hmem => h ⟨raw, hmem⟩) _
  change replace .campaign_name values.campaignName (replace .product_name values.productName
    (replace .creator_display_name values.creatorDisplayName template)) = _
  rw [habsent]

/-- Without a placeholder for the name, a template that was accepted is rendered for every name and
for every campaign. -/
theorem renders_without_creator {template product : Text} {accepted : Values} {rendered : Text}
    (haccepted : render_message.renderMessage template accepted = .ok rendered)
    (hproduct : accepted.productName = product) (hcampaign : Quiet accepted.campaignName)
    (hsome : accepted.campaignName ≠ []) (h : ¬ Occurs .creator_display_name template)
    (creatorDisplayName : Text) {campaignName : Text} (hname : Quiet campaignName)
    (hne : campaignName ≠ []) :
    ∃ rendered, render_message.renderMessage template
      ⟨creatorDisplayName, product, campaignName⟩ = .ok rendered := by
  have hassert := assertPlaceholders_of_ok haccepted
  rw [renderMessage_eq hassert] at haccepted ⊢
  have hpair : hasPair (rendering template accepted) = false := by
    by_contra hpair
    rw [Bool.not_eq_false] at hpair
    rw [if_pos hpair] at haccepted
    cases haccepted
  have hplain : ∀ {value : Text}, Quiet value → substitution value = fun _ _ _ => value := by
    intro value hquiet
    funext textBefore found textAfter
    exact substitution_plain (isPlain_of_quiet hquiet) _ _ _
  have hsame : hasPair (rendering template ⟨creatorDisplayName, product, campaignName⟩) =
      hasPair (rendering template accepted) := by
    rw [rendering_without_creator h, rendering_without_creator h, hproduct]
    unfold replace
    rw [hplain hname, hplain hcampaign]
    exact hasPair_replaceFrom hne hsome hname hcampaign _ 0 [] [] []
  rw [hsame, hpair]
  exact ⟨_, rfl⟩

/-! ## A message that is not rendered -/

/-- The name that a freeze renders for a creator. -/
def displayName (creator : Creator) : String :=
  (creator.nickname.or creator.username).getD "there"

theorem update_ne_other {κ α : Type} [DecidableEq κ] {t : TableOf Db RowId κ α} {key : κ}
    {f : α → α} {db : Db} {message : String} :
    (Tx.update t .notFound key f : Transaction Unit).run db ≠ .error (.other message) := by
  rw [Tx.run_update]
  split <;> simp

/-- The other errors of a freeze are exceptions of their own. -/
theorem unrendered_of_freezeRecipient {env : Environment} {campaign : Campaign}
    {cutoff expiresAt : Int} {reserved : List Nat} {s : SelectedRecipient} {index : Nat} {db : Db}
    {message : String} (h : (freezeRecipient env campaign cutoff expiresAt reserved s index).run db =
      .error (.other message)) :
    env.renderMessage campaign.messageTemplate (displayName s.creator) campaign.productName
      campaign.name = .error message := by
  unfold freezeRecipient at h
  split at h
  · simp only [Tx.run_bind, Tx.run_update] at h
    split at h <;> cases h
  dsimp only at h
  split at h
  · next found hfound =>
    cases h
    exact hfound
  split at h
  · cases h
  simp only [Tx.run_bind, Tx.run_create] at h
  split at h
  · cases h
  dsimp only [Except.bind] at h
  split at h
  · next e hupdate =>
    cases h
    exact absurd hupdate update_ne_other
  · cases h

theorem error_of_traverse {f : SelectedRecipient × Nat → Transaction (Option String)}
    {rows : List (SelectedRecipient × Nat)} {db : Db} {e : Failure}
    (h : (Tx.traverse f rows).run db = .error e) : ∃ s ∈ rows, ∃ db1, (f s).run db1 = .error e := by
  induction rows generalizing db with
  | nil => cases h
  | cons s rows ih =>
    simp only [Tx.traverse, Tx.run_bind] at h
    cases hs : (f s).run db with
    | error e' =>
      rw [hs] at h
      cases h
      exact ⟨s, List.mem_cons_self, db, hs⟩
    | ok r =>
      rw [hs] at h
      dsimp only [Except.bind] at h
      cases hrows : (Tx.traverse f rows).run r.2 with
      | error e' =>
        rw [hrows] at h
        cases h
        obtain ⟨s', hs', db1, herror⟩ := ih hrows
        exact ⟨s', List.mem_cons_of_mem _ hs', db1, herror⟩
      | ok r' =>
        rw [hrows] at h
        cases h

theorem unrendered_of_freeze {env : Environment} {id : CampaignId} {version : Int}
    {campaign : Campaign} {expiresAt deletedAt eligibilityCheckedAt frozenAt : Int} {db : Db}
    {message : String}
    (h : (freeze env id version campaign expiresAt deletedAt eligibilityCheckedAt frozenAt).run db =
      .error (.other message)) :
    ∃ current, db.campaigns.get id = some current ∧
      ∃ s ∈ selectedRecipients db id current.rankingDirection,
        env.renderMessage campaign.messageTemplate (displayName s.creator) campaign.productName
          campaign.name = .error message := by
  simp only [freeze, Tx.run_bind, Tx.run_read, Except.bind] at h
  split at h
  · cases h
  simp only [Tx.run_bind, run_lockCreatorEligibility, Except.bind] at h
  split at h
  · next e hread =>
    unfold Tx.readOrThrow at hread
    rw [Tx.run_stmt] at hread
    split at hread
    · cases hread
    · cases hread
      cases h
  next current hread =>
  obtain ⟨hcurrent, hdb⟩ := Tx.run_readOrThrow_eq_ok.1 hread
  obtain ⟨current, db0⟩ := current
  obtain rfl : db0 = db := hdb
  dsimp only at h hcurrent
  refine ⟨current, hcurrent, ?_⟩
  split at h
  · cases h
  simp only [Tx.run_bind, Tx.run_deleteMany, Tx.run_read, Except.bind, table.reservations] at h
  change (if (selectedRecipients db0 id current.rankingDirection).isEmpty then _ else _ :
    Transaction Unit).run (withoutExpired db0 id.shopId deletedAt) = _ at h
  split at h
  · cases h
  simp only [Tx.run_bind, Tx.run_read, Except.bind] at h
  split at h
  · next e htraverse =>
    cases h
    obtain ⟨s, hs, db1, herror⟩ := error_of_traverse htraverse
    exact ⟨s.1, List.fst_mem_of_mem_zipIdx hs, unrendered_of_freezeRecipient herror⟩
  split at h
  · rw [Tx.run_bind, Tx.run_deleteMany] at h
    exact absurd h update_ne_other
  · exact absurd h update_ne_other

/-- A freeze whose first recipient gets no message fails, whoever else is selected. -/
theorem freeze_of_unrendered {env : Environment} {campaign : Campaign} (check : Check)
    {expiresAt frozenAt : Int} {db : Db} {s : SelectedRecipient} {rest : List SelectedRecipient}
    {message : String} (hcurrent : db.campaigns.get check.id = some check.current)
    (hready : check.current.state = .PREVIEW_READY) (hselected : check.selected db = s :: rest)
    (hreason : check.reason db s = none)
    (hmessage : env.renderMessage campaign.messageTemplate (displayName s.creator)
      campaign.productName campaign.name = .error message) :
    (freeze env check.id check.current.version campaign expiresAt check.deletedAt
      check.eligibilityCheckedAt frozenAt).run db = .error (.other message) := by
  have hs : s ∈ check.selected db := by
    rw [hselected]
    exact List.mem_cons_self
  obtain ⟨hrow, hcampaign, hsel, _⟩ := mem_selected.1 hs
  have hids : ((db.recipients.findMany (fun id' r => id'.campaignId = check.id && r.selected)).map
      (·.1.creatorId)).isEmpty = false := by
    have hmem : (s.id, s.recipient) ∈ db.recipients.findMany
        (fun id' r => id'.campaignId = check.id && r.selected) :=
      (Table.mem_findMany _ _ _ _).2 ⟨hrow, by simp [hcampaign, hsel]⟩
    rw [List.isEmpty_eq_false_iff]
    intro hnil
    rw [List.map_eq_nil_iff] at hnil
    rw [hnil] at hmem
    cases hmem
  have hrecipient : freezeRecipient env campaign check.cutoff expiresAt (check.reserved db) s 0 =
      Tx.throw (.other message) := by
    unfold freezeRecipient
    rw [contains_reserved hs]
    unfold Check.reason at hreason
    unfold displayName at hmessage
    rw [hreason]
    dsimp only
    rw [hmessage]
  have htraverse : Tx.traverse (fun s => freezeRecipient env campaign check.cutoff expiresAt
      (check.reserved db) s.1 s.2) (check.selected db).zipIdx = Tx.throw (.other message) := by
    rw [hselected, List.zipIdx_cons, Tx.traverse, hrecipient]
    rfl
  have hsome : (check.selected db).isEmpty = false := by
    rw [hselected]
    rfl
  have hrun : (Tx.readOrThrow Failure.notFound (fun db : Db => db.campaigns.get check.id) :
      Transaction Campaign).run db = .ok (check.current, db) :=
    Tx.run_readOrThrow_eq_ok.2 ⟨hcurrent, rfl⟩
  simp only [freeze, Tx.run_bind, Tx.run_read, Except.bind, hids, Bool.false_eq_true, if_false,
    run_lockCreatorEligibility, hrun, hready, ne_eq, not_true_eq_false, or_self,
    Tx.run_deleteMany]
  change (if (check.selected db).isEmpty then _ else _ : Transaction Unit).run
    (withoutExpired db check.id.shopId check.deletedAt) = _
  rw [hsome, if_neg Bool.false_ne_true, Tx.run_bind, Tx.run_read]
  change ((Tx.traverse (fun s => freezeRecipient env campaign check.cutoff expiresAt
    (check.reserved db) s.1 s.2) (check.selected db).zipIdx).bind _).run _ = _
  rw [htraverse]
  rfl

def sampleId : CampaignId := ⟨0, 0⟩

def readyRow (template product name : String) : Campaign where
  name
  productName := product
  targetCount := 2
  cooldownDays := 30
  messageTemplate := template
  state := .PREVIEW_READY

def selectedRow : Recipient where
  eligibility := .ELIGIBLE
  rankingValue := 0
  discoveryOrdinal := 0
  selected := true
  state := .SELECTED

/-- One creator is selected. -/
def oneSelected (row : Campaign) (nickname : String) : Db where
  campaigns := Table.ofList [(sampleId, row)]
  recipients := Table.ofList [(⟨1, sampleId, 1⟩, selectedRow)]
  creators := Table.ofList [(1, ⟨some "a", none, some nickname, none⟩)]

theorem freeze_oneSelected {env : Environment} {template product name nickname message : String}
    (h : env.renderMessage template nickname product name = .error message) :
    (freeze env sampleId 1 (readyRow template product name) 1 0 0 0).run
      (oneSelected (readyRow template product name) nickname) = .error (.other message) :=
  freeze_of_unrendered ⟨sampleId, readyRow template product name, 0, 0⟩
    (s := ⟨⟨1, sampleId, 1⟩, selectedRow, ⟨some "a", none, some nickname, none⟩, none⟩)
    rfl rfl rfl rfl h

/-! ## Which templates can always be frozen -/

theorem accepted_renders {decode : Text → String} {sha256 : String → String}
    {shopDate : Nat → Int → Int} {lang : Language} {template product : String}
    (h : AcceptedTemplate (domainEnvironment decode sha256 shopDate) lang template product) :
    ∃ rendered, render_message.renderMessage (utf16 template)
      ⟨utf16 "Creator", utf16 product, utf16 "YYYYMMDD_001"⟩ = .ok rendered := by
  have hmessage : ∃ rendered, (domainEnvironment decode sha256 shopDate).renderMessage template
      "Creator" product "YYYYMMDD_001" = .ok rendered := by
    cases h with
    | create h => exact (accepted_of_create h).rendered
    | clone h => exact rendered_of_validate h
  cases hfound : render_message.renderMessage (utf16 template)
      ⟨utf16 "Creator", utf16 product, utf16 "YYYYMMDD_001"⟩ with
  | ok found => exact ⟨found, rfl⟩
  | error message =>
    obtain ⟨rendered, hrendered⟩ := hmessage
    rw [domain_error hfound] at hrendered
    cases hrendered

/-- The names of the selected creators, and the other texts, have no dollar pattern and form no
pair of braces in the template. -/
def HarmlessNames (template product name : String) (id : CampaignId) (db : Db) : Prop :=
  ∀ current, db.campaigns.get id = some current →
    ∀ s ∈ selectedRecipients db id current.rankingDirection,
      Harmless (utf16 template) ⟨utf16 (displayName s.creator), utf16 product, utf16 name⟩

/-- A template that was accepted can be frozen for all creators, whatever their names are, if it
has no placeholder for the name, and not otherwise. With one it can be frozen for the creators with
harmless names. -/
theorem always_renders_iff {decode : Text → String} {sha256 : String → String}
    {shopDate : Nat → Int → Int} {lang : Language} {template product : String}
    (h : AcceptedTemplate (domainEnvironment decode sha256 shopDate) lang template product)
    (year month day : Nat) (names : List String) :
    (AlwaysRenders (domainEnvironment decode sha256 shopDate) template product
        (allocateCampaignName (campaignDateKeyWib year month day) names) ↔
      ¬ Occurs .creator_display_name (utf16 template)) ∧
    ∀ id db, HarmlessNames template product
        (allocateCampaignName (campaignDateKeyWib year month day) names) id db →
      RendersIn (domainEnvironment decode sha256 shopDate) template product
        (allocateCampaignName (campaignDateKeyWib year month day) names) id db := by
  obtain ⟨rendered, hrendered⟩ := accepted_renders h
  have hquiet := quiet_utf16 (nameChar_allocated year month day names)
  have hne := utf16_allocated_ne_nil year month day names
  generalize allocateCampaignName (campaignDateKeyWib year month day) names = name at hquiet hne ⊢
  refine ⟨⟨?_, ?_⟩, ?_⟩
  · intro halways hoccurs
    -- the match comes back into the message, with its braces
    have hmatched : Part.matched ∈ parts (utf16 "$&") := by decide
    have hpair : hasPair (rendering (utf16 template) ⟨utf16 "$&", utf16 product, utf16 name⟩) =
        true := hasPair_of_matched hoccurs hmatched
    have hunrendered := renderMessage_eq (assertPlaceholders_of_ok hrendered)
      ⟨utf16 "$&", utf16 product, utf16 name⟩
    rw [if_pos hpair] at hunrendered
    exact halways sampleId (oneSelected (readyRow template product name) "$&") 1
      (readyRow template product name) 1 0 0 0 rfl rfl rfl _
      (freeze_oneSelected (domain_error hunrendered))
  · intro habsent id db version campaign expiresAt deletedAt eligibilityCheckedAt frozenAt
      htemplate hproduct hname message herror
    obtain ⟨_, _, s, _, hmessage⟩ := unrendered_of_freeze herror
    obtain ⟨found, hfound⟩ := renders_without_creator hrendered rfl quiet_sample_name
      sample_name_ne_nil habsent (utf16 (displayName s.creator)) hquiet hne
    rw [htemplate, hproduct, hname, domain_ok hfound] at hmessage
    cases hmessage
  · intro id db hharmless version campaign expiresAt deletedAt eligibilityCheckedAt frozenAt
      htemplate hproduct hname message herror
    obtain ⟨current, hcurrent, s, hs, hmessage⟩ := unrendered_of_freeze herror
    have hliteral := rendersLiterally_of_harmless (assertPlaceholders_of_ok hrendered)
      (hharmless current hcurrent s hs)
    rw [htemplate, hproduct, hname, domain_ok hliteral] at hmessage
    cases hmessage

def ascii (t : Text) : String := String.ofList (t.map fun u => Char.ofNat u.toNat)

def asciiEnvironment : Environment :=
  domainEnvironment ascii (fun message => message) (fun _ _ => 0)

def greetingInput (template : String) : CampaignCreateInput where
  productName := some "serum"
  targetCount := 2
  cooldownDays := 30
  messageTemplate := some template
  rankingMetric := "FOLLOWERS"

theorem accepted_of_created {template : String} {created : CreatedCampaign}
    (h : create asciiEnvironment plainLanguage .mock 500 "20260824" [] (greetingInput template) =
      .ok created) (htemplate : created.campaign.messageTemplate = template)
    (hproduct : created.campaign.productName = "serum") :
    AcceptedTemplate asciiEnvironment plainLanguage template "serum" := by
  rw [← htemplate, ← hproduct]
  exact .create h

theorem an_offer_always_renders : AlwaysRenders asciiEnvironment
    "Try \x7b\x7bproduct_name\x7d\x7d" "serum"
    (allocateCampaignName (campaignDateKeyWib 2026 8 24) []) := by
  have haccepted : AcceptedTemplate asciiEnvironment plainLanguage
      "Try \x7b\x7bproduct_name\x7d\x7d" "serum" := accepted_of_created rfl rfl rfl
  have hiff := (always_renders_iff haccepted 2026 8 24 []).1
  refine hiff.2 ?_
  rintro ⟨raw, hmem⟩
  have hpieces : templatePieces (utf16 "Try \x7b\x7bproduct_name\x7d\x7d") =
      (utf16 "Try ").map Piece.unit ++
        [.hole .product_name (utf16 "\x7b\x7bproduct_name\x7d\x7d")] := by decide
  rw [hpieces] at hmem
  simp at hmem

/-- Two creators are selected. One of them has a name with two braces. -/
def twoSelected (row : Campaign) : Db where
  campaigns := Table.ofList [(sampleId, row)]
  recipients := Table.ofList [(⟨1, sampleId, 1⟩, selectedRow), (⟨2, sampleId, 2⟩, selectedRow)]
  creators := Table.ofList [(1, ⟨some "a", none, some "Ayu", none⟩),
    (2, ⟨some "b", none, some "\x7b\x7b", none⟩)]

def greetingRow : Campaign :=
  readyRow "Hi \x7b\x7bcreator_display_name\x7d\x7d" "serum"
    (allocateCampaignName (campaignDateKeyWib 2026 8 24) [])

/-- The template was accepted, and the name of one creator keeps both from being frozen. -/
theorem one_name_prevents_the_freeze :
    AcceptedTemplate asciiEnvironment plainLanguage greetingRow.messageTemplate
        greetingRow.productName ∧
      (freeze asciiEnvironment sampleId 1 greetingRow 1 0 0 0).run (twoSelected greetingRow) =
        .error (.other "Message template contains an invalid or unclosed placeholder") ∧
      ¬ AlwaysRenders asciiEnvironment greetingRow.messageTemplate greetingRow.productName
        greetingRow.name := by
  have hfreeze : (freeze asciiEnvironment sampleId 1 greetingRow 1 0 0 0).run
      (twoSelected greetingRow) =
        .error (.other "Message template contains an invalid or unclosed placeholder") := by
    rfl
  refine ⟨accepted_of_created rfl rfl rfl, hfreeze, ?_⟩
  intro h
  exact h sampleId (twoSelected greetingRow) 1 greetingRow 1 0 0 0 rfl rfl rfl _ hfreeze

end tiktok_outreach.freeze_rendering
