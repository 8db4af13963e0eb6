-- A freeze and the counts of the preview: every recipient that it drops goes from
-- the eligible ones to one of the buckets of the excluded ones, unless the app
-- contacted its creator within the cooldown. That reason has no bucket.
import TiktokOutreach.FreezeRuns
import TiktokOutreach.LocalPreview

open tables transactions tiktok_outreach.schema tiktok_outreach.preview
  tiktok_outreach.preview_rules tiktok_outreach.outreach_service tiktok_outreach.local_preview
  tiktok_outreach.dispatch_core tiktok_outreach.freeze_runs

namespace tiktok_outreach.freeze_accounts

/-! ## The accounts -/

/-- The buckets of the creators that are excluded. -/
def excluded (summary : List (String × Int)) : Int :=
  numberValue summary "excludedByFilter" + numberValue summary "skippedDuplicates" +
    numberValue summary "skippedDoNotContact" + numberValue summary "skippedUnknownDelivery" +
    numberValue summary "skippedCooldown" + numberValue summary "skippedActiveReservation"

def selectedCount (db : Db) (c : CampaignId) : Nat :=
  db.recipients.count (fun id r => id.campaignId = c && r.selected)

/-- What a preview has left in the database: the equation of its summary, and no more selected
recipients than eligible creators and than the target. -/
structure Previewed (db : Db) (c : CampaignId) (campaign : Campaign) : Prop where
  fetched : numberValue campaign.summary "fetchedOccurrences" =
    excluded campaign.summary + numberValue campaign.summary "eligible"
  eligible : (selectedCount db c : Int) ≤ numberValue campaign.summary "eligible"
  target : (selectedCount db c : Int) ≤ campaign.targetCount

/-- The recipients that were selected before, and are not any more. -/
def dropped (db db' : Db) (c : CampaignId) (direction : RankingDirection) : Nat :=
  (selectedRecipients db c direction).countP (fun s =>
    (db'.recipients.get s.id).any (fun r => !r.selected))

/-- The accounts after a freeze that dropped some recipients. -/
structure AccountsKept (before after : Campaign) (dropped : Nat) : Prop where
  fetched : numberValue after.summary "fetchedOccurrences" =
    excluded after.summary + numberValue after.summary "eligible"
  shortfall : numberValue after.summary "selected" + numberValue after.summary "shortfall" =
    after.targetCount
  eligible : numberValue after.summary "eligible" + dropped =
    numberValue before.summary "eligible"
  excluded : excluded after.summary = excluded before.summary + dropped

/-- The app itself contacted the creator within the cooldown, and nothing else forbids to write to
it. -/
def contactedByApp (contact : Option Contact) (cutoff : Int) : Bool :=
  contact.any (fun c => !c.doNotContact && !c.unresolvedDelivery &&
    c.lastContactedAt.any (cutoff < ·) && c.lastCampaignId.isSome)

/-! ## The reasons -/

/-- The reasons that have a bucket of their own in the summary after a freeze. -/
def bucketed (skipped : List String) : Nat :=
  skipped.count "DO_NOT_CONTACT" + skipped.count "DELIVERY_UNKNOWN" + skipped.count "COOLDOWN" +
    skipped.count "ACTIVE_RESERVATION"

theorem freezeSkipReason_cases (contact : Option Contact) (cutoff : Int) (reserved : Bool) :
    freezeSkipReason contact cutoff reserved = none ∨
    freezeSkipReason contact cutoff reserved = some "DO_NOT_CONTACT" ∨
    freezeSkipReason contact cutoff reserved = some "DELIVERY_UNKNOWN" ∨
    freezeSkipReason contact cutoff reserved = some "COOLDOWN" ∨
    freezeSkipReason contact cutoff reserved = some "ACTIVE_RESERVATION" ∨
    freezeSkipReason contact cutoff reserved = some "CONTACTED_BY_APP_WITHIN_COOLDOWN" := by
  unfold freezeSkipReason
  split
  · simp
  split
  · simp
  split
  · split <;> simp
  split <;> simp

theorem reason_contacted (contact : Option Contact) (cutoff : Int) (reserved : Bool) :
    freezeSkipReason contact cutoff reserved = some "CONTACTED_BY_APP_WITHIN_COOLDOWN" ↔
      contactedByApp contact cutoff = true := by
  unfold freezeSkipReason contactedByApp
  cases contact with
  | none => cases reserved <;> simp
  | some contact =>
    by_cases hnot : contact.doNotContact = true
    · simp [hnot]
    by_cases hunresolved : contact.unresolvedDelivery = true
    · simp [hnot, hunresolved]
    by_cases hlate : contact.lastContactedAt.any (cutoff < ·) = true
    · by_cases happ : contact.lastCampaignId.isSome = true
      · simp [hnot, hunresolved, hlate, happ]
      · simp [hnot, hunresolved, hlate, happ]
    · cases reserved <;> simp [hnot, hunresolved, hlate]

/-- A reason without a bucket is lost. -/
theorem length_eq_bucketed {skipped : List String}
    (h : ∀ reason ∈ skipped, reason = "DO_NOT_CONTACT" ∨ reason = "DELIVERY_UNKNOWN" ∨
      reason = "COOLDOWN" ∨ reason = "ACTIVE_RESERVATION" ∨
      reason = "CONTACTED_BY_APP_WITHIN_COOLDOWN") :
    skipped.length = bucketed skipped + skipped.count "CONTACTED_BY_APP_WITHIN_COOLDOWN" := by
  induction skipped with
  | nil => rfl
  | cons reason rest ih =>
    have hrest := ih (fun reason' hmem => h reason' (List.mem_cons_of_mem _ hmem))
    unfold bucketed at hrest ⊢
    rcases h reason List.mem_cons_self with rfl | rfl | rfl | rfl | rfl <;>
      simp only [List.length_cons, List.count_cons] <;> simp <;> omega

/-! ## The summary after the freeze -/

section Summary

variable (previous : List (String × Int)) (targetCount : Int) (selected : Nat)
  (skipped : List String)

theorem numberValue_fetched :
    numberValue (finalSummary previous targetCount selected skipped) "fetchedOccurrences" =
      numberValue previous "fetchedOccurrences" := by
  simp [finalSummary]

theorem numberValue_eligible :
    numberValue (finalSummary previous targetCount selected skipped) "eligible" =
      max 0 (numberValue previous "eligible" - skipped.length) := by
  simp [finalSummary]

theorem numberValue_selected :
    numberValue (finalSummary previous targetCount selected skipped) "selected" =
      selected - skipped.length := by
  simp [finalSummary]

theorem numberValue_shortfall :
    numberValue (finalSummary previous targetCount selected skipped) "shortfall" =
      max 0 (targetCount - (selected - skipped.length)) := by
  simp [finalSummary]

theorem excluded_finalSummary : excluded (finalSummary previous targetCount selected skipped) =
    excluded previous + bucketed skipped := by
  simp [excluded, finalSummary, bucketed]
  omega

end Summary

/-! ## The recipients of the freeze -/

section Recipients

variable {check : Check} {db : Db}

theorem skipped_le : (check.skipped db).length ≤ (check.selected db).length :=
  List.length_filterMap_le _ _

theorem selected_le : (check.selected db).length ≤ selectedCount db check.id := by
  have h : ∀ rows : List (RecipientId × Recipient), (rows.filterMap (fun r =>
      (db.creators.get r.1.creatorId).map (fun creator => (⟨r.1, r.2, creator,
        db.contacts.get (check.id.shopId, r.1.creatorId)⟩ : SelectedRecipient)))).length ≤
      rows.length := fun rows => List.length_filterMap_le _ _
  unfold Check.selected selectedRecipients
  cases check.current.rankingDirection with
  | ASC =>
    dsimp only
    rw [List.length_insertionSort]
    exact h _
  | DESC =>
    dsimp only
    rw [List.length_insertionSort]
    exact h _

theorem reason_of_skipped {reason : String} (h : reason ∈ check.skipped db) :
    reason = "DO_NOT_CONTACT" ∨ reason = "DELIVERY_UNKNOWN" ∨ reason = "COOLDOWN" ∨
      reason = "ACTIVE_RESERVATION" ∨ reason = "CONTACTED_BY_APP_WITHIN_COOLDOWN" := by
  obtain ⟨s, _, hs⟩ := List.mem_filterMap.1 h
  have hcases := freezeSkipReason_cases s.contact check.cutoff (activelyReserved
    (withoutExpired db check.id.shopId check.deletedAt) check.id.shopId s.id.creatorId
    check.eligibilityCheckedAt)
  unfold Check.reason at hs
  rw [hs] at hcases
  simpa using hcases

theorem contacted_eq_zero_iff : (check.skipped db).count "CONTACTED_BY_APP_WITHIN_COOLDOWN" = 0 ↔
    ∀ s ∈ check.selected db, contactedByApp s.contact check.cutoff = false := by
  rw [List.count_eq_zero]
  constructor
  · intro hnot s hs
    by_contra happ
    rw [Bool.not_eq_false] at happ
    exact hnot (List.mem_filterMap.2 ⟨s, hs, (reason_contacted _ _ _).2 happ⟩)
  · intro hnone hmem
    obtain ⟨s, hs, hreason⟩ := List.mem_filterMap.1 hmem
    have happ := (reason_contacted _ _ _).1 hreason
    rw [hnone s hs] at happ
    cases happ

/-- A freeze drops the recipients that it has a reason for. -/
theorem dropped_eq {env : Environment} {expiresAt : Int} {db' : Db}
    (h : Froze env expiresAt check db db') :
    dropped db db' check.id check.current.rankingDirection = (check.skipped db).length := by
  have hcount : (check.skipped db).length =
      (check.selected db).countP (fun s => (check.reason db s).isSome) := by
    unfold Check.skipped
    rw [List.length_filterMap_eq_countP]
  rw [hcount]
  unfold dropped
  apply List.countP_congr
  intro s hs
  obtain ⟨hr, _, hselected, _⟩ := mem_selected.1 hs
  cases hreason : check.reason db s with
  | some reason =>
    rw [h.dropped s reason hs hreason, hr]
    simp [skippedRow]
  | none =>
    obtain ⟨index, hindex⟩ := exists_mem_zipIdx hs
    obtain ⟨message, hrow⟩ := (h.kept s index hindex hreason).row
    rw [hrow, hr]
    simp [frozenRow, hselected]

theorem accounts_iff {env : Environment} {expiresAt : Int} {db' : Db}
    (hpreviewed : Previewed db check.id check.current) (h : Froze env expiresAt check db db') :
    (∃ after, db'.campaigns.get check.id = some after ∧ AccountsKept check.current after
        (dropped db db' check.id check.current.rankingDirection)) ↔
      ∀ s ∈ check.selected db, contactedByApp s.contact check.cutoff = false := by
  obtain ⟨after, hafter, htarget, hsummary, _⟩ := h.campaign
  have hskipped := length_eq_bucketed
    (fun reason (hmem : reason ∈ check.skipped db) => reason_of_skipped hmem)
  have hle : (check.skipped db).length ≤ (check.selected db).length := skipped_le
  have hselected : (check.selected db).length ≤ selectedCount db check.id := selected_le
  have heligible := hpreviewed.eligible
  have hlimit := hpreviewed.target
  have hfetched := hpreviewed.fetched
  rw [dropped_eq h, ← contacted_eq_zero_iff]
  constructor
  · rintro ⟨after', hafter', haccounts⟩
    rw [hafter] at hafter'
    cases hafter'
    have hafter' := haccounts.fetched
    rw [hsummary, numberValue_fetched, excluded_finalSummary, numberValue_eligible] at hafter'
    omega
  · intro hnone
    refine ⟨after, hafter, ?_, ?_, ?_, ?_⟩
    · rw [hsummary, numberValue_fetched, excluded_finalSummary, numberValue_eligible]
      omega
    · rw [hsummary, numberValue_selected, numberValue_shortfall, htarget]
      omega
    · rw [hsummary, numberValue_eligible]
      omega
    · rw [hsummary, excluded_finalSummary]
      omega

end Recipients

/-! ## The freeze -/

/-- A freeze keeps the accounts of the preview when it drops nobody for a contact by the app within
the cooldown, and not otherwise. -/
theorem freeze_keeps_the_accounts {env : Environment} {c : CampaignId} {version : Int}
    {campaign current : Campaign} {expiresAt deletedAt eligibilityCheckedAt frozenAt : Int}
    {db db' : Db} (hcurrent : db.campaigns.get c = some current)
    (hpreviewed : Previewed db c current)
    (h : (freeze env c version campaign expiresAt deletedAt eligibilityCheckedAt frozenAt).run db =
      .ok ((), db')) :
    (∃ after, db'.campaigns.get c = some after ∧
        AccountsKept current after (dropped db db' c current.rankingDirection)) ↔
      ∀ s ∈ selectedRecipients db c current.rankingDirection,
        contactedByApp s.contact (eligibilityCheckedAt - current.cooldownDays * 86400000) =
          false := by
  obtain ⟨current', hfroze⟩ := of_freeze h
  have hsame := hfroze.current
  dsimp only at hsame
  rw [hcurrent] at hsame
  cases hsame
  exact accounts_iff hpreviewed hfroze

/-! ## What a preview leaves -/

theorem createRecipients_count {c : CampaignId} {retained : List RetainedCreator} {us : List Unit}
    {db db' : Db} (h : (Tx.traverse (createRecipient c) retained).run db = .ok (us, db')) :
    selectedCount db' c = selectedCount db c + retained.countP (·.selected) := by
  induction retained generalizing db us with
  | nil =>
    cases h
    rfl
  | cons r rest ih =>
    simp only [Tx.traverse, Tx.run_bind, Tx.bind_eq_ok, Tx.run_ret] at h
    obtain ⟨⟨_, db1⟩, h1, ⟨_, db2⟩, h2, h3⟩ := h
    cases h3
    simp only [createRecipient, Tx.run_create, table.recipients] at h1
    split at h1
    · cases h1
    next hfree =>
    cases h1
    have hnone : db.recipients.get ⟨r.uuid, c, r.creatorId⟩ = none := by
      simp only [Bool.or_eq_true, not_or, Bool.not_eq_true, Option.isSome_eq_false_iff,
        Option.isNone_iff_eq_none] at hfree
      exact hfree.1
    rw [ih h2, List.countP_cons]
    unfold selectedCount
    rw [Table.count_set_new hnone]
    simp [RetainedCreator.recipient]
    omega

theorem count_deleted (t : Table RecipientId Recipient) (c : CampaignId) :
    (t.deleteMany (fun id _ => id.campaignId = c)).count
      (fun id r => id.campaignId = c && r.selected) = 0 := by
  unfold Table.count Table.findMany Table.deleteMany
  rw [List.length_eq_zero_iff, List.filter_eq_nil_iff]
  intro row hrow
  have hother := (List.mem_filter.1 hrow).2
  simp only [decide_eq_true_eq] at hother
  simp [hother]

/-- The selection of a preview fits the numbers of its summary. -/
theorem selected_of_preview {lang : Language} {input : PreviewInput} {preview : PreviewResult}
    (hrequested : 0 ≤ input.requested) (h : buildPreview lang input = .ok preview) :
    (preview.creators.countP (·.selected) : Int) ≤ preview.summary.eligible ∧
      (preview.creators.countP (·.selected) : Int) ≤ input.requested := by
  obtain ⟨_, _, hcreators, hsummary⟩ := of_buildPreview h
  have hselected : (summarize lang input (creators lang input)).selected =
      (creators lang input).countP (·.selected) := selected_summarize hrequested
  rw [hcreators, hsummary, ← hselected]
  exact ⟨min_le_right _ _, min_le_left _ _⟩

/-- The rebuild of a preview leaves what the freeze relies on. -/
theorem previewed_of_rebuild {lang : Language} {input : PreviewInput} {preview : PreviewResult}
    {c : CampaignId} {campaign : Campaign} {retained : List RetainedCreator} {db db' : Db}
    (hcampaign : db.campaigns.get c = some campaign) (hpositive : 0 ≤ campaign.targetCount)
    (hrequested : input.requested = campaign.targetCount)
    (hpreview : buildPreview lang input = .ok preview)
    (hretained : retained.countP (·.selected) ≤ preview.creators.countP (·.selected))
    (h : (rebuild c retained (summaryColumn preview.summary)).run db = .ok ((), db')) :
    ∃ after, db'.campaigns.get c = some after ∧ Previewed db' c after := by
  have haccounts : Accounts preview.summary := by
    obtain ⟨_, _, _, hsummary⟩ := of_buildPreview hpreview
    rw [hsummary]
    exact accounts_summarize
  have hfetched := (storedAccounts_summaryColumn haccounts).fetched
  obtain ⟨heligible, htarget⟩ := selected_of_preview (by omega) hpreview
  simp [rebuild, deleteRecipients] at h
  obtain ⟨_, _, db1, htraverse, _, _, rfl⟩ := h
  have hcampaigns := (createRecipients_others htraverse).1
  have hcount : selectedCount db1 c = retained.countP (·.selected) := by
    rw [createRecipients_count htraverse]
    unfold selectedCount
    rw [count_deleted, Nat.zero_add]
  have hmid : db1.campaigns.get c =
      some { campaign with state := .DISCOVERING, version := campaign.version + 1 } := by
    rw [hcampaigns]
    exact get_updateOne_self hcampaign _
  refine ⟨_, get_updateOne_self hmid _, ?_, ?_, ?_⟩
  · exact hfetched
  · change (selectedCount db1 c : Int) ≤ preview.summary.eligible
    omega
  · change (selectedCount db1 c : Int) ≤ campaign.targetCount
    omega

/-! ## A sample -/

def sampleCampaignId : CampaignId := ⟨0, 0⟩

/-- A preview of two creators that were both selected. -/
def sampleSummary : List (String × Int) :=
  [("requested", 2), ("fetchedOccurrences", 2), ("eligible", 2), ("selected", 2)]

def sampleRow : Campaign :=
  ⟨"C1", "serum", 2, 30, "Hi", .DESC, .PREVIEW_READY, 1, sampleSummary, none, none, none, 0, none⟩

def sampleRecipientId (creatorId : Nat) : RecipientId := ⟨creatorId, sampleCampaignId, creatorId⟩

def sampleRecipient : Recipient where
  eligibility := .ELIGIBLE
  rankingValue := 5
  discoveryOrdinal := 0
  selected := true
  state := .SELECTED

/-- The first creator got a contact after the preview. -/
def contactedDb (contact : Contact) : Db where
  campaigns := Table.ofList [(sampleCampaignId, sampleRow)]
  recipients := Table.ofList [(sampleRecipientId 1, sampleRecipient),
    (sampleRecipientId 2, sampleRecipient)]
  creators := Table.ofList [(1, ⟨some "a", none, none, none⟩), (2, ⟨some "b", none, none, none⟩)]
  contacts := Table.ofList [((0, 1), contact)]

/-- The creator does not want to be contacted. -/
def unwanted : Db := contactedDb { doNotContact := true }

/-- Another campaign wrote to the creator a second ago. -/
def written : Db :=
  contactedDb { lastContactedAt := some 999999999000, lastCampaignId := some ⟨1, 0⟩ }

def sampleFreeze : Transaction Unit :=
  freeze sampleEnvironment sampleCampaignId 1 sampleRow 1000001800000 1000000000000 1000000000000
    1000000000000

/-- The database after a transaction that commits. -/
def after (x : Transaction Unit) (db : Db) : Db :=
  match x.run db with
  | .ok r => r.2
  | .error _ => db

theorem sample_previewed (contact : Contact) :
    Previewed (contactedDb contact) sampleCampaignId sampleRow := by
  constructor
  · decide
  · change ((2 : Nat) : Int) ≤ _
    decide
  · change ((2 : Nat) : Int) ≤ _
    decide

theorem an_unwanted_contact_is_accounted :
    ∃ campaign, (after sampleFreeze unwanted).campaigns.get sampleCampaignId = some campaign ∧
      AccountsKept sampleRow campaign
        (dropped unwanted (after sampleFreeze unwanted) sampleCampaignId .DESC) := by
  have hrun : sampleFreeze.run unwanted = .ok ((), after sampleFreeze unwanted) := rfl
  unfold sampleFreeze at hrun ⊢
  exact (freeze_keeps_the_accounts rfl (sample_previewed _) hrun).2 (by decide)

theorem a_contact_of_another_campaign_is_not_accounted :
    Previewed written sampleCampaignId sampleRow ∧
      sampleFreeze.run written = .ok ((), after sampleFreeze written) ∧
      ∃ campaign, (after sampleFreeze written).campaigns.get sampleCampaignId = some campaign ∧
        numberValue campaign.summary "fetchedOccurrences" ≠
          excluded campaign.summary + numberValue campaign.summary "eligible" := by
  refine ⟨sample_previewed _, rfl, _, rfl, ?_⟩
  decide

end tiktok_outreach.freeze_accounts
