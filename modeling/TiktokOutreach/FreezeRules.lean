-- A freeze leaves out the creators that a preview of the same facts excludes for
-- the safety of their contact, and it freezes all the others.
import TiktokOutreach.FreezeAccounts
import TiktokOutreach.FreshPreviews

open runs tables executions transactions tiktok_outreach.schema tiktok_outreach.preview
  tiktok_outreach.preview_rules tiktok_outreach.outreach_service tiktok_outreach.local_preview
  tiktok_outreach.commands tiktok_outreach.dispatch_core tiktok_outreach.send_protocol
  tiktok_outreach.system tiktok_outreach.freeze_runs tiktok_outreach.freeze_accounts
  tiktok_outreach.fresh_previews

namespace tiktok_outreach.freeze_rules

/-! ## The preview of the creator database -/

/-- A creator that `rebuildFromCreatorDatabase` reads: the candidate of its newest snapshot, and
the column of its contact that only a preview looks at. -/
structure DatabaseCreator where
  id : Nat
  candidate : CreatorCandidate
  historyCoverageStart : Option Int

def contactRow (historyCoverageStart : Option Int) (contact : Contact) : ContactRow where
  lastContactedAt := contact.lastContactedAt
  doNotContact := contact.doNotContact
  unresolvedDelivery := contact.unresolvedDelivery
  historyCoverageStart := historyCoverageStart
  lastCampaignId := contact.lastCampaignId

section Database

variable (db : Db) (shopId : Nat)

/-- `contacts.set(creatorOpenId, ..)` for each creator. -/
def databaseContacts (creators : List DatabaseCreator) : Table String ContactState :=
  Table.ofList (creators.map (fun creator => (creator.candidate.creatorOpenId, contactState
    ((db.contacts.get (shopId, creator.id)).map (contactRow creator.historyCoverageStart)))))

/-- The open ids of the creators whose reservation in the shop has not expired. -/
def reservedOpenIds (now : Int) : List String :=
  (db.reservations.findMany (fun _ r => r.shopId = shopId && decide (now < r.expiresAt))).filterMap
    (fun r => given ((db.creators.get r.2.creatorId).bind (·.creatorOpenId)))

/-- The input of the preview that `rebuildFromCreatorDatabase` builds for a campaign. -/
def databaseInput (creators : List DatabaseCreator) (campaign : PreviewCampaign)
    (targetCount now : Int) : PreviewInput where
  creators := creators.map (·.candidate)
  filters := campaign.filters
  contacts := databaseContacts db shopId creators
  activeReservations := reservedOpenIds db shopId now
  requested := targetCount
  cooldownDays := campaign.cooldownDays
  rankingMetric := campaign.rankingMetric
  rankingDirection := some campaign.rankingDirection
  now

end Database

/-- The creators are rows of the database under their open ids, which are unique there. -/
structure Reads (db : Db) (creators : List DatabaseCreator) : Prop where
  openId : ∀ creator ∈ creators, creator.candidate.creatorOpenId ≠ "" ∧
    ∃ row, db.creators.get creator.id = some row ∧
      row.creatorOpenId = some creator.candidate.creatorOpenId
  once : (creators.map (·.id)).Nodup
  unique : ∀ id id' row row' openId, db.creators.get id = some row →
    db.creators.get id' = some row' → row.creatorOpenId = some openId →
    row'.creatorOpenId = some openId → id = id'

/-- The reasons that are about the contact with a creator. -/
def safety : SkipReason → Bool
  | .DO_NOT_CONTACT | .DELIVERY_UNKNOWN | .COOLDOWN | .CONTACTED_BY_APP_WITHIN_COOLDOWN
  | .ACTIVE_RESERVATION => true
  | .INVALID_MESSAGING_ID | .FILTER_MISMATCH | .DUPLICATE => false

/-! ## The same decision -/

section Decision

variable {db : Db} {shopId : Nat} {creators : List DatabaseCreator}

theorem id_of_openId (hreads : Reads db creators) {a b : DatabaseCreator} (ha : a ∈ creators)
    (hb : b ∈ creators) (h : a.candidate.creatorOpenId = b.candidate.creatorOpenId) :
    a.id = b.id := by
  obtain ⟨_, row, hrow, hid⟩ := hreads.openId a ha
  obtain ⟨_, row', hrow', hid'⟩ := hreads.openId b hb
  exact hreads.unique _ _ row row' _ hrow hrow' hid (h ▸ hid')

theorem openIds_nodup (hreads : Reads db creators) :
    (creators.map (·.candidate.creatorOpenId)).Nodup := by
  apply List.Nodup.map_on _ (List.Nodup.of_map _ hreads.once)
  intro a ha b hb h
  exact List.inj_on_of_nodup_map hreads.once ha hb (id_of_openId hreads ha hb h)

/-- The contacts by open id have the contact rows by creator. -/
theorem get_databaseContacts (hreads : Reads db creators) {creator : DatabaseCreator}
    (hmem : creator ∈ creators) :
    (databaseContacts db shopId creators).get creator.candidate.creatorOpenId =
      some (contactState ((db.contacts.get (shopId, creator.id)).map
        (contactRow creator.historyCoverageStart))) := by
  unfold databaseContacts
  rw [Table.get_ofList_of_nodup]
  · exact List.mem_map.2 ⟨creator, hmem, rfl⟩
  · rw [List.map_map]
    exact openIds_nodup hreads

/-- The reservations by open id are those by creator. -/
theorem contains_reservedOpenIds (hreads : Reads db creators) {creator : DatabaseCreator}
    (hmem : creator ∈ creators) (now : Int) :
    (reservedOpenIds db shopId now).contains creator.candidate.creatorOpenId =
      activelyReserved db shopId creator.id now := by
  obtain ⟨hgiven, row, hrow, hopenId⟩ := hreads.openId creator hmem
  rw [Bool.eq_iff_iff, List.contains_iff_mem, activelyReserved, Table.any_iff]
  constructor
  · intro h
    obtain ⟨⟨id, r⟩, hr, hid⟩ := List.mem_filterMap.1 h
    obtain ⟨hget, hp⟩ := (Table.mem_findMany _ _ _ _).1 hr
    unfold given at hid
    rw [Option.filter_eq_some_iff, Option.bind_eq_some_iff] at hid
    obtain ⟨⟨row', hrow', hopenId'⟩, _⟩ := hid
    have hsame := hreads.unique _ _ row' row _ hrow' hrow hopenId' hopenId
    simp only [Bool.and_eq_true, decide_eq_true_eq] at hp ⊢
    exact ⟨id, r, hget, ⟨hp.1, hsame⟩, hp.2⟩
  · rintro ⟨id, r, hget, hp⟩
    simp only [Bool.and_eq_true, decide_eq_true_eq] at hp
    refine List.mem_filterMap.2 ⟨(id, r), (Table.mem_findMany _ _ _ _).2 ⟨hget, ?_⟩, ?_⟩
    · simp only [Bool.and_eq_true, decide_eq_true_eq]
      exact ⟨hp.1.1, hp.2⟩
    · unfold given
      rw [Option.filter_eq_some_iff]
      refine ⟨?_, by simpa using hgiven⟩
      rw [hp.1.2, hrow]
      exact hopenId

theorem freezeSkipReason_isSome (contact : Option Contact) (cutoff : Int) (reserved : Bool) :
    (freezeSkipReason contact cutoff reserved).isSome =
      (contact.any (·.doNotContact) || contact.any (·.unresolvedDelivery) ||
        contact.any (fun c => c.lastContactedAt.any (cutoff < ·)) || reserved) := by
  unfold freezeSkipReason
  split
  · simp [*]
  split
  · simp [*]
  split
  · split <;> simp [*]
  · split <;> simp [*]

/-- The safety reasons of a preview, for a creator with an open id that comes for the first
time. -/
theorem skip_safety {lang : Language} {input : PreviewInput} {seen : List String}
    {creator : CreatorCandidate} {contact : Option ContactRow} (hid : creator.creatorOpenId ≠ "")
    (hseen : creator.creatorOpenId ∉ seen)
    (hcontact : input.contacts.get creator.creatorOpenId = some (contactState contact)) :
    (skip lang input seen creator).1.any safety = (matchesFilters lang creator input.filters &&
      (contact.any (·.doNotContact) || contact.any (·.unresolvedDelivery) ||
        contact.any (fun c => c.lastContactedAt.any (cutoff input < ·)) ||
          input.activeReservations.contains creator.creatorOpenId)) := by
  unfold skip
  rw [hcontact]
  by_cases hfilters : matchesFilters lang creator input.filters = true
  swap
  · simp [hid, hfilters, safety]
  by_cases hnot : contact.any (·.doNotContact) = true
  · simp [hid, hfilters, hseen, contactState, hnot, safety]
  by_cases hunresolved : contact.any (·.unresolvedDelivery) = true
  · simp [hid, hfilters, hseen, contactState, hnot, hunresolved, safety]
  have hlate : ((contact.bind (·.lastContactedAt)).filter (fun time => cutoff input < time)).isSome =
      contact.any (fun c => c.lastContactedAt.any (cutoff input < ·)) := by
    cases contact with
    | none => rfl
    | some c => cases c.lastContactedAt <;> simp
  cases hfilter : (contact.bind (·.lastContactedAt)).filter (fun time => cutoff input < time) with
  | some time =>
    rw [hfilter] at hlate
    rw [← hlate]
    simp [hid, hfilters, hseen, contactState, hnot, hunresolved, hfilter]
    split <;> rfl
  | none =>
    rw [hfilter] at hlate
    rw [← hlate]
    by_cases hreserved : creator.creatorOpenId ∈ input.activeReservations
    · simp [hid, hfilters, hseen, contactState, hnot, hunresolved, hfilter, hreserved, safety]
    · simp [hid, hfilters, hseen, contactState, hnot, hunresolved, hfilter, hreserved]

/-- No open id of the database comes twice. -/
theorem not_seen (hreads : Reads db creators) {i : Nat} {creator : DatabaseCreator}
    (hi : creators[i]? = some creator) :
    creator.candidate.creatorOpenId ∉ seenBefore [] (creators.map (·.candidate)) i := by
  have hmem := List.mem_of_getElem? hi
  intro hseen
  rw [mem_seenBefore (hreads.openId creator hmem).1] at hseen
  rcases hseen with hnil | ⟨earlier, hearlier, hsame⟩
  · cases hnil
  · obtain ⟨j, hj⟩ := List.getElem?_of_mem hearlier
    rw [List.getElem?_take] at hj
    split at hj
    · next hlt =>
      rw [List.getElem?_map, Option.map_eq_some_iff] at hj
      obtain ⟨other, hother, rfl⟩ := hj
      have hid := id_of_openId hreads (List.mem_of_getElem? hother) hmem hsame
      have hidj : (creators.map (·.id))[j]? = some other.id := by simp [hother]
      have hidi : (creators.map (·.id))[i]? = some other.id := by simp [hi, hid]
      have hij := (List.getElem?_inj (List.getElem?_eq_some_iff.1 hidj).1 hreads.once).1
        (hidj.trans hidi.symm)
      omega
    · cases hj

/-- A preview marks a creator for its safety when a freeze at that time would leave it out. -/
theorem preview_of_freeze {lang : Language} {campaign : PreviewCampaign} {targetCount now : Int}
    {preview : PreviewResult} (hreads : Reads db creators)
    (h : buildPreview lang (databaseInput db shopId creators campaign targetCount now) = .ok preview)
    {i : Nat} {creator : DatabaseCreator} {evaluated : EvaluatedCreator}
    (hi : creators[i]? = some creator) (hevaluated : preview.creators[i]? = some evaluated) :
    evaluated.skipReason.any safety =
      (matchesFilters lang creator.candidate campaign.filters &&
        (freezeSkipReason (db.contacts.get (shopId, creator.id))
          (now - campaign.cooldownDays * 86400000)
          (activelyReserved db shopId creator.id now)).isSome) := by
  obtain ⟨_, _, hcreators, _⟩ := of_buildPreview h
  rw [hcreators, getElem?_creators, Option.map_eq_some_iff] at hevaluated
  obtain ⟨unmarked, hget, rfl⟩ := hevaluated
  obtain ⟨candidate, hcandidate, rfl⟩ := getElem?_evaluated hget
  have hmem := List.mem_of_getElem? hi
  have hsame : candidate = creator.candidate := by
    have hi' : (creators.map (·.candidate))[i]? = some creator.candidate := by simp [hi]
    exact Option.some.inj (hcandidate.symm.trans hi')
  subst hsame
  have hcontact : (databaseInput db shopId creators campaign targetCount now).contacts.get
      creator.candidate.creatorOpenId = some (contactState
        ((db.contacts.get (shopId, creator.id)).map (contactRow creator.historyCoverageStart))) :=
    get_databaseContacts hreads hmem
  have hskip := @skip_safety lang _ _ _ _ (hreads.openId creator hmem).1 (not_seen hreads hi)
    hcontact
  have hreserved : (reservedOpenIds db shopId now).contains creator.candidate.creatorOpenId =
      activelyReserved db shopId creator.id now := contains_reservedOpenIds hreads hmem now
  change (skip lang _ _ creator.candidate).1.any safety = _
  refine hskip.trans ?_
  rw [freezeSkipReason_isSome, ← hreserved]
  cases db.contacts.get (shopId, creator.id) <;> rfl

end Decision

/-! ## What a freeze leaves -/

/-- The recipient was frozen. -/
structure FrozenRecipient (env : Environment) (db : Db) (id : RecipientId) (r : Recipient) :
    Prop where
  reservation : (db.reservations.get id).isSome
  message : ∃ message, r.frozenMessage = some message ∧ r.contentHash = some (env.sha256 message)
  openId : ∃ openId, r.creatorOpenIdSnapshot = some openId ∧ openId ≠ ""

/-- Nothing of a freeze is left at the recipient. -/
structure Released (db : Db) (id : RecipientId) (r : Recipient) : Prop where
  reservation : db.reservations.get id = none
  frozenMessage : r.frozenMessage = none
  contentHash : r.contentHash = none
  creatorOpenIdSnapshot : r.creatorOpenIdSnapshot = none

/-- The selected recipients that are still selected after the freeze, in their order. -/
def survivors (check : Check) (db db' : Db) : List SelectedRecipient :=
  (check.selected db).filter (fun s => (db'.recipients.get s.id).any (·.selected))

def frozenRank (db : Db) (s : SelectedRecipient) : Option Nat :=
  (db.recipients.get s.id).bind (·.frozenRank)

/-- The database after a freeze, with the one before it. -/
structure Result (env : Environment) (check : Check) (db db' : Db) : Prop where
  excluded : ∀ s ∈ check.selected db,
    (∃ r, db'.recipients.get s.id = some r ∧ r.selected = false) ↔
      (freezeSkipReason (db.contacts.get (check.id.shopId, s.id.creatorId)) check.cutoff
        (activelyReserved (withoutExpired db check.id.shopId check.deletedAt) check.id.shopId
          s.id.creatorId check.eligibilityCheckedAt)).isSome
  kept : ∀ id r, id.campaignId = check.id → db'.recipients.get id = some r → r.selected = true →
    FrozenRecipient env db' id r
  dropped : ∀ id before r, id.campaignId = check.id → db.recipients.get id = some before →
    before.selected = true → db'.recipients.get id = some r → r.selected = false →
    Released db' id r
  ranks : ∃ ranks : List Nat, (survivors check db db').map (frozenRank db') = ranks.map some ∧
    ranks.Pairwise (· < ·)
  emptied : (∀ id r, id.campaignId = check.id → db'.recipients.get id = some r →
    r.selected = false) → ∀ id, id.campaignId = check.id → db'.reservations.get id = none

section Freeze

variable {env : Environment} {expiresAt : Int} {check : Check} {db db' : Db}

theorem row_of_kept {s : SelectedRecipient} {index : Nat} (hs : s ∈ check.selected db)
    (h : Keeps env expiresAt s index db db') :
    ∃ r, db'.recipients.get s.id = some r ∧ r.selected = true ∧ r.frozenRank = some (index + 1) ∧
      FrozenRecipient env db' s.id r := by
  obtain ⟨hget, _, hselected, _⟩ := mem_selected.1 hs
  obtain ⟨message, hrow⟩ := h.row
  obtain ⟨openId, hopenId, hgiven⟩ := h.openId
  rw [hget, Option.map_some] at hrow
  refine ⟨_, hrow, hselected, rfl, ?_, ⟨message, rfl, rfl⟩, openId, hopenId, hgiven⟩
  rw [h.reservation]
  rfl

/-- A selected recipient stays selected when there is no reason to skip it. -/
theorem selected_after (h : Froze env expiresAt check db db') {s : SelectedRecipient}
    (hs : s ∈ check.selected db) {r : Recipient} (hr : db'.recipients.get s.id = some r) :
    r.selected = true ↔ check.reason db s = none := by
  cases hreason : check.reason db s with
  | some reason =>
    rw [h.dropped s reason hs hreason, (mem_selected.1 hs).1] at hr
    cases hr
    simp [skippedRow]
  | none =>
    obtain ⟨index, hindex⟩ := exists_mem_zipIdx hs
    obtain ⟨r', hr', hselected, _⟩ := row_of_kept hs (h.kept s index hindex hreason)
    rw [hr] at hr'
    cases hr'
    simp [hselected]

theorem exists_row_after (h : Froze env expiresAt check db db') {s : SelectedRecipient}
    (hs : s ∈ check.selected db) : ∃ r, db'.recipients.get s.id = some r := by
  cases hreason : check.reason db s with
  | some reason => exact ⟨_, by rw [h.dropped s reason hs hreason, (mem_selected.1 hs).1]; rfl⟩
  | none =>
    obtain ⟨index, hindex⟩ := exists_mem_zipIdx hs
    obtain ⟨r, hr, _⟩ := row_of_kept hs (h.kept s index hindex hreason)
    exact ⟨r, hr⟩

/-- The ranks of the survivors are their positions. -/
theorem ranks_increase (h : Froze env expiresAt check db db') :
    ∃ ranks : List Nat, (survivors check db db').map (frozenRank db') = ranks.map some ∧
      ranks.Pairwise (· < ·) := by
  let live : SelectedRecipient × Nat → Bool := fun p =>
    (db'.recipients.get p.1.id).any (·.selected)
  refine ⟨((check.selected db).zipIdx.filter live).map (fun p => p.2 + 1), ?_, ?_⟩
  · have hsurvivors : survivors check db db' =
        ((check.selected db).zipIdx.filter live).map (·.1) := by
      unfold survivors
      conv_lhs => rw [← List.zipIdx_map_fst 0 (check.selected db)]
      rw [List.filter_map]
      rfl
    rw [hsurvivors, List.map_map, List.map_map]
    apply List.map_congr_left
    rintro ⟨s, index⟩ hmem
    obtain ⟨hindex, hlive⟩ := List.mem_filter.1 hmem
    have hs := List.fst_mem_of_mem_zipIdx hindex
    obtain ⟨r, hr⟩ := exists_row_after h hs
    have hselected : r.selected = true := by simpa [live, hr] using hlive
    have hreason := (selected_after h hs hr).1 hselected
    obtain ⟨r', hr', _, hrank, _⟩ := row_of_kept hs (h.kept s index hindex hreason)
    simp [frozenRank, hr', hrank]
  · have hrange : ((check.selected db).zipIdx.map (·.2)).Pairwise (· < ·) := by
      rw [List.zipIdx_map_snd]
      exact List.pairwise_lt_range'
    rw [List.pairwise_map] at hrange ⊢
    apply (hrange.sublist List.filter_sublist).imp
    intro a b hab
    omega

/-- The recipient of a row that a freeze selects, when the creator of the row exists. -/
theorem exists_selected {id : RecipientId} {r : Recipient}
    (hkey : ∀ id r, db.recipients.get id = some r → (db.creators.get id.creatorId).isSome)
    (hid : id.campaignId = check.id) (hr : db.recipients.get id = some r)
    (hselected : r.selected = true) : ∃ s ∈ check.selected db, s.id = id := by
  obtain ⟨creator, hcreator⟩ := Option.isSome_iff_exists.1 (hkey id r hr)
  exact ⟨⟨id, r, creator, db.contacts.get (check.id.shopId, id.creatorId)⟩,
    mem_selected.2 ⟨hr, hid, hselected, hcreator, rfl⟩, rfl⟩

theorem reason_eq {s : SelectedRecipient} (hs : s ∈ check.selected db) : check.reason db s =
    freezeSkipReason (db.contacts.get (check.id.shopId, s.id.creatorId)) check.cutoff
      (activelyReserved (withoutExpired db check.id.shopId check.deletedAt) check.id.shopId
        s.id.creatorId check.eligibilityCheckedAt) := by
  unfold Check.reason
  rw [(mem_selected.1 hs).2.2.2.2]

/-- A freeze of a fresh preview. -/
theorem result_of_froze (hfresh : Fresh db)
    (hkey : ∀ id r, db.recipients.get id = some r → (db.creators.get id.creatorId).isSome)
    (h : Froze env expiresAt check db db') : Result env check db db' where
  excluded := by
    intro s hs
    rw [← reason_eq hs]
    obtain ⟨r, hr⟩ := exists_row_after h hs
    have hiff := selected_after h hs hr
    constructor
    · rintro ⟨r', hr', hselected⟩
      rw [hr] at hr'
      cases hr'
      by_contra hnone
      rw [Option.not_isSome_iff_eq_none] at hnone
      rw [hiff.2 hnone] at hselected
      cases hselected
    · intro hsome
      refine ⟨r, hr, ?_⟩
      rw [← Bool.not_eq_true]
      intro hselected
      rw [hiff.1 hselected] at hsome
      cases hsome
  kept := by
    intro id r hid hr hselected
    have hmem : ∃ s ∈ check.selected db, s.id = id := by
      by_contra hnot
      have hout : id ∉ (check.selected db).map (·.id) := by
        intro hin
        obtain ⟨s, hs, hsid⟩ := List.mem_map.1 hin
        exact hnot ⟨s, hs, hsid⟩
      rw [h.recipients id hout] at hr
      exact hnot (exists_selected hkey hid hr hselected)
    obtain ⟨s, hs, rfl⟩ := hmem
    have hreason := (selected_after h hs hr).1 hselected
    obtain ⟨index, hindex⟩ := exists_mem_zipIdx hs
    obtain ⟨r', hr', _, _, hfrozen⟩ := row_of_kept hs (h.kept s index hindex hreason)
    rw [hr] at hr'
    cases hr'
    exact hfrozen
  dropped := by
    intro id before r hid hbefore hselected hr hdropped
    obtain ⟨s, hs, rfl⟩ := exists_selected hkey hid hbefore hselected
    have hready : (coreOf db).campaign check.id = some .PREVIEW_READY := by
      rw [coreOf_campaign, h.current, Option.map_some, h.ready]
    obtain ⟨hnone, hsnapshot⟩ := hfresh check.id hready s.id hid
    have hreason : (check.reason db s).isSome := by
      by_contra hnone
      rw [Option.not_isSome_iff_eq_none] at hnone
      rw [(selected_after h hs hr).2 hnone] at hdropped
      cases hdropped
    obtain ⟨reason, hreason'⟩ := Option.isSome_iff_exists.1 hreason
    have hrow := h.dropped s reason hs hreason'
    rw [hr, hbefore] at hrow
    cases hrow
    refine ⟨h.reservations s.id hnone ?_, rfl, rfl, hsnapshot before hbefore⟩
    intro s' hs' hsame
    rw [reason_eq hs', hsame, ← reason_eq hs]
    exact hreason
  ranks := ranks_increase h
  emptied := by
    intro hall id hid
    refine h.emptied (skipped_all_iff.2 ?_) id hid
    intro s hs
    obtain ⟨r, hr⟩ := exists_row_after h hs
    by_contra hnone
    rw [Option.not_isSome_iff_eq_none] at hnone
    have hdropped := hall s.id r (mem_selected.1 hs).2.1 hr
    rw [(selected_after h hs hr).2 hnone] at hdropped
    cases hdropped

end Freeze

/-- A freeze leaves a creator out when a preview of the same database at the same time would
exclude it for its safety, and in every run it leaves nothing but frozen recipients and recipients
without a trace of the freeze. -/
theorem freeze_excludes_as_the_preview :
    (∀ (lang : Language) (db : Db) (shopId : Nat) (creators : List DatabaseCreator)
        (campaign : PreviewCampaign) (targetCount now : Int) (preview : PreviewResult),
      Reads db creators →
      buildPreview lang (databaseInput db shopId creators campaign targetCount now) = .ok preview →
      ∀ (i : Nat) (creator : DatabaseCreator) (evaluated : EvaluatedCreator),
        creators[i]? = some creator → preview.creators[i]? = some evaluated →
        evaluated.skipReason.any safety =
          (matchesFilters lang creator.candidate campaign.filters &&
            (freezeSkipReason (db.contacts.get (shopId, creator.id))
              (now - campaign.cooldownDays * 86400000)
              (activelyReserved db shopId creator.id now)).isSome)) ∧
    ∀ (env : Environment) (options : outbound_throttle.Options) (allowed : Job → Bool) (db : Db)
        (ls : List (Label Call Call.Answer)) (pool : Pool World Call Call.Answer) (c : CampaignId)
        (version : Int) (campaign : Campaign)
        (expiresAt deletedAt eligibilityCheckedAt frozenAt : Int) (db' : Db),
      Fresh db → SystemRun env options allowed (initial db) ls pool →
      (∀ id r, pool.world.db.recipients.get id = some r →
        (pool.world.db.creators.get id.creatorId).isSome) →
      (freeze env c version campaign expiresAt deletedAt eligibilityCheckedAt frozenAt).run
        pool.world.db = .ok ((), db') →
      ∃ current, pool.world.db.campaigns.get c = some current ∧
        Result env ⟨c, current, deletedAt, eligibilityCheckedAt⟩ pool.world.db db' := by
  constructor
  · intro lang db shopId creators campaign targetCount now preview hreads hpreview i creator
      evaluated hi hevaluated
    exact preview_of_freeze hreads hpreview hi hevaluated
  · intro env options allowed db ls pool c version campaign expiresAt deletedAt
      eligibilityCheckedAt frozenAt db' hfresh hrun hkey hfreeze
    obtain ⟨current, hfroze⟩ := of_freeze hfreeze
    exact ⟨current, hfroze.current, result_of_froze (fresh_run hfresh hrun) hkey hfroze⟩

/-! ## A sample -/

def sampleCreators : List DatabaseCreator :=
  [⟨1, { creatorOpenId := "a", discoveryOrdinal := 0 }, none⟩,
    ⟨2, { creatorOpenId := "b", discoveryOrdinal := 1 }, none⟩]

theorem sample_reads : Reads unwanted sampleCreators where
  openId := by
    intro creator hmem
    simp only [sampleCreators, List.mem_cons, List.not_mem_nil, or_false] at hmem
    rcases hmem with rfl | rfl
    · exact ⟨by decide, _, rfl, rfl⟩
    · exact ⟨by decide, _, rfl, rfl⟩
  once := by decide
  unique := by
    intro id id' row row' openId hrow hrow' hid hid'
    have h := Table.mem_of_get_ofList hrow
    have h' := Table.mem_of_get_ofList hrow'
    simp only [List.mem_cons, Prod.mk.injEq, List.not_mem_nil, or_false] at h h'
    rcases h with ⟨rfl, rfl⟩ | ⟨rfl, rfl⟩ <;> rcases h' with ⟨rfl, rfl⟩ | ⟨rfl, rfl⟩
    · rfl
    · exact absurd (hid.trans hid'.symm) (by decide)
    · exact absurd (hid.trans hid'.symm) (by decide)
    · rfl

theorem sample_fresh : Fresh unwanted := by
  intro c _ id _
  refine ⟨rfl, ?_⟩
  intro r hr
  have h := Table.mem_of_get_ofList hr
  simp only [List.mem_cons, Prod.mk.injEq, List.not_mem_nil, or_false] at h
  rcases h with ⟨_, rfl⟩ | ⟨_, rfl⟩ <;> rfl

theorem sample_creators_exist (id : RecipientId) (r : Recipient)
    (h : unwanted.recipients.get id = some r) : (unwanted.creators.get id.creatorId).isSome := by
  have h := Table.mem_of_get_ofList h
  simp only [List.mem_cons, Prod.mk.injEq, List.not_mem_nil, or_false] at h
  rcases h with ⟨rfl, _⟩ | ⟨rfl, _⟩ <;> rfl

/-- The freeze leaves out the creator that does not want to be contacted, as a preview does. -/
theorem an_unwanted_creator_is_excluded_by_both :
    (∃ preview evaluated, buildPreview plainLanguage
        (databaseInput unwanted 0 sampleCreators sampleCampaign 2 1000000000000) = .ok preview ∧
      preview.creators[0]? = some evaluated ∧ evaluated.skipReason.any safety = true) ∧
    ∃ current, unwanted.campaigns.get sampleCampaignId = some current ∧
      Result local_preview.sampleEnvironment ⟨sampleCampaignId, current, 1000000000000, 1000000000000⟩ unwanted
        (after sampleFreeze unwanted) := by
  obtain ⟨hpreview, hfreeze⟩ := freeze_excludes_as_the_preview
  constructor
  · refine ⟨_, _, rfl, rfl, ?_⟩
    rw [hpreview plainLanguage unwanted 0 sampleCreators sampleCampaign 2 1000000000000 _
      sample_reads rfl 0 _ _ rfl rfl]
    decide
  · have hrun : sampleFreeze.run unwanted = .ok ((), after sampleFreeze unwanted) := rfl
    unfold sampleFreeze at hrun ⊢
    exact hfreeze _ sampleOptions (fun _ => true) unwanted [] (initial unwanted) _ _ _ _ _ _ _ _
      sample_fresh (Run.nil _) sample_creators_exist hrun

end tiktok_outreach.freeze_rules
