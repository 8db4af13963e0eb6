-- What a freeze does, recipient by recipient: who is left out and for which
-- reason, what the rows of the others become, and what the campaign takes over.
import TiktokOutreach.DispatchRefinement

open tables transactions tiktok_outreach.schema tiktok_outreach.outreach_service
  tiktok_outreach.dispatch_core

namespace tiktok_outreach.freeze_runs

/-! ## What a freeze looks at -/

/-- The database without the reservations of a shop that had expired. -/
def withoutExpired (db : Db) (shopId : Nat) (deletedAt : Int) : Db :=
  { db with reservations :=
      db.reservations.deleteMany (fun _ r => r.shopId = shopId && decide (r.expiresAt ≤ deletedAt)) }

/-- The creator has a reservation in the shop that has not expired. -/
def activelyReserved (db : Db) (shopId creatorId : Nat) (now : Int) : Bool :=
  db.reservations.any (fun _ r =>
    r.shopId = shopId && r.creatorId = creatorId && decide (now < r.expiresAt))

/-- A freeze of the campaign `id`, with its row and the instants at which it deletes the expired
reservations and checks the eligibility. -/
structure Check where
  id : CampaignId
  current : Campaign
  deletedAt : Int
  eligibilityCheckedAt : Int

namespace Check

variable (check : Check) (db : Db)

def cutoff : Int := check.eligibilityCheckedAt - check.current.cooldownDays * 86400000

def selected : List SelectedRecipient :=
  selectedRecipients db check.id check.current.rankingDirection

/-- The creators of the selected recipients that are actively reserved. -/
def reserved : List Nat :=
  ((withoutExpired db check.id.shopId check.deletedAt).reservations.findMany (fun _ r =>
    r.shopId = check.id.shopId && (check.selected db).any (fun s => s.id.creatorId = r.creatorId) &&
      decide (check.eligibilityCheckedAt < r.expiresAt))).map (·.2.creatorId)

/-- The reason for which a selected recipient is skipped. -/
def reason (s : SelectedRecipient) : Option String :=
  freezeSkipReason s.contact check.cutoff (activelyReserved
    (withoutExpired db check.id.shopId check.deletedAt) check.id.shopId s.id.creatorId
    check.eligibilityCheckedAt)

def skipped : List String := (check.selected db).filterMap (check.reason db)

end Check

theorem contains_reserved {check : Check} {db : Db} {s : SelectedRecipient}
    (hs : s ∈ check.selected db) : (check.reserved db).contains s.id.creatorId =
      activelyReserved (withoutExpired db check.id.shopId check.deletedAt) check.id.shopId
        s.id.creatorId check.eligibilityCheckedAt := by
  rw [Bool.eq_iff_iff, List.contains_iff_mem, activelyReserved, Table.any_iff]
  constructor
  · intro hmem
    obtain ⟨⟨id, r⟩, hrow, hcreator⟩ := List.mem_map.1 hmem
    obtain ⟨hget, hp⟩ := (Table.mem_findMany _ _ _ _).1 hrow
    simp only [Bool.and_eq_true, decide_eq_true_eq] at hp hcreator ⊢
    exact ⟨id, r, hget, ⟨hp.1.1, hcreator⟩, hp.2⟩
  · rintro ⟨id, r, hget, hp⟩
    simp only [Bool.and_eq_true, decide_eq_true_eq] at hp
    refine List.mem_map.2 ⟨(id, r), (Table.mem_findMany _ _ _ _).2 ⟨hget, ?_⟩, hp.1.2⟩
    simp only [Bool.and_eq_true, decide_eq_true_eq, List.any_eq_true]
    exact ⟨⟨hp.1.1, s, hs, hp.1.2.symm⟩, hp.2⟩

/-- The selected recipients are the selected rows of the campaign, with their creators. -/
theorem mem_selected {check : Check} {db : Db} {s : SelectedRecipient} : s ∈ check.selected db ↔
    db.recipients.get s.id = some s.recipient ∧ s.id.campaignId = check.id ∧
      s.recipient.selected = true ∧ db.creators.get s.id.creatorId = some s.creator ∧
      s.contact = db.contacts.get (check.id.shopId, s.id.creatorId) := by
  have hrows : s ∈ check.selected db ↔
      s ∈ (db.recipients.findMany (fun id r => id.campaignId = check.id && r.selected)).filterMap
        (fun r => (db.creators.get r.1.creatorId).map (fun creator =>
          (⟨r.1, r.2, creator, db.contacts.get (check.id.shopId, r.1.creatorId)⟩ :
            SelectedRecipient))) := by
    unfold Check.selected selectedRecipients
    cases check.current.rankingDirection with
    | ASC => exact List.mem_insertionSort _
    | DESC => exact List.mem_insertionSort _
  rw [hrows, List.mem_filterMap]
  constructor
  · rintro ⟨⟨id, r⟩, hr, hs⟩
    obtain ⟨creator, hcreator, rfl⟩ := Option.map_eq_some_iff.1 hs
    obtain ⟨hget, hp⟩ := (Table.mem_findMany _ _ _ _).1 hr
    simp only [Bool.and_eq_true, decide_eq_true_eq] at hp
    exact ⟨hget, hp.1, hp.2, hcreator, rfl⟩
  · rintro ⟨hget, hid, hselected, hcreator, hcontact⟩
    refine ⟨(s.id, s.recipient), (Table.mem_findMany _ _ _ _).2 ⟨hget, ?_⟩, ?_⟩
    · simp [hid, hselected]
    · rw [hcreator, Option.map_some, ← hcontact]

/-! ## One recipient -/

def skippedRow (reason : String) (r : Recipient) : Recipient :=
  { r with selected := false, eligibility := .EXCLUDED, skipReason := some reason
           state := .DISCOVERED, frozenMessage := none, contentHash := none }

def frozenRow (env : Environment) (creator : Creator) (message : String) (index : Nat)
    (r : Recipient) : Recipient :=
  { r with frozenMessage := some message, contentHash := some (env.sha256 message)
           state := .RESERVED, creatorOpenIdSnapshot := creator.creatorOpenId
           frozenRank := some (index + 1) }

/-- The recipient is left out. -/
structure Skips (reason : String) (s : SelectedRecipient) (db db' : Db) : Prop where
  row : db'.recipients.get s.id = (db.recipients.get s.id).map (skippedRow reason)
  reservation : db'.reservations.get s.id = db.reservations.get s.id

/-- The recipient is frozen at the position `index`. -/
structure Keeps (env : Environment) (expiresAt : Int) (s : SelectedRecipient) (index : Nat)
    (db db' : Db) : Prop where
  row : ∃ message, db'.recipients.get s.id =
    (db.recipients.get s.id).map (frozenRow env s.creator message index)
  openId : ∃ openId, s.creator.creatorOpenId = some openId ∧ openId ≠ ""
  reservation : db'.reservations.get s.id = some ⟨s.id.shopId, s.id.creatorId, expiresAt⟩

def Outcome (env : Environment) (expiresAt : Int) (s : SelectedRecipient) (index : Nat)
    (db db' : Db) : Option String → Prop
  | some reason => Skips reason s db db'
  | none => Keeps env expiresAt s index db db'

/-- Two databases with the same campaigns and, of some recipients, the same rows. -/
structure Same (ids : RecipientId → Prop) (db db' : Db) : Prop where
  recipient : ∀ id, ids id → db'.recipients.get id = db.recipients.get id
  reservation : ∀ id, ids id → db'.reservations.get id = db.reservations.get id
  campaigns : db'.campaigns = db.campaigns

section Each

variable {env : Environment} {campaign : Campaign} {cutoff expiresAt : Int}
  {reserved : List Nat} {db db' : Db}

theorem freezeRecipient_spec {s : SelectedRecipient} {index : Nat} {reason : Option String}
    (h : (freezeRecipient env campaign cutoff expiresAt reserved s index).run db =
      .ok (reason, db')) :
    reason = freezeSkipReason s.contact cutoff (reserved.contains s.id.creatorId) ∧
      Outcome env expiresAt s index db db' reason ∧ Same (fun id => id ≠ s.id) db db' := by
  unfold freezeRecipient at h
  split at h
  · next skipReason hskip =>
    simp at h
    obtain ⟨⟨_, rfl⟩, rfl⟩ := h
    refine ⟨hskip.symm, ⟨?_, rfl⟩, ?_, fun _ _ => rfl, rfl⟩
    · simp
      rfl
    · intro id hid
      simp [hid]
  · next hskip =>
    dsimp only at h
    split at h
    · cases h
    split at h
    · cases h
    next message _ hopenId =>
    simp at h
    obtain ⟨_, ⟨_, rfl⟩, rfl⟩ := h
    refine ⟨hskip.symm, ⟨⟨message, ?_⟩, ?_, ?_⟩, ?_, ?_, rfl⟩
    · simp
      rfl
    · cases hcreator : s.creator.creatorOpenId with
      | none => exact absurd (by rw [hcreator]; rfl) hopenId
      | some openId => exact ⟨openId, rfl, by simpa [hcreator] using hopenId⟩
    · simp
    · intro id hid
      simp [hid]
    · intro id hid
      simp [hid]

theorem outcome_of_same {s : SelectedRecipient} {index : Nat} {reason : Option String} {db1 : Db}
    (h : Outcome env expiresAt s index db db1 reason)
    (hrecipient : db'.recipients.get s.id = db1.recipients.get s.id)
    (hreservation : db'.reservations.get s.id = db1.reservations.get s.id) :
    Outcome env expiresAt s index db db' reason := by
  cases reason with
  | some reason => exact ⟨hrecipient.trans h.row, hreservation.trans h.reservation⟩
  | none =>
    obtain ⟨message, hrow⟩ := h.row
    exact ⟨⟨message, hrecipient.trans hrow⟩, h.openId, hreservation.trans h.reservation⟩

theorem outcome_behind {s : SelectedRecipient} {index : Nat} {reason : Option String} {db1 : Db}
    (h : Outcome env expiresAt s index db1 db' reason)
    (hrecipient : db1.recipients.get s.id = db.recipients.get s.id)
    (hreservation : db1.reservations.get s.id = db.reservations.get s.id) :
    Outcome env expiresAt s index db db' reason := by
  cases reason with
  | some reason =>
    refine ⟨?_, h.reservation.trans hreservation⟩
    rw [h.row, hrecipient]
  | none =>
    obtain ⟨message, hrow⟩ := h.row
    exact ⟨⟨message, by rw [hrow, hrecipient]⟩, h.openId, h.reservation⟩

/-- The freeze of some recipients, one after another. -/
theorem traverse_spec {rows : List (SelectedRecipient × Nat)} {reasons : List (Option String)}
    (hnodup : (rows.map (·.1.id)).Nodup)
    (h : (Tx.traverse (fun s => freezeRecipient env campaign cutoff expiresAt reserved s.1 s.2)
      rows).run db = .ok (reasons, db')) :
    reasons = rows.map (fun s =>
        freezeSkipReason s.1.contact cutoff (reserved.contains s.1.id.creatorId)) ∧
      (∀ s ∈ rows, Outcome env expiresAt s.1 s.2 db db'
        (freezeSkipReason s.1.contact cutoff (reserved.contains s.1.id.creatorId))) ∧
      Same (fun id => id ∉ rows.map (·.1.id)) db db' := by
  induction rows generalizing db reasons with
  | nil =>
    cases h
    exact ⟨rfl, by simp, fun _ _ => rfl, fun _ _ => rfl, rfl⟩
  | cons s rows ih =>
    simp only [Tx.traverse, Tx.run_bind, Tx.bind_eq_ok, Tx.run_ret] at h
    obtain ⟨⟨reason, db1⟩, h1, ⟨reasons', db2⟩, h2, h3⟩ := h
    cases h3
    obtain ⟨hid, hrows⟩ := List.nodup_cons.1 hnodup
    obtain ⟨rfl, houtcome, hsame⟩ := freezeRecipient_spec h1
    obtain ⟨rfl, houtcomes, hsame'⟩ := ih hrows h2
    refine ⟨rfl, ?_, ?_, ?_, hsame'.campaigns.trans hsame.campaigns⟩
    · intro s' hs'
      rcases List.mem_cons.1 hs' with rfl | hs'
      · exact outcome_of_same houtcome (hsame'.recipient _ hid) (hsame'.reservation _ hid)
      · have hne : s'.1.id ≠ s.1.id := by
          intro heq
          exact hid (List.mem_map.2 ⟨s', hs', heq⟩)
        exact outcome_behind (houtcomes s' hs') (hsame.recipient _ hne) (hsame.reservation _ hne)
    · intro id hnot
      rw [List.map_cons, List.mem_cons, not_or] at hnot
      rw [hsame'.recipient id hnot.2, hsame.recipient id hnot.1]
    · intro id hnot
      rw [List.map_cons, List.mem_cons, not_or] at hnot
      rw [hsame'.reservation id hnot.2, hsame.reservation id hnot.1]

end Each

/-! ## The whole freeze -/

theorem map_id_zipIdx (l : List SelectedRecipient) : l.zipIdx.map (·.1.id) = l.map (·.id) := by
  conv_rhs => rw [← List.zipIdx_map_fst 0 l]
  rw [List.map_map]
  rfl

theorem exists_mem_zipIdx {l : List SelectedRecipient} {s : SelectedRecipient} (h : s ∈ l) :
    ∃ index, (s, index) ∈ l.zipIdx := by
  rw [← List.zipIdx_map_fst 0 l] at h
  obtain ⟨⟨s', index⟩, hmem, rfl⟩ := List.mem_map.1 h
  exact ⟨index, hmem⟩

/-- The freeze of all selected recipients. -/
theorem traverse_check {env : Environment} {campaign : Campaign} {expiresAt : Int} {check : Check}
    {db db' : Db} {reasons : List (Option String)}
    (h : (Tx.traverse (fun s => freezeRecipient env campaign check.cutoff expiresAt
      (check.reserved db) s.1 s.2) (check.selected db).zipIdx).run
        (withoutExpired db check.id.shopId check.deletedAt) = .ok (reasons, db')) :
    reasons.filterMap (fun reason => reason) = check.skipped db ∧
      (∀ s index, (s, index) ∈ (check.selected db).zipIdx → Outcome env expiresAt s index
        (withoutExpired db check.id.shopId check.deletedAt) db' (check.reason db s)) ∧
      Same (fun id => id ∉ (check.selected db).map (·.id))
        (withoutExpired db check.id.shopId check.deletedAt) db' := by
  have hnodup : ((check.selected db).zipIdx.map (·.1.id)).Nodup := by
    rw [map_id_zipIdx]
    exact selectedRecipients_nodup _ _ _
  obtain ⟨rfl, houtcome, hsame⟩ := traverse_spec hnodup h
  have hreason : ∀ s ∈ (check.selected db).zipIdx, freezeSkipReason s.1.contact check.cutoff
      ((check.reserved db).contains s.1.id.creatorId) = check.reason db s.1 := by
    intro s hs
    rw [contains_reserved (List.fst_mem_of_mem_zipIdx hs)]
    rfl
  refine ⟨?_, ?_, ?_⟩
  · rw [List.map_congr_left hreason]
    unfold Check.skipped
    conv_rhs => rw [← List.zipIdx_map_fst 0 (check.selected db)]
    rw [List.filterMap_map, List.filterMap_map]
    rfl
  · intro s index hs
    have hs' := houtcome (s, index) hs
    rwa [hreason (s, index) hs] at hs'
  · rwa [map_id_zipIdx] at hsame

/-- What a freeze that returned has done. -/
structure Froze (env : Environment) (expiresAt : Int) (check : Check) (db db' : Db) : Prop where
  current : db.campaigns.get check.id = some check.current
  ready : check.current.state = .PREVIEW_READY
  kept : ∀ s index, (s, index) ∈ (check.selected db).zipIdx → check.reason db s = none →
    Keeps env expiresAt s index db db'
  dropped : ∀ s reason, s ∈ check.selected db → check.reason db s = some reason →
    db'.recipients.get s.id = (db.recipients.get s.id).map (skippedRow reason)
  recipients : ∀ id, id ∉ (check.selected db).map (·.id) →
    db'.recipients.get id = db.recipients.get id
  reservations : ∀ id, db.reservations.get id = none →
    (∀ s ∈ check.selected db, s.id = id → (check.reason db s).isSome) →
    db'.reservations.get id = none
  campaign : ∃ after, db'.campaigns.get check.id = some after ∧
    after.targetCount = check.current.targetCount ∧
    after.summary = finalSummary check.current.summary check.current.targetCount
      (check.selected db).length (check.skipped db) ∧
    after.state = if (check.skipped db).length = (check.selected db).length then .PREVIEW_EXPIRED
      else .FROZEN
  emptied : (check.skipped db).length = (check.selected db).length →
    ∀ id, id.campaignId = check.id → db'.reservations.get id = none

/-- A freeze skips all its recipients when it has as many reasons as recipients. -/
theorem skipped_all_iff {check : Check} {db : Db} :
    (check.skipped db).length = (check.selected db).length ↔
      ∀ s ∈ check.selected db, (check.reason db s).isSome :=
  List.filterMap_length_eq_length

/-- What is left to do after the recipients. -/
theorem froze_of_outcomes {env : Environment} {expiresAt : Int} {check : Check} {db db1 db' : Db}
    (hcurrent : db.campaigns.get check.id = some check.current)
    (hready : check.current.state = .PREVIEW_READY)
    (houtcome : ∀ s index, (s, index) ∈ (check.selected db).zipIdx → Outcome env expiresAt s index
      (withoutExpired db check.id.shopId check.deletedAt) db1 (check.reason db s))
    (hsame : Same (fun id => id ∉ (check.selected db).map (·.id))
      (withoutExpired db check.id.shopId check.deletedAt) db1)
    (hrecipients : db'.recipients = db1.recipients)
    (hreservations : ∀ id, db'.reservations.get id =
      if (check.skipped db).length = (check.selected db).length ∧ id.campaignId = check.id then none
      else db1.reservations.get id)
    (hcampaign : ∃ after, db'.campaigns.get check.id = some after ∧
      after.targetCount = check.current.targetCount ∧
      after.summary = finalSummary check.current.summary check.current.targetCount
        (check.selected db).length (check.skipped db) ∧
      after.state = if (check.skipped db).length = (check.selected db).length then .PREVIEW_EXPIRED
        else .FROZEN) : Froze env expiresAt check db db' where
  current := hcurrent
  ready := hready
  kept := by
    intro s index hs hreason
    have hsome : ¬ (check.skipped db).length = (check.selected db).length := by
      intro hall
      have hs' := skipped_all_iff.1 hall s (List.fst_mem_of_mem_zipIdx hs)
      rw [hreason] at hs'
      cases hs'
    have hkeeps := houtcome s index hs
    rw [hreason] at hkeeps
    obtain ⟨message, hrow⟩ := hkeeps.row
    refine ⟨⟨message, ?_⟩, hkeeps.openId, ?_⟩
    · rw [hrecipients]
      exact hrow
    · rw [hreservations, if_neg (fun h => hsome h.1)]
      exact hkeeps.reservation
  dropped := by
    intro s reason hs hreason
    obtain ⟨index, hindex⟩ := exists_mem_zipIdx hs
    have hskips := houtcome s index hindex
    rw [hreason] at hskips
    rw [hrecipients]
    exact hskips.row
  recipients := by
    intro id hid
    rw [hrecipients]
    exact hsame.recipient id hid
  reservations := by
    intro id hnone hskipped
    have hbefore : (withoutExpired db check.id.shopId check.deletedAt).reservations.get id = none := by
      unfold withoutExpired
      rw [Table.get_deleteMany, hnone]
      rfl
    rw [hreservations]
    split
    · rfl
    · by_cases hid : id ∈ (check.selected db).map (·.id)
      · obtain ⟨s, hs, rfl⟩ := List.mem_map.1 hid
        obtain ⟨index, hindex⟩ := exists_mem_zipIdx hs
        obtain ⟨reason, hreason⟩ := Option.isSome_iff_exists.1 (hskipped s hs rfl)
        have hskips := houtcome s index hindex
        rw [hreason] at hskips
        rw [hskips.reservation, hbefore]
      · rw [hsame.reservation id hid, hbefore]
  campaign := hcampaign
  emptied := by
    intro hall id hid
    rw [hreservations, if_pos ⟨hall, hid⟩]

theorem get_updateOne_self {t : Table CampaignId Campaign} {c : CampaignId} {campaign : Campaign}
    (h : t.get c = some campaign) (f : Campaign → Campaign) :
    (t.updateMany (fun c' _ => c' = c) f).get c = some (f campaign) := by
  simp [h]

theorem of_freeze {env : Environment} {c : CampaignId} {version : Int} {campaign : Campaign}
    {expiresAt deletedAt eligibilityCheckedAt frozenAt : Int} {db db' : Db}
    (h : (freeze env c version campaign expiresAt deletedAt eligibilityCheckedAt frozenAt).run db =
      .ok ((), db')) :
    ∃ current, Froze env expiresAt ⟨c, current, deletedAt, eligibilityCheckedAt⟩ db db' := by
  simp only [freeze, Tx.run_bind, Tx.run_read, Except.bind] at h
  split at h
  · cases h
  simp only [Tx.run_bind, run_lockCreatorEligibility, Except.bind] at h
  split at h
  · cases h
  next current hread =>
  obtain ⟨hcurrent, hdb⟩ := Tx.run_readOrThrow_eq_ok.1 hread
  obtain ⟨current, db0⟩ := current
  obtain rfl : db0 = db := hdb
  dsimp only at h hcurrent
  split at h
  · cases h
  next hready =>
  simp only [not_or, not_not] at hready
  simp only [Tx.run_bind, Tx.run_deleteMany, Tx.run_read, Except.bind, table.reservations] at h
  change (if (selectedRecipients db0 c current.rankingDirection).isEmpty then _ else _ :
    Transaction Unit).run (withoutExpired db0 c.shopId deletedAt) = _ at h
  split at h
  · cases h
  simp only [Tx.run_bind, Tx.run_read, Except.bind] at h
  split at h
  · cases h
  next reasons htraverse =>
  obtain ⟨reasons, db2⟩ := reasons
  have htraverse' : (Tx.traverse (fun s => freezeRecipient env campaign
      (Check.mk c current deletedAt eligibilityCheckedAt).cutoff expiresAt
      ((Check.mk c current deletedAt eligibilityCheckedAt).reserved db0) s.1 s.2)
      ((Check.mk c current deletedAt eligibilityCheckedAt).selected db0).zipIdx).run
      (withoutExpired db0 c.shopId deletedAt) = .ok (reasons, db2) := htraverse
  obtain ⟨hskipped, houtcome, hsame⟩ := traverse_check htraverse'
  have hcount : (reasons.filterMap (fun reason => reason)).length =
      ((Check.mk c current deletedAt eligibilityCheckedAt).skipped db0).length := by rw [hskipped]
  have hcampaign : db2.campaigns.get c = some current := by
    rw [hsame.campaigns]
    exact hcurrent
  refine ⟨current, ?_⟩
  dsimp only at h
  rw [hskipped] at h
  split at h
  · next hall =>
    simp at h
    obtain ⟨_, rfl⟩ := h
    refine froze_of_outcomes hcurrent hready.1 houtcome hsame rfl ?_ ?_
    · intro id
      have hdelete := Table.get_deleteKeys db2.reservations (fun id' => decide (id'.campaignId = c)) id
      by_cases hid : id.campaignId = c
      · rw [if_pos ⟨hall, hid⟩]
        simp [hid]
      · rw [if_neg (fun h => hid h.2)]
        simpa [hid] using hdelete
    · refine ⟨_, get_updateOne_self hcampaign _, rfl, rfl, ?_⟩
      exact (if_pos hall).symm
  · next hsome =>
    simp at h
    obtain ⟨_, rfl⟩ := h
    refine froze_of_outcomes hcurrent hready.1 houtcome hsame rfl ?_ ?_
    · intro id
      rw [if_neg (fun h => hsome h.1)]
    · refine ⟨_, get_updateOne_self hcampaign _, rfl, rfl, ?_⟩
      exact (if_neg hsome).symm

end tiktok_outreach.freeze_runs
