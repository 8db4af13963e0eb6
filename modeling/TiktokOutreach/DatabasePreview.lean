-- The preview of a campaign from the creator database: `rebuildFromCreatorDatabase`
-- (apps/api/src/outreach/outreach.service.ts), and which of its creators become
-- recipients. The rows of the discovery candidates and of the audit are left out.
import TiktokOutreach.CampaignCreation
import TiktokOutreach.FreezeAccounts
import TiktokOutreach.OperatorActions
import TiktokOutreach.SendRows
import TiktokOutreach.Lib.Pages
import TiktokOutreach.Lib.Transcripts

open tables transactions executions tiktok_outreach.schema tiktok_outreach.preview
  tiktok_outreach.preview_rules tiktok_outreach.outreach_service tiktok_outreach.local_preview
  tiktok_outreach.commands tiktok_outreach.dispatch_core tiktok_outreach.footprints
  tiktok_outreach.campaign_creation tiktok_outreach.freeze_runs
  tiktok_outreach.freeze_accounts

namespace tiktok_outreach.database_preview

/-! ## The creator database -/

/-- A row of `CreatorMetricSnapshot`. A decimal is its text. -/
structure MetricSnapshot where
  id : Nat
  sourceFetchedAt : Int
  categoryIds : List String := []
  followerCount : Option ℚ := none
  gmvAmount : Option String := none
  gmvCurrency : Option String := none
  unitsSold : Option ℚ := none
  avgVideoViews : Option ℚ := none
  avgLiveViewers : Option ℚ := none
  engagementRate : Option ℚ := none

/-- A creator with what the preview of a shop includes. -/
structure CreatorRow where
  creatorOpenId : Option String
  username : Option String := none
  nickname : Option String := none
  /-- The snapshots for the shop. -/
  snapshots : List MetricSnapshot
  /-- The identifiers of the verified open ids. -/
  verifiedIds : List String
  contact : Option ContactRow := none

/-- What the preview of a shop reads. The open ids of the creators are unique. -/
structure CreatorDatabase where
  creators : Table Nat CreatorRow
  unique : ∀ i j a b, creators.get i = some a → creators.get j = some b →
    a.creatorOpenId = b.creatorOpenId → a.creatorOpenId.isSome = true → i = j
  /-- The open ids of the creators whose reservation in the shop has not expired. -/
  reservations : List (Option String)
  unresolvedHistoricalCreators : Nat
  unresolvedHistoricalOutboundContacts : Nat

/-! ## The candidates -/

structure DatabaseCandidate extends CreatorCandidate where
  databaseCreatorId : Nat
  databaseSourceFetchedAt : Int

/-- `orderBy: [{ sourceFetchedAt: "desc" }, { id: "desc" }]` -/
def latestSnapshot (row : CreatorRow) : Option MetricSnapshot :=
  (row.snapshots.insertionSort (fun a b => b.sourceFetchedAt < a.sourceFetchedAt ∨
    (a.sourceFetchedAt = b.sourceFetchedAt ∧ b.id ≤ a.id))).head?

/-- The `where` of the reads. -/
def listed (_ : Nat) (row : CreatorRow) : Bool :=
  row.creatorOpenId.isSome && !row.verifiedIds.isEmpty && !row.snapshots.isEmpty

def pageSize : Nat := 1000

/-- The creators of all pages. Each page but the last one is full, so that the fuel suffices. -/
def databaseCreators (database : CreatorDatabase) : List (Nat × CreatorRow) :=
  let rows := database.creators.findMany listed
  pages.readPages Prod.fst pageSize rows (rows.length + 1) none

def candidateOf (creator : Nat × CreatorRow) : Option DatabaseCandidate :=
  match given creator.2.creatorOpenId, latestSnapshot creator.2 with
  | some creatorOpenId, some snapshot =>
    if creator.2.verifiedIds.contains creatorOpenId then some {
      creatorOpenId
      username := creator.2.username
      nickname := creator.2.nickname
      categoryIds := snapshot.categoryIds
      followerCount := snapshot.followerCount
      gmv := snapshot.gmvAmount.bind (fun amount =>
        (given snapshot.gmvCurrency).map (fun currency => ⟨amount, currency⟩))
      unitsSold := snapshot.unitsSold
      avgVideoViews := snapshot.avgVideoViews
      avgLiveViewers := snapshot.avgLiveViewers
      engagementRate := snapshot.engagementRate
      discoveryOrdinal := 0
      databaseCreatorId := creator.1
      databaseSourceFetchedAt := snapshot.sourceFetchedAt }
    else none
  | _, _ => none

section Preview

variable (lang : Language)

/-- The comparison of the sort does not put `a` behind `b`. -/
def notStaler (a b : DatabaseCandidate) : Bool :=
  if a.databaseSourceFetchedAt = b.databaseSourceFetchedAt then
    localeLe lang a.creatorOpenId b.creatorOpenId
  else b.databaseSourceFetchedAt < a.databaseSourceFetchedAt

def candidates (database : CreatorDatabase) : List DatabaseCandidate :=
  (((databaseCreators database).filterMap candidateOf).insertionSort
    (fun a b => notStaler lang a b)).zipIdx.map
      (fun c => { c.1 with discoveryOrdinal := (c.2 : ℚ) })

/-- The contacts by the open ids of the candidates. -/
def contacts (database : CreatorDatabase) : Table String ContactState :=
  Table.ofList ((databaseCreators database).filterMap (fun creator =>
    (candidateOf creator).map (fun candidate =>
      (candidate.creatorOpenId, contactState creator.2.contact))))

def databaseInput (created : CreatedCampaign) (database : CreatorDatabase) (now : Int) :
    PreviewInput where
  creators := (candidates lang database).map (·.toCreatorCandidate)
  filters := created.filters
  contacts := contacts database
  activeReservations := database.reservations.filterMap given
  requested := created.campaign.targetCount
  cooldownDays := created.campaign.cooldownDays
  rankingMetric := created.rankingMetric
  rankingDirection := some created.campaign.rankingDirection
  now

/-! ## `rebuildFromCreatorDatabase` -/

/-- The creators without those whose open ids are selected. -/
def others (creators : List EvaluatedCreator) : List EvaluatedCreator :=
  let selectedIds := (creators.filter (·.selected)).map (·.creatorOpenId)
  creators.filter (fun creator => !selectedIds.contains creator.creatorOpenId)

/-- The selected creators, and then the others, up to the limit. -/
def retained (creators : List EvaluatedCreator) (candidateLimit : Int) : List EvaluatedCreator :=
  let ordered := creators.filter (·.selected) ++ others creators
  ordered.take (sliceLength ordered.length candidateLimit)

def skipReasonText : SkipReason → String
  | .INVALID_MESSAGING_ID => "INVALID_MESSAGING_ID"
  | .FILTER_MISMATCH => "FILTER_MISMATCH"
  | .DUPLICATE => "DUPLICATE"
  | .DO_NOT_CONTACT => "DO_NOT_CONTACT"
  | .DELIVERY_UNKNOWN => "DELIVERY_UNKNOWN"
  | .COOLDOWN => "COOLDOWN"
  | .CONTACTED_BY_APP_WITHIN_COOLDOWN => "CONTACTED_BY_APP_WITHIN_COOLDOWN"
  | .ACTIVE_RESERVATION => "ACTIVE_RESERVATION"

/-- A value of the column `Decimal(24, 6)`, in millionths. -/
def rankingColumn (value : ℚ) : Int :=
  if value < 0 then -⌊-value * 1000000 + 1 / 2⌋ else ⌊value * 1000000 + 1 / 2⌋

/-- The row of a recipient. The candidate of its open id has to be there. -/
def recipientRow (uuid : Nat → Nat) (candidateByOpenId : Table String DatabaseCandidate)
    (evaluated : EvaluatedCreator) : Except Failure RetainedCreator :=
  match candidateByOpenId.get evaluated.creatorOpenId with
  | none => .error (.other "Cannot read properties of undefined")
  | some candidate => .ok {
      uuid := uuid candidate.databaseCreatorId
      creatorId := candidate.databaseCreatorId
      eligibility := evaluated.eligibility
      skipReason := evaluated.skipReason.map skipReasonText
      rankingValue := rankingColumn evaluated.rankingValue
      discoveryOrdinal := candidate.discoveryOrdinal.num
      selected := evaluated.selected }

def databaseSummary (database : CreatorDatabase) (summary : PreviewSummary) :
    List (String × Int) :=
  withValue (withValue (summaryColumn summary) "unresolvedHistoricalCreators"
      database.unresolvedHistoricalCreators)
    "unresolvedHistoricalOutboundContacts" database.unresolvedHistoricalOutboundContacts

/-- The recipients and the summary that the rebuild stores. `uuid` gives the ids of new rows. -/
def databasePreview (created : CreatedCampaign) (database : CreatorDatabase) (uuid : Nat → Nat)
    (now : Int) : Except Failure (List RetainedCreator × List (String × Int)) :=
  if (candidates lang database).isEmpty then .error (.badRequest
    "Creator database is empty; import or sync creators before creating an Outreach preview")
  else match buildPreview lang (databaseInput lang created database now) with
  | .error message => .error (.other message)
  | .ok preview => do
    let rows ← (retained preview.creators created.candidateLimit).mapM (recipientRow uuid
      (Table.ofList ((candidates lang database).map (fun c => (c.creatorOpenId, c)))))
    return (rows, databaseSummary database preview.summary)

/-! ## `discover` with nothing beside it -/

/-- What a transaction returns and leaves. -/
def outcomeOf {α : Type} (result : Except Failure (α × Db)) (db : Db) : Except Failure α × Db :=
  match result with
  | .ok (a, db') => (.ok a, db')
  | .error e => (.error e, db)

/-- The answers of the calls on a database that nobody else writes, for the campaign that was
created. -/
def Alone (env : Environment) (options : outbound_throttle.Options) (created : CreatedCampaign)
    (database : CreatorDatabase) (uuid : Nat → Nat) (now : Int) (db : Db) :
    (call : Call) → call.Answer → Db → Prop
  | .db command, answer, db' => ∃ ambient,
      outcomeOf ((command.body env options ambient).run db) db = (answer, db')
  | .buildPreview _, answer, db' =>
      databasePreview lang created database uuid now = answer ∧ db' = db
  | _, _, _ => False

end Preview

/-- What the recipients of a campaign owe to the preview: their selected ones are as many as the
summary says, no creator has two of them, and no selected creator is cut off. -/
structure Persisted (lang : Language) (created : CreatedCampaign) (database : CreatorDatabase)
    (now : Int) (c : CampaignId) (db : Db) : Prop where
  counted : ∃ campaign, db.campaigns.get c = some campaign ∧
    numberValue campaign.summary "selected" = selectedCount db c
  once : ∀ id id' r r', db.recipients.get id = some r → db.recipients.get id' = some r' →
    id.campaignId = c → id'.campaignId = c → id.creatorId = id'.creatorId → id = id'
  kept : ∀ creator ∈ creators lang (databaseInput lang created database now),
    creator.selected = true → ∃ candidate ∈ candidates lang database,
      candidate.creatorOpenId = creator.creatorOpenId ∧ ∃ id r, db.recipients.get id = some r ∧
        id.campaignId = c ∧ id.creatorId = candidate.databaseCreatorId ∧ r.selected = true

/-- The number of the creators that may be written to. -/
def writable (lang : Language) (created : CreatedCampaign) (database : CreatorDatabase)
    (now : Int) : Nat :=
  let input := databaseInput lang created database now
  input.creators.countP (fun creator => (skip lang input [] creator).1.isNone)

/-! ## The recipients of a rebuild -/

section Recipients

variable {c : CampaignId} {rows : List RetainedCreator} {us : List Unit} {db db' : Db}

/-- No creator is twice a recipient of the campaign. -/
def Once (c : CampaignId) (db : Db) : Prop :=
  ∀ id id' r r', db.recipients.get id = some r → db.recipients.get id' = some r' →
    id.campaignId = c → id'.campaignId = c → id.creatorId = id'.creatorId → id = id'

/-- A recipient is created when its campaign has none for the creator. -/
theorem createRecipient_eq_ok {row : RetainedCreator} {u : Unit}
    (h : (createRecipient c row).run db = .ok (u, db')) :
    (∀ id r, db.recipients.get id = some r → id.campaignId = c → id.creatorId ≠ row.creatorId) ∧
      db' = { db with
        recipients := db.recipients.set ⟨row.uuid, c, row.creatorId⟩ row.recipient } := by
  simp only [createRecipient, Tx.run_create, table.recipients] at h
  split at h
  · cases h
  next hfree =>
  cases h
  refine ⟨?_, rfl⟩
  intro id r hr hcampaign hcreator
  simp only [Bool.or_eq_true, not_or, Bool.not_eq_true] at hfree
  have hnone := (Table.any_eq_false_iff _ _).1 hfree.2 id r hr
  simp [hcampaign, hcreator] at hnone

theorem createRecipients_rows
    (h : (Tx.traverse (createRecipient c) rows).run db = .ok (us, db')) (honce : Once c db) :
    Once c db' ∧ (∀ id r, db.recipients.get id = some r → db'.recipients.get id = some r) ∧
      ∀ row ∈ rows, db'.recipients.get ⟨row.uuid, c, row.creatorId⟩ = some row.recipient := by
  induction rows generalizing db us with
  | nil =>
    cases h
    exact ⟨honce, fun _ _ hr => hr, by simp⟩
  | cons row rest ih =>
    simp only [Tx.traverse, Tx.run_bind, Tx.bind_eq_ok, Tx.run_ret] at h
    obtain ⟨⟨_, db1⟩, h1, ⟨_, db2⟩, h2, h3⟩ := h
    cases h3
    obtain ⟨hfree, rfl⟩ := createRecipient_eq_ok h1
    have hstays : ∀ id r, db.recipients.get id = some r →
        (db.recipients.set ⟨row.uuid, c, row.creatorId⟩ row.recipient).get id = some r := by
      intro id r hr
      rw [Table.get_set, if_neg, hr]
      rintro rfl
      exact hfree _ r hr rfl rfl
    have honce1 : Once c { db with
        recipients := db.recipients.set ⟨row.uuid, c, row.creatorId⟩ row.recipient } := by
      intro id id' r r' hr hr' hc hc' hsame
      simp only [Table.get_set] at hr hr'
      split at hr <;> split at hr'
      · next hid hid' => rw [hid, hid']
      · next hid _ =>
        subst hid
        exact absurd hsame.symm (hfree id' r' hr' hc')
      · next _ hid' =>
        subst hid'
        exact absurd hsame (hfree id r hr hc)
      · exact honce id id' r r' hr hr' hc hc' hsame
    obtain ⟨hafter, hkept, hrows⟩ := ih h2 honce1
    refine ⟨hafter, fun id r hr => hkept id r (hstays id r hr), ?_⟩
    intro row' hrow'
    rcases List.mem_cons.1 hrow' with rfl | hrest
    · exact hkept _ _ (by simp)
    · exact hrows row' hrest

/-- What a rebuild leaves of a campaign. -/
theorem of_rebuild {summary : List (String × Int)}
    (h : (rebuild c rows summary).run db = .ok ((), db')) :
    (∃ campaign, db'.campaigns.get c = some campaign ∧ campaign.summary = summary) ∧
      Once c db' ∧ selectedCount db' c = rows.countP (·.selected) ∧
      ∀ row ∈ rows, db'.recipients.get ⟨row.uuid, c, row.creatorId⟩ = some row.recipient := by
  simp [rebuild, deleteRecipients] at h
  obtain ⟨hcampaign, _, db1, htraverse, hcampaign', _, rfl⟩ := h
  obtain ⟨honce, _, hrows⟩ := createRecipients_rows htraverse (by
    intro id _ r _ hr _ hc _ _
    simp [hc] at hr)
  have hcount : selectedCount db1 c = rows.countP (·.selected) := by
    rw [createRecipients_count htraverse]
    unfold selectedCount
    rw [count_deleted, Nat.zero_add]
  obtain ⟨campaign, hc⟩ := Option.isSome_iff_exists.1 hcampaign'
  exact ⟨⟨_, get_updateOne_self hc _, rfl⟩, honce, hcount, hrows⟩

/-! ## What is retained -/

section Retained

variable {creators : List EvaluatedCreator} {candidateLimit : Int} {uuid : Nat → Nat}
  {candidateByOpenId : Table String DatabaseCandidate}

theorem rows_of_mapM (h : creators.mapM (recipientRow uuid candidateByOpenId) = .ok rows) :
    List.Forall₂ (fun creator row => row.selected = creator.selected ∧ ∃ candidate,
      candidateByOpenId.get creator.creatorOpenId = some candidate ∧
        row.creatorId = candidate.databaseCreatorId) creators rows := by
  induction creators generalizing rows with
  | nil =>
    cases h
    exact List.Forall₂.nil
  | cons creator rest ih =>
    rw [List.mapM_cons] at h
    cases hrow : recipientRow uuid candidateByOpenId creator with
    | error e =>
      rw [hrow] at h
      cases h
    | ok row =>
      rw [hrow] at h
      cases hrest : rest.mapM (recipientRow uuid candidateByOpenId) with
      | error e =>
        rw [hrest] at h
        cases h
      | ok rows' =>
        rw [hrest] at h
        cases h
        refine List.Forall₂.cons ?_ (ih hrest)
        unfold recipientRow at hrow
        split at hrow
        · cases hrow
        next candidate hget =>
        cases hrow
        exact ⟨rfl, candidate, hget, rfl⟩

theorem exists_row {α β : Type} {R : α → β → Prop} {as : List α} {bs : List β}
    (h : List.Forall₂ R as bs) {a : α} (hmem : a ∈ as) : ∃ b ∈ bs, R a b := by
  induction h with
  | nil => cases hmem
  | @cons _ b _ _ hb _ ih =>
    rcases List.mem_cons.1 hmem with rfl | hrest
    · exact ⟨b, List.mem_cons_self, hb⟩
    · obtain ⟨b', hb', hR⟩ := ih hrest
      exact ⟨b', List.mem_cons_of_mem _ hb', hR⟩

theorem countP_rows {R : EvaluatedCreator → RetainedCreator → Prop}
    (h : List.Forall₂ R creators rows) (hR : ∀ creator row, R creator row →
      row.selected = creator.selected) :
    rows.countP (·.selected) = creators.countP (·.selected) := by
  induction h with
  | nil => rfl
  | cons hrow _ ih => rw [List.countP_cons, List.countP_cons, ih, hR _ _ hrow]

theorem not_selected_of_others {creator : EvaluatedCreator} (h : creator ∈ others creators) :
    creator.selected = false := by
  obtain ⟨hcreator, hother⟩ := List.mem_filter.1 h
  by_contra hselected
  rw [Bool.not_eq_false] at hselected
  have hlisted : creator.creatorOpenId ∈ (creators.filter (·.selected)).map (·.creatorOpenId) :=
    List.mem_map_of_mem (List.mem_filter.2 ⟨hcreator, hselected⟩)
  rw [Bool.not_eq_true', ← Bool.not_eq_true, List.contains_iff_mem] at hother
  exact hother hlisted

theorem sliceLength_of_nonneg (n : Nat) (hlimit : 0 ≤ candidateLimit) :
    sliceLength n candidateLimit = candidateLimit.toNat := by
  unfold sliceLength
  rw [if_neg (by omega)]

/-- The limit cuts off selected creators when there are more of them. -/
theorem countP_retained (hlimit : 0 ≤ candidateLimit) :
    (retained creators candidateLimit).countP (·.selected) =
      min candidateLimit.toNat (creators.countP (·.selected)) := by
  have hselected : ∀ k, ((creators.filter (·.selected)).take k).countP (·.selected) =
      min k (creators.filter (·.selected)).length := by
    intro k
    rw [List.countP_eq_length.2, List.length_take]
    intro creator hmem
    exact (List.mem_filter.1 (List.mem_of_mem_take hmem)).2
  have hothers : ∀ k, ((others creators).take k).countP (·.selected) = 0 := by
    intro k
    rw [List.countP_eq_zero]
    intro creator hmem
    rw [not_selected_of_others (List.mem_of_mem_take hmem)]
    exact Bool.false_ne_true
  unfold retained
  dsimp only
  rw [sliceLength_of_nonneg _ hlimit, List.take_append, List.countP_append, hselected, hothers,
    Nat.add_zero, ← List.countP_eq_length_filter]

/-- Within the limit every selected creator is retained. -/
theorem mem_retained (hlimit : 0 ≤ candidateLimit)
    (hfits : (creators.countP (·.selected) : Int) ≤ candidateLimit) {creator : EvaluatedCreator}
    (hmem : creator ∈ creators) (hselected : creator.selected = true) :
    creator ∈ retained creators candidateLimit := by
  rw [List.countP_eq_length_filter] at hfits
  unfold retained
  dsimp only
  rw [sliceLength_of_nonneg _ hlimit, List.take_append, List.take_of_length_le (by omega)]
  exact List.mem_append_left _ (List.mem_filter.2 ⟨hmem, hselected⟩)

end Retained

end Recipients

/-! ## The candidates of a database -/

section Candidates

variable {lang : Language} {created : CreatedCampaign} {database : CreatorDatabase} {now : Int}

theorem databaseCreators_perm :
    (databaseCreators database).Perm (database.creators.findMany listed) := by
  have hkeys : ((database.creators.findMany listed).map Prod.fst).Nodup :=
    database.creators.nodup.sublist (List.filter_sublist.map Prod.fst)
  have hall : pages.behind Prod.fst (database.creators.findMany listed) none =
      database.creators.findMany listed := List.filter_eq_self.2 (fun _ _ => rfl)
  unfold databaseCreators
  dsimp only
  have hpages := @pages.readPages_perm _ Nat _ Prod.fst pageSize
    (database.creators.findMany listed) (by decide) hkeys
    ((database.creators.findMany listed).length + 1) none (by rw [hall]; omega)
  rw [hall] at hpages
  exact hpages

/-- A candidate has the open id and the key of its creator. -/
theorem of_candidateOf {creator : Nat × CreatorRow} {candidate : DatabaseCandidate}
    (h : candidateOf creator = some candidate) :
    creator.2.creatorOpenId = some candidate.creatorOpenId ∧
      candidate.databaseCreatorId = creator.1 ∧ candidate.creatorOpenId ≠ "" := by
  unfold candidateOf at h
  split at h
  · next creatorOpenId snapshot hid _ =>
    split at h
    · cases h
      unfold given at hid
      rw [Option.filter_eq_some_iff] at hid
      exact ⟨hid.1, rfl, by simpa using hid.2⟩
    · cases h
  · cases h

/-- The candidates as they are read, in the order of the pages. -/
def readCandidates (database : CreatorDatabase) : List DatabaseCandidate :=
  (databaseCreators database).filterMap candidateOf

theorem candidates_perm {β : Type} (f : DatabaseCandidate → β)
    (hf : ∀ (candidate : DatabaseCandidate) (ordinal : ℚ),
      f { candidate with discoveryOrdinal := ordinal } = f candidate) :
    ((candidates lang database).map f).Perm ((readCandidates database).map f) := by
  have hsame : (candidates lang database).map f =
      ((readCandidates database).insertionSort (fun a b => notStaler lang a b)).map f := by
    unfold candidates readCandidates
    rw [List.map_map]
    have hfst := List.zipIdx_map_fst 0 (((databaseCreators database).filterMap
      candidateOf).insertionSort (fun a b => notStaler lang a b))
    conv_rhs => rw [← hfst, List.map_map]
    apply List.map_congr_left
    intro c _
    exact hf c.1 _
  rw [hsame]
  exact (List.perm_insertionSort _ _).map f

/-- What tells the creators of the database apart tells the candidates apart. -/
theorem nodup_candidates {β : Type} (f : DatabaseCandidate → β)
    (hf : ∀ (candidate : DatabaseCandidate) (ordinal : ℚ),
      f { candidate with discoveryOrdinal := ordinal } = f candidate)
    (hkey : ∀ a a' candidate candidate', database.creators.get a.1 = some a.2 →
      database.creators.get a'.1 = some a'.2 → candidateOf a = some candidate →
      candidateOf a' = some candidate' → f candidate = f candidate' → a.1 = a'.1) :
    ((candidates lang database).map f).Nodup := by
  rw [(candidates_perm f hf).nodup_iff]
  unfold readCandidates
  rw [List.map_filterMap]
  have hrows : (databaseCreators database).Nodup := by
    rw [databaseCreators_perm.nodup_iff]
    exact (List.Nodup.of_map _ database.creators.nodup).filter _
  unfold List.Nodup at hrows ⊢
  rw [List.pairwise_filterMap]
  apply hrows.imp_of_mem
  rintro a a' ha ha' hne value hvalue value' hvalue' rfl
  obtain ⟨candidate, hcandidate, rfl⟩ := Option.map_eq_some_iff.1 hvalue
  obtain ⟨candidate', hcandidate', hsame⟩ := Option.map_eq_some_iff.1 hvalue'
  have hget := ((Table.mem_findMany _ _ _ _).1 (databaseCreators_perm.mem_iff.1 ha)).1
  have hget' := ((Table.mem_findMany _ _ _ _).1 (databaseCreators_perm.mem_iff.1 ha')).1
  have hsameKey := hkey a a' candidate candidate' hget hget' hcandidate hcandidate' hsame.symm
  rw [hsameKey, hget', Option.some.injEq] at hget
  exact hne (Prod.ext hsameKey hget.symm)

theorem nodup_openIds : ((candidates lang database).map (fun c => c.creatorOpenId)).Nodup := by
  refine nodup_candidates _ (fun _ _ => rfl) ?_
  intro a a' candidate candidate' hget hget' hcandidate hcandidate' hsame
  have hopen := (of_candidateOf hcandidate).1
  have hopen' := (of_candidateOf hcandidate').1
  rw [← hsame] at hopen'
  exact database.unique _ _ _ _ hget hget' (hopen.trans hopen'.symm) (by rw [hopen]; rfl)

theorem nodup_creatorIds : ((candidates lang database).map (·.databaseCreatorId)).Nodup := by
  refine nodup_candidates _ (fun _ _ => rfl) ?_
  intro a a' candidate candidate' _ _ hcandidate hcandidate' hsame
  rw [← (of_candidateOf hcandidate).2.1, ← (of_candidateOf hcandidate').2.1]
  exact hsame

/-- Without repeated open ids a creator is eligible when nothing forbids to write to it. -/
theorem countP_evaluateFrom {input : PreviewInput} {list : List CreatorCandidate}
    {seen : List String} (hnodup : (list.map (·.creatorOpenId)).Nodup)
    (hseen : ∀ creator ∈ list, creator.creatorOpenId ∉ seen) :
    (evaluateFrom lang input seen list).countP (fun c => c.eligibility = .ELIGIBLE) =
      list.countP (fun creator => (skip lang input [] creator).1.isNone) := by
  induction list generalizing seen with
  | nil => rfl
  | cons creator rest ih =>
    rw [List.map_cons, List.nodup_cons] at hnodup
    have hfirst : (evaluate lang input seen creator).eligibility = .ELIGIBLE ↔
        (skip lang input [] creator).1.isNone = true := by
      rw [eligible_evaluate, Option.isNone_iff_eq_none, skip_eq_none_iff]
      simp [hseen creator List.mem_cons_self]
    have hrest : ∀ other ∈ rest, other.creatorOpenId ∉ addSeen seen creator := by
      intro other hother
      have hnew := hseen other (List.mem_cons_of_mem _ hother)
      have hne : other.creatorOpenId ≠ creator.creatorOpenId := by
        intro hsame
        exact hnodup.1 (hsame ▸ List.mem_map_of_mem hother)
      unfold addSeen
      split
      · exact hnew
      · simp [hne, hnew]
    rw [evaluateFrom, List.countP_cons, List.countP_cons, ih hnodup.2 hrest]
    simp only [decide_eq_true_eq, hfirst]

theorem countP_eligible_databaseInput :
    (creators lang (databaseInput lang created database now)).countP
      (fun c => c.eligibility = .ELIGIBLE) = writable lang created database now := by
  rw [countP_eligible_creators]
  refine countP_evaluateFrom ?_ (by simp)
  unfold databaseInput
  rw [List.map_map]
  exact nodup_openIds

end Candidates

/-! ## What is persisted -/

section Persisted

variable {env : Environment} {options : outbound_throttle.Options} {lang : Language}
  {created : CreatedCampaign} {database : CreatorDatabase} {uuid : Nat → Nat} {now : Int}
  {c : CampaignId} {rows : List RetainedCreator} {summary : List (String × Int)} {db db' : Db}

theorem of_databasePreview
    (h : databasePreview lang created database uuid now = .ok (rows, summary)) :
    summary = databaseSummary database (summarize lang (databaseInput lang created database now)
      (creators lang (databaseInput lang created database now))) ∧
    (retained (creators lang (databaseInput lang created database now))
      created.candidateLimit).mapM (recipientRow uuid
        (Table.ofList ((candidates lang database).map (fun c => (c.creatorOpenId, c))))) =
      .ok rows := by
  unfold databasePreview at h
  split at h
  · cases h
  split at h
  · cases h
  next preview hpreview =>
  obtain ⟨_, _, hcreators, hsummary⟩ := of_buildPreview hpreview
  rw [hcreators, hsummary] at h
  cases hrows : (retained (creators lang (databaseInput lang created database now))
      created.candidateLimit).mapM (recipientRow uuid
        (Table.ofList ((candidates lang database).map (fun c => (c.creatorOpenId, c))))) with
  | error e =>
    rw [hrows] at h
    cases h
  | ok rows' =>
    rw [hrows] at h
    cases h
    exact ⟨rfl, rfl⟩

theorem selected_databaseSummary (hpositive : 0 ≤ created.campaign.targetCount) :
    numberValue (databaseSummary database (summarize lang (databaseInput lang created database now)
      (creators lang (databaseInput lang created database now)))) "selected" =
      (creators lang (databaseInput lang created database now)).countP (·.selected) := by
  have hselected := @selected_summarize lang (databaseInput lang created database now) hpositive
  rw [← hselected]
  simp [databaseSummary]
  rfl

/-- A rebuild persists every selected creator when the limit leaves room for them. -/
theorem persisted_of_rebuild (hpositive : 0 ≤ created.campaign.targetCount)
    (hlimit : 0 ≤ created.candidateLimit)
    (hpreview : databasePreview lang created database uuid now = .ok (rows, summary))
    (hrebuild : (rebuild c rows summary).run db = .ok ((), db')) :
    Persisted lang created database now c db' ↔
      ((creators lang (databaseInput lang created database now)).countP (·.selected) : Int) ≤
        created.candidateLimit := by
  obtain ⟨hsummary, hmapM⟩ := of_databasePreview hpreview
  obtain ⟨⟨campaign, hcampaign, hcolumn⟩, honce, hcount, hrows⟩ := of_rebuild hrebuild
  have hpaired := rows_of_mapM hmapM
  have hselected : numberValue campaign.summary "selected" =
      (creators lang (databaseInput lang created database now)).countP (·.selected) := by
    rw [hcolumn, hsummary]
    exact selected_databaseSummary hpositive
  rw [countP_rows hpaired (fun _ _ hrow => hrow.1), countP_retained hlimit] at hcount
  constructor
  · intro hpersisted
    obtain ⟨campaign', hcampaign', hcounted⟩ := hpersisted.counted
    rw [hcampaign, Option.some.injEq] at hcampaign'
    subst hcampaign'
    rw [hselected, hcount] at hcounted
    omega
  · intro hfits
    refine ⟨⟨campaign, hcampaign, ?_⟩, honce, ?_⟩
    · rw [hselected, hcount]
      omega
    · intro creator hmem hchosen
      have hretained := mem_retained hlimit hfits hmem hchosen
      obtain ⟨row, hrow, hsame, candidate, hget, hcreator⟩ :=
        exists_row hpaired hretained
      obtain ⟨candidate', hcandidate, hpair⟩ := List.mem_map.1 (Table.mem_of_get_ofList hget)
      obtain ⟨hid, rfl⟩ := Prod.mk.inj hpair
      exact ⟨candidate', hcandidate, hid, ⟨row.uuid, c, row.creatorId⟩, row.recipient,
        hrows row hrow, rfl, hcreator, hsame.trans hchosen⟩

theorem outcomeOf_ok {α : Type} {result : Except Failure (α × Db)} {a : α}
    (h : outcomeOf result db = (.ok a, db')) : result = .ok (a, db') := by
  unfold outcomeOf at h
  split at h
  · cases h
    rfl
  · cases h

theorem of_query {command : Command} {r : command.Result}
    (h : Js.Leads (Alone lang env options created database uuid now)
      (query command : commands.Program Unit command.Result) db (.ok r) db') :
    ∃ ambient, (command.body env options ambient).run db = .ok (r, db') := by
  obtain ⟨ambient, hanswer⟩ := Js.leads_call.1 h
  exact ⟨ambient, outcomeOf_ok hanswer⟩

/-- A `discover` that does not find the preview ready rebuilds it. -/
theorem of_discover
    (h : Js.Leads (Alone lang env options created database uuid now) (discover c) db (.ok ()) db')
    (hrebuilds : db.discoveryRuns.get c = some .COMPLETE →
      ∀ campaign, db.campaigns.get c = some campaign → campaign.state ≠ .PREVIEW_READY) :
    ∃ db1 rows summary, databasePreview lang created database uuid now = .ok (rows, summary) ∧
      (rebuild c rows summary).run db1 = .ok ((), db') := by
  unfold discover requiredCampaign at h
  rcases Js.leads_bind.1 h with ⟨e, _, hnever⟩ | ⟨n, db1, hexpire, hrest⟩
  · cases hnever
  rcases Js.leads_bind.1 hrest with ⟨e, _, hnever⟩ | ⟨campaign, db2, hcampaign, hafter⟩
  · cases hnever
  rcases Js.leads_bind.1 hafter with ⟨e, _, hnever⟩ | ⟨existing, db3, hexisting, hbody⟩
  · cases hnever
  obtain ⟨ambient, hexpire⟩ := of_query hexpire
  obtain ⟨_, hcampaign⟩ := of_query hcampaign
  obtain ⟨_, hexisting⟩ := of_query hexisting
  obtain ⟨hfound, rfl⟩ := Tx.run_readOrThrow_eq_ok.1 hcampaign
  dsimp only at hfound
  obtain ⟨rfl, rfl⟩ := Prod.mk.inj (Except.ok.inj hexisting)
  -- the sweep makes no preview ready, and leaves the runs alone
  have hruns : db2.discoveryRuns = db.discoveryRuns := by
    simpa [erase, footprint] using congrArg Db.discoveryRuns (erase_eq hexpire)
  have hnot : ¬ (db2.discoveryRuns.get c = some .COMPLETE ∧ campaign.state = .PREVIEW_READY) := by
    rintro ⟨hcomplete, hready⟩
    obtain ⟨gone, hgone⟩ := expireFrozenCampaigns_step hexpire
    have hcore : (coreOf db2).campaign c = some .PREVIEW_READY := by
      rw [coreOf_campaign, hfound]
      exact congrArg some hready
    rw [hgone.campaign c] at hcore
    split at hcore
    · cases hcore
    · obtain ⟨before, hbefore, hstate⟩ := Option.map_eq_some_iff.1 hcore
      rw [hruns] at hcomplete
      exact hrebuilds hcomplete before hbefore hstate
  rw [if_neg hnot] at hbody
  split at hbody
  · cases (Js.leads_throw.1 hbody).1
  rcases Js.leads_tryCatch.1 hbody with ⟨u, hbuilt, _⟩ | ⟨e, mid, _, hthrown⟩
  · unfold rebuildFromCreatorDatabase at hbuilt
    rcases Js.leads_bind.1 hbuilt with ⟨e, _, hnever⟩ | ⟨preview, db4, hcall, hquery⟩
    · cases hnever
    obtain ⟨hpreview, rfl⟩ := Js.leads_call.1 hcall
    obtain ⟨_, hrebuild⟩ := of_query hquery
    exact ⟨_, preview.1, preview.2, hpreview, hrebuild⟩
  · cases e with
    | badRequest message => cases (Js.leads_throw.1 hthrown).1
    | _ => cases (Js.leads_throw.1 hthrown).1

/-! ## A preview that is built -/

theorem nodup_retained_openIds :
    ((retained (creators lang (databaseInput lang created database now))
      created.candidateLimit).map (fun creator => creator.creatorOpenId)).Nodup := by
  have hall : ((creators lang (databaseInput lang created database now)).map
      (fun creator => creator.creatorOpenId)).Nodup := by
    have hcandidates := @creators_candidates lang (databaseInput lang created database now)
    have hids := congrArg (List.map (fun creator : CreatorCandidate => creator.creatorOpenId))
      hcandidates
    rw [List.map_map] at hids
    refine (congrArg List.Nodup hids).mpr ?_
    unfold databaseInput
    rw [List.map_map]
    exact nodup_openIds
  generalize creators lang (databaseInput lang created database now) = all at hall
  unfold retained
  refine List.Nodup.sublist ((List.take_sublist _ _).map _) ?_
  rw [List.map_append, List.nodup_append]
  refine ⟨hall.sublist (List.filter_sublist.map _), hall.sublist (List.filter_sublist.map _), ?_⟩
  rintro id hid id' hid' rfl
  obtain ⟨creator, hcreator, rfl⟩ := List.mem_map.1 hid'
  have hother := (List.mem_filter.1 hcreator).2
  rw [Bool.not_eq_true', ← Bool.not_eq_true, List.contains_iff_mem] at hother
  exact hother hid

theorem exists_rows (uuid : Nat → Nat) {list : List EvaluatedCreator}
    {candidateByOpenId : Table String DatabaseCandidate}
    (h : ∀ creator ∈ list, ∃ candidate, candidateByOpenId.get creator.creatorOpenId =
      some candidate) : ∃ rows, list.mapM (recipientRow uuid candidateByOpenId) = .ok rows := by
  induction list with
  | nil => exact ⟨[], rfl⟩
  | cons creator rest ih =>
    obtain ⟨candidate, hget⟩ := h creator List.mem_cons_self
    obtain ⟨rows, hrows⟩ := ih (fun other hother => h other (List.mem_cons_of_mem _ hother))
    obtain ⟨row, hrow⟩ : ∃ row, recipientRow uuid candidateByOpenId creator = .ok row := by
      unfold recipientRow
      rw [hget]
      exact ⟨_, rfl⟩
    refine ⟨row :: rows, ?_⟩
    rw [List.mapM_cons, hrow, hrows]
    rfl

/-- Different creators have different rows. -/
theorem nodup_rows {list : List EvaluatedCreator} {R : EvaluatedCreator → RetainedCreator → Prop}
    (h : List.Forall₂ R list rows) (hids : (list.map (fun creator => creator.creatorOpenId)).Nodup)
    (hR : ∀ creator creator' row row', R creator row → R creator' row' →
      row.creatorId = row'.creatorId → creator.creatorOpenId = creator'.creatorOpenId) :
    (rows.map (·.creatorId)).Nodup := by
  induction h with
  | nil => exact List.nodup_nil
  | @cons creator row rest rows' hrow hrest ih =>
    rw [List.map_cons, List.nodup_cons] at hids ⊢
    refine ⟨?_, ih hids.2⟩
    intro hmem
    obtain ⟨row', hrow', hsame⟩ := List.mem_map.1 hmem
    obtain ⟨creator', hcreator', hR'⟩ := exists_row (List.Forall₂.flip hrest) hrow'
    exact hids.1 (List.mem_map.2 ⟨creator', hcreator', hR _ _ _ _ hR' hrow hsame⟩)

/-- A database with candidates has a preview, whose recipients are of different creators. -/
theorem exists_databasePreview (uuid : Nat → Nat) (hne : candidates lang database ≠ [])
    (hdays : assertContactCooldownDays created.campaign.cooldownDays = .ok ()) :
    ∃ rows summary, databasePreview lang created database uuid now = .ok (rows, summary) ∧
      (rows.map (·.creatorId)).Nodup := by
  have hkeys : (((candidates lang database).map (fun c => (c.creatorOpenId, c))).map
      Prod.fst).Nodup := by
    rw [List.map_map]
    exact nodup_openIds
  have hfound : ∀ creator ∈ retained (creators lang (databaseInput lang created database now))
      created.candidateLimit, ∃ candidate, (Table.ofList ((candidates lang database).map
        (fun c => (c.creatorOpenId, c)))).get creator.creatorOpenId = some candidate := by
    intro creator hcreator
    have hall : creator ∈ creators lang (databaseInput lang created database now) := by
      rcases List.mem_append.1 (List.mem_of_mem_take hcreator) with hmem | hmem
      · exact (List.mem_filter.1 hmem).1
      · exact (List.mem_filter.1 hmem).1
    have hinput : creator.toCreatorCandidate ∈
        (databaseInput lang created database now).creators := by
      rw [← @creators_candidates lang (databaseInput lang created database now)]
      exact List.mem_map_of_mem hall
    obtain ⟨candidate, hcandidate, hsame⟩ := List.mem_map.1 hinput
    refine ⟨candidate, (Table.get_ofList_of_nodup hkeys).2
      (List.mem_map.2 ⟨candidate, hcandidate, ?_⟩)⟩
    rw [← hsame]
  obtain ⟨rows, hrows⟩ := exists_rows uuid hfound
  refine ⟨rows, databaseSummary database (summarize lang (databaseInput lang created database now)
    (creators lang (databaseInput lang created database now))), ?_, ?_⟩
  · have hbuilt : buildPreview lang (databaseInput lang created database now) =
        .ok ⟨creators lang (databaseInput lang created database now),
          summarize lang (databaseInput lang created database now)
            (creators lang (databaseInput lang created database now))⟩ := by
      unfold buildPreview
      rw [show assertContactCooldownDays (databaseInput lang created database now).cooldownDays =
        .ok () from hdays]
      rfl
    unfold databasePreview
    rw [if_neg (by simpa using hne), hbuilt]
    dsimp only
    rw [hrows]
    rfl
  · refine nodup_rows (rows_of_mapM hrows) nodup_retained_openIds ?_
    rintro creator creator' row row' ⟨_, candidate, hget, hrow⟩ ⟨_, candidate', hget', hrow'⟩ hsame
    obtain ⟨c1, hc1, hpair⟩ := List.mem_map.1 (Table.mem_of_get_ofList hget)
    obtain ⟨c2, hc2, hpair'⟩ := List.mem_map.1 (Table.mem_of_get_ofList hget')
    obtain ⟨hid, rfl⟩ := Prod.mk.inj hpair
    obtain ⟨hid', rfl⟩ := Prod.mk.inj hpair'
    rw [hrow, hrow'] at hsame
    rw [← hid, ← hid', List.inj_on_of_nodup_map nodup_creatorIds hc1 hc2 hsame]

theorem exists_createRecipients (hnodup : (rows.map (·.creatorId)).Nodup)
    (hfree : ∀ id r, db.recipients.get id = some r → id.campaignId = c →
      id.creatorId ∉ rows.map (·.creatorId)) :
    ∃ us recipients, (Tx.traverse (createRecipient c) rows).run db =
      .ok (us, { db with recipients := recipients }) := by
  induction rows generalizing db with
  | nil => exact ⟨[], db.recipients, rfl⟩
  | cons row rest ih =>
    rw [List.map_cons, List.nodup_cons] at hnodup
    have hcreate : (createRecipient c row).run db = .ok ((), { db with
        recipients := db.recipients.set ⟨row.uuid, c, row.creatorId⟩ row.recipient }) := by
      have hnone : db.recipients.get ⟨row.uuid, c, row.creatorId⟩ = none := by
        cases hget : db.recipients.get ⟨row.uuid, c, row.creatorId⟩ with
        | none => rfl
        | some r => exact absurd (by simp) (hfree _ r hget rfl)
      have hany : db.recipients.any (fun id' _ =>
          id'.campaignId = c && id'.creatorId = row.creatorId) = false := by
        rw [Table.any_eq_false_iff]
        intro id r hr
        have hother := hfree id r hr
        rw [List.map_cons, List.mem_cons, not_or] at hother
        by_cases hc : id.campaignId = c
        · simp [hc, (hother hc).1]
        · simp [hc]
      simp only [createRecipient, Tx.run_create, table.recipients, hnone, hany]
      rfl
    obtain ⟨us, recipients, hrest⟩ : ∃ us recipients, (Tx.traverse (createRecipient c) rest).run
        { db with recipients := db.recipients.set ⟨row.uuid, c, row.creatorId⟩ row.recipient } =
          .ok (us, { db with recipients := recipients }) := ih hnodup.2 (by
      intro id r hr hc
      simp only [Table.get_set] at hr
      split at hr
      · next hid =>
        subst hid
        exact hnodup.1
      · have hother := hfree id r hr hc
        rw [List.map_cons, List.mem_cons, not_or] at hother
        exact hother.2)
    refine ⟨() :: us, recipients, ?_⟩
    rw [Tx.traverse, Tx.run_bind, hcreate]
    simp only [Except.bind, Tx.run_bind, hrest, Tx.run_ret]

/-- The rebuild of a campaign with recipients of different creators does not fail. -/
theorem exists_rebuild {campaign : Campaign} (hcampaign : db.campaigns.get c = some campaign)
    (hnodup : (rows.map (·.creatorId)).Nodup) :
    ∃ db', (rebuild c rows summary).run db = .ok ((), db') := by
  have hemptied : ∀ before : Db, before.recipients = db.recipients.deleteMany
      (fun id _ => id.campaignId = c) → (before.campaigns.get c).isSome = true →
      (before.discoveryRuns.get c).isSome = true → ∃ us after,
        (Tx.traverse (createRecipient c) rows).run before = .ok (us, after) ∧
          (after.campaigns.get c).isSome = true ∧ (after.discoveryRuns.get c).isSome = true := by
    intro before hbefore hcampaigns hruns
    obtain ⟨us, recipients, hrun⟩ : ∃ us recipients, (Tx.traverse (createRecipient c) rows).run
        before = .ok (us, { before with recipients := recipients }) := by
      apply exists_createRecipients hnodup
      intro id r hr hc
      rw [hbefore] at hr
      simp [hc] at hr
    exact ⟨us, _, hrun, hcampaigns, hruns⟩
  simp [rebuild, deleteRecipients, hcampaign]
  exact hemptied _ rfl (by simp [hcampaign]) (by simp)

/-- A campaign that was never discovered is discovered when its database has candidates. -/
theorem exists_discover {campaign : Campaign} (ambient : Ambient)
    (hexpire : (expireFrozenCampaigns (ambient.now 0)).run db = .ok (0, db))
    (hcampaign : db.campaigns.get c = some campaign) (hdraft : campaign.state = .DRAFT)
    (hne : candidates lang database ≠ [])
    (hdays : assertContactCooldownDays created.campaign.cooldownDays = .ok ()) :
    ∃ db', Js.Leads (Alone lang env options created database uuid now) (discover c) db (.ok ())
      db' := by
  obtain ⟨rows, summary, hpreview, hnodup⟩ := exists_databasePreview uuid hne hdays
  obtain ⟨db', hrebuild⟩ : ∃ db', (rebuild c rows summary).run db = .ok ((), db') :=
    exists_rebuild hcampaign hnodup
  have hquery : ∀ {command : Command} {r : command.Result} {before after : Db},
      (command.body env options ambient).run before = .ok (r, after) →
      Js.Leads (Alone lang env options created database uuid now)
        (query command : commands.Program Unit command.Result) before (.ok r) after := by
    intro command r before after hrun
    refine Js.leads_call.2 ⟨ambient, ?_⟩
    rw [hrun]
    rfl
  refine ⟨db', ?_⟩
  unfold discover requiredCampaign
  refine Js.leads_bind.2 (.inr ⟨_, db, hquery hexpire, ?_⟩)
  refine Js.leads_bind.2 (.inr ⟨campaign, db, hquery (Tx.run_readOrThrow_eq_ok.2 ⟨hcampaign, rfl⟩),
    ?_⟩)
  refine Js.leads_bind.2 (.inr ⟨_, db, hquery rfl, ?_⟩)
  rw [if_neg (by simp [hdraft]), if_neg (by simp [hdraft, rediscoverable])]
  refine Js.leads_tryCatch.2 (.inl ⟨(), ?_, rfl⟩)
  unfold rebuildFromCreatorDatabase
  exact Js.leads_bind.2 (.inr ⟨(rows, summary), db, Js.leads_call.2 ⟨hpreview, rfl⟩,
    hquery hrebuild⟩)

/-- The limit of a campaign leaves room for its target, up to the hard limit. -/
theorem persisted_iff_of_create {mode : AppMode} {ceiling : Int} {dateKey : String}
    {names : List String} {input : CampaignCreateInput}
    (hcreate : create env lang mode ceiling dateKey names input = .ok created)
    (hpreview : databasePreview lang created database uuid now = .ok (rows, summary))
    (hrebuild : (rebuild c rows summary).run db = .ok ((), db')) :
    Persisted lang created database now c db' ↔
      input.targetCount ≤ 10000 ∨ writable lang created database now ≤ 10000 := by
  have haccepted := accepted_of_create hcreate
  have hpositive := haccepted.positive
  have htarget := haccepted.target
  have hroom : input.targetCount ≤ input.candidateLimit.getD
      (max (input.targetCount * 2) (input.targetCount + 500)) := by
    cases hlimit : input.candidateLimit with
    | none => simp
    | some limit => exact haccepted.limited limit hlimit
  have hlimit : created.candidateLimit = min 10000 (input.candidateLimit.getD
      (max (input.targetCount * 2) (input.targetCount + 500))) := haccepted.limit
  have hselected : (creators lang (databaseInput lang created database now)).countP (·.selected) =
      min input.targetCount.toNat (writable lang created database now) := by
    have hrequested : (databaseInput lang created database now).requested = input.targetCount :=
      htarget
    rw [countP_selected, hrequested, sliceLength_of_nonneg _ (by omega),
      countP_eligible_databaseInput]
  rw [persisted_of_rebuild (by omega) (by omega) hpreview hrebuild, hselected, hlimit]
  generalize input.candidateLimit.getD (max (input.targetCount * 2)
    (input.targetCount + 500)) = limit at hroom
  omega

end Persisted

/-- A `discover` of a campaign that `create` accepted persists every selected creator, counts them
and persists nobody twice when the target or the number of the creators that may be written to is
within the hard limit, and otherwise it does not. -/
theorem selected_creators_are_persisted_iff {env : Environment}
    {options : outbound_throttle.Options} {lang : Language} {mode : AppMode} {ceiling : Int}
    {dateKey : String} {names : List String} {input : CampaignCreateInput}
    {created : CreatedCampaign} {database : CreatorDatabase} {uuid : Nat → Nat} {now : Int}
    {c : CampaignId} {db db' : Db}
    (hcreate : create env lang mode ceiling dateKey names input = .ok created)
    (hrebuilds : db.discoveryRuns.get c = some .COMPLETE →
      ∀ campaign, db.campaigns.get c = some campaign → campaign.state ≠ .PREVIEW_READY)
    (hrun : Js.Leads (Alone lang env options created database uuid now) (discover c) db (.ok ())
      db') :
    Persisted lang created database now c db' ↔
      input.targetCount ≤ 10000 ∨ writable lang created database now ≤ 10000 := by
  obtain ⟨db1, rows, summary, hpreview, hrebuild⟩ := of_discover hrun hrebuilds
  rw [persisted_iff_of_create hcreate hpreview hrebuild]

/-! ## Databases of any size -/

/-- A text of `n + 1` letters. -/
def openIdOf (n : Nat) : String := String.ofList (List.replicate (n + 1) 'a')

theorem openIdOf_inj {m n : Nat} (h : openIdOf m = openIdOf n) : m = n := by
  have hlength := congrArg (fun s => s.toList.length) h
  simp only [openIdOf, String.toList_ofList, List.length_replicate] at hlength
  omega

theorem openIdOf_ne (n : Nat) : openIdOf n ≠ "" := by
  intro h
  have hlength := congrArg (fun s => s.toList.length) h
  simp [openIdOf] at hlength

def rowOf (n : Nat) : CreatorRow where
  creatorOpenId := some (openIdOf n)
  snapshots := [⟨0, 0, [], none, none, none, none, none, none, none⟩]
  verifiedIds := [openIdOf n]

def entries (size : Nat) : List (Nat × CreatorRow) := (List.range size).map (fun n => (n, rowOf n))

theorem get_entries {size n : Nat} {row : CreatorRow} :
    (Table.ofList (entries size)).get n = some row ↔ n < size ∧ row = rowOf n := by
  have hkeys : ((entries size).map Prod.fst).Nodup := by
    unfold entries
    rw [List.map_map]
    simpa [Function.comp_def] using List.nodup_range
  rw [Table.get_ofList_of_nodup hkeys]
  unfold entries
  simp only [List.mem_map, List.mem_range, Prod.mk.injEq]
  constructor
  · rintro ⟨m, hm, rfl, rfl⟩
    exact ⟨hm, rfl⟩
  · rintro ⟨hn, rfl⟩
    exact ⟨n, hn, rfl, rfl⟩

/-- The database of so many creators, to whom nothing forbids to write. -/
def databaseOf (size : Nat) : CreatorDatabase where
  creators := Table.ofList (entries size)
  unique := by
    intro i j a b ha hb hsame _
    obtain ⟨_, rfl⟩ := get_entries.1 ha
    obtain ⟨_, rfl⟩ := get_entries.1 hb
    exact openIdOf_inj (Option.some.inj hsame)
  reservations := []
  unresolvedHistoricalCreators := 0
  unresolvedHistoricalOutboundContacts := 0

section Sample

variable {lang : Language} {created : CreatedCampaign} {size : Nat} {now : Int}

theorem size_le_candidates : size ≤ (candidates lang (databaseOf size)).length := by
  have hsubset : List.range size ⊆
      (readCandidates (databaseOf size)).map (·.databaseCreatorId) := by
    intro n hn
    have hget : (databaseOf size).creators.get n = some (rowOf n) :=
      get_entries.2 ⟨List.mem_range.1 hn, rfl⟩
    have hread : (n, rowOf n) ∈ databaseCreators (databaseOf size) :=
      databaseCreators_perm.mem_iff.2 ((Table.mem_findMany _ _ _ _).2 ⟨hget, rfl⟩)
    obtain ⟨candidate, hcandidate⟩ : ∃ candidate, candidateOf (n, rowOf n) = some candidate := by
      simp [candidateOf, rowOf, given, Option.filter, openIdOf_ne, latestSnapshot]
    exact List.mem_map.2 ⟨candidate, List.mem_filterMap.2 ⟨_, hread, hcandidate⟩,
      (of_candidateOf hcandidate).2.1⟩
  have hlength := (List.subperm_of_subset List.nodup_range hsubset).length_le
  have hsame := (@candidates_perm lang (databaseOf size) _ (·.databaseCreatorId)
    (fun _ _ => rfl)).length_eq
  simp only [List.length_map, List.length_range] at hlength hsame
  omega

/-- Without filters all creators may be written to. -/
theorem size_le_writable (hfilters : created.filters = {}) :
    size ≤ writable lang created (databaseOf size) now := by
  refine le_trans (@size_le_candidates lang size) ?_
  unfold writable
  dsimp only
  rw [List.countP_eq_length.2]
  · simp [databaseInput]
  · intro creator hcreator
    rw [Option.isNone_iff_eq_none, skip_eq_none_iff]
    obtain ⟨candidate, hcandidate, rfl⟩ := List.mem_map.1 hcreator
    have hid : candidate.creatorOpenId ≠ "" := by
      have hlisted := (candidates_perm (fun c => c.creatorOpenId) (fun _ _ => rfl)).mem_iff.1
        (List.mem_map_of_mem hcandidate)
      obtain ⟨read, hread, hsame⟩ := List.mem_map.1 hlisted
      obtain ⟨row, _, hrow⟩ := List.mem_filterMap.1 hread
      exact hsame ▸ (of_candidateOf hrow).2.2
    refine ⟨⟨hid, ?_, ?_, by simp [databaseInput, databaseOf]⟩, by simp⟩
    · simp [databaseInput, hfilters, matchesFilters, given, below, above]
    · intro contact hcontact
      obtain ⟨row, hrow, hpair⟩ := List.mem_filterMap.1 (Table.mem_of_get_ofList hcontact)
      obtain ⟨_, _, hpair⟩ := Option.map_eq_some_iff.1 hpair
      have hstored := (Table.mem_findMany _ _ _ _).1 (databaseCreators_perm.mem_iff.1 hrow)
      obtain ⟨_, hrow⟩ := get_entries.1 hstored.1
      have hsame : contact = contactState row.2.contact := (congrArg Prod.snd hpair).symm
      rw [hsame, hrow]
      simp [rowOf, contactState]

end Sample

/-- The input of a campaign with that target. -/
def inputOf (targetCount : Int) : CampaignCreateInput where
  targetCount
  cooldownDays := 30
  messageTemplate := some "Hi"
  rankingMetric := "FOLLOWERS"

/-- The campaign that it creates. -/
def createdOf (targetCount : Int) : CreatedCampaign where
  campaign := {
    name := "20260101_001"
    productName := ""
    targetCount
    cooldownDays := 30
    messageTemplate := "Hi" }
  candidateLimit := candidateLimit (inputOf targetCount)
  filters := {}
  rankingMetric := .FOLLOWERS

def campaignId : CampaignId := ⟨0, 1⟩

def createdDb (targetCount : Int) : Db where
  campaigns := Table.ofList [(campaignId, (createdOf targetCount).campaign)]

def discoverOptions : outbound_throttle.Options :=
  ⟨"TIKTOK_SHOP", "app", 2, 4, 30000, none, by decide⟩

theorem exists_discover_createdDb (targetCount : Int) {size : Nat} (hsize : 0 < size) :
    ∃ db', Js.Leads (Alone plainLanguage sampleEnvironment discoverOptions (createdOf targetCount)
      (databaseOf size) id 0) (discover campaignId) (createdDb targetCount) (.ok ()) db' := by
  refine exists_discover ⟨fun _ => 0, 0⟩ rfl rfl rfl ?_ rfl
  intro hnil
  have hlength := @size_le_candidates plainLanguage size
  rw [hnil, List.length_nil] at hlength
  omega

/-- A campaign for one creator has its recipient. -/
theorem a_small_campaign_is_persisted : ∃ db',
    create sampleEnvironment plainLanguage .mock 500 "20260101" [] (inputOf 1) = .ok (createdOf 1) ∧
    Js.Leads (Alone plainLanguage sampleEnvironment discoverOptions (createdOf 1)
      (databaseOf 2) id 0) (discover campaignId) (createdDb 1) (.ok ()) db' ∧
    Persisted plainLanguage (createdOf 1) (databaseOf 2) 0 campaignId db' := by
  have hcreate : create sampleEnvironment plainLanguage .mock 500 "20260101" [] (inputOf 1) =
      .ok (createdOf 1) := rfl
  obtain ⟨db', hrun⟩ := exists_discover_createdDb 1 (by decide : 0 < 2)
  exact ⟨db', hcreate, hrun,
    (selected_creators_are_persisted_iff hcreate (fun h => by cases h) hrun).2 (.inl (by decide))⟩

/-- A campaign for more creators than the hard limit loses selected ones. -/
theorem a_large_campaign_is_cut_off : ∃ db',
    create sampleEnvironment plainLanguage .mock 20000 "20260101" [] (inputOf 10001) =
      .ok (createdOf 10001) ∧
    Js.Leads (Alone plainLanguage sampleEnvironment discoverOptions (createdOf 10001)
      (databaseOf 10001) id 0) (discover campaignId) (createdDb 10001) (.ok ()) db' ∧
    ¬ Persisted plainLanguage (createdOf 10001) (databaseOf 10001) 0 campaignId db' := by
  have hcreate : create sampleEnvironment plainLanguage .mock 20000 "20260101" []
      (inputOf 10001) = .ok (createdOf 10001) := rfl
  obtain ⟨db', hrun⟩ := exists_discover_createdDb 10001 (by decide : 0 < 10001)
  refine ⟨db', hcreate, hrun, ?_⟩
  obtain ⟨db1, rows, summary, hpreview, hrebuild⟩ := of_discover hrun (fun h => by cases h)
  rw [persisted_iff_of_create hcreate hpreview hrebuild]
  have hwritable : 10001 ≤ writable plainLanguage (createdOf 10001) (databaseOf 10001) 0 :=
    size_le_writable rfl
  have htarget : (inputOf 10001).targetCount = 10001 := rfl
  omega

end tiktok_outreach.database_preview
