-- The contact state of a creator in a shop: the rebuild behind a page of messages
-- (apps/api/src/history/contact-state.ts), the one behind a row of an imported file
-- (apps/api/src/history/history.service.ts), and the update behind a sent message
-- (apps/worker/src/main.ts). A rebuild counts the distinct contacts; the update adds one.
import TiktokOutreach.IdentityMerge

open tables extremes tiktok_outreach.identity_schema tiktok_outreach.creator_identity_resolver
  tiktok_outreach.identity_merge

namespace tiktok_outreach.contact_states

/-! ## The rebuilds -/

def inboundCount (db : Db) (shopId creatorId : Nat) : Nat :=
  db.messages.count (fun _ m => m.direction = .INBOUND &&
    (db.conversations.get m.conversationId).any (fun c =>
      c.shopId = shopId && c.creatorId = creatorId))

/-- The dates of the messages and of the facts, from which the history is covered. -/
def historicalDates (facts : Facts) : List Int :=
  facts.messages.map (fun m => m.2.providerCreatedAt) ++ facts.factDates

/-- What both rebuilds write. A value that is `undefined` leaves the column as it is. -/
def recounted (facts : Facts) (coverage : List Int) (state : Contact) : Contact :=
  { state with
    firstContactedAt := facts.dates.head?
    lastContactedAt := facts.dates.getLast?
    contactCount := facts.contacts.rows.length
    historyCoverageStart :=
      (coverage.insertionSort (· ≤ ·)).head?.or state.historyCoverageStart
    unresolvedDelivery := facts.unresolved
    lastCampaignId := (facts.deliveries.head?.map (fun d => d.2.campaignId)).or state.lastCampaignId
    lastDeliveryId := (facts.deliveries.head?.map (fun d => d.1)).or state.lastDeliveryId }

def replied (inbound : Nat) (state : Contact) : Contact :=
  if 0 < inbound then { state with latestReplyStatus := "REPLIED" } else state

/-- The row of the creator, or the one with the defaults that a rebuild creates. -/
def stateOf (db : Db) (shopId creatorId : Nat) : Contact :=
  (db.contacts.get (shopId, creatorId)).getD {}

def historicalState (db : Db) (shopId creatorId : Nat) (creator : Creator) : Contact :=
  let facts := readFacts db shopId creatorId creator
  replied (inboundCount db shopId creatorId)
    (recounted facts (historicalDates facts) (stateOf db shopId creatorId))

def rebuildHistoricalContactState (shopId creatorId : Nat) (db : Db) : Except Failure Db := do
  let creator ← orThrow .notFound (db.creators.get creatorId)
  let state := historicalState db shopId creatorId creator
  return { db with contacts := db.contacts.set (shopId, creatorId) state }

/-- The rebuild of an import has no part in the replies, and covers the history by its facts. -/
def importedState (db : Db) (shopId creatorId : Nat) (creator : Creator) : Contact :=
  let facts := readFacts db shopId creatorId creator
  recounted facts facts.factDates (stateOf db shopId creatorId)

def rebuildContactState (shopId creatorId : Nat) (db : Db) : Except Failure Db := do
  let creator ← orThrow .notFound (db.creators.get creatorId)
  let state := importedState db shopId creatorId creator
  return { db with contacts := db.contacts.set (shopId, creatorId) state }

/-! ## What a rebuild leaves -/

/-- The keys of the distinct contacts. -/
def contactKeys (facts : Facts) : Finset ContactKey := (facts.entries.map Prod.fst).toFinset

/-- The row says what the facts say. -/
structure Recounted (facts : Facts) (row : Contact) : Prop where
  contactCount : row.contactCount = (contactKeys facts).card
  firstContactedAt : row.firstContactedAt = (contactDates facts).min?
  lastContactedAt : row.lastContactedAt = (contactDates facts).max?
  unresolvedDelivery : row.unresolvedDelivery = facts.unresolved

section Rebuilds

variable {db db' db'' : Db} {shopId creatorId : Nat}

theorem recounted_recounted (facts : Facts) (coverage : List Int) (state : Contact) :
    Recounted facts (recounted facts coverage state) where
  contactCount := count_contacts facts
  firstContactedAt := by
    unfold recounted Facts.dates
    dsimp only
    rw [head?_insertionSort]
    exact min?_congr (mem_sorted_dates facts)
  lastContactedAt := by
    unfold recounted Facts.dates
    dsimp only
    rw [getLast?_insertionSort]
    exact max?_congr (mem_sorted_dates facts)
  unresolvedDelivery := rfl

theorem recounted_replied {facts : Facts} {row : Contact} (h : Recounted facts row)
    (inbound : Nat) : Recounted facts (replied inbound row) := by
  unfold replied
  split
  · exact ⟨h.contactCount, h.firstContactedAt, h.lastContactedAt, h.unresolvedDelivery⟩
  · exact h

theorem or_or_self {α : Type} (a b : Option α) : a.or (a.or b) = a.or b := by
  cases a <;> rfl

/-- A rebuild from the same facts finds its own row. -/
theorem recounted_again (facts : Facts) (coverage : List Int) (inbound : Nat) (state : Contact) :
    replied inbound (recounted facts coverage (replied inbound (recounted facts coverage state))) =
      replied inbound (recounted facts coverage state) := by
  unfold replied
  split
  · simp only [recounted, or_or_self]
  · simp only [recounted, or_or_self]

/-- The dates of the facts are among those that cover the history, so those of an import go. -/
theorem replied_recounted_imported (facts : Facts) (inbound : Nat) (state : Contact) :
    replied inbound (recounted facts (historicalDates facts)
        (recounted facts facts.factDates state)) =
      replied inbound (recounted facts (historicalDates facts) state) := by
  have hcovered : ((historicalDates facts).insertionSort (· ≤ ·)).head?.or
      (((facts.factDates).insertionSort (· ≤ ·)).head?.or state.historyCoverageStart) =
        ((historicalDates facts).insertionSort (· ≤ ·)).head?.or state.historyCoverageStart := by
    rw [head?_insertionSort, head?_insertionSort]
    cases hmin : (historicalDates facts).min? with
    | some date => rfl
    | none =>
      rw [List.min?_eq_none_iff] at hmin
      unfold historicalDates at hmin
      rw [(List.append_eq_nil_iff.1 hmin).2]
      rfl
  unfold recounted
  simp only [hcovered, or_or_self]

theorem set_of_get {κ α : Type} [DecidableEq κ] {t : Table κ α} {k : κ} {a : α}
    (h : t.get k = some a) : t.set k a = t := by
  have hkey : k ∈ t.rows.map Prod.fst := (Table.mem_keys_iff t k).2 ⟨a, h⟩
  unfold Table.set
  rw [dif_pos hkey]
  unfold Table.updateMany
  congr 1
  refine (List.map_congr_left (fun r hr => ?_)).trans (List.map_id _)
  by_cases hk : r.1 = k
  · have hrow := (Table.mem_rows_iff t r.1 r.2).1 hr
    rw [hk, h, Option.some.injEq] at hrow
    simp [hk, hrow, Prod.ext_iff]
  · simp [hk]

theorem rebuildHistoricalContactState_eq_ok :
    rebuildHistoricalContactState shopId creatorId db = .ok db' ↔
      ∃ creator, db.creators.get creatorId = some creator ∧
        db' = { db with
          contacts := db.contacts.set (shopId, creatorId)
            (historicalState db shopId creatorId creator) } := by
  unfold rebuildHistoricalContactState
  rw [bind_eq_ok]
  constructor
  · rintro ⟨creator, hcreator, hset⟩
    rw [orThrow_eq_ok] at hcreator
    cases hset
    exact ⟨creator, hcreator, rfl⟩
  · rintro ⟨creator, hcreator, rfl⟩
    exact ⟨creator, orThrow_eq_ok.2 hcreator, rfl⟩

theorem rebuildContactState_eq_ok :
    rebuildContactState shopId creatorId db = .ok db' ↔
      ∃ creator, db.creators.get creatorId = some creator ∧
        db' = { db with
          contacts := db.contacts.set (shopId, creatorId)
            (importedState db shopId creatorId creator) } := by
  unfold rebuildContactState
  rw [bind_eq_ok]
  constructor
  · rintro ⟨creator, hcreator, hset⟩
    rw [orThrow_eq_ok] at hcreator
    cases hset
    exact ⟨creator, hcreator, rfl⟩
  · rintro ⟨creator, hcreator, rfl⟩
    exact ⟨creator, orThrow_eq_ok.2 hcreator, rfl⟩

/-- The rebuild behind a page of messages counts the distinct contacts of the creator in the shop
and gives their first and their last date. It keeps the rest of the row and every other row, and a
second rebuild changes nothing. -/
theorem rebuild_is_exact (h : rebuildHistoricalContactState shopId creatorId db = .ok db') :
    ∃ creator row, db.creators.get creatorId = some creator ∧
      db' = { db with contacts := db.contacts.set (shopId, creatorId) row } ∧
      Recounted (readFacts db' shopId creatorId creator) row ∧
      row.doNotContact = (stateOf db shopId creatorId).doNotContact ∧
      row.historyCoverageStart =
        (historicalDates (readFacts db' shopId creatorId creator)).min?.or
          (stateOf db shopId creatorId).historyCoverageStart ∧
      (row.latestReplyStatus = "REPLIED" ↔ 0 < inboundCount db' shopId creatorId ∨
        (stateOf db shopId creatorId).latestReplyStatus = "REPLIED") ∧
      rebuildHistoricalContactState shopId creatorId db' = .ok db' := by
  obtain ⟨creator, hcreator, rfl⟩ := rebuildHistoricalContactState_eq_ok.1 h
  refine ⟨creator, _, hcreator, rfl, recounted_replied (recounted_recounted _ _ _) _, ?_, ?_, ?_, ?_⟩
  · unfold historicalState replied
    dsimp only
    split
    · rfl
    · rfl
  · rw [← head?_insertionSort]
    unfold historicalState replied
    dsimp only
    split
    · rfl
    · rfl
  · unfold historicalState replied
    dsimp only
    split
    · rename_i hinbound
      exact iff_of_true rfl (.inl hinbound)
    · rename_i hinbound
      exact ⟨.inr, fun hor => hor.resolve_left hinbound⟩
  · rw [rebuildHistoricalContactState_eq_ok]
    refine ⟨creator, hcreator, ?_⟩
    have hrow : stateOf { db with
        contacts := db.contacts.set (shopId, creatorId)
          (historicalState db shopId creatorId creator) } shopId creatorId =
        historicalState db shopId creatorId creator := by
      unfold stateOf
      simp
    have hagain : historicalState { db with
        contacts := db.contacts.set (shopId, creatorId)
          (historicalState db shopId creatorId creator) } shopId creatorId creator =
        historicalState db shopId creatorId creator := by
      unfold historicalState at hrow ⊢
      dsimp only at hrow ⊢
      rw [hrow]
      exact recounted_again _ _ _ _
    have hset : (db.contacts.set (shopId, creatorId) (historicalState db shopId creatorId creator)).set
        (shopId, creatorId) (historicalState db shopId creatorId creator) =
        db.contacts.set (shopId, creatorId) (historicalState db shopId creatorId creator) :=
      set_of_get (by simp)
    rw [hagain]
    dsimp only
    rw [hset]

theorem set_set {κ α : Type} [DecidableEq κ] (t : Table κ α) (k : κ) (a b : α) :
    (t.set k a).set k b = t.set k b := by
  have hkey : k ∈ (t.set k a).rows.map Prod.fst :=
    (Table.mem_keys_iff _ k).2 ⟨a, by rw [Table.get_set, if_pos rfl]⟩
  rw [Table.set, dif_pos hkey]
  unfold Table.set Table.updateMany
  by_cases hmem : k ∈ t.rows.map Prod.fst
  · rw [dif_pos hmem]
    simp only [dif_pos hmem, List.map_map]
    congr 1
    refine List.map_congr_left (fun r _ => ?_)
    by_cases hk : r.1 = k <;> simp [hk]
  · rw [dif_neg hmem]
    simp only [dif_neg hmem, List.map_append, List.map_cons, List.map_nil]
    congr 1
    refine congrArg₂ (· ++ ·) ((List.map_congr_left (fun r hr => ?_)).trans (List.map_id _)) ?_
    · have hk : r.1 ≠ k := fun h => hmem (h ▸ List.mem_map_of_mem hr)
      simp [hk]
    · simp

/-- A rebuild behind a page of messages finds nothing to keep of a rebuild behind an import. -/
theorem rebuild_absorbs_import (himport : rebuildContactState shopId creatorId db = .ok db')
    (h : rebuildHistoricalContactState shopId creatorId db' = .ok db'') :
    rebuildHistoricalContactState shopId creatorId db = .ok db'' := by
  obtain ⟨creator, hcreator, rfl⟩ := rebuildContactState_eq_ok.1 himport
  obtain ⟨creator', hcreator', rfl⟩ := rebuildHistoricalContactState_eq_ok.1 h
  obtain rfl : creator = creator' := Option.some.inj (hcreator.symm.trans hcreator')
  refine rebuildHistoricalContactState_eq_ok.2 ⟨creator, hcreator, ?_⟩
  dsimp only
  rw [set_set]
  congr 2
  have hrow : stateOf { db with
      contacts := db.contacts.set (shopId, creatorId)
        (importedState db shopId creatorId creator) } shopId creatorId =
      importedState db shopId creatorId creator := by
    unfold stateOf
    simp
  unfold historicalState
  rw [hrow]
  exact replied_recounted_imported _ _ _

/-- A creator who was written to once in a shop, and a delivery that is on its way. -/
def sampleDb : Db where
  creators := Table.ofList [(1, { creatorOpenId := some "open" })]
  contacts := Table.ofList [((7, 1),
    { firstContactedAt := some 50, lastContactedAt := some 50, contactCount := 1 })]
  conversations := Table.ofList [(2, ⟨7, 1⟩)]
  messages := Table.ofList [("m1", ⟨2, .OUTBOUND, 50⟩)]
  campaigns := Table.ofList [(3, ⟨7⟩)]
  recipients := Table.ofList [(5, ⟨3, 1⟩)]
  deliveries := Table.ofList [(9, { campaignId := 3, campaignRecipientId := 5, state := .DISPATCHING })]

theorem rebuild_is_exact_in_the_sample : ∃ db' creator row,
    rebuildHistoricalContactState 7 1 sampleDb = .ok db' ∧
      Recounted (readFacts db' 7 1 creator) row ∧
        rebuildHistoricalContactState 7 1 db' = .ok db' := by
  obtain ⟨db', h⟩ : ∃ db', rebuildHistoricalContactState 7 1 sampleDb = .ok db' := ⟨_, rfl⟩
  obtain ⟨creator, row, _, _, hrow, _, _, _, hagain⟩ := rebuild_is_exact h
  exact ⟨db', creator, row, h, hrow, hagain⟩

end Rebuilds

/-! ## The update behind a sent message -/

/-- The recipient of a message, with what was loaded of its campaign and its creator. -/
structure SentRecipient where
  deliveryId : Nat
  campaignId : Nat
  shopId : Nat
  creatorId : Nat
  creatorOpenId : Option String

/-- The contact state behind a message that was sent. `unresolved` is read anew. -/
def sentState (recipient : SentRecipient) (unresolved : Bool) (now : Int) :
    Option Contact → Contact
  | some previous => { previous with
      firstContactedAt := some (previous.firstContactedAt.getD now)
      lastContactedAt := some now
      contactCount := previous.contactCount + 1
      lastCampaignId := some recipient.campaignId
      lastDeliveryId := some recipient.deliveryId
      unresolvedDelivery := unresolved }
  | none => {
      firstContactedAt := some now
      lastContactedAt := some now
      contactCount := 1
      lastCampaignId := some recipient.campaignId
      lastDeliveryId := some recipient.deliveryId
      unresolvedDelivery := unresolved }

/-- Another delivery to the creator is unknown, or a matched contact of an import is. -/
def stillUnresolved (recipient : SentRecipient) (db : Db) : Bool :=
  decide (0 < db.deliveries.count (fun id d => id ≠ recipient.deliveryId && unknownDelivery d &&
    deliveredTo db recipient.shopId recipient.creatorId d)) ||
  decide (0 < db.facts.count (fun key f => key.1 = recipient.shopId &&
    f.creatorOpenId = recipient.creatorOpenId && f.sendStatus = .UNKNOWN &&
    f.resolutionState = .MATCHED))

/-- The delivery and the contact state, as `markSent` leaves them. -/
def markSent (recipient : SentRecipient) (externalMessageId : String) (now : Int) (db : Db) :
    Except Failure Db := do
  refuse (db.deliveries.get recipient.deliveryId).isNone .notFound
  refuse (db.deliveries.any (fun id d => id ≠ recipient.deliveryId &&
    d.externalMessageId = some externalMessageId)) .uniqueViolation
  let deliveries := db.deliveries.updateMany (fun id _ => id = recipient.deliveryId) (fun d =>
    { d with
      state := .SENT
      externalMessageId := some externalMessageId
      sentAt := some now })
  let key := (recipient.shopId, recipient.creatorId)
  let state := sentState recipient (stillUnresolved recipient db) now (db.contacts.get key)
  return { db with
    deliveries
    contacts := db.contacts.set key state }

section Sorting

variable {α : Type} (r : α → α → Prop) [DecidableRel r]

theorem orderedInsert_of_forall {a : α} {l : List α} (h : ∀ b ∈ l, r a b) :
    l.orderedInsert r a = a :: l := by
  cases l with
  | nil => rfl
  | cons b l => rw [List.orderedInsert, if_pos (h b List.mem_cons_self)]

theorem filter_orderedInsert [IsTrans α r] (p : α → Bool) (a : α) {l : List α}
    (hl : l.Pairwise r) : (l.orderedInsert r a).filter p =
      if p a then (l.filter p).orderedInsert r a else l.filter p := by
  induction l with
  | nil => cases hp : p a <;> simp [hp]
  | cons b l ih =>
    rw [List.pairwise_cons] at hl
    by_cases hab : r a b
    · have hall : ∀ c ∈ (b :: l).filter p, r a c := by
        intro c hc
        rcases List.mem_cons.1 (List.mem_filter.1 hc).1 with rfl | hrest
        · exact hab
        · exact IsTrans.trans _ _ _ hab (hl.1 c hrest)
      rw [List.orderedInsert, if_pos hab, orderedInsert_of_forall r hall, List.filter_cons]
    · rw [List.orderedInsert, if_neg hab, List.filter_cons, List.filter_cons, ih hl.2]
      cases hb : p b <;> cases ha : p a <;> simp [hab]

/-- A stable sort may be done before or behind a filter. -/
theorem filter_insertionSort [IsTrans α r] [Std.Total r] (p : α → Bool) (l : List α) :
    (l.insertionSort r).filter p = (l.filter p).insertionSort r := by
  induction l with
  | nil => rfl
  | cons a l ih =>
    rw [List.insertionSort_cons, filter_orderedInsert r p a (List.pairwise_insertionSort r l), ih,
      List.filter_cons]
    cases p a <;> simp

end Sorting

/-- An update of a row that was not found brings nothing new but that row. -/
theorem findMany_updateOne_ne {κ α : Type} [DecidableEq κ] (t : Table κ α) {k : κ} (g : α → α)
    (p : α → Bool) (h : ∀ r ∈ t.rows, r.1 = k → p r.2 = false) :
    ((t.updateMany (fun k' _ => k' = k) g).findMany (fun _ a => p a)).filter
        (fun r => decide (r.1 ≠ k)) = t.findMany (fun _ a => p a) := by
  unfold Table.findMany Table.updateMany
  dsimp only
  generalize t.rows = rows at h
  induction rows with
  | nil => rfl
  | cons r rows ih =>
    have hrest := ih (fun r' hr' => h r' (List.mem_cons_of_mem _ hr'))
    rw [List.map_cons, List.filter_cons, List.filter_cons]
    by_cases hk : r.1 = k
    · have hp := h r List.mem_cons_self hk
      cases hg : p (g r.2) <;> simpa [hk, hp, hg] using hrest
    · cases hp : p r.2 <;> simpa [hk, hp] using hrest

instance : IsTrans (Nat × Delivery) sentAtDesc where
  trans a b c hab hbc := by
    unfold sentAtDesc at *
    generalize a.2.sentAt = x at *
    generalize b.2.sentAt = y at *
    generalize c.2.sentAt = z at *
    cases x with
    | none => trivial
    | some x =>
      cases y with
      | none => cases hab
      | some y =>
        cases z with
        | none => cases hbc
        | some z => exact le_trans hbc hab

instance : Std.Total sentAtDesc where
  total a b := by
    unfold sentAtDesc
    generalize a.2.sentAt = x
    generalize b.2.sentAt = y
    cases x with
    | none => exact .inl trivial
    | some x =>
      cases y with
      | none => exact .inr trivial
      | some y => exact le_total y x

section Sent

variable {db db' : Db} {recipient : SentRecipient} {externalMessageId : String} {now : Int}
  {creator : Creator} {delivery : Delivery}

/-- The delivery behind a message that was sent. -/
def sentDelivery (externalMessageId : String) (now : Int) (d : Delivery) : Delivery :=
  { d with
    state := .SENT
    externalMessageId := some externalMessageId
    sentAt := some now }

theorem markSent_eq_ok (h : markSent recipient externalMessageId now db = .ok db') :
    db' = { db with
      deliveries := db.deliveries.updateMany (fun id _ => id = recipient.deliveryId)
        (sentDelivery externalMessageId now)
      contacts := db.contacts.set (recipient.shopId, recipient.creatorId)
        (sentState recipient (stillUnresolved recipient db) now
          (db.contacts.get (recipient.shopId, recipient.creatorId))) } := by
  unfold markSent at h
  obtain ⟨_, _, h⟩ := bind_eq_ok.1 h
  obtain ⟨_, _, h⟩ := bind_eq_ok.1 h
  cases h
  rfl

/-- The key of the contact behind the message. -/
def sentKey (recipient : SentRecipient) (externalMessageId : String) : ContactKey :=
  providerOr (some externalMessageId) (.delivery recipient.deliveryId)

/-- The other sent deliveries stay in their order. -/
theorem deliveries_sent (h : markSent recipient externalMessageId now db = .ok db')
    (hget : db.deliveries.get recipient.deliveryId = some delivery)
    (hstate : delivery.state ≠ .SENT) :
    (readFacts db' recipient.shopId recipient.creatorId creator).deliveries.filter
        (fun d => decide (d.1 ≠ recipient.deliveryId)) =
      (readFacts db recipient.shopId recipient.creatorId creator).deliveries := by
  rw [markSent_eq_ok h]
  unfold readFacts
  dsimp only
  rw [filter_insertionSort]
  congr 1
  have hrow : ∀ r ∈ db.deliveries.rows, r.1 = recipient.deliveryId → r.2 = delivery := by
    rintro ⟨id, d⟩ hr rfl
    have hd := (Table.mem_rows_iff db.deliveries _ d).1 hr
    rw [hget, Option.some.injEq] at hd
    exact hd.symm
  refine findMany_updateOne_ne _ _ _ (fun r hr hid => ?_)
  rw [hrow r hr hid, decide_eq_false hstate, Bool.false_and]

/-- What a rebuild reads behind a message that was sent. -/
structure Sends (key : ContactKey) (now : Int) (facts facts' : Facts) : Prop where
  /-- The other entries stay in their order. -/
  others : facts'.entries.filter (fun entry => decide (entry.1 ≠ key)) =
    facts.entries.filter (fun entry => decide (entry.1 ≠ key))
  here : (key, now) ∈ facts'.entries
  /-- The date of the contact is that of the message, but for one that was known before. -/
  known : ∀ date, (key, date) ∈ facts'.entries → date = now ∨ key ∈ facts.entries.map Prod.fst

theorem filter_map_filter {α β : Type} (f : α → β) (q : α → Bool) (p : β → Bool) (l : List α)
    (h : ∀ a ∈ l, q a = false → p (f a) = false) :
    ((l.filter q).map f).filter p = (l.map f).filter p := by
  induction l with
  | nil => rfl
  | cons a l ih =>
    have hrest := ih (fun b hb => h b (List.mem_cons_of_mem _ hb))
    have hfirst := h a List.mem_cons_self
    cases hq : q a with
    | true => simp [List.filter_cons, hq, hrest]
    | false => simp [hq, hrest, hfirst hq]

theorem sends_of_deliveries {facts facts' : Facts} {key : ContactKey} {id : Nat}
    (hothers : facts'.deliveries.filter (fun d => decide (d.1 ≠ id)) = facts.deliveries)
    (hrow : ∀ d ∈ facts'.deliveries, d.1 = id → deliveryContact d = (key, now))
    (hhere : ∃ d ∈ facts'.deliveries, d.1 = id) (hmessages : facts'.messages = facts.messages)
    (hfacts : facts'.facts = facts.facts) : Sends key now facts facts' := by
  have hdeliveries : (facts'.deliveries.map deliveryContact).filter
      (fun entry => decide (entry.1 ≠ key)) = (facts.deliveries.map deliveryContact).filter
        (fun entry => decide (entry.1 ≠ key)) := by
    rw [← hothers, filter_map_filter]
    intro d hd hid
    rw [hrow d hd (by simpa using hid)]
    simp
  constructor
  · unfold Facts.entries
    rw [hmessages, hfacts, List.filter_append, List.filter_append, List.filter_append,
      List.filter_append, hdeliveries]
  · obtain ⟨d, hd, hid⟩ := hhere
    rw [← hrow d hd hid]
    exact List.mem_append_left _ (List.mem_append_left _ (List.mem_map_of_mem hd))
  · intro date hdate
    unfold Facts.entries at hdate ⊢
    rw [hmessages, hfacts, List.append_assoc] at hdate
    rcases List.mem_append.1 hdate with hdelivery | hrest
    · obtain ⟨d, hd, hcontact⟩ := List.mem_map.1 hdelivery
      by_cases hid : d.1 = id
      · rw [hrow d hd hid, Prod.mk.injEq] at hcontact
        exact .inl hcontact.2.symm
      · have hold : d ∈ facts.deliveries := by
          rw [← hothers]
          exact List.mem_filter.2 ⟨hd, decide_eq_true hid⟩
        refine .inr (List.mem_map.2 ⟨(key, date), ?_, rfl⟩)
        rw [List.append_assoc]
        exact List.mem_append_left _ (List.mem_map.2 ⟨d, hold, hcontact⟩)
    · refine .inr (List.mem_map.2 ⟨(key, date), ?_, rfl⟩)
      rw [List.append_assoc]
      exact List.mem_append_right _ hrest

theorem sends_markSent (h : markSent recipient externalMessageId now db = .ok db')
    (hget : db.deliveries.get recipient.deliveryId = some delivery)
    (hto : deliveredTo db recipient.shopId recipient.creatorId delivery = true)
    (hstate : delivery.state ≠ .SENT) :
    Sends (sentKey recipient externalMessageId) now
      (readFacts db recipient.shopId recipient.creatorId creator)
      (readFacts db' recipient.shopId recipient.creatorId creator) := by
  have hdb := markSent_eq_ok h
  have hsent : db'.deliveries.get recipient.deliveryId =
      some (sentDelivery externalMessageId now delivery) := by
    rw [hdb]
    simp [hget]
  have hto' : deliveredTo db' recipient.shopId recipient.creatorId
      (sentDelivery externalMessageId now delivery) = true := by
    rw [hdb]
    exact hto
  refine sends_of_deliveries (deliveries_sent h hget hstate) ?_ ?_ ?_ ?_
  · rintro ⟨id, d⟩ hd rfl
    have hmem := (List.mem_insertionSort _).1 hd
    have hsame := ((Table.mem_findMany _ _ _ _).1 hmem).1
    rw [hsent, Option.some.injEq] at hsame
    rw [← hsame]
    rfl
  · refine ⟨(recipient.deliveryId, sentDelivery externalMessageId now delivery), ?_, rfl⟩
    refine (List.mem_insertionSort _).2 ((Table.mem_findMany _ _ _ _).2 ⟨hsent, ?_⟩)
    rw [hto', Bool.and_true]
    rfl
  · rw [hdb]
    rfl
  · rw [hdb]
    rfl

/-! ### The distinct contacts behind the message -/

section Distinct

variable {facts facts' : Facts} {key : ContactKey}

theorem contactKeys_sent (h : Sends key now facts facts') :
    contactKeys facts' = insert key (contactKeys facts) := by
  apply Finset.ext
  intro k
  unfold contactKeys
  rw [Finset.mem_insert, List.mem_toFinset, List.mem_toFinset]
  by_cases hk : k = key
  · rw [hk]
    exact iff_of_true (List.mem_map.2 ⟨_, h.here, rfl⟩) (.inl rfl)
  · have hmem : ∀ entries : List (ContactKey × Int), k ∈ entries.map Prod.fst ↔
        k ∈ (entries.filter (fun entry => decide (entry.1 ≠ key))).map Prod.fst := by
      intro entries
      simp only [List.mem_map, List.mem_filter, decide_eq_true_eq]
      constructor
      · rintro ⟨entry, hentry, rfl⟩
        exact ⟨entry, ⟨hentry, hk⟩, rfl⟩
      · rintro ⟨entry, ⟨hentry, _⟩, rfl⟩
        exact ⟨entry, hentry, rfl⟩
    rw [hmem facts'.entries, hmem facts.entries, h.others]
    simp [hk]

theorem contactDate_other (h : Sends key now facts facts') {k : ContactKey} (hk : k ≠ key) :
    contactDate facts' k = contactDate facts k := by
  have hfind : ∀ entries : List (ContactKey × Int),
      entries.reverse.find? (fun entry => decide (entry.1 = k)) =
        (entries.filter (fun entry => decide (entry.1 ≠ key))).reverse.find?
          (fun entry => decide (entry.1 = k)) := by
    intro entries
    rw [← List.filter_reverse, List.find?_filter]
    congr 1
    funext entry
    by_cases hentry : entry.1 = k
    · simp [hentry, hk]
    · simp [hentry]
  unfold contactDate
  rw [hfind facts'.entries, hfind facts.entries, h.others]

theorem contactDate_sent (h : Sends key now facts facts')
    (hnew : key ∉ contactKeys facts) : contactDate facts' key = some now := by
  unfold contactDate
  cases hfind : facts'.entries.reverse.find? (fun entry => decide (entry.1 = key)) with
  | none =>
    have hnone := List.find?_eq_none.1 hfind (key, now) (List.mem_reverse.2 h.here)
    simp at hnone
  | some entry =>
    have hkey : entry.1 = key := by simpa using List.find?_some hfind
    have hentry : (key, entry.2) ∈ facts'.entries := by
      rw [← hkey]
      exact List.mem_reverse.1 (List.mem_of_find?_eq_some hfind)
    rcases h.known entry.2 hentry with hdate | hknown
    · simp [hdate]
    · exact absurd (List.mem_toFinset.2 hknown) hnew

theorem mem_contactDates (facts : Facts) (date : Int) : date ∈ contactDates facts ↔
    0 < date ∧ ∃ k ∈ contactKeys facts, contactDate facts k = some date := by
  unfold contactDates contactKeys
  rw [List.mem_filter, List.mem_filterMap, decide_eq_true_eq, and_comm]
  simp only [List.mem_toFinset]

theorem mem_contactDates_sent (h : Sends key now facts facts') (hnew : key ∉ contactKeys facts)
    (hnow : 0 < now) (date : Int) :
    date ∈ contactDates facts' ↔ date = now ∨ date ∈ contactDates facts := by
  rw [mem_contactDates, mem_contactDates, contactKeys_sent h]
  simp only [Finset.mem_insert]
  constructor
  · rintro ⟨hpos, k, rfl | hk, hdate⟩
    · rw [contactDate_sent h hnew, Option.some.injEq] at hdate
      exact .inl hdate.symm
    · rw [contactDate_other h (fun hkey => hnew (hkey ▸ hk))] at hdate
      exact .inr ⟨hpos, k, hk, hdate⟩
  · rintro (rfl | ⟨hpos, k, hk, hdate⟩)
    · exact ⟨hnow, key, .inl rfl, contactDate_sent h hnew⟩
    · refine ⟨hpos, k, .inr hk, ?_⟩
      rw [contactDate_other h (fun hkey => hnew (hkey ▸ hk))]
      exact hdate

end Distinct

/-! ### The flag of the unresolved deliveries -/

/-- An update that makes a row miss the condition takes it out of the rows that are found. -/
theorem count_updateOne_out {κ α : Type} [DecidableEq κ] (t : Table κ α) {k : κ} {g : α → α}
    {p : α → Bool} (hg : ∀ a, p (g a) = false) :
    (t.updateMany (fun k' _ => k' = k) g).count (fun _ a => p a) =
      t.count (fun k' a => k' ≠ k && p a) := by
  unfold Table.count Table.findMany Table.updateMany
  dsimp only
  induction t.rows with
  | nil => rfl
  | cons r rows ih =>
    rw [List.map_cons, List.filter_cons, List.filter_cons]
    by_cases hk : r.1 = k
    · simpa [hk, hg] using ih
    · cases hp : p r.2 <;> simpa [hk, hp] using ih

theorem unresolved_sent (h : markSent recipient externalMessageId now db = .ok db')
    {openId : String} (hopen : given creator.creatorOpenId = some openId)
    (hrecipient : recipient.creatorOpenId = some openId) :
    stillUnresolved recipient db =
      (readFacts db' recipient.shopId recipient.creatorId creator).unresolved := by
  rw [markSent_eq_ok h]
  unfold stillUnresolved Facts.unresolved readFacts deliveredTo
  dsimp only
  congr 1
  · congr 2
    rw [count_updateOne_out db.deliveries (p := fun d => unknownDelivery d &&
      ((db.recipients.get d.campaignRecipientId).any (fun r => r.creatorId = recipient.creatorId) &&
        (db.campaigns.get d.campaignId).any (fun c => c.shopId = recipient.shopId)))
      (fun _ => rfl)]
    simp only [Bool.and_assoc]
  · rw [hopen, hrecipient, Bool.eq_iff_iff, decide_eq_true_eq, List.any_eq_true]
    unfold Table.count
    rw [List.length_pos_iff_exists_mem]
    simp only [Prod.exists, Table.mem_findMany, Bool.and_eq_true, decide_eq_true_eq, and_assoc]

end Sent

section Agreement

variable {db db' : Db} {recipient : SentRecipient} {externalMessageId : String} {now : Int}
  {creator : Creator} {delivery : Delivery}

theorem stateOf_sent (h : markSent recipient externalMessageId now db = .ok db') :
    stateOf db' recipient.shopId recipient.creatorId =
      { stateOf db recipient.shopId recipient.creatorId with
        firstContactedAt := some
          ((stateOf db recipient.shopId recipient.creatorId).firstContactedAt.getD now)
        lastContactedAt := some now
        contactCount := (stateOf db recipient.shopId recipient.creatorId).contactCount + 1
        lastCampaignId := some recipient.campaignId
        lastDeliveryId := some recipient.deliveryId
        unresolvedDelivery := stillUnresolved recipient db } := by
  rw [markSent_eq_ok h]
  unfold stateOf
  simp only [Table.get_set, if_true, Option.getD_some]
  cases db.contacts.get (recipient.shopId, recipient.creatorId) with
  | none => rfl
  | some previous => rfl

/-- The update behind a sent message gives what a rebuild would give. Its count does so exactly
when the message is no contact yet, and then its dates do when no contact lies in the future. -/
theorem sent_agrees_with_rebuild (h : markSent recipient externalMessageId now db = .ok db')
    (hget : db.deliveries.get recipient.deliveryId = some delivery)
    (hto : deliveredTo db recipient.shopId recipient.creatorId delivery = true)
    (hstate : delivery.state ≠ .SENT)
    (hbefore : Recounted (readFacts db recipient.shopId recipient.creatorId creator)
      (stateOf db recipient.shopId recipient.creatorId)) :
    ((stateOf db' recipient.shopId recipient.creatorId).contactCount =
        (contactKeys (readFacts db' recipient.shopId recipient.creatorId creator)).card ↔
      sentKey recipient externalMessageId ∉
        contactKeys (readFacts db recipient.shopId recipient.creatorId creator)) ∧
    (sentKey recipient externalMessageId ∉
        contactKeys (readFacts db recipient.shopId recipient.creatorId creator) →
      0 < now → (∀ date ∈ contactDates (readFacts db recipient.shopId recipient.creatorId creator),
        date ≤ now) → ∀ openId, given creator.creatorOpenId = some openId →
      recipient.creatorOpenId = some openId →
      Recounted (readFacts db' recipient.shopId recipient.creatorId creator)
        (stateOf db' recipient.shopId recipient.creatorId)) := by
  have hsends : Sends (sentKey recipient externalMessageId) now
      (readFacts db recipient.shopId recipient.creatorId creator)
      (readFacts db' recipient.shopId recipient.creatorId creator) :=
    sends_markSent h hget hto hstate
  have hcount : (stateOf db' recipient.shopId recipient.creatorId).contactCount =
      (contactKeys (readFacts db recipient.shopId recipient.creatorId creator)).card + 1 := by
    rw [stateOf_sent h, ← hbefore.contactCount]
  have hkeys := contactKeys_sent hsends
  constructor
  · rw [hcount, hkeys]
    constructor
    · intro heq hknown
      rw [Finset.insert_eq_of_mem hknown] at heq
      omega
    · intro hnew
      exact (Finset.card_insert_of_notMem hnew).symm
  · intro hnew hnow hpast openId hopen hrecipient
    have hdates := mem_contactDates_sent hsends hnew hnow
    constructor
    · rw [hcount, hkeys, Finset.card_insert_of_notMem hnew]
    · rw [stateOf_sent h, hbefore.firstContactedAt, eq_comm]
      simp only
      rw [List.min?_eq_some_iff]
      cases hmin : (contactDates (readFacts db recipient.shopId recipient.creatorId
          creator)).min? with
      | none =>
        rw [List.min?_eq_none_iff] at hmin
        refine ⟨(hdates _).2 (.inl rfl), fun date hdate => ?_⟩
        rcases (hdates date).1 hdate with rfl | hold
        · exact le_rfl
        · rw [hmin] at hold
          cases hold
      | some first =>
        obtain ⟨hmem, hleast⟩ := List.min?_eq_some_iff.1 hmin
        refine ⟨(hdates _).2 (.inr hmem), fun date hdate => ?_⟩
        rcases (hdates date).1 hdate with rfl | hold
        · exact hpast first hmem
        · exact hleast date hold
    · rw [stateOf_sent h, eq_comm]
      simp only
      rw [List.max?_eq_some_iff]
      refine ⟨(hdates _).2 (.inl rfl), fun date hdate => ?_⟩
      rcases (hdates date).1 hdate with rfl | hold
      · exact le_rfl
      · exact hpast date hold
    · rw [stateOf_sent h]
      exact unresolved_sent h hopen hrecipient

def sampleRecipient : SentRecipient := ⟨9, 3, 7, 1, some "open"⟩

theorem sent_agrees_with_rebuild_in_the_sample : ∃ db',
    markSent sampleRecipient "m2" 60 sampleDb = .ok db' ∧
      Recounted (readFacts db' 7 1 { creatorOpenId := some "open" }) (stateOf db' 7 1) := by
  obtain ⟨db', h⟩ : ∃ db', markSent sampleRecipient "m2" 60 sampleDb = .ok db' := ⟨_, rfl⟩
  have hbefore : Recounted (readFacts sampleDb 7 1 { creatorOpenId := some "open" })
      (stateOf sampleDb 7 1) := ⟨by decide, by decide, by decide, by decide⟩
  have hget : sampleDb.deliveries.get sampleRecipient.deliveryId =
      some { campaignId := 3, campaignRecipientId := 5, state := .DISPATCHING } := rfl
  have hagrees := sent_agrees_with_rebuild h hget (by decide) (by decide) hbefore
  exact ⟨db', h, hagrees.2 (by decide) (by decide) (by decide) "open" (by decide) rfl⟩

end Agreement

end tiktok_outreach.contact_states
