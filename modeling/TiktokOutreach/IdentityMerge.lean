-- What the link of two creators leaves of their rows: every row of the source
-- is the target's, and the contact row of a shop is what the rows and the
-- facts of both creators make it.
import TiktokOutreach.CreatorIdentityResolver
import TiktokOutreach.Lib.Extremes

open tables extremes tiktok_outreach.identity_schema tiktok_outreach.creator_identity_resolver

namespace tiktok_outreach.identity_merge

/-! ## What the two creators have -/

/-- What is stored of the contacts of either creator with a shop. -/
def factsOfBoth (db : Db) (shopId sourceId targetId : Nat) (source target : Creator) : Facts where
  deliveries := (db.deliveries.findMany (fun _ d => d.state = .SENT &&
    (deliveredTo db shopId sourceId d || deliveredTo db shopId targetId d))).insertionSort sentAtDesc
  messages := db.messages.findMany (fun _ m => m.direction = .OUTBOUND &&
    (db.conversations.get m.conversationId).any (fun c =>
      c.shopId = shopId && (c.creatorId = sourceId || c.creatorId = targetId)))
  facts := db.facts.findMany (fun key f => key.1 = shopId &&
    ((given source.creatorOpenId).any (fun openId => f.creatorOpenId = some openId) ||
      (given target.creatorOpenId).any (fun openId => f.creatorOpenId = some openId)))
  unknownDeliveries := db.deliveries.count (fun _ d => unknownDelivery d &&
    (deliveredTo db shopId sourceId d || deliveredTo db shopId targetId d))

/-- The contact rows of a shop. -/
def contactRows (db : Db) (shopId sourceId targetId : Nat) : List Contact :=
  (db.contacts.get (shopId, sourceId)).toList ++ (db.contacts.get (shopId, targetId)).toList

/-- The date of a contact: of its fact, or else of its message, or else of its delivery. -/
def contactDate (facts : Facts) (key : ContactKey) : Option Int :=
  (facts.entries.reverse.find? (fun entry => entry.1 = key)).map Prod.snd

/-- The dates of the distinct contacts. A delivery without a date counts as none. -/
def contactDates (facts : Facts) : List Int :=
  ((facts.entries.map Prod.fst).filterMap (contactDate facts)).filter (fun date => decide (0 < date))

/-- The contact row that the two rows and the facts of both creators make. -/
structure Rebuilt (facts : Facts) (rows : List Contact) (row : Contact) : Prop where
  doNotContact : row.doNotContact = rows.any (·.doNotContact)
  unresolvedDelivery : row.unresolvedDelivery = (rows.any (·.unresolvedDelivery) || facts.unresolved)
  historyCoverageStart : row.historyCoverageStart =
    (rows.filterMap (·.historyCoverageStart) ++ facts.factDates).min?
  contactCount : row.contactCount = (facts.entries.map Prod.fst).toFinset.card
  firstContactedAt : row.firstContactedAt = (contactDates facts).min?
  lastContactedAt : row.lastContactedAt = (contactDates facts).max?

def repoint (sourceId targetId creatorId : Nat) : Nat :=
  if creatorId = sourceId then targetId else creatorId

/-- The link of two creators, table by table. -/
structure Merged (db db' : Db) (sourceId targetId : Nat) (source target : Creator) : Prop where
  contact : ∀ shopId, contactRows db shopId sourceId targetId ≠ [] →
    ∃ row, db'.contacts.get (shopId, targetId) = some row ∧
      Rebuilt (factsOfBoth db shopId sourceId targetId source target)
        (contactRows db shopId sourceId targetId) row
  identities : ∀ key, (db'.identities.get key).map (·.creatorId) =
    (db.identities.get key).map (fun i => repoint sourceId targetId i.creatorId)
  snapshots : ∀ id, db'.snapshots.get id = (db.snapshots.get id).map
    (fun s => { s with creatorId := repoint sourceId targetId s.creatorId })
  conversations : ∀ id, db'.conversations.get id = (db.conversations.get id).map
    (fun c => { c with creatorId := repoint sourceId targetId c.creatorId })
  recipients : ∀ id, db'.recipients.get id = (db.recipients.get id).map
    (fun r => { r with creatorId := repoint sourceId targetId r.creatorId })
  reservations : ∀ id, db'.reservations.get id = (db.reservations.get id).map
    (fun r => { r with creatorId := repoint sourceId targetId r.creatorId })
  stored : db'.messages = db.messages ∧ db'.deliveries = db.deliveries ∧ db'.facts = db.facts
  source_gone : db'.creators.get sourceId = none ∧
    ∀ shopId, db'.contacts.get (shopId, sourceId) = none
  others : ∀ key, key.2 ≠ sourceId → key.2 ≠ targetId →
    db'.contacts.get key = db.contacts.get key

/-! ## The flags that are kept -/

/-- `preserved` for the rows of one shop. -/
def noted (rows : List Contact) : Option Preserved :=
  rows.foldl (fun current row => some (Preserved.note current row)) none

theorem noted_append (rows : List Contact) (row : Contact) :
    noted (rows ++ [row]) = some (Preserved.note (noted rows) row) := by
  unfold noted
  rw [List.foldl_append]
  rfl

theorem get_preserve (contacts : List ((Nat × Nat) × Contact)) (shopId : Nat) :
    (preserve contacts).get shopId =
      noted ((contacts.filter (fun row => row.1.1 = shopId)).map Prod.snd) := by
  induction contacts using List.reverseRecOn with
  | nil => rfl
  | append_singleton contacts row ih =>
    have hstep : preserve (contacts ++ [row]) = (preserve contacts).set row.1.1
        (Preserved.note ((preserve contacts).get row.1.1) row.2) := by
      unfold preserve
      rw [List.foldl_append]
      rfl
    rw [hstep, Table.get_set, List.filter_append, List.map_append]
    by_cases hshop : shopId = row.1.1
    · subst hshop
      rw [if_pos rfl, ih]
      simp [noted_append]
    · have hother : ¬ row.1.1 = shopId := fun h => hshop h.symm
      rw [if_neg hshop, ih]
      simp [hother]

/-- The rows of a creator have one row for a shop. -/
theorem rows_of_shop (db : Db) (shopId creatorId : Nat) :
    ((db.contacts.findMany (fun key _ => key.2 = creatorId)).filter
      (fun row => row.1.1 = shopId)).map Prod.snd =
      (db.contacts.get (shopId, creatorId)).toList := by
  have hkey : (db.contacts.findMany (fun key _ => key.2 = creatorId)).filter
      (fun row => row.1.1 = shopId) =
      db.contacts.findMany (fun key _ => key = (shopId, creatorId)) := by
    unfold Table.findMany
    rw [List.filter_filter]
    apply List.filter_congr
    rintro ⟨⟨shop, creator⟩, row⟩ _
    simp [Prod.ext_iff]
  rw [hkey, Table.findMany_key, List.map_map]
  simp

theorem get_preserve_both (db : Db) (shopId sourceId targetId : Nat) :
    (preserve (db.contacts.findMany (fun key _ => key.2 = sourceId) ++
      db.contacts.findMany (fun key _ => key.2 = targetId))).get shopId =
      noted (contactRows db shopId sourceId targetId) := by
  rw [get_preserve, List.filter_append, List.map_append, rows_of_shop, rows_of_shop]
  rfl

/-- The start that a turn of the loop keeps is the earliest so far. -/
theorem min?_concat (starts : List Int) (start : Option Int) :
    (starts ++ start.toList).min? =
      (match starts.min?, start with
      | none, start => start
      | some earliest, none => some earliest
      | some earliest, some next => if next < earliest then some next else some earliest) := by
  cases start with
  | none => cases hmin : starts.min? <;> simp [hmin]
  | some next =>
    cases hmin : starts.min? with
    | none =>
      rw [List.min?_eq_none_iff] at hmin
      simp [hmin]
    | some earliest =>
      obtain ⟨hmem, hleast⟩ := List.min?_eq_some_iff.1 hmin
      simp only [Option.toList_some]
      split
      · rw [List.min?_eq_some_iff]
        refine ⟨by simp, ?_⟩
        intro b hb
        rcases List.mem_append.1 hb with hstarts | hnext
        · have := hleast b hstarts
          omega
        · rw [List.mem_singleton] at hnext
          omega
      · rw [List.min?_eq_some_iff]
        refine ⟨List.mem_append_left _ hmem, ?_⟩
        intro b hb
        rcases List.mem_append.1 hb with hstarts | hnext
        · exact hleast b hstarts
        · rw [List.mem_singleton] at hnext
          omega

/-- The fold over the rows, flag by flag. -/
theorem flags_of_noted (rows : List Contact) :
    (noted rows).any (·.doNotContact) = rows.any (·.doNotContact) ∧
      (noted rows).any (·.unresolvedDelivery) = rows.any (·.unresolvedDelivery) ∧
      (noted rows).bind (·.historyCoverageStart) =
        (rows.filterMap (·.historyCoverageStart)).min? := by
  induction rows using List.reverseRecOn with
  | nil => exact ⟨rfl, rfl, rfl⟩
  | append_singleton rows row ih =>
    obtain ⟨hcontact, hdelivery, hstart⟩ := ih
    rw [noted_append, List.any_append, List.any_append, List.filterMap_append]
    refine ⟨?_, ?_, ?_⟩
    · simp [Preserved.note, hcontact]
    · simp [Preserved.note, hdelivery]
    · have hlast : [row].filterMap (·.historyCoverageStart) = row.historyCoverageStart.toList := by
        cases hrow : row.historyCoverageStart <;> simp [hrow]
      rw [hlast, min?_concat, ← hstart]
      rfl

/-! ## The rows of the source -/

section Moved

variable {db : Db} {sourceId targetId : Nat} {evidenceType : String}

/-- The rows point at the target, and the delete of the source finds none. -/
theorem get_repointed {κ α : Type} [DecidableEq κ] (t : Table κ α) (owner : α → Nat)
    (move : α → α) (hmove : ∀ a, owner (move a) ≠ sourceId) (k : κ) :
    ((t.updateMany (fun _ a => owner a = sourceId) move).deleteMany
      (fun _ a => owner a = sourceId)).get k =
      (t.get k).map (fun a => if owner a = sourceId then move a else a) := by
  cases hget : t.get k with
  | none => simp [hget]
  | some a =>
    by_cases howner : owner a = sourceId
    · simp [hget, howner, hmove]
    · simp [hget, howner]

/-- The database after the updates and the deletes. -/
def afterMove (db : Db) (sourceId targetId : Nat) (evidenceType : String) : Db :=
  (Db.moved db sourceId targetId evidenceType).deleteCreator sourceId

theorem conversations_afterMove (hne : sourceId ≠ targetId) (id : Nat) :
    (afterMove db sourceId targetId evidenceType).conversations.get id =
      (db.conversations.get id).map
        (fun c => { c with creatorId := repoint sourceId targetId c.creatorId }) := by
  unfold afterMove Db.deleteCreator Db.moved
  simp only
  rw [get_repointed db.conversations (·.creatorId) _ (fun _ => hne.symm)]
  congr 1
  funext c
  unfold repoint
  split <;> rfl

theorem recipients_afterMove (hne : sourceId ≠ targetId) (id : Nat) :
    (afterMove db sourceId targetId evidenceType).recipients.get id =
      (db.recipients.get id).map
        (fun r => { r with creatorId := repoint sourceId targetId r.creatorId }) := by
  unfold afterMove Db.deleteCreator Db.moved
  simp only
  rw [get_repointed db.recipients (·.creatorId) _ (fun _ => hne.symm)]
  congr 1
  funext r
  unfold repoint
  split <;> rfl

theorem snapshots_afterMove (hne : sourceId ≠ targetId) (id : Nat) :
    (afterMove db sourceId targetId evidenceType).snapshots.get id =
      (db.snapshots.get id).map
        (fun s => { s with creatorId := repoint sourceId targetId s.creatorId }) := by
  unfold afterMove Db.deleteCreator Db.moved
  simp only
  rw [get_repointed db.snapshots (·.creatorId) _ (fun _ => hne.symm)]
  congr 1
  funext s
  unfold repoint
  split <;> rfl

theorem identities_afterMove (hne : sourceId ≠ targetId) (key : IdentityType × String) :
    ((afterMove db sourceId targetId evidenceType).identities.get key).map (·.creatorId) =
      (db.identities.get key).map (fun i => repoint sourceId targetId i.creatorId) := by
  unfold afterMove Db.deleteCreator Db.moved
  simp only
  rw [get_repointed db.identities (·.creatorId) _ (fun _ => hne.symm), Option.map_map]
  congr 1
  funext i
  unfold repoint
  simp only [Function.comp_apply]
  split <;> rfl

/-- After the move no recipient is the source's. -/
theorem not_owned_afterMove (hne : sourceId ≠ targetId) (id : Nat) :
    ((Db.moved db sourceId targetId evidenceType).recipients.get id).any
      (fun r => r.creatorId = sourceId) = false := by
  unfold Db.moved
  cases hget : db.recipients.get id with
  | none => simp [hget]
  | some r =>
    by_cases howner : r.creatorId = sourceId
    · simp [hget, howner, hne.symm]
    · simp [hget, howner]

theorem reservations_afterMove (hne : sourceId ≠ targetId) (id : Nat) :
    (afterMove db sourceId targetId evidenceType).reservations.get id =
      (db.reservations.get id).map
        (fun r => { r with creatorId := repoint sourceId targetId r.creatorId }) := by
  have howned : ∀ recipientId,
      ((Db.moved db sourceId targetId evidenceType).recipients.get recipientId).any
        (fun r => r.creatorId = sourceId) = false := not_owned_afterMove hne
  unfold afterMove Db.deleteCreator
  simp only [howned, Bool.or_false]
  unfold Db.moved
  simp only
  rw [get_repointed db.reservations (·.creatorId) _ (fun _ => hne.symm)]
  congr 1
  funext r
  unfold repoint
  split <;> rfl

theorem deliveries_afterMove (hne : sourceId ≠ targetId) :
    (afterMove db sourceId targetId evidenceType).deliveries = db.deliveries := by
  unfold afterMove Db.deleteCreator
  simp only
  apply Table.deleteMany_of_none
  intro id delivery _
  exact not_owned_afterMove hne delivery.campaignRecipientId

theorem messages_afterMove (hne : sourceId ≠ targetId) :
    (afterMove db sourceId targetId evidenceType).messages = db.messages := by
  unfold afterMove Db.deleteCreator
  simp only
  apply Table.deleteMany_of_none
  intro id message _
  unfold Db.moved
  cases hget : db.conversations.get message.conversationId with
  | none => simp [hget]
  | some c =>
    by_cases howner : c.creatorId = sourceId
    · simp [hget, howner, hne.symm]
    · simp [hget, howner]

theorem contacts_afterMove (key : Nat × Nat) :
    (afterMove db sourceId targetId evidenceType).contacts.get key =
      if key.2 = sourceId ∨ key.2 = targetId then none else db.contacts.get key := by
  unfold afterMove Db.deleteCreator Db.moved
  by_cases hkey : key.2 = sourceId ∨ key.2 = targetId
  · rw [if_pos hkey]
    rcases hkey with hkey | hkey <;> simp [hkey]
  · rw [if_neg hkey]
    push Not at hkey
    cases hget : db.contacts.get key <;> simp [hget, hkey.1, hkey.2]

end Moved

/-! ## What the rebuild reads -/

theorem repoint_eq_target {sourceId targetId creatorId : Nat} :
    repoint sourceId targetId creatorId = targetId ↔
      creatorId = sourceId ∨ creatorId = targetId := by
  unfold repoint
  split
  · simp_all
  · simp_all

section Reads

variable {db : Db} {sourceId targetId : Nat} {evidenceType : String}

/-- Deliveries to either creator are deliveries to the target. -/
theorem deliveredTo_afterMove (hne : sourceId ≠ targetId) (shopId : Nat) (d : Delivery) :
    deliveredTo (afterMove db sourceId targetId evidenceType) shopId targetId d =
      (deliveredTo db shopId sourceId d || deliveredTo db shopId targetId d) := by
  unfold deliveredTo
  rw [recipients_afterMove hne]
  have hcampaigns : (afterMove db sourceId targetId evidenceType).campaigns = db.campaigns := rfl
  rw [hcampaigns, ← Bool.and_or_distrib_right]
  congr 1
  cases hget : db.recipients.get d.campaignRecipientId with
  | none => rfl
  | some r => simp [repoint_eq_target]

/-- Conversations of either creator are conversations of the target. -/
theorem conversing_afterMove (hne : sourceId ≠ targetId) (shopId conversationId : Nat) :
    ((afterMove db sourceId targetId evidenceType).conversations.get conversationId).any
        (fun c => c.shopId = shopId && c.creatorId = targetId) =
      (db.conversations.get conversationId).any (fun c =>
        c.shopId = shopId && (c.creatorId = sourceId || c.creatorId = targetId)) := by
  rw [conversations_afterMove hne]
  cases hget : db.conversations.get conversationId with
  | none => rfl
  | some c => simp [repoint_eq_target]

theorem readFacts_afterMove (hne : sourceId ≠ targetId) (shopId : Nat) {source target : Creator}
    (hopen : given source.creatorOpenId = none) :
    readFacts (afterMove db sourceId targetId evidenceType) shopId targetId
        (merged source target) =
      factsOfBoth db shopId sourceId targetId source target := by
  have hfacts : (afterMove db sourceId targetId evidenceType).facts = db.facts := rfl
  have htarget : (merged source target).creatorOpenId = target.creatorOpenId := rfl
  unfold readFacts factsOfBoth
  simp only [deliveredTo_afterMove hne, conversing_afterMove hne, deliveries_afterMove hne,
    messages_afterMove hne, hfacts, htarget, hopen, Option.any_none, Bool.false_or]
  congr 1
  cases given target.creatorOpenId with
  | none => simp [Table.findMany]
  | some openId => simp

end Reads

/-! ## The row that the rebuild creates -/

theorem get_contacts (facts : Facts) (key : ContactKey) :
    facts.contacts.get key = contactDate facts key :=
  Table.get_ofList_eq_find? facts.entries key

/-- The map has one date for each key. -/
theorem mem_dates (facts : Facts) (date : Int) :
    date ∈ facts.contacts.rows.map Prod.snd ↔
      date ∈ (facts.entries.map Prod.fst).filterMap (contactDate facts) := by
  rw [List.mem_filterMap, List.mem_map]
  constructor
  · rintro ⟨⟨key, date'⟩, hrow, rfl⟩
    refine ⟨key, ?_, ?_⟩
    · exact (Table.mem_keys_ofList facts.entries key).1 (List.mem_map.2 ⟨_, hrow, rfl⟩)
    · rw [← get_contacts, ← Table.mem_rows_iff]
      exact hrow
  · rintro ⟨key, _, hdate⟩
    rw [← get_contacts, ← Table.mem_rows_iff] at hdate
    exact ⟨(key, date), hdate, rfl⟩

theorem mem_sorted_dates (facts : Facts) (date : Int) :
    date ∈ (facts.contacts.rows.map Prod.snd).filter (fun date => decide (0 < date)) ↔
      date ∈ contactDates facts := by
  unfold contactDates
  rw [List.mem_filter, List.mem_filter, mem_dates]

theorem count_contacts (facts : Facts) :
    facts.contacts.rows.length = (facts.entries.map Prod.fst).toFinset.card := by
  have hkeys : (facts.entries.map Prod.fst).toFinset =
      (facts.contacts.rows.map Prod.fst).toFinset := by
    apply Finset.ext
    intro key
    rw [List.mem_toFinset, List.mem_toFinset]
    exact (Table.mem_keys_ofList facts.entries key).symm
  rw [hkeys, List.toFinset_card_of_nodup facts.contacts.nodup, List.length_map]

theorem rebuilt_of_noted (facts : Facts) {rows : List Contact} {preserved : Preserved}
    (h : noted rows = some preserved) : Rebuilt facts rows (rebuilt facts preserved) := by
  obtain ⟨hcontact, hdelivery, hstart⟩ := flags_of_noted rows
  rw [h] at hcontact hdelivery hstart
  simp only [Option.any_some, Option.bind_some] at hcontact hdelivery hstart
  refine ⟨hcontact, ?_, ?_, count_contacts facts, ?_, ?_⟩
  · unfold rebuilt
    simp only [hdelivery]
  · unfold rebuilt
    simp only
    rw [head?_insertionSort, hstart]
    exact min?_append_min? _ _
  · unfold rebuilt Facts.dates
    simp only
    rw [head?_insertionSort]
    exact min?_congr (mem_sorted_dates facts)
  · unfold rebuilt Facts.dates
    simp only
    rw [getLast?_insertionSort]
    exact max?_congr (mem_sorted_dates facts)

/-! ## The loop over the shops -/

/-- The loop writes the row of each shop, and nothing else. -/
theorem contacts_of_rebuilds {creatorId : Nat} {creator : Creator} {shops : List (Nat × Preserved)}
    (hshops : (shops.map Prod.fst).Nodup) {db db' : Db}
    (hcreator : db.creators.get creatorId = some creator)
    (h : shops.foldlM (fun db shop => rebuildContactState creatorId shop db) db = .ok db') :
    ∃ contacts, db' = { db with contacts := contacts } ∧
      (∀ shop ∈ shops, contacts.get (shop.1, creatorId) =
        some (rebuilt (readFacts db shop.1 creatorId creator) shop.2)) ∧
      ∀ key, (key.2 = creatorId → key.1 ∉ shops.map Prod.fst) →
        contacts.get key = db.contacts.get key := by
  induction shops generalizing db with
  | nil =>
    cases h
    refine ⟨db'.contacts, rfl, ?_, fun key _ => rfl⟩
    intro shop hshop
    cases hshop
  | cons first shops ih =>
    rw [List.foldlM_cons] at h
    obtain ⟨db₁, hstep, hrest⟩ := bind_eq_ok.1 h
    unfold rebuildContactState at hstep
    obtain ⟨creator', hget, hstep⟩ := bind_eq_ok.1 hstep
    obtain ⟨_, _, hstep⟩ := bind_eq_ok.1 hstep
    rw [orThrow_eq_ok, hcreator, Option.some.injEq] at hget
    subst hget
    cases hstep
    rw [List.map_cons, List.nodup_cons] at hshops
    have hcreator₁ : ({ db with
        contacts := db.contacts.set (first.1, creatorId)
          (rebuilt (readFacts db first.1 creatorId creator) first.2) } : Db).creators.get creatorId =
        some creator := hcreator
    obtain ⟨contacts, hdb', hrows, hothers⟩ := ih hshops.2 hcreator₁ hrest
    refine ⟨contacts, hdb', ?_, ?_⟩
    · intro shop hshop
      rcases List.mem_cons.1 hshop with rfl | hmem
      · rw [hothers (shop.1, creatorId) (fun _ => hshops.1)]
        simp
      · exact hrows shop hmem
    · intro key hkey
      have hrest : key.2 = creatorId → key.1 ∉ shops.map Prod.fst := by
        intro hcreatorId hmem
        exact hkey hcreatorId (List.mem_cons_of_mem _ hmem)
      rw [hothers key hrest]
      have hfirst : key ≠ (first.1, creatorId) := by
        rintro rfl
        exact hkey rfl List.mem_cons_self
      simp [hfirst]

/-! ## The link -/

theorem source_without_openId {db : Db} (hdb : Constraints db) {sourceId targetId : Nat}
    {source target : Creator} {evidence : ExactLinkEvidence} {u : Unit} (hne : sourceId ≠ targetId)
    (hsource : db.creators.get sourceId = some source)
    (htarget : db.creators.get targetId = some target)
    (h : checkLink db sourceId targetId source target evidence = .ok u) :
    given source.creatorOpenId = none := by
  unfold checkLink at h
  obtain ⟨_, _, h⟩ := bind_eq_ok.1 h
  obtain ⟨_, hopen, _⟩ := bind_eq_ok.1 h
  rw [refuse_eq_ok] at hopen
  by_contra hgiven
  have hsome : (given source.creatorOpenId).isSome = true := by
    rw [Option.isSome_iff_ne_none]
    exact hgiven
  rw [hsome, Bool.true_and, decide_eq_false_iff_not, not_not] at hopen
  -- the two creators would share an Open ID
  have hshares : SharesId source target := by
    left
    unfold sameId
    unfold given at hsome
    cases hid : source.creatorOpenId with
    | none => simp [hid] at hsome
    | some openId => simp [← hopen, hid]
  exact hne (hdb.unique sourceId source targetId target hsource htarget hshares)

theorem merged_of_mergeCreators {db db' : Db} {sourceId targetId : Nat} {source target : Creator}
    {evidence : ExactLinkEvidence} (hne : sourceId ≠ targetId)
    (hopen : given source.creatorOpenId = none)
    (h : mergeCreators sourceId targetId source target evidence db = .ok db') :
    Merged db db' sourceId targetId source target := by
  unfold mergeCreators at h
  obtain ⟨_, _, h⟩ := bind_eq_ok.1 h
  obtain ⟨db₁, hupdate, h⟩ := bind_eq_ok.1 h
  obtain ⟨db₂, hrebuild, h⟩ := bind_eq_ok.1 h
  cases h
  obtain ⟨old, _, _, hdb₁⟩ := updateCreator_eq_ok hupdate
  have hafter : (Db.moved db sourceId targetId evidence.evidenceType.text).deleteCreator sourceId =
      afterMove db sourceId targetId evidence.evidenceType.text := rfl
  rw [hafter] at hdb₁
  have hcreator : db₁.creators.get targetId = some (merged source target) := by
    rw [hdb₁]
    unfold Db.setCreator
    simp
  have hreads : ∀ shopId, readFacts db₁ shopId targetId (merged source target) =
      factsOfBoth db shopId sourceId targetId source target := by
    intro shopId
    rw [hdb₁, ← readFacts_afterMove hne shopId hopen]
    rfl
  obtain ⟨contacts, hdb₂, hrows, hothers⟩ :=
    contacts_of_rebuilds (Table.nodup _) hcreator hrebuild
  subst hdb₂
  subst hdb₁
  have hcontacts : ∀ key, (key.2 = sourceId ∨ key.2 ≠ targetId) →
      contacts.get key =
        (afterMove db sourceId targetId evidence.evidenceType.text).contacts.get key := by
    intro key hkey
    refine hothers key ?_
    intro htarget
    rcases hkey with hsource | hnot
    · exact absurd (hsource.symm.trans htarget) hne
    · exact absurd htarget hnot
  constructor
  · intro shopId hshop
    have hnoted : ∃ preserved, noted (contactRows db shopId sourceId targetId) = some preserved := by
      rw [← List.dropLast_append_getLast hshop, noted_append]
      exact ⟨_, rfl⟩
    obtain ⟨preserved, hpreserved⟩ := hnoted
    have hmem := hrows (shopId, preserved) (by
      rw [Table.mem_rows_iff, get_preserve_both, hpreserved])
    refine ⟨_, hmem, ?_⟩
    rw [hreads]
    exact rebuilt_of_noted _ hpreserved
  · exact identities_afterMove hne
  · exact snapshots_afterMove hne
  · exact conversations_afterMove hne
  · exact recipients_afterMove hne
  · exact reservations_afterMove hne
  · exact ⟨messages_afterMove hne, deliveries_afterMove hne, rfl⟩
  · refine ⟨?_, ?_⟩
    · unfold Db.setCreator afterMove Db.deleteCreator
      simp [hne]
    · intro shopId
      rw [hcontacts (shopId, sourceId) (.inl rfl), contacts_afterMove]
      simp
  · intro key hsource htarget
    rw [hcontacts key (.inr htarget), contacts_afterMove]
    simp [hsource, htarget]

/-- The link of two creators that succeeds loses nothing of either, and one that fails
changes nothing. -/
theorem identity_merge_loses_nothing {db : Db} (hdb : Constraints db) {sourceId targetId : Nat}
    {source target : Creator} (hne : sourceId ≠ targetId)
    (hsource : db.creators.get sourceId = some source)
    (htarget : db.creators.get targetId = some target) (evidence : ExactLinkEvidence) :
    (∀ id db', linkExactProviderIdentities sourceId targetId evidence db = .ok (id, db') →
      id = targetId ∧ Merged db db' sourceId targetId source target) ∧
    ∀ failure, linkExactProviderIdentities sourceId targetId evidence db = .error failure →
      commit (linkExactProviderIdentities sourceId targetId evidence) db = db := by
  constructor
  · intro id db' h
    unfold linkExactProviderIdentities at h
    obtain ⟨target', htarget', h⟩ := bind_eq_ok.1 h
    rw [orThrow_eq_ok, htarget, Option.some.injEq] at htarget'
    subst htarget'
    simp only [hsource, if_neg hne] at h
    obtain ⟨_, hcheck, h⟩ := bind_eq_ok.1 h
    obtain ⟨db₁, hmerge, h⟩ := bind_eq_ok.1 h
    cases h
    exact ⟨rfl, merged_of_mergeCreators hne
      (source_without_openId hdb hne hsource htarget hcheck) hmerge⟩
  · intro failure h
    unfold commit
    rw [h]

/-! ## A merge with older facts -/

/-- The delivery of creator 1 was listed again as a message two seconds later, and a file
names an earlier attempt for creator 2. -/
def sample : Db where
  creators := Table.ofList [(1, { creatorImId := some "im" }), (2, { creatorOpenId := some "open" })]
  contacts := Table.ofList [((1, 2), { historyCoverageStart := some 10 })]
  campaigns := Table.ofList [(1, ⟨1⟩)]
  recipients := Table.ofList [(1, ⟨1, 1⟩)]
  deliveries := Table.ofList [(1, {
    campaignId := 1, campaignRecipientId := 1, state := .SENT
    externalMessageId := some "m", sentAt := some 5 })]
  conversations := Table.ofList [(1, ⟨1, 1⟩)]
  messages := Table.ofList [("m", ⟨1, .OUTBOUND, 7⟩)]
  facts := Table.ofList [((1, "row"), {
    creatorOpenId := some "open", contactedAt := 3
    sendStatus := .OTHER "FAILED", resolutionState := .MATCHED })]

def sampleEvidence : ExactLinkEvidence where
  evidenceType := .DOCUMENTED_PROVIDER_MAPPING
  creatorImId := "im"
  creatorOpenId := "open"
  mappingReference := some "map"

def sampleSource : Creator := { creatorImId := some "im" }

def sampleTarget : Creator := { creatorOpenId := some "open" }

/-- The coverage start is earlier than the only one known, and the first contact is later
than the earliest date that is stored. -/
theorem merge_takes_dates_of_facts :
    ∃ row, (commit (linkExactProviderIdentities 1 2 sampleEvidence) sample).contacts.get (1, 2) =
        some row ∧
      row.historyCoverageStart ≠
        ((contactRows sample 1 1 2).filterMap (·.historyCoverageStart)).min? ∧
      row.firstContactedAt ≠
        ((factsOfBoth sample 1 1 2 sampleSource sampleTarget).entries.map Prod.snd).min? := by
  refine ⟨{
    firstContactedAt := some 7, lastContactedAt := some 7, contactCount := 1
    lastCampaignId := some 1, lastDeliveryId := some 1
    historyCoverageStart := some 3 }, ?_, ?_, ?_⟩
  all_goals decide

theorem creators_of_sample {id : Nat} {creator : Creator}
    (h : sample.creators.get id = some creator) :
    id = 1 ∧ creator = sampleSource ∨ id = 2 ∧ creator = sampleTarget := by
  have hmem := Table.mem_of_get_ofList h
  simpa [sampleSource, sampleTarget] using hmem

theorem constraints_sample : Constraints sample := by
  constructor
  · intro id c id' c' hget hget' hshares
    rcases creators_of_sample hget with ⟨rfl, rfl⟩ | ⟨rfl, rfl⟩
    · rcases creators_of_sample hget' with ⟨rfl, rfl⟩ | ⟨rfl, rfl⟩
      · rfl
      · revert hshares
        unfold SharesId
        decide
    · rcases creators_of_sample hget' with ⟨rfl, rfl⟩ | ⟨rfl, rfl⟩
      · revert hshares
        unfold SharesId
        decide
      · rfl
  · intro key row hrow
    cases hrow

/-- The link of the two creators succeeds. -/
theorem identity_merge_of_sample :
    ∃ db', Merged sample db' 1 2 sampleSource sampleTarget := by
  have hne : (1 : Nat) ≠ 2 := by decide
  have h := (identity_merge_loses_nothing constraints_sample hne rfl rfl sampleEvidence).1
  have hok : (linkExactProviderIdentities 1 2 sampleEvidence sample).isOk = true := by decide
  cases hlink : linkExactProviderIdentities 1 2 sampleEvidence sample with
  | error failure =>
    rw [hlink] at hok
    cases hok
  | ok r => exact ⟨r.2, (h r.1 r.2 hlink).2⟩

end tiktok_outreach.identity_merge
