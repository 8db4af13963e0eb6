-- The rows that `send` and the expiry write: what a freeze, an expiry and a
-- queueing make of the row of a recipient, and the rows that a queueing adds.
import TiktokOutreach.OutboxTransitions

open tables transactions tiktok_outreach.schema tiktok_outreach.outreach_service
  tiktok_outreach.queue_outbox tiktok_outreach.commands tiktok_outreach.dispatch_core
  tiktok_outreach.footprints tiktok_outreach.outbox_transitions

namespace tiktok_outreach.send_rows

/-- The content hash is the one of the frozen message. -/
def Hashed (env : Environment) (r : Recipient) : Prop :=
  ∃ message, r.frozenMessage = some message ∧ r.contentHash = some (env.sha256 message)

/-! ## The rows of the recipients -/

/-- A transaction changes the row of a recipient only by `f`. -/
def Rewrites (f : RecipientId → Recipient → Recipient → Prop) (db db' : Db) : Prop :=
  ∀ id, db'.recipients.get id = db.recipients.get id ∨
    ∃ r r', db.recipients.get id = some r ∧ db'.recipients.get id = some r' ∧ f id r r'

section Rewrites

variable {f : RecipientId → Recipient → Recipient → Prop} {db db' : Db}

theorem rewrites_of_eq (h : db'.recipients = db.recipients) : Rewrites f db db' :=
  fun _ => Or.inl (by rw [h])

theorem rewrites_trans (hf : ∀ id r r' r'', f id r r' → f id r' r'' → f id r r'') {db'' : Db}
    (h : Rewrites f db db') (h' : Rewrites f db' db'') : Rewrites f db db'' := by
  intro id
  rcases h' id with hsame | ⟨r', r'', hr', hr'', hf'⟩
  · rw [hsame]
    exact h id
  · rcases h id with hsame | ⟨r, r1, hr, hr1, hf1⟩
    · exact Or.inr ⟨r', r'', hsame ▸ hr', hr'', hf'⟩
    · rw [hr'] at hr1
      cases hr1
      exact Or.inr ⟨r, r'', hr, hr'', hf id r r' r'' hf1 hf'⟩

theorem rewrites_updateMany {p : RecipientId → Recipient → Bool} {g : Recipient → Recipient}
    (hg : ∀ id r, p id r = true → f id r (g r)) :
    Rewrites f db { db with recipients := db.recipients.updateMany p g } := by
  intro id
  rw [Table.get_updateMany]
  cases hr : db.recipients.get id with
  | none => exact Or.inl rfl
  | some r =>
    by_cases hp : p id r = true
    · exact Or.inr ⟨r, g r, rfl, by simp [hp], hg id r hp⟩
    · exact Or.inl (by simp [hp])

theorem within_update {e : Failure} {id : RecipientId} {g : Recipient → Recipient}
    (hg : ∀ r, f id r (g r)) :
    (Tx.update table.recipients e id g : Transaction Unit).Within (Rewrites f) := by
  apply Tx.within_update
  intro db
  apply rewrites_updateMany
  intro id' r hid
  rw [decide_eq_true_eq] at hid
  exact hid ▸ hg r

theorem within_updateMany {p : Db → RecipientId → Recipient → Bool} {g : Recipient → Recipient}
    (hg : ∀ db id r, p db id r = true → f id r (g r)) :
    (Tx.updateMany table.recipients p g : Transaction Nat).Within (Rewrites f) :=
  Tx.within_updateMany _ fun db => rewrites_updateMany (hg db)

theorem Rewrites.mono {g : RecipientId → Recipient → Recipient → Prop} (h : Rewrites f db db')
    (hg : ∀ id r r', f id r r' → g id r r') : Rewrites g db db' := by
  intro id
  rcases h id with hsame | ⟨r, r', hr, hr', hf⟩
  · exact Or.inl hsame
  · exact Or.inr ⟨r, r', hr, hr', hg id r r' hf⟩

theorem run_of_rewrites {α : Type} (hf : ∀ id r r' r'', f id r r' → f id r' r'' → f id r r'')
    {x : Transaction α} (hx : x.Within (Rewrites f)) {a : α} (h : x.run db = .ok (a, db')) :
    Rewrites f db db' :=
  Tx.run_of_within (fun _ => rewrites_of_eq rfl) (fun _ _ _ => rewrites_trans hf) hx h

theorem within_of_recipients {α : Type} {x : Transaction α} (hx : x.Keeps Db.recipients) :
    x.Within (Rewrites f) :=
  Tx.within_of_keeps (fun _ _ => rewrites_of_eq) hx

end Rewrites

/-- The expiry takes a frozen recipient back. -/
def Unfreezes (_ : RecipientId) (r r' : Recipient) : Prop :=
  r.state = .RESERVED ∧ r'.state = .SELECTED ∧ r'.selected = r.selected

theorem expireFrozenCampaigns_rewrites {now : Int} {n : Nat} {db db' : Db}
    (h : (expireFrozenCampaigns now).run db = .ok (n, db')) : Rewrites Unfreezes db db' := by
  apply run_of_rewrites _ _ h
  · rintro id r r' r'' ⟨hr, _, hselected⟩ ⟨_, hr'', hselected'⟩
    exact ⟨hr, hr'', hselected'.trans hselected⟩
  · unfold expireFrozenCampaigns
    refine Tx.within_bind (within_of_recipients (by simp)) fun expired =>
      Tx.within_bind (Tx.within_traverse fun row _ => ?_) fun _ => trivial
    unfold expireCampaign
    refine Tx.within_bind (within_of_recipients (by simp)) fun changed => ?_
    split
    · trivial
    · refine Tx.within_bind (within_of_recipients (by simp)) fun _ =>
        Tx.within_bind (within_updateMany fun db id r hp => ?_) fun _ => trivial
      simp only [Bool.and_eq_true, decide_eq_true_eq] at hp
      exact ⟨hp.2, rfl, rfl⟩

/-- The freeze of the campaign `c` leaves recipients out, and hashes the messages of the others. -/
def FreezesRow (env : Environment) (c : CampaignId) (id : RecipientId) (r r' : Recipient) : Prop :=
  id.campaignId = c ∧ (r'.selected = true → r.selected = true) ∧
    (r'.state = .RESERVED → Hashed env r')

theorem freezeRecipient_within {env : Environment} {c : CampaignId} {campaign : Campaign}
    {cutoff expiresAt : Int} {activelyReserved : List Nat} {s : SelectedRecipient} {index : Nat}
    (hs : s.id.campaignId = c) :
    (freezeRecipient env campaign cutoff expiresAt activelyReserved s index).Within
      (Rewrites (FreezesRow env c)) := by
  subst hs
  unfold freezeRecipient
  split
  · refine Tx.within_bind (within_update fun r => ⟨rfl, ?_, ?_⟩) fun _ => trivial
    · intro hselected
      cases hselected
    · intro hreserved
      cases hreserved
  · dsimp only
    split
    · trivial
    · rename_i message _
      split
      · trivial
      · refine Tx.within_bind (within_of_recipients (by simp)) fun _ =>
          Tx.within_bind (within_update fun r => ?_) fun _ => trivial
        exact ⟨rfl, fun hselected => hselected, fun _ => ⟨message, rfl, rfl⟩⟩

theorem freeze_rewrites {env : Environment} {c : CampaignId} {version : Int} {campaign : Campaign}
    {expiresAt deletedAt eligibilityCheckedAt frozenAt : Int} {db db' : Db}
    (h : (freeze env c version campaign expiresAt deletedAt eligibilityCheckedAt frozenAt).run db =
      .ok ((), db')) : Rewrites (FreezesRow env c) db db' := by
  apply run_of_rewrites _ _ h
  · rintro id r r' r'' ⟨hid, hselected, _⟩ ⟨_, hselected', hhashed⟩
    exact ⟨hid, fun hr'' => hselected (hselected' hr''), hhashed⟩
  · unfold freeze
    refine Tx.within_bind (within_of_recipients (by simp)) fun selectedCreatorIds => ?_
    split
    · trivial
    refine Tx.within_bind (within_of_recipients (by simp)) fun _ =>
      Tx.within_bind (within_of_recipients (by simp)) fun current => ?_
    split
    · trivial
    refine Tx.within_bind (within_of_recipients (by simp)) fun _ => ?_
    refine ⟨fun _ => rewrites_of_eq rfl, fun db => ?_⟩
    change Tx.Within _ (if _ then _ else _)
    split
    · trivial
    refine Tx.within_bind (within_of_recipients (by simp)) fun activelyReserved => ?_
    refine Tx.within_bind (Tx.within_traverse fun s hs => ?_) fun reasons => ?_
    · apply freezeRecipient_within
      have hmem := mem_selectedRecipients (List.fst_mem_of_mem_zipIdx hs)
      simp only [selectedFor, Bool.and_eq_true, decide_eq_true_eq] at hmem
      exact hmem.1
    · dsimp only
      split
      · exact Tx.within_bind (within_of_recipients (by simp)) fun _ =>
          within_of_recipients (by simp)
      · exact within_of_recipients (by simp)

/-! ## The queueing -/

/-- A queued recipient keeps its message. -/
def Queues (id : RecipientId) (r r' : Recipient) : Prop := r' = { r with state := .QUEUED }

theorem queueRecipient_within (id : RecipientId) (contentHash : String) (now : Int) :
    (queueRecipient id contentHash now).Within (Rewrites Queues) := by
  unfold queueRecipient
  refine Tx.within_bind (within_of_recipients (by simp)) fun _ =>
    Tx.within_bind (within_of_recipients (by simp)) fun _ => ?_
  exact within_update fun r => rfl

theorem queueFrozen_rewrites {c : CampaignId} {version now : Int} {db db' : Db}
    (h : (queueFrozen c version now).run db = .ok ((), db')) : Rewrites Queues db db' := by
  apply run_of_rewrites _ _ h
  · rintro id r r' r'' rfl rfl
    rfl
  · unfold queueFrozen
    refine Tx.within_bind (within_of_recipients (by simp)) fun changed => ?_
    split
    · trivial
    refine Tx.within_bind (within_of_recipients (by simp)) fun recipients => ?_
    split
    · trivial
    exact Tx.within_bind (within_of_recipients (by simp)) fun _ =>
      Tx.within_bind (Tx.within_traverse fun row _ => queueRecipient_within _ _ _) fun _ => trivial

/-- The deliveries that are added are those of some rows. -/
def AddsDeliveries (rows : List (RecipientId × Recipient)) (db db' : Db) : Prop :=
  ∀ id, db'.deliveries.get id = db.deliveries.get id ∨ db.deliveries.get id = none ∧
    ∃ r, (id, r) ∈ rows ∧ db'.deliveries.get id = some { contentHash := r.contentHash.getD "" }

theorem queueRecipient_adds {rows : List (RecipientId × Recipient)} {row : RecipientId × Recipient}
    (hrow : row ∈ rows) (now : Int) :
    (queueRecipient row.1 (row.2.contentHash.getD "") now).Within (AddsDeliveries rows) := by
  have hsame : ∀ db db' : Db, db'.deliveries = db.deliveries → AddsDeliveries rows db db' :=
    fun _ _ h _ => Or.inl (by rw [h])
  unfold queueRecipient
  refine Tx.within_bind ⟨fun db id => ?_, fun _ => trivial⟩ fun _ =>
    Tx.within_bind (Tx.within_of_keeps hsame (by simp)) fun _ =>
      Tx.within_of_keeps hsame (by simp)
  cases hd : db.deliveries.get row.1 with
  | some d =>
    left
    simp [hd]
  | none =>
    by_cases hid : id = row.1
    · subst hid
      exact Or.inr ⟨hd, row.2, hrow, by simp [hd]⟩
    · left
      simp [hd, hid]

theorem adds_refl (rows : List (RecipientId × Recipient)) (db : Db) : AddsDeliveries rows db db :=
  fun _ => Or.inl rfl

theorem adds_trans {rows : List (RecipientId × Recipient)} {db db' db'' : Db}
    (h : AddsDeliveries rows db db') (h' : AddsDeliveries rows db' db'') :
    AddsDeliveries rows db db'' := by
  intro id
  rcases h' id with hsame' | ⟨hnone', hadds'⟩
  · rw [hsame']
    exact h id
  · rcases h id with hsame | ⟨_, r, _, hr⟩
    · exact Or.inr ⟨hsame ▸ hnone', hadds'⟩
    · rw [hr] at hnone'
      cases hnone'

theorem traverse_adds {now : Int} {rows : List (RecipientId × Recipient)} {us : List Unit}
    {db db' : Db}
    (h : (Tx.traverse (fun r => queueRecipient r.1 (r.2.contentHash.getD "") now) rows).run db =
      .ok (us, db')) : AddsDeliveries rows db db' := by
  apply Tx.run_of_within (adds_refl rows) (fun _ _ _ => adds_trans) _ h
  exact Tx.within_traverse fun row hrow => queueRecipient_adds hrow now

/-- A delivery that the queueing adds has the content hash of a recipient that was frozen. -/
theorem queueFrozen_delivery {c : CampaignId} {version now : Int} {db db' : Db}
    (h : (queueFrozen c version now).run db = .ok ((), db')) (id : RecipientId) :
    db'.deliveries.get id = db.deliveries.get id ∨ db.deliveries.get id = none ∧ id.campaignId = c ∧
      ∃ r, db.recipients.get id = some r ∧ r.selected = true ∧
        db'.deliveries.get id = some { contentHash := r.contentHash.getD "" } := by
  simp only [queueFrozen, Tx.run_bind, Tx.run_updateMany, Except.bind] at h
  split at h
  · cases h
  simp only [Tx.run_bind, Tx.run_read, Except.bind] at h
  split at h
  · cases h
  simp only [Tx.run_bind, Tx.run_updateMany, Except.bind] at h
  split at h
  · cases h
  rename_i htraverse
  cases h
  rcases traverse_adds htraverse id with hsame | ⟨hnone, r, hmem, hafter⟩
  · exact Or.inl hsame
  · obtain ⟨hr, hp⟩ := (Table.mem_findMany _ _ _ _).1 hmem
    simp only [Bool.and_eq_true, decide_eq_true_eq] at hp
    exact Or.inr ⟨hnone, hp.1.1, r, hr, hp.1.2, hafter⟩

/-! ## The entries -/

/-- A transaction adds no entry. -/
def AddsNoEntry (db db' : Db) : Prop := ∀ id, entry db id = none → entry db' id = none

theorem addsNoEntry_updateMany (db : Db) (p : RecipientId → Outbox → Bool) (f : Outbox → Outbox) :
    AddsNoEntry db { db with outbox := db.outbox.updateMany p f } := by
  intro id hnone
  rw [entry, Option.map_eq_none_iff] at hnone ⊢
  rw [Table.get_updateMany, hnone]
  rfl

theorem run_of_addsNoEntry {α : Type} {x : Transaction α} (hx : x.Within AddsNoEntry) {a : α}
    {db db' : Db} (h : x.run db = .ok (a, db')) : AddsNoEntry db db' :=
  Tx.run_of_within (fun _ _ hnone => hnone) (fun _ _ _ h h' id hnone => h' id (h id hnone)) hx h

theorem completeSettledOutbox_adds {db db' : Db} (h : completeSettledOutbox.run db = .ok ((), db')) :
    AddsNoEntry db db' := by
  apply run_of_addsNoEntry _ h
  exact Tx.within_bind (Tx.within_updateMany _ fun db => addsNoEntry_updateMany db _ _) fun _ =>
    trivial

theorem markEnqueued_adds {id : RecipientId} {db db' : Db}
    (h : (markEnqueued id).run db = .ok ((), db')) : AddsNoEntry db db' := by
  apply run_of_addsNoEntry _ h
  exact Tx.within_bind (Tx.within_updateMany _ fun db => addsNoEntry_updateMany db _ _) fun _ =>
    trivial

theorem requeueOutbox_adds {id : RecipientId} {backoffMs : Option Int} {now : Int} {db db' : Db}
    (h : (requeueOutbox id backoffMs now).run db = .ok ((), db')) : AddsNoEntry db db' := by
  apply run_of_addsNoEntry _ h
  exact Tx.within_update _ fun db => addsNoEntry_updateMany db _ _

/-- The sweeps add the entry of a recipient whose delivery is there. -/
theorem upsertOutbox_adds {id : RecipientId} {now : Int} {row : Outbox} {db db' : Db}
    (h : (upsertOutbox id now).run db = .ok (row, db')) (id' : RecipientId)
    (hnone : entry db id' = none) (hsome : entry db' id' ≠ none) :
    (db.deliveries.get id').isSome := by
  simp only [upsertOutbox, Tx.run_bind, Tx.run_read, Except.bind] at h
  cases he : db.outbox.get id with
  | some e =>
    simp [he] at h
    obtain ⟨_, rfl⟩ := h
    exact absurd hnone hsome
  | none =>
    simp [he] at h
    obtain ⟨⟨d, hd⟩, rfl, _⟩ := h
    by_cases hid : id' = id
    · subst hid
      simp [hd]
    · simp [hid, entry] at hnone hsome
      exact absurd hnone hsome

end tiktok_outreach.send_rows
