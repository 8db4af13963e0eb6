-- The gate between the seeds of the first two buckets: the one that is claimed
-- first is that of the family's first bucket, and the gate never closes on both.
import TiktokOutreach.RareProbes
import TiktokOutreach.SeedFrames
import TiktokOutreach.SeedRows

open separated tables transactions runs executions tiktok_outreach.creator_schema
  tiktok_outreach.marketplace_partitions tiktok_outreach.creator_scheduler
  tiktok_outreach.adaptive_queue tiktok_outreach.partition_claims tiktok_outreach.creator_sync
  tiktok_outreach.creator_commands tiktok_outreach.partition_forest tiktok_outreach.queue_growth
  tiktok_outreach.creator_effects tiktok_outreach.claim_candidates
  tiktok_outreach.command_effects tiktok_outreach.creator_protocol
  tiktok_outreach.creator_knowledge tiktok_outreach.partition_pointers
  tiktok_outreach.rare_probes tiktok_outreach.seed_rows tiktok_outreach.seed_families
  tiktok_outreach.seed_frames

namespace tiktok_outreach.sibling_gating

/-! ## What commands keep -/

/-- The partition was started once. -/
def StartedAt (db : Db) (id : Nat) : Prop :=
  ∃ p, db.partitions.get id = some p ∧ p.startedAt.isSome = true

/-- The seeds are planted, and those of the first two buckets wait in the queue until they are
started. -/
structure Gated (env : Environment) (catalog : List CatalogNode) (db : Db) : Prop where
  planted : Planted env catalog db
  untouched : ∀ id p, db.partitions.get id = some p → p.partitionType = .V2_SEED →
    isG1G2 p = true → p.status ≠ .QUEUED → p.startedAt.isSome = true

/-- A step without a claim. -/
structure Unclaimed (db db' : Db) : Prop where
  old : ∀ id p, db.partitions.get id = some p →
    ∃ q, db'.partitions.get id = some q ∧ identity q = identity p
  started : ∀ id q, db'.partitions.get id = some q → q.startedAt.isSome = true → StartedAt db id

section Steps

variable {env : Environment} {config : Config} {ambient : Ambient} {catalog : List CatalogNode}
  {target claimed : Option Nat} {db db' : Db} {id : Nat}

theorem firstSeed_of_identity {p q : CreatorSearchPartition} (h : identity q = identity p)
    (hp : FirstSeed catalog p) : FirstSeed catalog q := by
  have hkey : q.partitionKey = p.partitionKey := congrArg Identity.partitionKey h
  obtain ⟨⟨row, hrow, hrowkey⟩, pair, bucket, gmv, hpair, hseed⟩ := hp
  refine ⟨⟨row, hrow, hkey.trans hrowkey⟩, pair, bucket, gmv, hpair, ?_⟩
  constructor
  · exact hkey.trans hseed.key
  · exact (congrArg Identity.categoryId h).trans hseed.category
  · exact (congrArg Identity.categoryChildId h).trans hseed.child
  · exact (congrArg Identity.categoryChildIds h).trans hseed.children
  · exact (congrArg Identity.followersMin h).trans hseed.min
  · exact (congrArg Identity.followersMax h).trans hseed.max
  · exact (congrArg Identity.gmvBucket h).trans hseed.code

theorem startedAt_of_tended (h : Tended env target claimed db db') (hid : StartedAt db id) :
    StartedAt db' id := by
  obtain ⟨p, hp, hstarted⟩ := hid
  obtain ⟨q, hq, hage⟩ := h.old id p hp
  exact ⟨q, hq, hage.started hstarted⟩

/-- A seed behind a command is one that was there before. -/
theorem seed_of_tended (h : Tended env target claimed db db') {q : CreatorSearchPartition}
    (hq : db'.partitions.get id = some q) (htype : q.partitionType = .V2_SEED) :
    ∃ p, db.partitions.get id = some p ∧ Ages env target claimed id p q := by
  rcases h.new id q hq with ⟨p, hp⟩ | hsprout
  · obtain ⟨q', hq', hage⟩ := h.old id p hp
    rw [hq, Option.some.injEq] at hq'
    exact ⟨p, hp, hq' ▸ hage⟩
  · rw [hsprout.type] at htype
    cases htype

theorem planted_of_tended (hplanted : Planted env catalog db)
    (h : Tended env target claimed db db') : Planted env catalog db' where
  ids := h.ids
  keys := h.keys hplanted.keys
  seeds id q hq htype := by
    obtain ⟨p, hp, hage⟩ := seed_of_tended h hq htype
    exact firstSeed_of_identity hage.identity (hplanted.seeds id p hp (hage.type ▸ htype))
  designated id q hq htype := by
    obtain ⟨p, hp, hage⟩ := seed_of_tended h hq htype
    exact hage.designated (hplanted.designated id p hp (hage.type ▸ htype))
  complete := by
    rcases hplanted.complete with hempty | hcomplete
    · exact .inl (h.empty hempty)
    · refine .inr (fun row hrow hfree => hcomplete row hrow (fun id p hp => ?_))
      obtain ⟨q, hq, hage⟩ := h.old id p hp
      rw [← hage.key]
      exact hfree id q hq

/-- A command keeps the gate when its target and its claim are started. -/
theorem gated_of_tended (hgated : Gated env catalog db) (h : Tended env target claimed db db')
    (htarget : ∀ id, target = some id → StartedAt db id)
    (hclaimed : ∀ id, claimed = some id → StartedAt db' id) : Gated env catalog db' where
  planted := planted_of_tended hgated.planted h
  untouched id q hq htype hbucket hstatus := by
    obtain ⟨p, hp, hage⟩ := seed_of_tended h hq htype
    have hstarted : StartedAt db' id → q.startedAt.isSome = true := by
      rintro ⟨q', hq', hstarted⟩
      rw [hq, Option.some.injEq] at hq'
      exact hq' ▸ hstarted
    rcases hage.status with hsame | hid | hid | hnone
    · have hold := hgated.untouched id p hp (hage.type ▸ htype) (hage.isG1G2 ▸ hbucket)
        (hsame ▸ hstatus)
      exact hage.started hold
    · exact hstarted (startedAt_of_tended h (htarget id hid))
    · exact hstarted (hclaimed id hid)
    · simp [isG1G2, hage.bucket, hnone] at hbucket

theorem unclaimed_of_tended (h : Tended env target none db db') : Unclaimed db db' where
  old id p hp := by
    obtain ⟨q, hq, hage⟩ := h.old id p hp
    exact ⟨q, hq, hage.identity⟩
  started id q hq hstarted := by
    rcases h.new id q hq with ⟨p, hp⟩ | hsprout
    · obtain ⟨q', hq', hage⟩ := h.old id p hp
      rw [hq, Option.some.injEq] at hq'
      subst hq'
      rcases hage.byClaim hstarted with hold | hid
      · exact ⟨p, hp, hold⟩
      · cases hid
    · rw [hsprout.notStarted] at hstarted
      cases hstarted

/-! ## `initializePartitions` -/

theorem tended_disabled (hids : FreshIds db) : Tended env none none db (disabled db) := by
  refine tended_updateMany hids _ (fun id p _ hdisabled => ?_)
  have hnone : p.gmvBucket = none := by
    simp only [disabledByStrategy, Bool.and_eq_true, Option.isNone_iff_eq_none] at hdisabled
    exact hdisabled.1.2
  exact ages_of_columns rfl rfl rfl rfl (.inr (.inr hnone))

theorem new_of_missingSeeds (hids : FreshIds db) {q : CreatorSearchPartition}
    (hq : (insertPartitions db (missingSeeds env catalog db)).partitions.get id = some q) :
    db.partitions.get id = some q ∨
      q.startedAt = none ∧ (isG1G2 q = true → q.status = .QUEUED) := by
  rcases of_get_insertPartitions hids hq with hold | ⟨_, hfind⟩
  · exact .inl hold
  · obtain ⟨row, _, rfl⟩ := List.mem_map.1 (List.mem_of_find?_eq_some hfind)
    refine .inr ⟨rfl, fun hbucket => ?_⟩
    have hnotG4 : row.gmvBucket ≠ .G4 := by
      intro hg4
      simp [isG1G2, seedPartition, hg4] at hbucket
    simp [seedPartition, hnotG4]

theorem gated_planting (hgated : Gated env catalog db) :
    Gated env catalog (insertPartitions (disabled db) (missingSeeds env catalog (disabled db))) := by
  have hdisabled : Gated env catalog (disabled db) :=
    gated_of_tended hgated (tended_disabled hgated.planted.ids) (fun id hid => by cases hid)
      (fun id hid => by cases hid)
  refine ⟨planted_missingSeeds hdisabled.planted, fun id q hq htype hbucket hstatus => ?_⟩
  rcases new_of_missingSeeds hdisabled.planted.ids hq with hold | ⟨_, hqueued⟩
  · exact hdisabled.untouched id q hold htype hbucket hstatus
  · exact absurd (hqueued hbucket) hstatus

theorem unclaimed_planting (hids : FreshIds db) :
    Unclaimed db (insertPartitions (disabled db) (missingSeeds env catalog (disabled db))) := by
  have hdisabled : Tended env none none db (disabled db) := tended_disabled hids
  have hunclaimed := unclaimed_of_tended hdisabled
  constructor
  · intro id p hp
    obtain ⟨q, hq, hidentity⟩ := hunclaimed.old id p hp
    exact ⟨q, get_insertPartitions hdisabled.ids hq, hidentity⟩
  · intro id q hq hstarted
    rcases new_of_missingSeeds hdisabled.ids hq with hold | ⟨hnone, _⟩
    · exact hunclaimed.started id q hold hstarted
    · rw [hnone] at hstarted
      cases hstarted

/-! ## Claims -/

/-- A claim works on the table behind the expansion. If it starts a partition, this is a stored one
that the scheduler selected there. -/
theorem of_claims (hids : FreshIds db) {leaseId : Nat} {now : Int} {r : Option Claim}
    (h : Claims env config leaseId now db r db') :
    ∃ db1, Tended env none none db db1 ∧
      ((∀ row sequence, r ≠ some (.started row sequence)) ∧ Tended env none none db db' ∨
        ∃ row sequence, r = some (.started row sequence) ∧
          Tended env none (some row.1) db1 db' ∧ StartedAt db' row.1 ∧
          ∃ (selection : Selection) (next : ScoredCandidate),
            selectPartition env config db1 (db.job.partitionClaimSequence + 1) now =
              .ok selection ∧ selection.selected = some next ∧ row.1 = next.id ∧
            row.2.gmvBucket = next.candidate.gmvBucket) := by
  cases h with
  | current db1 hexpand =>
    exact ⟨_, tended_expand hids hexpand, .inl ⟨fun _ _ => by simp, tended_expand hids hexpand⟩⟩
  | exhausted db1 hexpand =>
    have htended : Tended env none none db db1 := tended_expand hids hexpand
    exact ⟨db1, htended, .inl ⟨fun _ _ => by simp, htended.congr rfl rfl⟩⟩
  | started db1 hexpand hlease hnot selection hselection next hnext hcount explored =>
    have htended : Tended env none none db db1 := tended_expand hids hexpand
    obtain ⟨hstored, hcandidate, _⟩ := of_selectPartition hselection hnext
    refine ⟨db1, htended, .inr ⟨_, _, rfl, ?_, ?_, selection, next, hselection, hnext, rfl, rfl⟩⟩
    · refine (tended_updateMany htended.ids _ (fun id p hp hc => ?_)).congr rfl rfl
      simp only [Bool.and_eq_true, decide_eq_true_eq] at hc
      obtain ⟨rfl, -⟩ := hc
      rw [hstored, Option.some.injEq] at hp
      subst hp
      exact ages_startedPartition
    · refine ⟨startedPartition env selection.slot (db.job.partitionClaimSequence + 1) now
        next.candidate next.candidate, ?_, rfl⟩
      have hstatus := hcandidate.claimable
      simp [Table.get_updateMany, claimedRow, hstored, hstatus.symm]

theorem startedAt_claimed (hids : FreshIds db) {leaseId sequence : Nat} {now : Int} {row : Row}
    (h : Claims env config leaseId now db (some (.started row sequence)) db') :
    StartedAt db' row.1 := by
  obtain ⟨_, _, ⟨hnot, _⟩ | ⟨row', sequence', hr, _, hstarted, _⟩⟩ := of_claims hids h
  · exact absurd rfl (hnot row sequence)
  · cases hr
    exact hstarted

/-- Every command keeps the gate. -/
theorem gated_of_effect {c : Command} {a : c.Result} (hgated : Gated env catalog db)
    (htarget : ∀ id, statusTarget c = some id → StartedAt db id)
    (hcatalog : ∀ nodes, c = .initializePartitions nodes → nodes = catalog)
    (h : Effect env config ambient db c a db') : Gated env catalog db' := by
  have hnone : ∀ {db : Db} id, (none : Option Nat) = some id → StartedAt db id :=
    fun id hid => by cases hid
  by_cases hclaim : ∃ leaseId, c = .claimPartition leaseId
  · obtain ⟨leaseId, rfl⟩ := hclaim
    obtain ⟨db1, hexpanded, ⟨_, hsame⟩ | ⟨row, sequence, _, hclaimed, hstarted, _⟩⟩ :=
      of_claims hgated.planted.ids h
    · exact gated_of_tended hgated hsame hnone hnone
    · refine gated_of_tended (gated_of_tended hgated hexpanded hnone hnone) hclaimed hnone ?_
      intro id hid
      rw [← Option.some.inj hid]
      exact hstarted
  · by_cases hplant : ∃ nodes, c = .initializePartitions nodes
    · obtain ⟨nodes, rfl⟩ := hplant
      obtain rfl := hcatalog nodes rfl
      cases h
      exact gated_of_tended (gated_planting hgated)
        (tended_same (gated_planting hgated).planted.ids rfl rfl) hnone hnone
    · push Not at hclaim hplant
      exact gated_of_tended hgated (tended_of_effect hgated.planted.ids hclaim hplant h) htarget
        hnone

theorem startedAt_of_effect {c : Command} {a : c.Result} (hids : FreshIds db)
    (h : Effect env config ambient db c a db') (hid : StartedAt db id) : StartedAt db' id := by
  by_cases hclaim : ∃ leaseId, c = .claimPartition leaseId
  · obtain ⟨leaseId, rfl⟩ := hclaim
    obtain ⟨db1, hexpanded, ⟨_, hsame⟩ | ⟨row, sequence, _, hclaimed, _⟩⟩ := of_claims hids h
    · exact startedAt_of_tended hsame hid
    · exact startedAt_of_tended hclaimed (startedAt_of_tended hexpanded hid)
  · by_cases hplant : ∃ nodes, c = .initializePartitions nodes
    · obtain ⟨nodes, rfl⟩ := hplant
      cases h
      have hdisabled : Tended env none none db (disabled db) := tended_disabled hids
      obtain ⟨p, hp, hstarted⟩ := startedAt_of_tended hdisabled hid
      exact ⟨p, get_insertPartitions hdisabled.ids hp, hstarted⟩
    · push Not at hclaim hplant
      exact startedAt_of_tended (tended_of_effect hids hclaim hplant h) hid

/-- A command that claims nothing starts nothing. -/
theorem unclaimed_of_effect {c : Command} {a : c.Result} (hids : FreshIds db)
    (hclaim : ∀ leaseId, c ≠ .claimPartition leaseId) (h : Effect env config ambient db c a db') :
    Unclaimed db db' := by
  by_cases hplant : ∃ nodes, c = .initializePartitions nodes
  · obtain ⟨nodes, rfl⟩ := hplant
    cases h
    have hplanted := @unclaimed_planting env nodes db hids
    exact ⟨hplanted.old, hplanted.started⟩
  · push Not at hplant
    exact unclaimed_of_tended (tended_of_effect hids hclaim hplant h)

end Steps

/-! ## What the threads know -/

/-- A catalog that was read is the one of the run. -/
def CatalogRead (catalog : List CatalogNode) : (c : Command) → c.Result → Prop
  | .findCategories, (nodes : List CatalogNode) => nodes = catalog
  | _, _ => True

def Meant (catalog : List CatalogNode) (db : Db) (phase : Phase) (c : Command) (a : c.Result) :
    Prop :=
  Points StartedAt db phase c a ∧ CatalogRead catalog c a

theorem gating_knowledge (env : Environment) (config : Config) (catalog : List CatalogNode) :
    Knowledge env config (fun db _ _ => catalogOf db = catalog)
      (fun db => Gated env catalog db ∧ Pointed StartedAt db) (Meant catalog) where
  advance _ _ _ _ _ _ h := ⟨points_mono (fun _ hid => hid) h.1, h.2⟩
  inv r db c a db' hact := by
    obtain ⟨ambient, heffect⟩ := hact.effect
    obtain ⟨hgated, hpointed⟩ := hact.inv
    have hids := hgated.planted.ids
    have hsound : Sound (Points StartedAt) db r := fun c a h => (hact.sound c a h).1
    refine ⟨gated_of_effect hgated (fun id hid => at_target hsound hact.ok hid) ?_ heffect,
      pointed_step hpointed hsound hact.ok (fun id => startedAt_of_effect hids heffect)
        (fun _ _ _ => startedAt_claimed hids) heffect⟩
    rintro nodes rfl
    exact (hact.sound _ _ hact.ok.2.2.2.2.2.2).2
  learn r db c a db' hact := by
    obtain ⟨ambient, heffect⟩ := hact.effect
    obtain ⟨hgated, hpointed⟩ := hact.inv
    have hids := hgated.planted.ids
    refine ⟨points_answer hpointed (fun id => startedAt_of_effect hids heffect)
      (fun _ _ _ => startedAt_claimed hids) heffect, ?_⟩
    cases c with
    | findCategories =>
      obtain ⟨_, _, hcatalog⟩ := hact.guard
      exact heffect.1.trans hcatalog
    | _ => trivial
  retain r db c a db' phase phase' c' a' hact _ h := by
    obtain ⟨ambient, heffect⟩ := hact.effect
    have hids := hact.inv.1.planted.ids
    exact ⟨points_mono (fun id => startedAt_of_effect hids heffect) h.1, h.2⟩

/-! ## The first claim of a family -/

/-- The two seeds of a family, one of each bucket. -/
structure Siblings (p q : CreatorSearchPartition) : Prop where
  left : p.partitionType = .V2_SEED ∧ isG1G2 p = true
  right : q.partitionType = .V2_SEED ∧ isG1G2 q = true
  family : SameFamily p q
  other : p.gmvBucket ≠ q.gmvBucket

/-- The bucket is the first one of the family of a seed. -/
def IsFirst (env : Environment) (p : CreatorSearchPartition) (bucket : Option GmvBucketCode) : Prop :=
  ∃ key, g1G2FamilyKey p.categoryId p.categoryChildId p.followersMin p.followersMax = some key ∧
    bucket = some (designatedFirstG1G2Bucket env key)

/-- The first claim of one of two partitions. -/
def firstClaim (claims : List Entry) (i j : Nat) : Option Entry :=
  claims.find? (fun e => e.id = i || e.id = j)

/-- What the claims so far say of a database. -/
structure Recorded (env : Environment) (claims : List Entry) (db : Db) : Prop where
  stored : ∀ e ∈ claims, ∃ p, db.partitions.get e.id = some p ∧ p.gmvBucket = e.bucket
  noted : ∀ id, StartedAt db id → ∃ e ∈ claims, e.id = id
  first : ∀ i j p q, db.partitions.get i = some p → db.partitions.get j = some q → Siblings p q →
    ∀ e, firstClaim claims i j = some e → IsFirst env p e.bucket

section Records

variable {env : Environment} {config : Config} {catalog : List CatalogNode} {claims : List Entry}
  {db db' : Db}

theorem Siblings.symm {p q : CreatorSearchPartition} (h : Siblings p q) : Siblings q p :=
  ⟨h.right, h.left, h.family.symm, h.other.symm⟩

theorem siblings_of_identity {p q p' q' : CreatorSearchPartition} (hp : identity p' = identity p)
    (hq : identity q' = identity q) (h : Siblings p' q') : Siblings p q := by
  have hcolumns : ∀ {p p' : CreatorSearchPartition}, identity p' = identity p →
      SameFamily p' p ∧ p'.partitionType = p.partitionType ∧ p'.gmvBucket = p.gmvBucket ∧
        isG1G2 p' = isG1G2 p := by
    intro p p' hp
    have hbucket : p'.gmvBucket = p.gmvBucket := congrArg Identity.gmvBucket hp
    refine ⟨⟨congrArg Identity.categoryId hp, congrArg Identity.categoryChildId hp,
      congrArg Identity.followersMin hp, congrArg Identity.followersMax hp⟩,
      congrArg Identity.partitionType hp, hbucket, ?_⟩
    unfold isG1G2
    rw [hbucket]
  obtain ⟨hpfamily, hptype, hpbucket, hpkind⟩ := hcolumns hp
  obtain ⟨hqfamily, hqtype, hqbucket, hqkind⟩ := hcolumns hq
  refine ⟨⟨hptype ▸ h.left.1, hpkind ▸ h.left.2⟩, ⟨hqtype ▸ h.right.1, hqkind ▸ h.right.2⟩, ?_,
    fun hsame => h.other (by rw [hpbucket, hqbucket, hsame])⟩
  exact ⟨hpfamily.category.symm.trans (h.family.category.trans hqfamily.category),
    hpfamily.child.symm.trans (h.family.child.trans hqfamily.child),
    hpfamily.min.symm.trans (h.family.min.trans hqfamily.min),
    hpfamily.max.symm.trans (h.family.max.trans hqfamily.max)⟩

theorem isFirst_of_identity {p q : CreatorSearchPartition} (h : identity q = identity p)
    {bucket : Option GmvBucketCode} (hp : IsFirst env p bucket) : IsFirst env q bucket := by
  have hkey : g1G2FamilyKey q.categoryId q.categoryChildId q.followersMin q.followersMax =
      g1G2FamilyKey p.categoryId p.categoryChildId p.followersMin p.followersMax :=
    congrArg (fun n : Identity => g1G2FamilyKey n.categoryId n.categoryChildId n.followersMin
      n.followersMax) h
  unfold IsFirst
  rw [hkey]
  exact hp

theorem id_of_firstClaim {i j : Nat} {e : Entry} (h : firstClaim claims i j = some e) :
    e.id = i ∨ e.id = j := by
  simpa using List.find?_some h

/-- A seed was there before, unless there was no partition at all. -/
theorem seed_was_there (hdb : Planted env catalog db) (hdb' : Planted env catalog db')
    (hold : ∀ id p, db.partitions.get id = some p →
      ∃ q, db'.partitions.get id = some q ∧ identity q = identity p) {id : Nat}
    {q : CreatorSearchPartition} (hq : db'.partitions.get id = some q)
    (htype : q.partitionType = .V2_SEED) :
    (∀ id, db.partitions.get id = none) ∨
      ∃ p, db.partitions.get id = some p ∧ identity q = identity p := by
  rcases hdb.complete with hempty | hcomplete
  · exact .inl hempty
  · obtain ⟨⟨row, hrow, hkey⟩, _⟩ := hdb'.seeds id q hq htype
    -- the key was taken by the partition itself
    have htaken : ∃ id' p, db.partitions.get id' = some p ∧ p.partitionKey = row.partitionKey := by
      have hnot := hcomplete row hrow
      unfold KeyFree at hnot
      push Not at hnot
      exact hnot
    obtain ⟨id', p, hp, hpkey⟩ := htaken
    obtain ⟨q', hq', hidentity⟩ := hold id' p hp
    have hqkey : q'.partitionKey = p.partitionKey := congrArg Identity.partitionKey hidentity
    have hid : id' = id := hdb'.keys id' id q' q hq' hq (by rw [hqkey, hpkey, hkey])
    subst hid
    rw [hq, Option.some.injEq] at hq'
    exact .inr ⟨p, hp, hq' ▸ hidentity⟩

theorem recorded_of_unclaimed (hrecorded : Recorded env claims db) (hdb : Planted env catalog db)
    (hdb' : Planted env catalog db') (h : Unclaimed db db') : Recorded env claims db' where
  stored e he := by
    obtain ⟨p, hp, hbucket⟩ := hrecorded.stored e he
    obtain ⟨q, hq, hidentity⟩ := h.old e.id p hp
    exact ⟨q, hq, (congrArg Identity.gmvBucket hidentity).trans hbucket⟩
  noted id hid := by
    obtain ⟨q, hq, hstarted⟩ := hid
    exact hrecorded.noted id (h.started id q hq hstarted)
  first i j p q hp hq hsiblings e he := by
    have hempty : ¬ ∀ id, db.partitions.get id = none := by
      intro hempty
      obtain ⟨p', hp', _⟩ := hrecorded.stored e (List.mem_of_find?_eq_some he)
      rw [hempty] at hp'
      cases hp'
    obtain ⟨p', hp', hpidentity⟩ :=
      (seed_was_there hdb hdb' h.old hp hsiblings.left.1).resolve_left hempty
    obtain ⟨q', hq', hqidentity⟩ :=
      (seed_was_there hdb hdb' h.old hq hsiblings.right.1).resolve_left hempty
    exact isFirst_of_identity hpidentity (hrecorded.first i j p' q' hp' hq'
      (siblings_of_identity hpidentity hqidentity hsiblings) e he)

/-- The first claim of a family takes the seed of its first bucket. -/
theorem isFirst_of_claim (hgated : Gated env catalog db) {sequence : Nat} {now : Int}
    {selection : Selection} {next : ScoredCandidate} {j : Nat} {p q : CreatorSearchPartition}
    (hselection : selectPartition env config db sequence now = .ok selection)
    (hnext : selection.selected = some next) (hp : db.partitions.get next.id = some p)
    (hq : db.partitions.get j = some q) (hsiblings : Siblings p q)
    (hp' : ¬ StartedAt db next.id) (hq' : ¬ StartedAt db j) :
    IsFirst env p next.candidate.gmvBucket := by
  have hcandidate : next.candidate = p := by
    have hstored := (of_selectPartition hselection hnext).1
    rw [hp, Option.some.injEq] at hstored
    exact hstored.symm
  have heligible := eligible_of_selectPartition hselection hnext
    (hcandidate ▸ hsiblings.left.1) (hcandidate ▸ hsiblings.left.2)
  rw [hcandidate] at heligible ⊢
  have huntouched : ∀ {id : Nat} {r : CreatorSearchPartition}, db.partitions.get id = some r →
      r.partitionType = .V2_SEED ∧ isG1G2 r = true → ¬ StartedAt db id →
      r.startedAt = none ∧ r.status = .QUEUED := by
    intro id r hr hkind hnot
    have hnone : ¬ r.startedAt.isSome = true := fun hstarted => hnot ⟨r, hr, hstarted⟩
    refine ⟨by simpa using hnone, ?_⟩
    by_contra hstatus
    exact hnone (hgated.untouched id r hr hkind.1 hkind.2 hstatus)
  obtain ⟨key, hkey, hbucket⟩ := designated_of_eligible hgated.planted hp heligible hq
    hsiblings.right.1 hsiblings.right.2 hsiblings.family.symm hsiblings.other.symm (by
      rintro r (rfl | rfl)
      · exact huntouched hp hsiblings.left hp'
      · exact huntouched hq hsiblings.right hq')
  rw [familyKey_of_designated (hgated.planted.designated _ p hp hsiblings.left.1)] at hkey
  exact ⟨key, hkey, hbucket⟩

/-- A claim is noted behind the earlier ones. -/
theorem recorded_of_claim (hrecorded : Recorded env claims db) (hgated : Gated env catalog db)
    {sequence : Nat} {now : Int} {selection : Selection} {next : ScoredCandidate} {e : Entry}
    (hselection : selectPartition env config db sequence now = .ok selection)
    (hnext : selection.selected = some next) (hid : e.id = next.id)
    (hbucket : e.bucket = next.candidate.gmvBucket)
    (h : Tended env none (some next.id) db db') : Recorded env (claims ++ [e]) db' where
  stored e' he' := by
    have hbefore : ∃ p, db.partitions.get e'.id = some p ∧ p.gmvBucket = e'.bucket := by
      rcases List.mem_append.1 he' with hold | hnew
      · exact hrecorded.stored e' hold
      · rw [List.mem_singleton.1 hnew, hid, hbucket]
        exact ⟨_, (of_selectPartition hselection hnext).1, rfl⟩
    obtain ⟨p, hp, hsame⟩ := hbefore
    obtain ⟨q, hq, hage⟩ := h.old e'.id p hp
    exact ⟨q, hq, hage.bucket.trans hsame⟩
  noted id := by
    rintro ⟨q, hq, hstarted⟩
    rcases h.new id q hq with ⟨p, hp⟩ | hsprout
    · obtain ⟨q', hq', hage⟩ := h.old id p hp
      rw [hq, Option.some.injEq] at hq'
      subst hq'
      rcases hage.byClaim hstarted with hbefore | hclaimed
      · obtain ⟨e', he', hsame⟩ := hrecorded.noted id ⟨p, hp, hbefore⟩
        exact ⟨e', List.mem_append_left _ he', hsame⟩
      · exact ⟨e, by simp, by rw [hid]; exact Option.some.inj hclaimed⟩
    · rw [hsprout.notStarted] at hstarted
      cases hstarted
  first i j p q hp hq hsiblings e' he' := by
    obtain ⟨p', hp', hpage⟩ := seed_of_tended h hp hsiblings.left.1
    obtain ⟨q', hq', hqage⟩ := seed_of_tended h hq hsiblings.right.1
    have hbefore := siblings_of_identity hpage.identity hqage.identity hsiblings
    unfold firstClaim at he'
    rw [List.find?_append, Option.or_eq_some_iff] at he'
    rcases he' with hold | ⟨hnone, hlast⟩
    · exact isFirst_of_identity hpage.identity (hrecorded.first i j p' q' hp' hq' hbefore e' hold)
    · -- neither of the two was claimed before
      have hnot : ∀ id, id = i ∨ id = j → ¬ StartedAt db id := by
        intro id hij hstarted
        obtain ⟨e0, he0, hsame⟩ := hrecorded.noted id hstarted
        have hfalse := List.find?_eq_none.1 hnone e0 he0
        rw [hsame] at hfalse
        rcases hij with rfl | rfl <;> simp at hfalse
      have hsame : e' = e := List.mem_singleton.1 (List.mem_of_find?_eq_some hlast)
      have hlastId : e.id = i ∨ e.id = j := hsame ▸ id_of_firstClaim hlast
      rw [hsame, hbucket]
      rw [hid] at hlastId
      rcases hlastId with rfl | rfl
      · exact isFirst_of_identity hpage.identity (isFirst_of_claim hgated hselection hnext hp' hq'
          hbefore (hnot _ (.inl rfl)) (hnot _ (.inr rfl)))
      · have hfirst := isFirst_of_claim hgated hselection hnext hq' hp' hbefore.symm
          (hnot _ (.inr rfl)) (hnot _ (.inl rfl))
        obtain ⟨key, hkey, hdesignated⟩ := hfirst
        refine isFirst_of_identity hpage.identity ⟨key, ?_, hdesignated⟩
        rw [← hkey, hbefore.family.category, hbefore.family.child, hbefore.family.min,
          hbefore.family.max]

end Records

/-! ## Runs -/

/-- A step that leaves the catalog as it is, with its claim noted. -/
def QuietStep (env : Environment) (config : Config) (allowed : Job → Bool) (s : Ledger)
    (l : Label Call Call.Answer) (t : Ledger) : Prop :=
  LedgerStep env config allowed s l t ∧ catalogOf t.pool.world.db = catalogOf s.pool.world.db

/-- The crawler before its first job, with a catalog. -/
def withCatalog (categories : Table String MarketplaceCategory) : Ledger :=
  ⟨⟨⟨{ Db.initial with categories }, 0, fun _ => none⟩, fun _ => none⟩, []⟩

/-- What holds after every run of quiet steps. -/
structure Gating (env : Environment) (catalog : List CatalogNode) (s : Ledger) : Prop where
  unchanged : catalogOf s.pool.world.db = catalog
  known : ∃ roles, KnownInv (fun db => Gated env catalog db ∧ Pointed StartedAt db)
    (Meant catalog) s.pool.world roles ∧ Follows creatorProtocol s.pool roles
  recorded : Recorded env s.claims s.pool.world.db

section Runs

variable {env : Environment} {config : Config} {allowed : Job → Bool} {catalog : List CatalogNode}
  {categories : Table String MarketplaceCategory} {s t : Ledger} {l : Label Call Call.Answer}
  {ls : List (Label Call Call.Answer)}

theorem Gating.gated (h : Gating env catalog s) : Gated env catalog s.pool.world.db := by
  obtain ⟨_, hknown, _⟩ := h.known
  exact hknown.2.1.1

theorem gating_start (categories : Table String MarketplaceCategory) :
    Gating env (catalogOf (withCatalog categories).pool.world.db) (withCatalog categories) where
  unchanged := rfl
  known := by
    refine ⟨fun _ => start, ⟨?_, ⟨⟨?_, ?_⟩, ?_, ?_⟩, fun _ => sound_start _⟩, ?_⟩
    · constructor
      · intro i leaseId h
        cases h
      · intro i j leaseId h
        cases h
      · intro i leaseId h
        cases h
      · intro i leaseId h
        cases h
      · intro leaseId h
        cases h
    · constructor
      · intro id p hp
        cases hp
      · intro i j p q hp
        cases hp
      · intro id p hp
        cases hp
      · intro id p hp
        cases hp
      · exact .inl (fun _ => rfl)
    · intro id p hp
      cases hp
    · intro id page hpage
      cases hpage
    · intro id hid
      cases hid
    · intro i p hp
      cases hp
  recorded := by
    constructor
    · intro e he
      cases he
    · rintro id ⟨p, hp, _⟩
      cases hp
    · intro i j p q hp
      cases hp

theorem recorded_step (hs : Gating env catalog s) (ht : Gated env catalog t.pool.world.db)
    (hstep : LedgerStep env config allowed s l t) : Recorded env t.claims t.pool.world.db := by
  have hids := hs.gated.planted.ids
  obtain ⟨hpool, ⟨e, he, hclaims⟩ | ⟨hnone, hclaims⟩⟩ := hstep
  · obtain ⟨i, leaseId, answer, ambient, row, _, hrun, hid, hbucket⟩ := he
    obtain ⟨db1, hexpanded, ⟨hnot, _⟩ | ⟨row', sequence, hr, hclaimed, _, selection, next,
      hselection, hnext, hrow, hrowBucket⟩⟩ := of_claims hids (claimPartition_claims hrun)
    · exact absurd rfl (hnot _ _)
    · cases hr
      have hgated : Gated env catalog db1 := gated_of_tended hs.gated hexpanded
        (fun id hid => by cases hid) (fun id hid => by cases hid)
      have hbefore := recorded_of_unclaimed hs.recorded hs.gated.planted hgated.planted
        (unclaimed_of_tended hexpanded)
      rw [hclaims]
      exact recorded_of_claim hbefore hgated hselection hnext (hid.trans hrow)
        (hbucket.trans hrowBucket) (hrow ▸ hclaimed)
  · rw [hclaims]
    rcases db_of_step hpool with hsame | ⟨i, c, ambient, answer, a, hl, hrun⟩
    · rw [hsame]
      exact hs.recorded
    · refine recorded_of_unclaimed hs.recorded hs.gated.planted ht.planted ?_
      by_cases hclaim : ∃ leaseId, c = .claimPartition leaseId
      · obtain ⟨leaseId, rfl⟩ := hclaim
        obtain ⟨_, _, ⟨_, hsame⟩ | ⟨row, sequence, rfl, _⟩⟩ :=
          of_claims hids (claimPartition_claims hrun)
        · exact unclaimed_of_tended hsame
        · exact absurd ⟨i, leaseId, answer, ambient, row, hl, hrun, rfl, rfl⟩
            (hnone ⟨row.1, sequence, row.2.gmvBucket⟩)
      · push Not at hclaim
        exact unclaimed_of_effect hids hclaim (effect_of_run hrun)

theorem gating_step (hs : Gating env catalog s) (hstep : QuietStep env config allowed s l t) :
    Gating env catalog t := by
  obtain ⟨hledger, hquiet⟩ := hstep
  have hguarded : Run (Guarded (PoolStep (machine env config) (Startable allowed))
      (fun pool l => guardOf (fun db _ _ => catalogOf db = catalog) pool.world l))
      s.pool [l] t.pool :=
    Run.cons ⟨hledger.1, fun _ _ _ _ => hs.unchanged⟩ (Run.nil _)
  obtain ⟨roles, hinv, hfollows⟩ :=
    run_knows (gating_knowledge env config catalog) hguarded hs.known
  exact ⟨hquiet.trans hs.unchanged, ⟨roles, hinv, hfollows⟩, recorded_step hs hinv.2.1.1 hledger⟩

theorem gating_run (hrun : Run (QuietStep env config allowed) (withCatalog categories) ls s) :
    Gating env (catalogOf (withCatalog categories).pool.world.db) s :=
  hrun.invariant (Gating env _) (fun _ _ _ _ hstep hs => gating_step hs hstep)
    (gating_start categories)

/-! ## The main result -/

/-- No family of a queued seed is locked, and the second seed of a family waits for the first one
alone. -/
structure Unlocked (env : Environment) (db : Db) : Prop where
  queued : ∀ id p, db.partitions.get id = some p → p.partitionType = .V2_SEED →
    isG1G2 p = true → p.status = .QUEUED → validSeedSnapshot db p = true →
    ∃ row ∈ eligibleSeeds env db, SameFamily row.2 p
  second : ∀ id j p q, db.partitions.get id = some p → db.partitions.get j = some q →
    Siblings q p → p.status = .QUEUED → validSeedSnapshot db p = true → StartedAt db j →
    (id, p) ∈ eligibleSeeds env db

theorem unlocked_of_planted {db : Db} (h : Planted env catalog db) : Unlocked env db where
  queued _ _ hp htype hbucket hqueued hvalid := exists_eligible h hp htype hbucket hqueued hvalid
  second id j p q hp hq hsiblings hqueued hvalid hstarted := by
    obtain ⟨q', hq', hstarted⟩ := hstarted
    rw [hq, Option.some.injEq] at hq'
    subst hq'
    exact eligible_of_started h hp hsiblings.right.1 hsiblings.right.2 hqueued hvalid hq
      hsiblings.left.1 hsiblings.left.2 hsiblings.family hstarted

/-- In every run on a catalog that stays as it is, the seed of a family that is claimed first is
that of its first bucket. Where a claim looks for a seed, a queued one of each family is eligible,
and any queued one whose sibling was started. -/
theorem siblings_are_gated
    (hrun : Run (QuietStep env config allowed) (withCatalog categories) ls s) :
    (∀ i j p q, s.pool.world.db.partitions.get i = some p →
      s.pool.world.db.partitions.get j = some q → Siblings p q →
      ∀ e, firstClaim s.claims i j = some e →
        ∃ r, s.pool.world.db.partitions.get e.id = some r ∧ IsFirst env p r.gmvBucket) ∧
    Unlocked env s.pool.world.db ∧
    ∀ db, (expandReadyBranches config).run s.pool.world.db = .ok ((), db) → Unlocked env db := by
  have hgating := gating_run hrun
  have hplanted := hgating.gated.planted
  refine ⟨?_, unlocked_of_planted hplanted, fun db hexpand => ?_⟩
  · intro i j p q hp hq hsiblings e he
    obtain ⟨r, hr, hbucket⟩ := hgating.recorded.stored e (List.mem_of_find?_eq_some he)
    exact ⟨r, hr, hbucket ▸ hgating.recorded.first i j p q hp hq hsiblings e he⟩
  · have htended : Tended env none none s.pool.world.db db := tended_expand hplanted.ids hexpand
    exact unlocked_of_planted (planted_of_tended hplanted htended)

/-- A step of the pool that claims nothing. -/
theorem quiet_of_pool {pool pool' : Pool World Call Call.Answer}
    (hstep : PoolStep (machine env config) (Startable allowed) pool l pool')
    (hclaim : ∀ i leaseId answer, l ≠ .run i (.db (.claimPartition leaseId)) answer)
    (hcatalog : catalogOf pool'.world.db = catalogOf pool.world.db) (claims : List Entry) :
    QuietStep env config allowed ⟨pool, claims⟩ l ⟨pool', claims⟩ := by
  refine ⟨⟨hstep, .inr ⟨?_, rfl⟩⟩, hcatalog⟩
  rintro e ⟨i, leaseId, answer, _, _, hl, _⟩
  exact hclaim i leaseId answer hl

/-- A thread runs a command other than a claim, which leaves the catalog as it is. -/
theorem quiet_commit {pool : Pool World Call Call.Answer} {i : Nat} {c : Command} {r : c.Result}
    {next : (Call.db c).Answer → Prog Call Call.Answer Unit} {db : Db} (ambient : Ambient)
    (hthread : pool.thread i = some (.call (.db c) next))
    (hrun : (c.body env config ambient).run pool.world.db = .ok (r, db))
    (hclaim : ∀ leaseId, c ≠ .claimPartition leaseId)
    (hcatalog : catalogOf db = catalogOf pool.world.db) (claims : List Entry) :
    QuietStep env config allowed ⟨pool, claims⟩ (.run i (.db c) (.ok r))
      ⟨⟨{ pool.world with db }, pool.setThread i (some (next (.ok r)))⟩, claims⟩ := by
  refine quiet_of_pool (.run pool i (.db c) next _ _ hthread (.commit _ c ambient r db hrun))
    (fun j leaseId answer hlabel => ?_) hcatalog claims
  cases hlabel
  exact hclaim leaseId rfl

theorem categories_insertPartitions (ps : List CreatorSearchPartition) (db : Db) :
    (insertPartitions db ps).categories = db.categories := by
  induction ps generalizing db with
  | nil => rfl
  | cons p ps ih =>
    rw [insertPartitions_cons, ih]
    unfold insertPartition
    split <;> rfl

theorem categories_initializePartitions {db db' : Db} {n : Nat}
    (hrun : (initializePartitions env catalog).run db = .ok (n, db')) :
    db'.categories = db.categories := by
  rw [initializePartitions_effect hrun]
  exact categories_insertPartitions _ _

theorem catalogOf_initializePartitions {db db' : Db} {n : Nat}
    (hrun : (initializePartitions env catalog).run db = .ok (n, db')) :
    catalogOf db' = catalogOf db := by
  unfold catalogOf
  rw [categories_initializePartitions hrun]

end Runs

/-! ## A sample -/

/-- A root with one child. -/
def oneChild : Table String MarketplaceCategory :=
  ⟨[("1", ⟨none, true, true, 0, none, none, none⟩),
    ("2", ⟨some "1", false, true, 1, none, none, none⟩)], by decide⟩

/-- The environment where the first bucket of each family is the lowest one. -/
def sampleEnvironment : Environment := ⟨fun _ => 0, fun _ => 1⟩

/-- A job plants the seeds of the sample. -/
theorem run_to_planted : ∃ ls s n, Run (QuietStep sampleEnvironment Config.defaults (fun _ => true))
    (withCatalog oneChild) ls s ∧
    (initializePartitions sampleEnvironment (catalogOf (withCatalog oneChild).pool.world.db)).run
      (withCatalog oneChild).pool.world.db = .ok (n, s.pool.world.db) := by
  let db := (withCatalog oneChild).pool.world.db
  obtain ⟨after, hplant⟩ := initializePartitions_ok sampleEnvironment (catalogOf db) db
  have hstart : PoolStep (machine sampleEnvironment Config.defaults) (Startable fun _ => true)
      (withCatalog oneChild).pool (.spawn 0) _ :=
    .spawn _ 0 Job.initializePartitions.thread rfl ⟨_, rfl, rfl⟩
  have hspawned := Run.cons (quiet_of_pool hstart (by simp) rfl []) (Run.nil _)
  have hjob := hspawned.snoc (quiet_commit (i := 0) (c := .readJob) ⟨0, 0⟩ rfl rfl (by simp) rfl [])
  have hstaged := hjob.snoc (quiet_commit (i := 0) (c := .anyStaged) ⟨0, 0⟩ rfl rfl (by simp) rfl [])
  have hread := hstaged.snoc
    (quiet_commit (i := 0) (c := .findCategories) ⟨0, 0⟩ rfl rfl (by simp) rfl [])
  have hplanted := hread.snoc (quiet_commit (i := 0) (c := .initializePartitions (catalogOf db))
    ⟨0, 0⟩ rfl (by exact hplant) (by simp) (by exact catalogOf_initializePartitions hplant) [])
  exact ⟨_, _, _, hplanted, hplant⟩

/-- After the seeds of the sample are planted, a queued and valid one of the first bucket has an
eligible one in its family. -/
theorem a_queued_seed_is_not_locked : ∃ ls s, Run (QuietStep sampleEnvironment Config.defaults
      (fun _ => true)) (withCatalog oneChild) ls s ∧
    ∃ id p, s.pool.world.db.partitions.get id = some p ∧ p.gmvBucket = some .G1 ∧
      p.status = .QUEUED ∧ validSeedSnapshot s.pool.world.db p = true ∧
      ∃ row ∈ eligibleSeeds sampleEnvironment s.pool.world.db, SameFamily row.2 p := by
  let db := (withCatalog oneChild).pool.world.db
  have hroot : Crawled (catalogOf db) ⟨"1", none, true, true, 0⟩ := ⟨by decide, rfl, rfl, rfl⟩
  have hchild : Searched (catalogOf db) ⟨"1", none, true, true, 0⟩ ⟨"2", some "1", false, true, 1⟩ :=
    ⟨by decide, rfl, rfl⟩
  obtain ⟨row, hrow, hmatch⟩ := exists_match hroot hchild .G1 (Nat.le_refl _)
  have hids : ((catalogOf db).map CatalogNode.categoryId).Nodup := by decide
  have hdecimal : ∀ node ∈ catalogOf db, Decimal node.categoryId := by
    intro node hnode
    simp only [db, catalogOf, withCatalog, oneChild, List.map_cons, List.map_nil, List.mem_cons,
      List.not_mem_nil, or_false] at hnode
    rcases hnode with rfl | rfl
    · exact ⟨by simp, by simp⟩
    · exact ⟨by simp, by simp⟩
  obtain ⟨ls, s, n, hrun, hplant⟩ := run_to_planted
  obtain ⟨id, roots, hid⟩ := exists_planted hplant (fun _ => rfl) hids hdecimal hrow
  have hcategories : s.pool.world.db.categories = oneChild := categories_initializePartitions hplant
  have hkind : isG1G2 (seedPartition sampleEnvironment roots row) = true := by
    simp [isG1G2, seedPartition, hmatch.bucket]
  have hqueued : (seedPartition sampleEnvironment roots row).status = .QUEUED := by
    simp [seedPartition, hmatch.bucket]
  have hvalid : validSeedSnapshot s.pool.world.db (seedPartition sampleEnvironment roots row) =
      true := by
    have hrange : ∀ max, row.followersMax = some max → row.followersMin ≤ max :=
      fun max hmax => hmatch.min_le.trans (hmatch.le_max max hmax)
    have hget1 : oneChild.get "1" = some ⟨none, true, true, 0, none, none, none⟩ := rfl
    have hget2 : oneChild.get "2" = some ⟨some "1", false, true, 1, none, none, none⟩ := rfl
    simpa [validSeedSnapshot, seedPartition, hmatch.parent, hmatch.child, validChildren,
      validParents, hcategories, hget1, hget2, Option.all_eq_true] using hrange
  exact ⟨ls, s, hrun, id, _, hid, congrArg some hmatch.bucket, hqueued, hvalid,
    (siblings_are_gated hrun).2.1.queued id _ hid rfl hkind hqueued hvalid⟩

end tiktok_outreach.sibling_gating
