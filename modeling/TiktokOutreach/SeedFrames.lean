-- What the commands do to seeds: only a claim starts one, only a target gets
-- another status, and no command but `initializePartitions` adds one.
import TiktokOutreach.SeedFamilies
import TiktokOutreach.PartitionPointers

open tables transactions tiktok_outreach.creator_schema tiktok_outreach.marketplace_partitions
  tiktok_outreach.creator_scheduler tiktok_outreach.adaptive_queue
  tiktok_outreach.partition_claims tiktok_outreach.creator_sync tiktok_outreach.creator_commands
  tiktok_outreach.partition_forest tiktok_outreach.queue_growth tiktok_outreach.creator_effects
  tiktok_outreach.command_effects tiktok_outreach.command_frames
  tiktok_outreach.claim_candidates tiktok_outreach.partition_pointers
  tiktok_outreach.seed_families

namespace tiktok_outreach.seed_frames

/-! ## How partitions change -/

/-- How a command with a target and a claim may change the partition of an id. -/
structure Ages (env : Environment) (target claimed : Option Nat) (id : Nat)
    (p q : CreatorSearchPartition) : Prop where
  identity : identity q = identity p
  designated : Designated env p → Designated env q
  started : p.startedAt.isSome = true → q.startedAt.isSome = true
  byClaim : q.startedAt.isSome = true → p.startedAt.isSome = true ∨ claimed = some id
  status : q.status = p.status ∨ target = some id ∨ claimed = some id ∨ p.gmvBucket = none

/-- A partition that was added is a follower split as it is inserted. -/
structure Sprout (p : CreatorSearchPartition) : Prop where
  type : p.partitionType = .ADAPTIVE_FOLLOWER
  notStarted : p.startedAt = none
  queued : isG1G2 p = true → p.status = .QUEUED

/-- What a command does to the table of partitions: it adds follower splits at most. -/
structure Tended (env : Environment) (target claimed : Option Nat) (db db' : Db) : Prop where
  ids : FreshIds db'
  keys : UniqueKeys db → UniqueKeys db'
  empty : (∀ id, db.partitions.get id = none) → ∀ id, db'.partitions.get id = none
  old : ∀ id p, db.partitions.get id = some p →
    ∃ q, db'.partitions.get id = some q ∧ Ages env target claimed id p q
  new : ∀ id q, db'.partitions.get id = some q → (∃ p, db.partitions.get id = some p) ∨ Sprout q

section Tending

variable {env : Environment} {target claimed : Option Nat} {db db' db'' : Db} {id : Nat}
  {p q r : CreatorSearchPartition}

theorem Ages.refl (p : CreatorSearchPartition) : Ages env target claimed id p p :=
  ⟨rfl, fun h => h, fun h => h, .inl, .inl rfl⟩

theorem Ages.type (h : Ages env target claimed id p q) : q.partitionType = p.partitionType :=
  congrArg Identity.partitionType h.identity

theorem Ages.bucket (h : Ages env target claimed id p q) : q.gmvBucket = p.gmvBucket :=
  congrArg Identity.gmvBucket h.identity

theorem Ages.key (h : Ages env target claimed id p q) : q.partitionKey = p.partitionKey :=
  congrArg Identity.partitionKey h.identity

theorem Ages.isG1G2 (h : Ages env target claimed id p q) : isG1G2 q = isG1G2 p := by
  unfold partition_claims.isG1G2
  rw [h.bucket]

theorem Ages.trans (h : Ages env target claimed id p q) (h' : Ages env target claimed id q r) :
    Ages env target claimed id p r where
  identity := h'.identity.trans h.identity
  designated hp := h'.designated (h.designated hp)
  started hp := h'.started (h.started hp)
  byClaim hr := by
    rcases h'.byClaim hr with hq | hid
    · exact h.byClaim hq
    · exact .inr hid
  status := by
    rcases h'.status with hsame | htarget | hclaimed | hbucket
    · rw [hsame]
      exact h.status
    · exact .inr (.inl htarget)
    · exact .inr (.inr (.inl hclaimed))
    · exact .inr (.inr (.inr (h.bucket ▸ hbucket)))

theorem Ages.weaken (h : Ages env none none id p q) : Ages env target claimed id p q where
  identity := h.identity
  designated := h.designated
  started := h.started
  byClaim hq := by
    rcases h.byClaim hq with hp | hid
    · exact .inl hp
    · cases hid
  status := by
    rcases h.status with hsame | hid | hid | hbucket
    · exact .inl hsame
    · cases hid
    · cases hid
    · exact .inr (.inr (.inr hbucket))

/-- A write to none of the columns of a seed but its status. -/
theorem ages_of_columns (hidentity : identity q = identity p)
    (hfamily : q.schedulerFamilyKey = p.schedulerFamilyKey)
    (hfirst : q.schedulerG1G2FirstBucket = p.schedulerG1G2FirstBucket)
    (hstarted : q.startedAt = p.startedAt)
    (hstatus : q.status = p.status ∨ target = some id ∨ p.gmvBucket = none) :
    Ages env target claimed id p q where
  identity := hidentity
  designated hp := by
    have hkey : g1G2FamilyKey q.categoryId q.categoryChildId q.followersMin q.followersMax =
        g1G2FamilyKey p.categoryId p.categoryChildId p.followersMin p.followersMax :=
      congrArg (fun n : Identity => g1G2FamilyKey n.categoryId n.categoryChildId n.followersMin
        n.followersMax) hidentity
    refine ⟨?_, ?_⟩
    · rw [hfamily, hkey]
      exact hp.family
    · intro bucket hbucket
      rw [hkey]
      exact hp.first bucket (hfirst ▸ hbucket)
  started hp := by
    rw [hstarted]
    exact hp
  byClaim hq := .inl (hstarted ▸ hq)
  status := by
    rcases hstatus with hsame | htarget | hbucket
    · exact .inl hsame
    · exact .inr (.inl htarget)
    · exact .inr (.inr (.inr hbucket))

theorem Sprout.of_ages (h : Ages env none none id p q) (hp : Sprout p) : Sprout q where
  type := h.type.trans hp.type
  notStarted := by
    rw [Option.eq_none_iff_forall_not_mem]
    intro started hq
    rcases h.byClaim (by rw [hq]; rfl) with hsome | hid
    · rw [hp.notStarted] at hsome
      cases hsome
    · cases hid
  queued hbucket := by
    have hqueued := hp.queued (h.isG1G2 ▸ hbucket)
    rcases h.status with hsame | htarget | hclaimed | hnone
    · rw [hsame, hqueued]
    · cases htarget
    · cases hclaimed
    · simp [isG1G2, h.bucket, hnone] at hbucket

theorem Tended.refl (hids : FreshIds db) : Tended env target claimed db db where
  ids := hids
  keys h := h
  empty h := h
  old _ p hp := ⟨p, hp, Ages.refl p⟩
  new _ q hq := .inl ⟨q, hq⟩

/-- Only the two tables of a database with partitions matter. -/
theorem Tended.congr (h : Tended env target claimed db db')
    (hrows : db''.partitions = db'.partitions) (hnext : db''.nextPartitionId = db'.nextPartitionId) :
    Tended env target claimed db db'' where
  ids id p hp := by
    rw [hnext]
    exact h.ids id p (hrows ▸ hp)
  keys hkeys i j p q hp hq := h.keys hkeys i j p q (hrows ▸ hp) (hrows ▸ hq)
  empty hempty id := by
    rw [hrows]
    exact h.empty hempty id
  old id p hp := by
    rw [hrows]
    exact h.old id p hp
  new id q hq := h.new id q (hrows ▸ hq)

theorem tended_same (hids : FreshIds db) (hrows : db'.partitions = db.partitions)
    (hnext : db'.nextPartitionId = db.nextPartitionId) : Tended env target claimed db db' :=
  (Tended.refl hids).congr hrows hnext

/-- A write to some partitions. -/
theorem tended_updateMany (hids : FreshIds db) (c : Nat → CreatorSearchPartition → Bool)
    {f : CreatorSearchPartition → CreatorSearchPartition}
    (hf : ∀ id p, db.partitions.get id = some p → c id p = true →
      Ages env target claimed id p (f p)) :
    Tended env target claimed db { db with partitions := db.partitions.updateMany c f } := by
  have hages : ∀ id p, db.partitions.get id = some p →
      Ages env target claimed id p (if c id p then f p else p) := by
    intro id p hp
    split
    · exact hf id p hp ‹_›
    · exact Ages.refl p
  have hcases : ∀ id q, (db.partitions.updateMany c f).get id = some q →
      ∃ p, db.partitions.get id = some p ∧ Ages env target claimed id p q := by
    intro id q hq
    simp only [Table.get_updateMany, Option.map_eq_some_iff] at hq
    obtain ⟨p, hp, rfl⟩ := hq
    exact ⟨p, hp, hages id p hp⟩
  constructor
  · intro id q hq
    obtain ⟨p, hp, _⟩ := hcases id q hq
    exact hids id p hp
  · intro hkeys i j q r hq hr hkey
    obtain ⟨p, hp, hage⟩ := hcases i q hq
    obtain ⟨p', hp', hage'⟩ := hcases j r hr
    exact hkeys i j p p' hp hp' (by rw [← hage.key, ← hage'.key, hkey])
  · intro hempty id
    simp [hempty]
  · intro id p hp
    exact ⟨_, by simp only [Table.get_updateMany, hp, Option.map_some], hages id p hp⟩
  · intro id q hq
    obtain ⟨p, hp, _⟩ := hcases id q hq
    exact .inl ⟨p, hp⟩

/-- An expansion of a table, in two steps. -/
theorem Tended.trans (h : Tended env none none db db') (h' : Tended env none none db' db'') :
    Tended env none none db db'' where
  ids := h'.ids
  keys hkeys := h'.keys (h.keys hkeys)
  empty hempty := h'.empty (h.empty hempty)
  old id p hp := by
    obtain ⟨q, hq, hage⟩ := h.old id p hp
    obtain ⟨r, hr, hage'⟩ := h'.old id q hq
    exact ⟨r, hr, hage.trans hage'⟩
  new id r hr := by
    rcases h'.new id r hr with ⟨q, hq⟩ | hsprout
    · rcases h.new id q hq with hold | hsprout
      · exact .inl hold
      · obtain ⟨r', hr', hage⟩ := h'.old id q hq
        rw [hr, Option.some.injEq] at hr'
        subst hr'
        exact .inr (hsprout.of_ages hage)
    · exact .inr hsprout

/-- What a command does to the table before or behind an expansion of it. -/
theorem Tended.then (h : Tended env target claimed db db') (h' : Tended env none none db' db'')
    (hold : ∀ id q, db'.partitions.get id = some q → ∃ p, db.partitions.get id = some p) :
    Tended env target claimed db db'' where
  ids := h'.ids
  keys hkeys := h'.keys (h.keys hkeys)
  empty hempty := h'.empty (h.empty hempty)
  old id p hp := by
    obtain ⟨q, hq, hage⟩ := h.old id p hp
    obtain ⟨r, hr, hage'⟩ := h'.old id q hq
    exact ⟨r, hr, hage.trans (hage'.weaken)⟩
  new id r hr := by
    rcases h'.new id r hr with ⟨q, hq⟩ | hsprout
    · exact .inl (hold id q hq)
    · exact .inr hsprout

end Tending

/-! ## Expansions -/

section Expansion

variable {env : Environment} {config : Config} {target claimed : Option Nat} {db db' : Db}
  {id : Nat} {p q : CreatorSearchPartition}

theorem ages_of_unbranched (h : unbranched q = unbranched p) : Ages env target claimed id p q := by
  have hidentity : identity (unbranched q) = identity (unbranched p) := congrArg identity h
  exact ages_of_columns hidentity (congrArg (·.schedulerFamilyKey) h)
    (congrArg (·.schedulerG1G2FirstBucket) h) (congrArg (·.startedAt) h)
    (.inl (congrArg (·.status) h))

theorem sprout_followerChild {parentId : Nat} {parent : CreatorSearchPartition} {bound : Bounds}
    {index : Nat} : Sprout (followerChild parentId parent bound index) where
  type := rfl
  notStarted := rfl
  queued hbucket := by
    have hnotG4 : parent.gmvBucket ≠ some .G4 := by
      intro hg4
      simp [isG1G2, followerChild, hg4] at hbucket
    simp [followerChild, hnotG4]

theorem tended_insertPartitions (hids : FreshIds db) (hstored : ∃ id, db.partitions.get id ≠ none)
    {ps : List CreatorSearchPartition} (hps : ∀ p ∈ ps, Sprout p) :
    Tended env target claimed db (insertPartitions db ps) where
  ids := freshIds_insertPartitions hids
  keys := uniqueKeys_insertPartitions
  empty hempty := by
    obtain ⟨id, hid⟩ := hstored
    exact absurd (hempty id) hid
  old id p hp := ⟨p, get_insertPartitions hids hp, Ages.refl p⟩
  new id q hq := by
    rcases of_get_insertPartitions hids hq with hold | ⟨_, hfind⟩
    · exact .inl ⟨q, hold⟩
    · exact .inr (hps q (List.mem_of_find?_eq_some hfind))

theorem tended_ofExpansion (env : Environment) : OfExpansion (fun db db' => FreshIds db →
    (∃ id, db.partitions.get id ≠ none) → Tended env none none db db') where
  refl _ hids _ := Tended.refl hids
  insert db parentId parent bounds ps _ hps hids hstored := by
    refine tended_insertPartitions hids hstored (fun p hp => ?_)
    have hchild := hps p hp
    unfold followerChildren at hchild
    rcases List.mem_pair.1 hchild with rfl | rfl
    · exact sprout_followerChild
    · exact sprout_followerChild
  update db c f hf hids _ :=
    tended_updateMany hids c (fun id p _ _ => ages_of_unbranched (hf p))

/-- Without partitions there is nothing to expand. -/
theorem expandReadyBranches_of_empty (hempty : ∀ id, db.partitions.get id = none) {u : Unit}
    (hrun : (expandReadyBranches config).run db = .ok (u, db')) : db' = db := by
  have hseeds : completedSeeds db = [] := findMany_of_empty hempty _
  have hparents : completedFollowerParents db = [] := by
    simp [completedFollowerParents, findMany_of_empty hempty]
  unfold expandReadyBranches at hrun
  simp only [Tx.run_bind, Tx.run_read, Tx.bind_eq_ok, Except.ok.injEq, exists_eq_left', hseeds,
    hparents, Tx.traverse, Tx.run_ret, Tx.run_pure, Prod.mk.injEq, true_and] at hrun
  exact hrun.symm

theorem tended_expand (hids : FreshIds db) {u : Unit}
    (hrun : (expandReadyBranches config).run db = .ok (u, db')) : Tended env none none db db' := by
  by_cases hempty : ∀ id, db.partitions.get id = none
  · rw [expandReadyBranches_of_empty hempty hrun]
    exact Tended.refl hids
  · push Not at hempty
    refine Tx.run_of_within (R := fun db db' => FreshIds db →
      (∃ id, db.partitions.get id ≠ none) → Tended env none none db db')
      (fun _ hids _ => Tended.refl hids) ?_
      (within_expandReadyBranches (tended_ofExpansion env)) hrun hids hempty
    intro db1 db2 db3 h h' hids1 hstored
    have hfirst := h hids1 hstored
    refine hfirst.trans (h' hfirst.ids ?_)
    obtain ⟨id, hid⟩ := hstored
    obtain ⟨p, hp⟩ := Option.ne_none_iff_exists'.1 hid
    obtain ⟨q, hq, _⟩ := hfirst.old id p hp
    exact ⟨id, by simp [hq]⟩

end Expansion

/-! ## Commands -/

section Commands

variable {env : Environment} {config : Config} {ambient : Ambient} {target claimed : Option Nat}
  {db db' : Db} {id : Nat}

theorem tended_setPartition (hids : FreshIds db)
    {f : CreatorSearchPartition → CreatorSearchPartition}
    (hf : ∀ p, Ages env target claimed id p (f p)) :
    Tended env target claimed db (setPartition db id f) := by
  refine tended_updateMany hids _ (fun id' p _ hid => ?_)
  rw [of_decide_eq_true hid]
  exact hf p

theorem tended_setStatus (hids : FreshIds db) (partitionId : Option Nat) (status : PartitionStatus) :
    Tended env partitionId claimed db (setStatus db partitionId status) := by
  cases partitionId with
  | none => exact Tended.refl hids
  | some id =>
    exact tended_setPartition hids (fun p => ages_of_columns rfl rfl rfl rfl (.inr (.inl rfl)))

/-- The job and the receipts are written before the partitions. -/
theorem Tended.behind {db'' : Db} (h : FreshIds db' → Tended env target claimed db' db'')
    (hids : FreshIds db) (hrows : db'.partitions = db.partitions)
    (hnext : db'.nextPartitionId = db.nextPartitionId) : Tended env target claimed db db'' := by
  have hfirst : Tended env target claimed db db' := tended_same hids hrows hnext
  have hsecond := h hfirst.ids
  constructor
  · exact hsecond.ids
  · exact fun hkeys => hsecond.keys (hfirst.keys hkeys)
  · exact fun hempty => hsecond.empty (hfirst.empty hempty)
  · exact fun id p hp => hsecond.old id p (hrows.symm ▸ hp)
  · exact fun id q hq => hrows ▸ hsecond.new id q hq

theorem nextPartitionId_setJobUnder (db : Db) (leaseId : Nat) (f : CreatorSyncJob → CreatorSyncJob) :
    (setJobUnder db leaseId f).nextPartitionId = db.nextPartitionId := by
  unfold setJobUnder
  split <;> rfl

theorem tended_pausedPartitions (hids : FreshIds db) (job : CreatorSyncJob) :
    Tended env job.currentPartitionId claimed db
      { db with partitions := pausedPartitions job db.partitions } := by
  unfold pausedPartitions
  split
  · rename_i id _ hid
    refine tended_updateMany hids _ (fun id' p _ hc => ?_)
    simp only [Bool.and_eq_true, decide_eq_true_eq] at hc
    rw [hid, hc.1]
    exact ages_of_columns rfl rfl rfl rfl (.inr (.inl rfl))
  · exact Tended.refl hids

theorem tended_resumedPartitions (hids : FreshIds db) (job : CreatorSyncJob) (staged : Bool) :
    Tended env job.currentPartitionId claimed db
      { db with partitions := resumedPartitions db job staged } := by
  unfold resumedPartitions
  cases hid : job.currentPartitionId with
  | none => exact Tended.refl hids
  | some id =>
    dsimp only
    split_ifs
    · refine tended_updateMany hids _ (fun id' p _ hc => ?_)
      simp only [Bool.and_eq_true, decide_eq_true_eq] at hc
      rw [hc.1]
      exact ages_of_columns rfl rfl rfl rfl (.inr (.inl rfl))
    · exact Tended.refl hids
    · refine tended_updateMany hids _ (fun id' p _ hc => ?_)
      simp only [Bool.and_eq_true, decide_eq_true_eq] at hc
      rw [hc.1.1]
      unfold resumedPartition
      split
      · exact ages_of_columns rfl rfl rfl rfl (.inr (.inl rfl))
      · exact ages_of_columns rfl rfl rfl rfl (.inr (.inl rfl))

theorem tended_commit (hids : FreshIds db) {leaseId pageId : Nat} {page : CreatorSyncPage}
    {partition : CreatorSearchPartition} {now : Int}
    (h : Commits config leaseId pageId page partition now db db') :
    Tended env (some page.creatorSearchPartitionId) none db db' := by
  have hcounted : ∀ f : CreatorSearchPartition → CreatorSearchPartition,
      (∀ p, Ages env (some page.creatorSearchPartitionId) none page.creatorSearchPartitionId p
        (f p)) →
      Tended env (some page.creatorSearchPartitionId) none db (pageCommitted pageId page db f) := by
    intro f hf
    refine Tended.congr (tended_updateMany hids
      (fun id _ => id = page.creatorSearchPartitionId) (fun id p _ hid => ?_)) rfl rfl
    rw [of_decide_eq_true hid]
    exact hf p
  cases h with
  | more hlease hpage hpartition hmore =>
    refine (hcounted (moreRow page partition now db.job.pauseRequested) (fun p => ?_)).congr rfl rfl
    exact ages_of_columns rfl rfl rfl rfl (.inr (.inl rfl))
  | last hlease hpage hpartition hlast db1 hexpand =>
    have hrow := hcounted (lastRow config page partition now)
      (fun p => ages_of_columns rfl rfl rfl rfl (.inr (.inl rfl)))
    rcases hexpand with ⟨_, rfl⟩ | ⟨_, hrun⟩
    · exact hrow.congr rfl rfl
    · refine (hrow.then (tended_expand hrow.ids hrun) ?_).congr rfl rfl
      intro id q hq
      simp only [pageCommitted, Table.get_updateMany, Option.map_eq_some_iff] at hq
      obtain ⟨p, hp, _⟩ := hq
      exact ⟨p, hp⟩

/-- The commands besides claims and `initializePartitions`. -/
theorem tended_of_effect {c : Command} {a : c.Result} (hids : FreshIds db)
    (hclaim : ∀ leaseId, c ≠ .claimPartition leaseId)
    (hplant : ∀ catalog, c ≠ .initializePartitions catalog)
    (h : Effect env config ambient db c a db') :
    Tended env (statusTarget c) none db db' := by
  cases c with
  | claimPartition leaseId => exact absurd rfl (hclaim leaseId)
  | initializePartitions catalog => exact absurd rfl (hplant catalog)
  | commitPage leaseId pageId page partition => exact tended_commit hids h
  | prepareAdaptiveQueue => exact tended_expand hids h
  | claimLease leaseId =>
    simp only [Effect] at h
    split at h
    · obtain ⟨_, rfl⟩ := h
      exact tended_same hids rfl rfl
    · obtain ⟨_, rfl⟩ := h
      exact tended_same hids rfl rfl
  | recordSheetImport leaseId =>
    cases h
    exact tended_same hids (partitions_setJobUnder _ _ _) (nextPartitionId_setJobUnder _ _ _)
  | pauseClaimed leaseId partitionId =>
    cases h
    exact Tended.behind (fun hids => tended_setStatus hids partitionId .PAUSED) hids
      (partitions_setJobUnder _ _ _) (nextPartitionId_setJobUnder _ _ _)
  | markRequested id status =>
    cases h
    exact tended_setPartition hids (fun p => ages_of_columns rfl rfl rfl rfl (.inr (.inl rfl)))
  | countRequest id =>
    cases h
    exact tended_setPartition hids (fun p => ages_of_columns rfl rfl rfl rfl (.inl rfl))
  | resetBusinessRetries id =>
    cases h
    exact tended_setPartition hids (fun p => ages_of_columns rfl rfl rfl rfl (.inl rfl))
  | stagePage page child =>
    obtain ⟨_, categories, rfl⟩ := h
    unfold withReceipt
    dsimp only
    split
    · exact tended_same hids rfl rfl
    · exact tended_same hids rfl rfl
  | sheetsFailure pageId page targetId target paused retryable =>
    obtain ⟨next, rfl⟩ := h
    refine Tended.behind (fun hids => tended_setPartition hids ?_) hids rfl rfl
    exact fun p => ages_of_columns rfl rfl rfl rfl (.inr (.inl rfl))
  | businessRetry paused id partition =>
    cases h
    refine Tended.behind (fun hids => tended_setPartition hids ?_) hids rfl rfl
    exact fun p => ages_of_columns rfl rfl rfl rfl (.inr (.inl rfl))
  | retryLater job error partitionId =>
    cases h
    exact Tended.behind (fun hids => tended_setStatus hids partitionId _) hids rfl rfl
  | failJob stage partitionId =>
    cases h
    exact Tended.behind (fun hids => tended_setStatus hids partitionId .ERROR) hids rfl rfl
  | pause job =>
    cases h
    exact (tended_pausedPartitions hids job).congr rfl rfl
  | resume job staged =>
    cases h
    exact (tended_resumedPartitions hids job staged).congr rfl rfl
  | refreshCategories categories =>
    obtain ⟨t, rfl⟩ := h
    exact tended_same hids rfl rfl
  | recordActivity leaseId stage =>
    obtain ⟨_, rfl⟩ := h
    exact tended_same hids rfl rfl
  | recordSheetAttempt leaseId id attempt stage =>
    obtain ⟨_, rfl⟩ := h
    exact tended_same hids rfl rfl
  | persistBatch origin batch =>
    obtain ⟨_, rfl⟩ := h
    exact tended_same hids rfl rfl
  | jobUnderLease leaseId =>
    obtain ⟨_, _, rfl⟩ := h
    exact Tended.refl hids
  | receivedPage id =>
    obtain ⟨_, _, rfl⟩ := h
    exact Tended.refl hids
  | findCandidate | markPersisted | updateMarketplaceRetryDelay =>
    cases h
    exact tended_same hids rfl rfl
  | _ =>
    obtain ⟨_, rfl⟩ := h
    exact Tended.refl hids

/-- The row of a claim. -/
theorem ages_startedPartition {slot : SchedulerSlot} {sequence : Nat} {now : Int}
    {p : CreatorSearchPartition} :
    Ages env none (some id) id p (startedPartition env slot sequence now p p) where
  identity := rfl
  designated hp := by
    by_cases hseed : (p.partitionType = .V2_SEED && isG1G2 p) = true
    · have hfamily : (startedPartition env slot sequence now p p).schedulerFamilyKey =
          g1G2FamilyKey p.categoryId p.categoryChildId p.followersMin p.followersMax := by
        rw [← familyKey_of_designated hp]
        simp only [startedPartition, hseed, if_true]
      refine ⟨.inr hfamily, fun bucket hbucket => ?_⟩
      simp only [startedPartition, hseed, if_true, Option.map_eq_some_iff,
        familyKey_of_designated hp, Option.filter_eq_some_iff] at hbucket
      obtain ⟨key, ⟨hkey, _⟩, rfl⟩ := hbucket
      exact ⟨key, hkey, rfl⟩
    · refine ⟨.inl (by simp [startedPartition, hseed]), fun bucket hbucket => ?_⟩
      simp [startedPartition, hseed] at hbucket
  started _ := rfl
  byClaim _ := .inr rfl
  status := .inr (.inr (.inl rfl))

end Commands

end tiktok_outreach.seed_frames
