-- What an expansion of the branches leaves: every completed seed and every pair
-- of completed siblings is split or stopped for a reason, and nothing is left for
-- a second expansion.
import TiktokOutreach.CommandEffects
import TiktokOutreach.CommandFrames
import TiktokOutreach.FollowerTiling
import TiktokOutreach.SeedFamilies

open tables transactions runs separated tiktok_outreach.creator_schema
  tiktok_outreach.marketplace_partitions tiktok_outreach.creator_scheduler
  tiktok_outreach.adaptive_queue tiktok_outreach.partition_claims tiktok_outreach.creator_sync
  tiktok_outreach.creator_commands tiktok_outreach.partition_forest tiktok_outreach.queue_growth
  tiktok_outreach.forest_runs tiktok_outreach.follower_tiling tiktok_outreach.creator_effects
  tiktok_outreach.command_effects tiktok_outreach.command_frames tiktok_outreach.seed_rows
  tiktok_outreach.seed_families

namespace tiktok_outreach.branch_decisions

/-! ## Decisions -/

/-- A partition that was not split by GMV, and that is stopped for a reason unless it is split. -/
structure WrittenDown (p : CreatorSearchPartition) : Prop where
  noGmvSplit : p.gmvSplitCreated = false
  stopped : p.followerRecursionTerminal = true →
    p.followerSplitExplored = true ∨ p.followerRecursionStopReason.isSome = true

/-- A table on which branches are expanded. -/
structure Ready (rules : FollowerWidthRules) (db : Db) : Prop where
  tiled : Tiled rules (forest db)
  writtenDown : ∀ id p, db.partitions.get id = some p → WrittenDown p

/-- An expansion, after which what was decided is still decided. -/
structure Decides (db db' : Db) : Prop where
  expanded : Expanded db db'
  kept : ∀ id p q, db.partitions.get id = some p → db'.partitions.get id = some q →
    undecided p = false → undecided q = false

/-- The partition of an id is there and decided. -/
def DecidedAt (db : Db) (id : Nat) : Prop :=
  ∃ p, db.partitions.get id = some p ∧ undecided p = false

/-- A follower split of a parent. -/
structure Child (parentId : Nat) (p : CreatorSearchPartition) : Prop where
  type : p.partitionType = .ADAPTIVE_FOLLOWER
  parent : p.parentPartitionId = some parentId

/-- Two completed siblings are decided. -/
def PairDecided (db : Db) (parentId : Nat) : Prop :=
  ∀ i j p q, i ≠ j → db.partitions.get i = some p → db.partitions.get j = some q →
    Child parentId p → Child parentId q → finished p.status = true → finished q.status = true →
    undecided p = false

/-- A seed whose last page is committed. -/
structure CompletedSeed (p : CreatorSearchPartition) : Prop where
  type : p.partitionType = .V2_SEED
  status : p.status = .COMPLETE ∨ p.status = .SPLIT

/-- No completed branch is undecided. -/
structure Settled (db : Db) : Prop where
  seeds : ∀ id p, db.partitions.get id = some p → CompletedSeed p → undecided p = false
  pairs : ∀ parentId, PairDecided db parentId

section Laws

variable {config : Config} {rules : FollowerWidthRules} {db db' db'' : Db} {id parentId : Nat}
  {p q : CreatorSearchPartition}

theorem Ready.ids (h : Ready rules db) : FreshIds db :=
  fun id _ hp => h.tiled.fresh id _ (node_of_get hp)

theorem Decides.refl (db : Db) : Decides db db where
  expanded := Expanded.refl db
  kept id p q hp hq hdecided := by
    rw [hp, Option.some.injEq] at hq
    exact hq ▸ hdecided

theorem Decides.trans (hids : FreshIds db) (h : Decides db db') (h' : Decides db' db'') :
    Decides db db'' where
  expanded := h.expanded.trans h'.expanded
  kept id p r hp hr hdecided := by
    obtain ⟨q, hq, _⟩ := h.expanded.old hids id p hp
    exact h'.kept id q r hq hr (h.kept id p q hp hq hdecided)

theorem DecidedAt.mono (hids : FreshIds db) (h : Decides db db') (hid : DecidedAt db id) :
    DecidedAt db' id := by
  obtain ⟨p, hp, hdecided⟩ := hid
  obtain ⟨q, hq, _⟩ := h.expanded.old hids id p hp
  exact ⟨q, hq, h.kept id p q hp hq hdecided⟩

/-- What is not as it was inserted was there before. -/
theorem old_of_status (hids : FreshIds db) (h : Expanded db db')
    (hq : db'.partitions.get id = some q) (hstatus : q.status ≠ claimableStatus q) :
    ∃ p, db.partitions.get id = some p ∧ unbranched q = unbranched p := by
  rcases h.new hids id q hq with ⟨p, hp⟩ | hnew
  · obtain ⟨q', hq', hsame⟩ := h.old hids id p hp
    rw [hq, Option.some.injEq] at hq'
    exact ⟨p, hp, hq' ▸ hsame⟩
  · exact absurd hnew.status hstatus

theorem ne_claimable_of_finished (h : finished p.status = true) :
    p.status ≠ claimableStatus p := by
  intro hstatus
  rw [hstatus] at h
  unfold claimableStatus at h
  split at h
  · cases h
  · cases h

theorem CompletedSeed.finished (h : CompletedSeed p) : finished p.status = true := by
  rcases h.status with hstatus | hstatus
  · simp [adaptive_queue.finished, hstatus]
  · simp [adaptive_queue.finished, hstatus]

theorem child_of_unbranched (h : unbranched q = unbranched p) (hq : Child parentId q) :
    Child parentId p := by
  have htype : q.partitionType = p.partitionType := congrArg (·.partitionType) h
  have hparent : q.parentPartitionId = p.parentPartitionId := congrArg (·.parentPartitionId) h
  exact ⟨htype ▸ hq.type, hparent ▸ hq.parent⟩

theorem finished_of_unbranched (h : unbranched q = unbranched p)
    (hq : finished q.status = true) : finished p.status = true := by
  have hstatus : q.status = p.status := congrArg (·.status) h
  exact hstatus ▸ hq

theorem PairDecided.mono (hids : FreshIds db) (h : Decides db db')
    (hpair : PairDecided db parentId) : PairDecided db' parentId := by
  intro i j q q' hne hq hq' hchild hchild' hfinished hfinished'
  obtain ⟨p, hp, hsame⟩ := old_of_status hids h.expanded hq (ne_claimable_of_finished hfinished)
  obtain ⟨p', hp', hsame'⟩ := old_of_status hids h.expanded hq' (ne_claimable_of_finished hfinished')
  exact h.kept i p q hp hq (hpair i j p p' hne hp hp' (child_of_unbranched hsame hchild)
    (child_of_unbranched hsame' hchild') (finished_of_unbranched hsame hfinished)
    (finished_of_unbranched hsame' hfinished'))

/-! ## The writes -/

end Laws

/-! ## One branch -/

section Branch

variable {config : Config} {db : Db} {i : Nat} {p : CreatorSearchPartition}

end Branch

/-! ## The children of a parent -/

section Siblings

variable {config : Config} {rules : FollowerWidthRules} {db db' : Db} {parentId : Nat}

/-- The columns that a child of a branch of low value gets. -/
def stopped (p : CreatorSearchPartition) : CreatorSearchPartition :=
  { p with
    followerRecursionTerminal := true
    followerRecursionStopReason := some "BOTH_CHILDREN_BELOW_FIVE_PERCENT" }

end Siblings

/-! ## All branches -/

section Branches

variable {config : Config} {rules : FollowerWidthRules} {db db' : Db} {id : Nat}
  {p : CreatorSearchPartition}

end Branches

/-! ## Every run -/

section Runs

variable {env : Environment} {config : Config} {rules : FollowerWidthRules} {db db' : Db}
  {c : Command} {ambient : Ambient}

theorem Ready.congr (h : Ready rules db) (hrows : db'.partitions = db.partitions)
    (hnext : db'.nextPartitionId = db.nextPartitionId) : Ready rules db' where
  tiled := by
    have hsame : forest db' = forest db := by
      unfold forest
      rw [hrows, hnext]
    rw [hsame]
    exact h.tiled
  writtenDown := by
    rw [hrows]
    exact h.writtenDown

end Runs

/-! ## Decisive expansions -/

/-- The partition is terminal, with a reason. -/
def Stopped (p : CreatorSearchPartition) : Prop :=
  p.followerRecursionTerminal = true ∧ p.followerRecursionStopReason.isSome = true

section Decisive

variable {env : Environment} {config : Config} {rules : FollowerWidthRules} {db db' table : Db}
  {id : Nat} {p : CreatorSearchPartition}

end Decisive

end tiktok_outreach.branch_decisions
