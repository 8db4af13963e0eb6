-- Which partitions a claim may take: each candidate of the scheduler is a
-- stored partition of one of five kinds, and those of the rarest bucket are
-- only taken in the slots of their probes.
import TiktokOutreach.CreatorEffects

open tables transactions tiktok_outreach.creator_schema tiktok_outreach.marketplace_partitions
  tiktok_outreach.creator_scheduler tiktok_outreach.adaptive_queue
  tiktok_outreach.partition_claims tiktok_outreach.creator_effects

namespace tiktok_outreach.claim_candidates

/-! ## Candidates -/

/-- The partitions that the queries of a claim find. -/
inductive Candidate (env : Environment) (db : Db) (p : CreatorSearchPartition) : Prop
  | adaptive (htype : isAdaptive p = true) (hbucket : (isG1G2 p || p.gmvBucket = some .G3) = true)
      (hstatus : p.status = .QUEUED)
  | seed (htype : p.partitionType = .V2_SEED) (hbucket : isG1G2 p = true)
      (hstatus : p.status = .QUEUED) (hvalid : validSeedSnapshot db p = true)
  | g3Seed (htype : p.partitionType = .V2_SEED) (hbucket : p.gmvBucket = some .G3)
      (hstatus : p.status = .QUEUED)
  | g4 (htype : isAdaptive p = true ∨ p.partitionType = .V2_SEED) (hbucket : p.gmvBucket = some .G4)
      (hstatus : p.status = .EXPERIMENT_ONLY)

section Candidates

variable {env : Environment} {config : Config} {db : Db} {row : Row}

theorem mem_inQueueOrder {rows : List Row} : row ∈ inQueueOrder rows ↔ row ∈ rows :=
  List.mem_insertionSort _

theorem mem_of_head_inQueueOrder {rows : List Row} (h : (inQueueOrder rows).head? = some row) :
    row ∈ rows :=
  mem_inQueueOrder.1 (List.mem_of_mem_head? h)

theorem of_mem_eligibleSeeds (h : row ∈ eligibleSeeds env db) :
    db.partitions.get row.1 = some row.2 ∧ isG1G2 row.2 = true ∧ Candidate env db row.2 := by
  unfold eligibleSeeds primaryFamilyRows at h
  obtain ⟨hmem, heligible⟩ := List.mem_filter.1 h
  obtain ⟨hget, hkind⟩ := (Table.mem_findMany _ _ _ _).1 (mem_inQueueOrder.1 hmem)
  simp only [eligibleSeed, Bool.and_eq_true, decide_eq_true_eq] at hkind heligible
  exact ⟨hget, hkind.2, Candidate.seed hkind.1 hkind.2 heligible.1.1 heligible.1.2⟩

theorem of_coverageSeed (h : coverageSeed env db = some row) : row ∈ eligibleSeeds env db := by
  unfold coverageSeed at h
  obtain ⟨value, hvalue, rfl⟩ := Option.map_eq_some_iff.1 h
  have hmem : value ∈ coverageCandidates env db := by
    unfold selectCategoryExplorationCandidate at hvalue
    have hpool := (List.mem_insertionSort _).1 (List.mem_of_mem_head? hvalue)
    split at hpool
    · exact (List.mem_filter.1 hpool).1
    · exact hpool
  obtain ⟨seed, hseed, hcandidate⟩ := List.mem_filterMap.1 hmem
  unfold coverageCandidate at hcandidate
  simp only [Option.bind_eq_bind, Option.bind_eq_some_iff, Option.pure_def,
    Option.some.injEq] at hcandidate
  obtain ⟨_, _, _, _, _, _, rfl⟩ := hcandidate
  exact hseed

/-- Each candidate is stored, and one of the kinds that the queries ask for. -/
theorem of_mem_candidateRows (h : row ∈ candidateRows env db) :
    db.partitions.get row.1 = some row.2 ∧ Candidate env db row.2 := by
  unfold candidateRows at h
  simp only [List.mem_append, Option.mem_toList] at h
  rcases h with (((h | h) | h) | h) | h
  · obtain ⟨hget, hkind⟩ := (Table.mem_findMany _ _ _ _).1 h
    simp only [Bool.and_eq_true, decide_eq_true_eq] at hkind
    exact ⟨hget, Candidate.adaptive hkind.1.1 hkind.1.2 hkind.2⟩
  · obtain ⟨hget, _, hcandidate⟩ := of_mem_eligibleSeeds (List.mem_of_mem_head? h)
    exact ⟨hget, hcandidate⟩
  · obtain ⟨hget, _, hcandidate⟩ :=
      of_mem_eligibleSeeds (of_coverageSeed (Option.mem_filter_iff.1 h).1)
    exact ⟨hget, hcandidate⟩
  · obtain ⟨hget, hkind⟩ := (Table.mem_findMany _ _ _ _).1 (mem_of_head_inQueueOrder h)
    simp only [Bool.and_eq_true, decide_eq_true_eq] at hkind
    exact ⟨hget, Candidate.g3Seed hkind.1.1 hkind.1.2 hkind.2⟩
  · unfold g4Probe at h
    rcases Option.or_eq_some_iff.1 h with hadaptive | ⟨_, hseed⟩
    · have hmem := mem_inQueueOrder.1 (List.mem_of_find?_eq_some hadaptive)
      obtain ⟨hget, hkind⟩ := (Table.mem_findMany _ _ _ _).1 hmem
      simp only [Bool.and_eq_true, decide_eq_true_eq] at hkind
      exact ⟨hget, Candidate.g4 (Or.inl hkind.2) hkind.1.1 hkind.1.2⟩
    · obtain ⟨hget, hkind⟩ := (Table.mem_findMany _ _ _ _).1 (mem_of_head_inQueueOrder hseed)
      simp only [Bool.and_eq_true, decide_eq_true_eq] at hkind
      exact ⟨hget, Candidate.g4 (Or.inr hkind.1.1) hkind.1.2 hkind.2⟩

theorem Candidate.claimable {p : CreatorSearchPartition} (h : Candidate env db p) :
    p.status = claimableStatus p := by
  unfold claimableStatus
  cases h with
  | adaptive htype hbucket hstatus =>
    rw [hstatus, if_neg]
    intro hg4
    rw [isG1G2, hg4] at hbucket
    simp at hbucket
  | seed htype hbucket hstatus hvalid =>
    rw [hstatus, if_neg]
    intro hg4
    rw [isG1G2, hg4] at hbucket
    simp at hbucket
  | g3Seed htype hbucket hstatus => rw [hstatus, hbucket, if_neg (by decide)]
  | g4 htype hbucket hstatus => rw [hstatus, if_pos hbucket]

theorem of_mem_scoredCandidates {now : Int} {candidate : ScoredCandidate}
    (h : candidate ∈ scoredCandidates env db now) :
    (candidate.id, candidate.candidate) ∈ candidateRows env db := by
  unfold scoredCandidates at h
  obtain ⟨row, hrow, rfl⟩ := List.mem_map.1 h
  exact hrow

end Candidates

/-! ## The choice -/

section Choice

variable {env : Environment} {config : Config} {db : Db} {now : Int} {sequence : Nat}
  {selection : Selection} {next candidate : ScoredCandidate} {candidates : List ScoredCandidate}
  {slot : SchedulerSlot}

theorem mem_ordered {classes : List SchedulerClass} (h : candidate ∈ ordered candidates classes) :
    candidate ∈ candidates ∧ candidate.priority.schedulerClass ∈ classes := by
  unfold ordered at h
  rw [List.mem_insertionSort, List.mem_filter] at h
  exact ⟨h.1, by simpa using h.2⟩

theorem mem_ofBuckets {buckets : List GmvBucketCode} (h : candidate ∈ ofBuckets candidates buckets) :
    candidate ∈ candidates ∧ ∃ bucket ∈ buckets, candidate.candidate.gmvBucket = some bucket := by
  unfold ofBuckets at h
  rw [List.mem_filter] at h
  exact ⟨h.1, by simpa using h.2⟩

/-- A pool of the rarest bucket is only tried in the slot of a probe. -/
theorem mem_schedulerPools {pool : List ScoredCandidate} (hpool : pool ∈ schedulerPools candidates slot)
    (h : candidate ∈ pool) :
    candidate ∈ candidates ∧ (candidate.candidate.gmvBucket = some .G4 → slot = .G4_PROBE) := by
  have hother : ∀ (buckets : List GmvBucketCode) classes, GmvBucketCode.G4 ∉ buckets →
      candidate ∈ ordered (ofBuckets candidates buckets) classes →
      candidate ∈ candidates ∧ (candidate.candidate.gmvBucket = some .G4 → slot = .G4_PROBE) := by
    intro buckets classes hg4 hmem
    obtain ⟨hcandidate, bucket, hbucket, heq⟩ := mem_ofBuckets (mem_ordered hmem).1
    refine ⟨hcandidate, fun hg4' => absurd hbucket ?_⟩
    rw [heq, Option.some.injEq] at hg4'
    rwa [hg4']
  have hprimary : GmvBucketCode.G4 ∉ [GmvBucketCode.G1, .G2] := by decide
  have hg3 : GmvBucketCode.G4 ∉ [GmvBucketCode.G3] := by decide
  cases slot with
  | G4_PROBE =>
    simp only [schedulerPools, List.mem_cons, List.not_mem_nil, or_false] at hpool
    rcases hpool with rfl | rfl | rfl | rfl | rfl | rfl
    · exact ⟨(mem_ofBuckets (mem_ordered h).1).1, fun _ => rfl⟩
    all_goals first
      | exact hother _ _ hprimary h
      | exact hother _ _ hg3 h
  | _ =>
    simp only [schedulerPools, List.mem_cons, List.not_mem_nil, or_false] at hpool
    rcases hpool with rfl | rfl | rfl | rfl | rfl
    all_goals first
      | exact hother _ _ hprimary h
      | exact hother _ _ hg3 h

theorem of_selectSchedulerCandidate (h : selectSchedulerCandidate candidates slot = some next) :
    next ∈ candidates ∧ (next.candidate.gmvBucket = some .G4 → slot = .G4_PROBE) := by
  unfold selectSchedulerCandidate at h
  obtain ⟨pool, hpool, hhead⟩ := Option.bind_eq_some_iff.1 h
  exact mem_schedulerPools (List.mem_of_find?_eq_some hpool) (List.mem_of_mem_head? hhead)

/-- The slot of a probe comes at the multiples of the cadence. -/
theorem dvd_of_g4Probe {mode : CategoryCoverageMode} {cadence cycle : Nat}
    (h : schedulerSlot sequence mode cadence cycle = .ok .G4_PROBE) : cadence ∣ sequence := by
  unfold schedulerSlot at h
  split_ifs at h with h1 h2 h3 h4 <;> simp only [Except.ok.injEq, reduceCtorEq] at h
  · exact Nat.dvd_of_mod_eq_zero h4
  all_goals
    split_ifs at h <;> simp at h

theorem slot_of_selectPartition
    (h : selectPartition env config db sequence now = .ok selection) :
    schedulerSlot sequence (coverageMode env db) config.g4ProbeCadence
      config.schedulerPrimaryCycle = .ok selection.slot := by
  unfold selectPartition at h
  dsimp only at h
  split at h
  · cases h
  · rename_i slot hslot
    cases h
    exact hslot

/-- The selected candidate is one of those that were read. -/
theorem mem_of_selectPartition (h : selectPartition env config db sequence now = .ok selection)
    (hselected : selection.selected = some next) :
    (next.id, next.candidate) ∈ candidateRows env db := by
  unfold selectPartition at h
  dsimp only at h
  split at h
  · cases h
  · cases h
    rcases Option.or_eq_some_iff.1 hselected with hcoverage | ⟨_, hscheduler⟩
    · split at hcoverage
      · obtain ⟨seed, _, hfind⟩ := Option.bind_eq_some_iff.1 hcoverage
        exact of_mem_scoredCandidates (List.mem_of_find?_eq_some hfind)
      · cases hcoverage
    · exact of_mem_scoredCandidates (of_selectSchedulerCandidate hscheduler).1

/-- The selected candidate is a stored one. One of the rarest bucket is a probe. -/
theorem of_selectPartition (h : selectPartition env config db sequence now = .ok selection)
    (hselected : selection.selected = some next) :
    db.partitions.get next.id = some next.candidate ∧ Candidate env db next.candidate ∧
      (next.candidate.gmvBucket = some .G4 → selection.slot = .G4_PROBE) := by
  unfold selectPartition at h
  dsimp only at h
  split at h
  · cases h
  · rename_i slot hslot
    cases h
    rcases Option.or_eq_some_iff.1 hselected with hcoverage | ⟨_, hscheduler⟩
    · split at hcoverage
      · obtain ⟨seed, hseed, hfind⟩ := Option.bind_eq_some_iff.1 hcoverage
        obtain ⟨hget, hcandidate⟩ := of_mem_candidateRows
          (of_mem_scoredCandidates (List.mem_of_find?_eq_some hfind))
        refine ⟨hget, hcandidate, fun hg4 => ?_⟩
        -- the seed of the exploration is of one of the first two buckets
        obtain ⟨hgetSeed, hprimary, _⟩ := of_mem_eligibleSeeds (of_coverageSeed hseed)
        have hid : next.id = seed.1 := by simpa using List.find?_some hfind
        dsimp only at hget
        rw [hid, hgetSeed, Option.some.injEq] at hget
        rw [← hget] at hg4
        rw [isG1G2, hg4] at hprimary
        simp at hprimary
      · cases hcoverage
    · obtain ⟨hmem, hg4⟩ := of_selectSchedulerCandidate hscheduler
      obtain ⟨hget, hcandidate⟩ := of_mem_candidateRows (of_mem_scoredCandidates hmem)
      exact ⟨hget, hcandidate, hg4⟩

end Choice

end tiktok_outreach.claim_candidates
