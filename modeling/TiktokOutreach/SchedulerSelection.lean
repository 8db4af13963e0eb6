-- What the scheduler selects: of the candidates that the pools of a slot take,
-- the least by the order of the pools and by that within a pool, and one
-- whenever there is a candidate that the slot may serve.
import TiktokOutreach.ClaimCandidates
import TiktokOutreach.Lib.Choices

open choices tiktok_outreach.creator_schema tiktok_outreach.marketplace_partitions
  tiktok_outreach.creator_scheduler

namespace tiktok_outreach.scheduler_selection

/-! ## Pools -/

/-- What a pool takes: some classes of the candidates of some buckets. -/
structure Pool where
  buckets : List GmvBucketCode
  classes : List SchedulerClass

def Pool.takes (pool : Pool) (c : ScoredCandidate) : Bool :=
  pool.buckets.any (fun bucket => c.candidate.gmvBucket = some bucket) &&
    pool.classes.contains c.priority.schedulerClass

def Pool.fill (pool : Pool) (candidates : List ScoredCandidate) : List ScoredCandidate :=
  ordered (ofBuckets candidates pool.buckets) pool.classes

/-- The pools of a slot, first to last. -/
def slotPools (slot : SchedulerSlot) : List Pool :=
  let productivePrimary : Pool := ⟨[.G1, .G2], [.HIGH]⟩
  let unknownPrimary : Pool := ⟨[.G1, .G2],
    if slot = .PRIMARY_EXPLORATION then [.EXPLORATION, .MEDIUM] else [.MEDIUM, .EXPLORATION]⟩
  let productiveG3 : Pool := ⟨[.G3], [.HIGH, .MEDIUM]⟩
  let generalG3 : Pool := ⟨[.G3], [.EXPLORATION, .LOW]⟩
  let lowPrimary : Pool := ⟨[.G1, .G2], [.LOW]⟩
  match slot with
  | .G4_PROBE => [⟨[.G4], [.EXPERIMENT_ONLY]⟩, productivePrimary, unknownPrimary, productiveG3,
      generalG3, lowPrimary]
  | .G3_EXPLORATION => [productiveG3, generalG3, productivePrimary, unknownPrimary, lowPrimary]
  | .PRIMARY_EXPLORATION => [unknownPrimary, productivePrimary, productiveG3, generalG3, lowPrimary]
  | .PRIMARY_PRODUCTIVE => [productivePrimary, unknownPrimary, productiveG3, generalG3, lowPrimary]

section Pools

variable {candidates : List ScoredCandidate} {slot : SchedulerSlot} {c : ScoredCandidate}
  {pool : Pool}

theorem schedulerPools_eq : schedulerPools candidates slot =
    (slotPools slot).map (fun pool => pool.fill candidates) := by
  cases slot <;> rfl

theorem selectSchedulerCandidate_eq : selectSchedulerCandidate candidates slot =
    firstOf ((slotPools slot).map (fun pool => pool.fill candidates)) := by
  rw [← schedulerPools_eq]
  rfl

theorem mem_fill : c ∈ pool.fill candidates ↔ c ∈ candidates ∧ pool.takes c = true := by
  unfold Pool.fill Pool.takes ordered ofBuckets
  simp only [List.mem_insertionSort, List.mem_filter, List.contains_iff_mem, Bool.and_eq_true]
  rw [and_assoc]

end Pools

/-! ## Keys -/

/-- What the candidates of a pool are ordered by: class, score, position and id. -/
def classKey (classes : List SchedulerClass) (c : ScoredCandidate) : ℕ ×ₗ ℚ ×ₗ ℕ ×ₗ ℕ :=
  toLex (classes.idxOf c.priority.schedulerClass,
    toLex (-c.priority.score, toLex (c.candidate.queuePosition, c.id)))

theorem candidateOrder_iff (classes : List SchedulerClass) (a b : ScoredCandidate) :
    candidateOrder classes a b = true ↔ classKey classes a ≤ classKey classes b := by
  unfold candidateOrder classKey
  simp only [Prod.Lex.toLex_le_toLex, Bool.or_eq_true, Bool.and_eq_true, decide_eq_true_eq,
    neg_lt_neg_iff, neg_inj]

/-- The pool that takes a candidate comes first, and then its place in the pool. -/
def poolKey (pools : List Pool) (c : ScoredCandidate) : ℕ ×ₗ ℕ ×ₗ ℚ ×ₗ ℕ ×ₗ ℕ :=
  toLex (pools.findIdx (fun pool => pool.takes c),
    classKey (((pools.find? (fun pool => pool.takes c)).map Pool.classes).getD []) c)

def selectionKey (slot : SchedulerSlot) (c : ScoredCandidate) : ℕ ×ₗ ℕ ×ₗ ℚ ×ₗ ℕ ×ₗ ℕ :=
  poolKey (slotPools slot) c

section Keys

variable {candidates : List ScoredCandidate} {c d : ScoredCandidate} {pool : Pool}
  {pools : List Pool}

theorem poolKey_taken (h : pool.takes c = true) :
    poolKey (pool :: pools) c = toLex (0, classKey pool.classes c) := by
  simp [poolKey, List.findIdx_cons, h]

theorem poolKey_passed (h : pool.takes c = false) :
    poolKey (pool :: pools) c = toLex ((ofLex (poolKey pools c)).1 + 1, (ofLex (poolKey pools c)).2) := by
  simp [poolKey, List.findIdx_cons, h]

theorem poolKey_mono (hc : pool.takes c = false) (hd : pool.takes d = false)
    (h : poolKey pools c ≤ poolKey pools d) : poolKey (pool :: pools) c ≤ poolKey (pool :: pools) d := by
  rw [poolKey_passed hc, poolKey_passed hd, Prod.Lex.toLex_le_toLex]
  rcases Prod.Lex.le_iff.1 h with hlt | ⟨heq, hle⟩
  · left
    exact Nat.succ_lt_succ hlt
  · right
    exact ⟨congrArg (· + 1) heq, hle⟩

/-- The first of the first pool with a candidate is the least of all candidates. -/
theorem least_of_firstOf {chosen : ScoredCandidate}
    (h : firstOf (pools.map (fun pool => pool.fill candidates)) = some chosen) :
    Least (poolKey pools) candidates chosen := by
  induction pools with
  | nil => cases h
  | cons pool rest ih =>
    rw [List.map_cons] at h
    cases hfill : pool.fill candidates with
    | nil =>
      have hpassed : ∀ c ∈ candidates, pool.takes c = false := by
        intro c hc
        rw [← Bool.not_eq_true]
        intro htakes
        have hmem := mem_fill.2 ⟨hc, htakes⟩
        rw [hfill] at hmem
        cases hmem
      rw [hfill, firstOf_nil_cons] at h
      have hleast := ih h
      refine ⟨hleast.mem, ?_⟩
      intro other hother
      exact poolKey_mono (hpassed chosen hleast.mem) (hpassed other hother) (hleast.le other hother)
    | cons first others =>
      rw [hfill, firstOf_cons_cons] at h
      cases h
      have hhead : (pool.fill candidates).head? = some chosen := by
        rw [hfill]
        rfl
      have hleast := least_of_head? (candidateOrder_iff pool.classes) hhead
      obtain ⟨hmem, htakes⟩ := mem_fill.1 (List.mem_of_mem_head? hhead)
      refine ⟨hmem, ?_⟩
      intro other hother
      rw [poolKey_taken htakes]
      cases hother' : pool.takes other with
      | false =>
        rw [poolKey_passed hother', Prod.Lex.toLex_le_toLex]
        left
        dsimp only
        omega
      | true =>
        rw [poolKey_taken hother', Prod.Lex.toLex_le_toLex]
        right
        refine ⟨rfl, ?_⟩
        have hin := mem_fill.2 ⟨hother, hother'⟩
        unfold Pool.fill ordered at hin
        exact hleast.le other ((List.mem_insertionSort _).1 hin)

end Keys

/-! ## Classes -/

/-- The priority of a candidate is one that the scoring gives to its bucket. -/
def Scored (c : ScoredCandidate) : Prop :=
  ∃ input, input.gmvBucket = c.candidate.gmvBucket ∧ c.priority = scoreSchedulerPriority input

/-- The classes that the scoring gives to a bucket. -/
def bucketClasses : GmvBucketCode → List SchedulerClass
  | .G1 | .G2 => [.HIGH, .MEDIUM, .EXPLORATION, .LOW]
  | .G3 => [.MEDIUM, .LOW]
  | .G4 => [.EXPERIMENT_ONLY]

/-- A slot serves the first three buckets, and the slot of a probe also the last one. -/
def serves (slot : SchedulerSlot) (bucket : GmvBucketCode) : Bool :=
  decide (bucket ≠ .G4) || decide (slot = .G4_PROBE)

theorem schedulerClass_mem {input : SchedulerPriorityInput} {bucket : GmvBucketCode}
    (h : input.gmvBucket = some bucket) :
    (scoreSchedulerPriority input).schedulerClass ∈ bucketClasses bucket := by
  unfold scoreSchedulerPriority
  rw [h]
  cases bucket with
  | G4 => simp [bucketClasses]
  | _ =>
    simp only [Option.some.injEq, reduceCtorEq, if_true, if_false]
    split_ifs <;> simp [bucketClasses]

/-- The pools of a slot take each class of each bucket that it serves. -/
theorem pools_cover (slot : SchedulerSlot) (bucket : GmvBucketCode) (hserves : serves slot bucket) :
    ∀ schedulerClass ∈ bucketClasses bucket, ∃ pool ∈ slotPools slot,
      bucket ∈ pool.buckets ∧ schedulerClass ∈ pool.classes := by
  revert hserves
  cases slot <;> cases bucket <;> decide

/-- And no pool takes a bucket that its slot does not serve. -/
theorem serves_of_pool (slot : SchedulerSlot) : ∀ pool ∈ slotPools slot, ∀ bucket ∈ pool.buckets,
    serves slot bucket := by
  cases slot <;> decide

section Classes

variable {candidates : List ScoredCandidate} {slot : SchedulerSlot} {c next : ScoredCandidate}

theorem exists_pool (hscored : Scored c) {bucket : GmvBucketCode}
    (hbucket : c.candidate.gmvBucket = some bucket) (hserves : serves slot bucket) :
    ∃ pool ∈ slotPools slot, pool.takes c := by
  obtain ⟨input, hinput, hpriority⟩ := hscored
  have hclass := schedulerClass_mem (hinput.trans hbucket)
  rw [← hpriority] at hclass
  obtain ⟨pool, hpool, hin, hclasses⟩ := pools_cover slot bucket hserves _ hclass
  refine ⟨pool, hpool, ?_⟩
  simp only [Pool.takes, Bool.and_eq_true, List.any_eq_true, decide_eq_true_eq,
    List.contains_iff_mem]
  exact ⟨⟨bucket, hin, hbucket⟩, hclasses⟩

theorem isSome_of_pool (hc : c ∈ candidates) (h : ∃ pool ∈ slotPools slot, pool.takes c = true) :
    (selectSchedulerCandidate candidates slot).isSome := by
  obtain ⟨pool, hpool, htakes⟩ := h
  rw [selectSchedulerCandidate_eq]
  exact isSome_firstOf (List.mem_map_of_mem hpool) (mem_fill.2 ⟨hc, htakes⟩)

theorem pool_of_selected (h : selectSchedulerCandidate candidates slot = some next) :
    ∃ pool ∈ slotPools slot, pool.takes next = true := by
  rw [selectSchedulerCandidate_eq] at h
  obtain ⟨filled, hfilled, hmem⟩ := mem_of_firstOf h
  obtain ⟨pool, hpool, rfl⟩ := List.mem_map.1 hfilled
  exact ⟨pool, hpool, (mem_fill.1 hmem).2⟩

theorem least_of_selected (h : selectSchedulerCandidate candidates slot = some next) :
    Least (selectionKey slot) candidates next := by
  rw [selectSchedulerCandidate_eq] at h
  exact least_of_firstOf h

theorem serves_of_selected (h : selectSchedulerCandidate candidates slot = some next)
    {bucket : GmvBucketCode} (hbucket : next.candidate.gmvBucket = some bucket) :
    serves slot bucket := by
  obtain ⟨pool, hpool, htakes⟩ := pool_of_selected h
  simp only [Pool.takes, Bool.and_eq_true, List.any_eq_true, decide_eq_true_eq] at htakes
  obtain ⟨⟨other, hother, heq⟩, -⟩ := htakes
  rw [hbucket, Option.some.injEq] at heq
  rw [heq]
  exact serves_of_pool slot pool hpool other hother

end Classes

/-! ## The order of the candidates -/

theorem id_of_selectionKey {slot : SchedulerSlot} {c d : ScoredCandidate}
    (h : selectionKey slot c = selectionKey slot d) : c.id = d.id := by
  simp only [selectionKey, poolKey, classKey, toLex_inj, Prod.mk.injEq] at h
  exact h.2.2.2.2

/-- What is selected from some candidates is also selected from them in another order. -/
theorem selected_of_perm {candidates others : List ScoredCandidate} {slot : SchedulerSlot}
    {next : ScoredCandidate} (hids : (candidates.map ScoredCandidate.id).Nodup)
    (hperm : candidates.Perm others) (h : selectSchedulerCandidate candidates slot = some next) :
    selectSchedulerCandidate others slot = some next := by
  have hleast := least_of_selected h
  have hsome : (selectSchedulerCandidate others slot).isSome :=
    isSome_of_pool (hperm.mem_iff.1 hleast.mem) (pool_of_selected h)
  obtain ⟨other, hother⟩ := Option.isSome_iff_exists.1 hsome
  have hleast' := least_of_selected hother
  have hkey := hleast.key_eq hleast' (fun x => hperm.mem_iff)
  have hmem : other ∈ candidates := hperm.mem_iff.2 hleast'.mem
  rw [hother, List.inj_on_of_nodup_map hids hleast.mem hmem (id_of_selectionKey hkey)]

theorem select_of_perm {candidates others : List ScoredCandidate} {slot : SchedulerSlot}
    (hids : (candidates.map ScoredCandidate.id).Nodup) (hperm : candidates.Perm others) :
    selectSchedulerCandidate others slot = selectSchedulerCandidate candidates slot := by
  apply Option.ext
  intro next
  constructor
  · intro h
    exact selected_of_perm ((hperm.map _).nodup_iff.1 hids) hperm.symm h
  · intro h
    exact selected_of_perm hids hperm h

/-! ## The selection -/

/-- The candidates of a claim have the priorities of their scoring. -/
theorem scored_of_mem {env : Environment} {db : Db} {now : Int} {c : ScoredCandidate}
    (h : c ∈ partition_claims.scoredCandidates env db now) : Scored c := by
  obtain ⟨row, -, rfl⟩ := List.mem_map.1 h
  exact ⟨_, rfl, rfl⟩

/-- A slot selects a candidate whenever there is one that it serves, only selects such a one, and
selects the least by the pools and their order, in whatever order the candidates come. -/
theorem the_scheduler_conserves_work {candidates : List ScoredCandidate}
    (hscored : ∀ c ∈ candidates, Scored c) (slot : SchedulerSlot) :
    ((∃ c ∈ candidates, c.candidate.gmvBucket = some .G1 ∨ c.candidate.gmvBucket = some .G2 ∨
        c.candidate.gmvBucket = some .G3 ∨
          (slot = .G4_PROBE ∧ c.candidate.gmvBucket = some .G4)) →
      (selectSchedulerCandidate candidates slot).isSome) ∧
    (∀ next, selectSchedulerCandidate candidates slot = some next →
      next.candidate.gmvBucket = some .G4 → slot = .G4_PROBE) ∧
    ((candidates.map ScoredCandidate.id).Nodup → ∀ others, candidates.Perm others →
      selectSchedulerCandidate others slot = selectSchedulerCandidate candidates slot) ∧
    ∀ next, selectSchedulerCandidate candidates slot = some next →
      Least (selectionKey slot) candidates next := by
  refine ⟨?_, ?_, ?_, ?_⟩
  · rintro ⟨c, hc, hbucket⟩
    apply isSome_of_pool hc
    rcases hbucket with h | h | h | ⟨rfl, h⟩
    · exact exists_pool (hscored c hc) h (by simp [serves])
    · exact exists_pool (hscored c hc) h (by simp [serves])
    · exact exists_pool (hscored c hc) h (by simp [serves])
    · exact exists_pool (hscored c hc) h (by simp [serves])
  · intro next h hg4
    simpa [serves] using serves_of_selected h hg4
  · intro hids others hperm
    exact select_of_perm hids hperm
  · intro next h
    exact least_of_selected h

/-- What a seed of a bucket is scored by, without any evidence. -/
def seedInput (bucket : GmvBucketCode) : SchedulerPriorityInput where
  partitionType := .V2_SEED
  adaptiveDepth := 0
  branchClassification := .UNCLASSIFIED
  expectedYield := none
  expectedNewPerSuccessfulPage := none
  observedSaturated := false
  evidenceRows := 0
  gmvBucket := some bucket
  categoryEvidence := ⟨0, 0, none⟩
  followerEvidence := ⟨0, 0, none⟩
  globalEvidence := ⟨0, 0, none⟩

/-- A seed of the third bucket. -/
def g3Seed : CreatorSearchPartition where
  partitionKey := partitionKeyV2 "1" "2" 600 (some 799) (some .G3)
  partitionType := .V2_SEED
  categoryId := some "1"
  categoryChildId := some "2"
  categoryChildIds := ["2"]
  followersMin := some 600
  followersMax := some 799
  gmvBucket := some .G3
  gmvRange := some "GMV_RANGE_1000_10000"
  queuePosition := BASE_QUEUE_GAP

def scoredSeed : ScoredCandidate := ⟨1, g3Seed, scoreSchedulerPriority (seedInput .G3)⟩

/-- An exploration of the first two buckets falls back on it. -/
theorem an_exploration_takes_a_seed_of_the_third_bucket :
    (selectSchedulerCandidate [scoredSeed] .PRIMARY_EXPLORATION).isSome := by
  have hscored : ∀ c ∈ [scoredSeed], Scored c := by
    intro c hc
    rw [List.mem_singleton.1 hc]
    exact ⟨seedInput .G3, rfl, rfl⟩
  have hconserves := the_scheduler_conserves_work hscored .PRIMARY_EXPLORATION
  exact hconserves.1 ⟨scoredSeed, by simp, by simp [scoredSeed, g3Seed]⟩

end tiktok_outreach.scheduler_selection
