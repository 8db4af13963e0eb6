-- The queue positions of partitions. A seed stands at a multiple of a million,
-- and each split multiplies a position by a hundred, so that the column holds
-- all of them as long as it holds those of the deepest splits.
import TiktokOutreach.FollowerTiling

open tables transactions runs separated tiktok_outreach.creator_schema
  tiktok_outreach.marketplace_partitions tiktok_outreach.creator_scheduler
  tiktok_outreach.adaptive_queue tiktok_outreach.creator_commands tiktok_outreach.partition_forest
  tiktok_outreach.queue_growth tiktok_outreach.forest_runs tiktok_outreach.follower_tiling
  Relation

namespace tiktok_outreach.queue_positions

/-! ## Branches -/

/-- A column of type `BigInt` holds the number. -/
def FitsBigInt (position : Nat) : Prop := position < 2 ^ 63

/-- The partitions that a seed table leads to, whatever was found in each of them. -/
inductive Branch (config : Config) (catalog : List CatalogNode) : Identity → Prop
  | seed (env : Environment) (rootByKey : String → Option Nat) (row : BasePartitionRow)
      (hrow : row ∈ v2BasePartitionRows catalog) :
      Branch config catalog (identity (seedPartition env rootByKey row))
  | child (parentId : Nat) (p child : CreatorSearchPartition) (bounds : Bounds × Bounds)
      (reason : String) (hp : Branch config catalog (identity p))
      (hexpansion : expansionFor config p = .FOLLOWER bounds reason)
      (hchild : child ∈ followerChildren parentId p bounds) :
      Branch config catalog (identity child)

/-- How often a range can be split in a row. -/
def splitDepth (rules : FollowerWidthRules) (lo : Nat) (hi : Option Nat) : Nat :=
  match h : splitFollowerRange lo hi rules with
  | none => 0
  | some (lower, upper) => 1 + max (splitDepth rules lower.min (some lower.max))
      (splitDepth rules upper.min (some upper.max))
termination_by hi.getD 0 + 1 - lo
decreasing_by
  all_goals
    obtain ⟨hi', rfl, _, hlt, _, hbounds⟩ := splitFollowerRange_eq_some.1 h
    rw [Prod.mk.injEq] at hbounds
    obtain ⟨rfl, rfl⟩ := hbounds
    simp only [lowerHalfBounds, upperHalfBounds, Option.getD_some]
    omega

def PositionsSound (config : Config) (catalog : List CatalogNode) : Prop :=
  (∀ n, Branch config catalog n → FitsBigInt n.queuePosition) ∧
    ∀ n m, Branch config catalog n → Branch config catalog m →
      n.queuePosition = m.queuePosition → n.partitionKey = m.partitionKey

/-- The column holds the position of each seed after as many splits as its range admits. -/
def DeepestFits (config : Config) (catalog : List CatalogNode) : Prop :=
  ∀ row ∈ v2BasePartitionRows catalog, FitsBigInt
    (row.queuePosition * 100 ^ splitDepth config.followerWidthRules row.followersMin row.followersMax)

section Branches

variable {config : Config} {catalog : List CatalogNode} {n m : Identity}
  {rules : FollowerWidthRules}

theorem splitDepth_of_none {lo : Nat} {hi : Option Nat}
    (h : splitFollowerRange lo hi rules = none) : splitDepth rules lo hi = 0 := by
  unfold splitDepth
  split
  · rfl
  · rename_i heq
    rw [h] at heq
    cases heq

theorem splitDepth_of_wide {lo hi : Nat} (hfloor : CREATOR_FOLLOWER_HARD_FLOOR ≤ lo)
    (hlt : lo < hi) (hwide : minimumFollowerWidth lo rules * 2 ≤ hi + 1 - lo) :
    splitDepth rules lo (some hi) =
      1 + max (splitDepth rules lo (some ((lo + hi) / 2)))
        (splitDepth rules ((lo + hi) / 2 + 1) (some hi)) := by
  have hsplit : splitFollowerRange lo (some hi) rules =
      some (lowerHalfBounds lo hi, upperHalfBounds lo hi) :=
    splitFollowerRange_eq_some.2 ⟨hi, rfl, hfloor, hlt, hwide, rfl⟩
  rw [splitDepth]
  split
  · rename_i heq
    rw [hsplit] at heq
    cases heq
  · rename_i lower upper heq
    rw [hsplit, Option.some.injEq, Prod.mk.injEq] at heq
    obtain ⟨rfl, rfl⟩ := heq
    rfl

/-- A finished partition whose range was worth all evidence that the rules ask for. -/
def promising (config : Config) (n : Identity) : CreatorSearchPartition where
  partitionKey := n.partitionKey
  partitionType := n.partitionType
  adaptiveDepth := n.adaptiveDepth
  categoryId := n.categoryId
  categoryChildId := n.categoryChildId
  categoryChildIds := n.categoryChildIds
  followersMin := n.followersMin
  followersMax := n.followersMax
  gmvBucket := n.gmvBucket
  gmvRange := n.gmvRange
  parentPartitionId := n.parentPartitionId
  queuePosition := n.queuePosition
  status := .COMPLETE
  rowsReturned := 200
  uniqueCreatorsAdded := 200
  pagesCompleted := 1
  incrementalYield := some config.deepSplitMinIncrementalYield

/-- What the columns of a branch always are. -/
theorem branch_columns (h : Branch config catalog n) :
    (n.partitionType = .V2_SEED ∨ n.partitionType = .ADAPTIVE_FOLLOWER) ∧
      isSpecificGmvPartition n.gmvBucket n.gmvRange = true ∧ ∃ lo, n.followersMin = some lo := by
  induction h with
  | seed env rootByKey row hrow =>
    obtain ⟨pair, bucket, gmv, position, _, _, hgmv, rfl⟩ := mem_v2BasePartitionRows hrow
    have hspecific : ∀ gmv ∈ GMV_BUCKETS,
        isSpecificGmvPartition (some gmv.code) (some gmv.range) = true := by decide
    exact ⟨Or.inl rfl, hspecific gmv hgmv, bucket.min, rfl⟩
  | child parentId p child bounds reason _ _ hchild ih =>
    unfold followerChildren at hchild
    simp only [List.mem_cons, List.not_mem_nil, or_false] at hchild
    rcases hchild with rfl | rfl
    · exact ⟨Or.inr rfl, ih.2.1, _, rfl⟩
    · exact ⟨Or.inr rfl, ih.2.1, _, rfl⟩

theorem expansion_of_promising (h : Branch config catalog n) {lo hi : Nat}
    (hsplit : Splittable config.followerWidthRules n lo hi) :
    ∃ reason, expansionFor config (promising config n) =
      .FOLLOWER (lowerHalfBounds lo hi, upperHalfBounds lo hi) reason := by
  obtain ⟨htype, hspecific, _⟩ := branch_columns h
  have hbounds : splitFollowerRange lo (some hi) config.followerWidthRules =
      some (lowerHalfBounds lo hi, upperHalfBounds lo hi) :=
    splitFollowerRange_eq_some.2 ⟨hi, rfl, hsplit.floor, hsplit.lt, hsplit.wide, rfl⟩
  have hrate : rate 200 200 = 1 := by norm_num [rate]
  have hperPage : rate 200 1 = 200 := by norm_num [rate]
  have hproduction : PRODUCTION_PARTITION_TYPES.contains n.partitionType = true := by
    rcases htype with htype | htype <;> rw [htype] <;> decide
  simp only [expansionFor, promising, hsplit.min, hsplit.max, hproduction, adaptiveExpansion,
    hspecific, hbounds, hrate, hperPage, numericYield, DEFAULT_BRANCH_EVIDENCE_MIN_ROWS,
    DEFAULT_FIRST_SPLIT_MIN_UNIQUE_RATE, DEFAULT_FIRST_SPLIT_MIN_NEW_PER_PAGE,
    DEFAULT_G4_RECURSION_MIN_UNIQUE_RATE, DEFAULT_G4_RECURSION_MIN_NEW_PER_PAGE]
  cases hgmv : n.gmvBucket with
  | none =>
    have hnone : isSpecificGmvPartition none n.gmvRange = false := by rfl
    rw [hgmv, hnone] at hspecific
    cases hspecific
  | some code =>
    rcases htype with htype | htype <;> rw [htype] <;> cases code <;> norm_num <;>
      exact ⟨_, rfl⟩

/-- The children of a branch whose range can be split are branches. -/
theorem branch_halves (h : Branch config catalog n) {lo hi : Nat}
    (hsplit : Splittable config.followerWidthRules n lo hi) :
    Branch config catalog (lowerChild 0 n lo hi) ∧ Branch config catalog (upperChild 0 n lo hi) := by
  obtain ⟨reason, hexpansion⟩ := expansion_of_promising h hsplit
  have hp : Branch config catalog (identity (promising config n)) := h
  constructor
  · exact Branch.child 0 _ _ _ _ hp hexpansion List.mem_cons_self
  · exact Branch.child 0 _ _ _ _ hp hexpansion (List.mem_cons_of_mem _ List.mem_cons_self)

/-! ## How far a position goes -/

/-- The partition is `d` splits below the row, and the row's range admits as many splits as its own
range does behind these. -/
def Below (rules : FollowerWidthRules) (row : BasePartitionRow) (n : Identity) (d : Nat) : Prop :=
  (∃ t, t < 100 ^ d ∧ n.queuePosition = row.queuePosition * 100 ^ d + t) ∧
    ∃ lo, n.followersMin = some lo ∧
      d + splitDepth rules lo n.followersMax ≤ splitDepth rules row.followersMin row.followersMax

theorem below_half {row : BasePartitionRow} {d : Nat} (h : Below rules row n d) {lo hi : Nat}
    (hsplit : Splittable rules n lo hi) {parentId : Nat} {bound : Bounds} {index : Nat}
    (hindex : index < 2)
    (hdepth : 1 + splitDepth rules bound.min (some bound.max) ≤ splitDepth rules lo (some hi)) :
    Below rules row (childIdentity parentId n bound index) (d + 1) := by
  obtain ⟨⟨t, ht, hposition⟩, lo', hmin, hle⟩ := h
  rw [hsplit.min, Option.some.injEq] at hmin
  subst hmin
  rw [hsplit.max] at hle
  refine ⟨⟨t * 100 + (index + 1), ?_, ?_⟩, bound.min, rfl, ?_⟩
  · rw [pow_succ]
    omega
  · have hchild : (childIdentity parentId n bound index).queuePosition =
        n.queuePosition * 100 + (index + 1) := by rfl
    rw [hchild, hposition, pow_succ]
    ring
  · have hmax : (childIdentity parentId n bound index).followersMax = some bound.max := by rfl
    rw [hmax]
    omega

theorem branch_below (h : Branch config catalog n) :
    ∃ row ∈ v2BasePartitionRows catalog, ∃ d, Below config.followerWidthRules row n d := by
  induction h with
  | seed env rootByKey row hrow =>
    refine ⟨row, hrow, 0, ⟨0, by norm_num, ?_⟩, row.followersMin, rfl, ?_⟩
    · change row.queuePosition = row.queuePosition * 100 ^ 0 + 0
      ring
    · change 0 + splitDepth _ row.followersMin row.followersMax ≤ _
      omega
  | child parentId p child bounds reason _ hexpansion hchild ih =>
    obtain ⟨row, hrow, d, hbelow⟩ := ih
    obtain ⟨lo, hi, hsplit, rfl⟩ := splittable_of_expansion hexpansion
    have hdepth := splitDepth_of_wide hsplit.floor hsplit.lt hsplit.wide
    unfold followerChildren at hchild
    simp only [List.mem_cons, List.not_mem_nil, or_false] at hchild
    rcases hchild with rfl | rfl
    · refine ⟨row, hrow, d + 1, below_half hbelow hsplit (by omega) ?_⟩
      simp only [lowerHalfBounds]
      omega
    · refine ⟨row, hrow, d + 1, below_half hbelow hsplit (by omega) ?_⟩
      simp only [upperHalfBounds]
      omega

/-- The induction is on the number of splits that are left. -/
theorem exists_deepest (k : Nat) {lo : Nat} (h : Branch config catalog n)
    (hmin : n.followersMin = some lo)
    (hk : splitDepth config.followerWidthRules lo n.followersMax = k) :
    ∃ m, Branch config catalog m ∧ n.queuePosition * 100 ^ k ≤ m.queuePosition := by
  induction k generalizing n lo with
  | zero => exact ⟨n, h, by omega⟩
  | succ k ih =>
    -- the range can be split, for else nothing would be left
    cases hrange : splitFollowerRange lo n.followersMax config.followerWidthRules with
    | none =>
      rw [splitDepth_of_none hrange] at hk
      omega
    | some bounds =>
      obtain ⟨hi, hmax, hfloor, hlt, hwide, _⟩ := splitFollowerRange_eq_some.1 hrange
      have hsplit : Splittable config.followerWidthRules n lo hi :=
        ⟨hmin, hmax, hfloor, hlt, hwide⟩
      obtain ⟨hlower, hupper⟩ := branch_halves h hsplit
      rw [hmax, splitDepth_of_wide hfloor hlt hwide] at hk
      have hside : splitDepth config.followerWidthRules lo (some ((lo + hi) / 2)) = k ∨
          splitDepth config.followerWidthRules ((lo + hi) / 2 + 1) (some hi) = k := by
        omega
      have hpower : ∀ index : Nat, n.queuePosition * 100 ^ (k + 1) ≤
          (n.queuePosition * 100 + (index + 1)) * 100 ^ k := by
        intro index
        rw [pow_succ]
        nlinarith [Nat.zero_le ((index + 1) * 100 ^ k)]
      rcases hside with hside | hside
      · obtain ⟨m, hm, hle⟩ := ih hlower rfl hside
        exact ⟨m, hm, le_trans (hpower 0) hle⟩
      · obtain ⟨m, hm, hle⟩ := ih hupper rfl hside
        exact ⟨m, hm, le_trans (hpower 1) hle⟩

/-- Below a bound, all multiples have the room that the largest one has. -/
theorem add_lt_of_room {q c t bound : Nat} (hc : 0 < c) (h : q * c < bound)
    (hroom : (bound - 1) / c * c + t < bound) : q * c + t < bound := by
  have hq : q ≤ (bound - 1) / c := by
    rw [Nat.le_div_iff_mul_le hc]
    omega
  have hle : q * c ≤ (bound - 1) / c * c := Nat.mul_le_mul_right c hq
  omega

/-- The hundreds behind a position that fits leave room for the digits of the splits. -/
theorem fits_add {q d t : Nat} (hq : 0 < q) (ht : t < 100 ^ d)
    (h : FitsBigInt (q * BASE_QUEUE_GAP * 100 ^ d)) :
    FitsBigInt (q * BASE_QUEUE_GAP * 100 ^ d + t) := by
  unfold FitsBigInt at *
  have hd : d < 7 := by
    by_contra hge
    have hpower : 100 ^ 7 ≤ 100 ^ d := Nat.pow_le_pow_right (by omega) (by omega)
    unfold BASE_QUEUE_GAP at h
    norm_num at h hpower
    nlinarith
  rw [mul_assoc] at h ⊢
  apply add_lt_of_room (by unfold BASE_QUEUE_GAP; positivity) h
  unfold BASE_QUEUE_GAP
  interval_cases d <;> norm_num at ht ⊢ <;> linarith

/-! ## What a position says -/

theorem row_of_position {row row' : BasePartitionRow} (h : row ∈ v2BasePartitionRows catalog)
    (h' : row' ∈ v2BasePartitionRows catalog) (hposition : row.queuePosition = row'.queuePosition) :
    row = row' := by
  unfold v2BasePartitionRows at h h'
  obtain ⟨⟨c, i⟩, hc, rfl⟩ := List.mem_map.1 h
  obtain ⟨⟨c', i'⟩, hc', rfl⟩ := List.mem_map.1 h'
  have hi : i = i' := by
    unfold basePartitionRow BASE_QUEUE_GAP at hposition
    dsimp only at hposition
    omega
  subst hi
  rw [List.mem_zipIdx_iff_getElem?] at hc hc'
  have hsame : c = c' := Option.some.inj (hc.symm.trans hc')
  rw [hsame]

theorem seed_position {row : BasePartitionRow} (h : row ∈ v2BasePartitionRows catalog) :
    ∃ q, 0 < q ∧ row.queuePosition = q * BASE_QUEUE_GAP := by
  obtain ⟨pair, bucket, gmv, position, _, _, _, rfl⟩ := mem_v2BasePartitionRows h
  exact ⟨position + 1, by omega, rfl⟩

/-- The child's place among its siblings is the last digit of its position. -/
theorem child_of_mem {parentId : Nat} {p child : CreatorSearchPartition} {bounds : Bounds × Bounds}
    (h : child ∈ followerChildren parentId p bounds) :
    ∃ index < 2, child = followerChild parentId p
      (if index = 0 then bounds.1 else bounds.2) index := by
  unfold followerChildren at h
  simp only [List.mem_cons, List.not_mem_nil, or_false] at h
  rcases h with rfl | rfl
  · exact ⟨0, by omega, rfl⟩
  · exact ⟨1, by omega, rfl⟩

/-- A position says which partition it is of. -/
theorem eq_of_position (hn : Branch config catalog n) (hm : Branch config catalog m)
    (hposition : n.queuePosition = m.queuePosition) :
    n.partitionKey = m.partitionKey ∧ n.followersMin = m.followersMin ∧
      n.followersMax = m.followersMax := by
  induction hn generalizing m with
  | seed env rootByKey row hrow =>
    obtain ⟨q, _, hq⟩ := seed_position hrow
    cases hm with
    | seed env' rootByKey' row' hrow' =>
      obtain rfl := row_of_position hrow hrow' hposition
      exact ⟨rfl, rfl, rfl⟩
    | child parentId p child bounds reason hp hexpansion hchild =>
      obtain ⟨index, hindex, rfl⟩ := child_of_mem hchild
      have hdigits : row.queuePosition = p.queuePosition * 100 + (index + 1) := hposition
      unfold BASE_QUEUE_GAP at hq
      omega
  | child parentId p child bounds reason hp hexpansion hchild ih =>
    obtain ⟨index, hindex, rfl⟩ := child_of_mem hchild
    cases hm with
    | seed env rootByKey row hrow =>
      obtain ⟨q, _, hq⟩ := seed_position hrow
      have hdigits : p.queuePosition * 100 + (index + 1) = row.queuePosition := hposition
      unfold BASE_QUEUE_GAP at hq
      omega
    | child parentId' p' child' bounds' reason' hp' hexpansion' hchild' =>
      obtain ⟨index', hindex', rfl⟩ := child_of_mem hchild'
      have hdigits : p.queuePosition * 100 + (index + 1) =
          p'.queuePosition * 100 + (index' + 1) := hposition
      have hsame : index = index' := by omega
      have hparents : (identity p).queuePosition = (identity p').queuePosition := by
        change p.queuePosition = p'.queuePosition
        omega
      obtain ⟨hkey, hmin, hmax⟩ := ih hp' hparents
      -- both ranges are the same, and so are their halves
      obtain ⟨lo, hi, hsplit, rfl⟩ := splittable_of_expansion hexpansion
      obtain ⟨lo', hi', hsplit', rfl⟩ := splittable_of_expansion hexpansion'
      have hlo : lo = lo' := Option.some.inj (hsplit.min.symm.trans (hmin.trans hsplit'.min))
      have hhi : hi = hi' := Option.some.inj (hsplit.max.symm.trans (hmax.trans hsplit'.max))
      have hkeys : p.partitionKey = p'.partitionKey := hkey
      subst hsame hlo hhi
      exact ⟨congrArg (fun key => adaptiveFollowerPartitionKey key _ _) hkeys, rfl, rfl⟩

end Branches

/-! ## The positions that are stored -/

section Runs

variable {env : Environment} {config : Config} {catalog : List CatalogNode}

/-- A command that plants, if any, the seeds of this one catalog. -/
def OnCatalog (catalog : List CatalogNode) (c : Command) : Prop :=
  ∀ catalog', c = .initializePartitions catalog' → catalog' = catalog

def AllBranches (config : Config) (catalog : List CatalogNode) (F : Forest) : Prop :=
  ∀ i n, F.node i = some n → Branch config catalog n.identity

theorem branches_divides {F F' : Forest} (h : AllBranches config catalog F)
    (hdivides : Divides config.followerWidthRules F F') : AllBranches config catalog F' := by
  cases hdivides with
  | divide i n lo hi hnode hsplit =>
    intro j m hm
    obtain ⟨reason, hexpansion⟩ := expansion_of_promising (h i _ hnode) hsplit
    have hp : Branch config catalog (identity (promising config n)) := h i _ hnode
    unfold Forest.divide at hm
    dsimp only at hm
    split_ifs at hm
    · rw [Option.some.injEq] at hm
      subst hm
      exact hp
    · rw [Option.some.injEq] at hm
      subst hm
      exact Branch.child i _ _ _ _ hp hexpansion List.mem_cons_self
    · rw [Option.some.injEq] at hm
      subst hm
      exact Branch.child i _ _ _ _ hp hexpansion (List.mem_cons_of_mem _ List.mem_cons_self)
    · exact h j m hm

theorem branches_divisions {F F' : Forest} (h : AllBranches config catalog F)
    (hdivides : ReflTransGen (Divides config.followerWidthRules) F F') :
    AllBranches config catalog F' := by
  induction hdivides with
  | refl => exact h
  | tail _ hstep ih => exact branches_divides ih hstep

theorem branches_initializePartitions {db db' : Db} {r : Nat}
    (h : AllBranches config catalog (forest db))
    (hrun : (initializePartitions env catalog).run db = .ok (r, db')) :
    AllBranches config catalog (forest db') := by
  have hsame : forest (disabled db) = forest db := forest_updateMany db _ (fun _ => rfl)
  rw [run_initializePartitions hrun]
  intro i n hn
  rcases node_insertPartitions hn with hold | ⟨p, hp, rfl⟩
  · rw [hsame] at hold
    exact h i n hold
  · obtain ⟨row, hrow, rfl⟩ := List.mem_map.1 hp
    exact Branch.seed env _ row (List.mem_filter.1 hrow).1

/-- Every partition that is stored in a run on one catalog is a branch of its seed table. -/
theorem stored_branch (hdecimal : ∀ node ∈ catalog, Decimal node.categoryId)
    {ls : List (Command × Ambient)} {db : Db}
    (hrun : Run (Guarded (CommandStep env config) (fun _ l => OnCatalog catalog l.1))
      Db.initial ls db) {i : Nat} {p : CreatorSearchPartition}
    (hp : db.partitions.get i = some p) : Branch config catalog (identity p) := by
  have hall : Tiled config.followerWidthRules (forest db) ∧
      AllBranches config catalog (forest db) := by
    refine hrun.invariant (fun s => Tiled config.followerWidthRules (forest s) ∧
      AllBranches config catalog (forest s)) ?_ ?_
    · rintro s ⟨c, ambient⟩ t _ ⟨hstep, hon⟩ ⟨htiled, hbranches⟩
      have hplanted : DecimalCatalog c := by
        intro catalog' hc
        rw [hon catalog' hc]
        exact hdecimal
      refine ⟨tiled_growth htiled (command_grows hplanted htiled hstep), ?_⟩
      by_cases hc : ∃ catalog', c = .initializePartitions catalog'
      · obtain ⟨catalog', rfl⟩ := hc
        obtain rfl := hon catalog' rfl
        obtain ⟨r, hcommand⟩ := hstep
        exact branches_initializePartitions hbranches hcommand
      · push Not at hc
        exact branches_divisions hbranches (command_divides hc htiled hstep)
    · rw [forest_initial]
      exact ⟨tiled_empty, fun i n hn => by cases hn⟩
  exact hall.2 i _ (node_of_get hp)

end Runs

/-! ## The main results -/

/-- The positions are sound exactly when the column holds the deepest ones. -/
theorem queue_positions_sound (config : Config) (catalog : List CatalogNode) :
    PositionsSound config catalog ↔ DeepestFits config catalog := by
  constructor
  · rintro ⟨hfits, _⟩ row hrow
    have hseed : Branch config catalog (identity (seedPartition ⟨fun _ => 0, fun _ => 1⟩
      (fun _ => none) row)) := Branch.seed _ _ row hrow
    obtain ⟨m, hm, hle⟩ := exists_deepest _ hseed rfl rfl
    exact lt_of_le_of_lt hle (hfits m hm)
  · intro hdeepest
    refine ⟨?_, fun n m hn hm hposition => (eq_of_position hn hm hposition).1⟩
    intro n hn
    obtain ⟨row, hrow, d, ⟨t, ht, hposition⟩, lo, _, hdepth⟩ := branch_below hn
    obtain ⟨q, hq, hrowPosition⟩ := seed_position hrow
    have hrowFits := hdeepest row hrow
    rw [hrowPosition] at hrowFits hposition
    rw [hposition]
    apply fits_add hq ht
    -- the partition is no deeper than its seed's range admits
    have hpower : 100 ^ d ≤ 100 ^ splitDepth config.followerWidthRules row.followersMin
        row.followersMax := Nat.pow_le_pow_right (by omega) (by omega)
    exact lt_of_le_of_lt (Nat.mul_le_mul_left _ hpower) hrowFits

/-- The configuration with the smallest widths that are admitted. -/
def narrowest : Config := { Config.defaults with followerWidthRules := ⟨1, 1, 1, 1, 1, by decide⟩ }

theorem le_splitDepth_narrowest (d : Nat) {lo hi : Nat} (hfloor : CREATOR_FOLLOWER_HARD_FLOOR ≤ lo)
    (hwidth : 2 ^ d ≤ hi + 1 - lo) : d ≤ splitDepth narrowest.followerWidthRules lo (some hi) := by
  induction d generalizing hi with
  | zero => omega
  | succ d ih =>
    have hminimum : minimumFollowerWidth lo narrowest.followerWidthRules = 1 := by
      unfold minimumFollowerWidth narrowest
      split_ifs <;> rfl
    have hpos : 0 < 2 ^ d := by positivity
    rw [pow_succ] at hwidth
    rw [splitDepth_of_wide hfloor (by omega) (by omega)]
    have hhalf : d ≤ splitDepth narrowest.followerWidthRules lo (some ((lo + hi) / 2)) :=
      ih (by omega)
    omega

/-- Seven splits of the first seed of any table are too many. -/
theorem queue_positions_overflow : ¬ PositionsSound narrowest smallCatalog := by
  rintro ⟨hfits, _⟩
  have hrow : basePartitionRow ("1", "2") ⟨"F01", 600, some 799⟩ ⟨.G1, "GMV_RANGE_0_100"⟩ 0 ∈
      v2BasePartitionRows smallCatalog := by decide +kernel
  have hseed : Branch narrowest smallCatalog (identity (seedPartition ⟨fun _ => 0, fun _ => 1⟩
      (fun _ => none)
      (basePartitionRow ("1", "2") ⟨"F01", 600, some 799⟩ ⟨.G1, "GMV_RANGE_0_100"⟩ 0))) :=
    Branch.seed _ _ _ hrow
  have hdepth : 7 ≤ splitDepth narrowest.followerWidthRules 600 (some 799) :=
    le_splitDepth_narrowest 7 (by decide) (by decide)
  have hpower : 100 ^ 7 ≤ 100 ^ splitDepth narrowest.followerWidthRules 600 (some 799) :=
    Nat.pow_le_pow_right (by omega) hdepth
  obtain ⟨m, hm, hle⟩ := exists_deepest _ hseed rfl rfl
  have hposition : 1000000 * 100 ^ splitDepth narrowest.followerWidthRules 600 (some 799) ≤
      m.queuePosition := hle
  have hfit : m.queuePosition < 2 ^ 63 := hfits m hm
  norm_num at hpower hfit
  linarith

end tiktok_outreach.queue_positions
