-- What a throttle and a quota block promise. A throttled limiter stays closed
-- until its cooldown ends, and a blocked one until an operator resets it, as
-- long as no later settlement of another permit writes the limiter over.
import TiktokOutreach.GovernorRuns

open runs

namespace tiktok_outreach.outbound_throttle

/-! ## A closed limiter -/

/-- This limiter row gives no permit before `until_`. -/
def Closed (until_ : Int) (l : Limiter) : Prop :=
  l.state = .QUOTA_BLOCKED ∨ ∃ n, l.nextPermittedAt = some n ∧ until_ ≤ n

def ClosedUntil (until_ : Int) (db : Store) (key : LimiterKey) : Prop :=
  ∃ l, db.limiters key = some l ∧ Closed until_ l

theorem prepared_some (l : Limiter) (initial technicalMax : Int) :
    (preparedLimiter (some l) initial technicalMax).state = l.state ∧
    (preparedLimiter (some l) initial technicalMax).nextPermittedAt = l.nextPermittedAt ∧
    (preparedLimiter (some l) initial technicalMax).lastRequestAt = l.lastRequestAt := by
  unfold preparedLimiter
  dsimp only
  split <;> exact ⟨rfl, rfl, rfl⟩

theorem seen_of_some {options : Options} {shopId : Nat} {operation : OutboundProviderOperation}
    {db : Store} {l : Limiter} (h : db.limiters (options.key shopId operation) = some l) :
    (seenLimiter options shopId operation db).state = l.state ∧
    (seenLimiter options shopId operation db).nextPermittedAt = l.nextPermittedAt ∧
    (seenLimiter options shopId operation db).lastRequestAt = l.lastRequestAt := by
  unfold seenLimiter
  rw [h]
  exact prepared_some l _ _

theorem no_running_cooldown {l : Limiter} {now n : Int} (h : runningCooldown l now = none)
    (hn : l.nextPermittedAt = some n) : n ≤ now := by
  unfold runningCooldown at h
  rw [hn] at h
  simpa using h

theorem closed_seen {options : Options} {shopId : Nat} {operation : OutboundProviderOperation}
    {db : Store} {until_ : Int} (h : ClosedUntil until_ db (options.key shopId operation)) :
    Closed until_ (seenLimiter options shopId operation db) := by
  obtain ⟨l, hl, hstate⟩ := h
  obtain ⟨hs, hnext, _⟩ := seen_of_some hl
  unfold Closed
  rw [hs, hnext]
  exact hstate

/-- A closed limiter comes neither to the recovery of `acquire` nor past it. -/
theorem closed_not_cooled {l : Limiter} {now until_ : Int} (h : Closed until_ l)
    (hnow : now < until_) (hblocked : l.state ≠ .QUOTA_BLOCKED) :
    runningCooldown l now ≠ none := by
  intro hcool
  rcases h with hq | ⟨n, hn, hle⟩
  · exact hblocked hq
  · have : n ≤ now := no_running_cooldown hcool hn
    omega

theorem acquire_of_closed {options : Options} {shopId : Nat}
    {operation : OutboundProviderOperation} {owner : String} {now until_ : Int} {db : Store}
    (hclosed : ClosedUntil until_ db (options.key shopId operation)) (hnow : now < until_) :
    grantedPermit (acquire options shopId operation owner now db) = none := by
  rcases apply_acquire_cases options shopId operation owner now db with
    ⟨permit, n, _, hg⟩ | ⟨h, _⟩
  · exact absurd hg.cooled (closed_not_cooled (closed_seen hclosed) hnow hg.not_blocked)
  · exact h

theorem closed_acquire {options : Options} {shopId : Nat} {operation : OutboundProviderOperation}
    {owner : String} {now until_ : Int} {db : Store} {key : LimiterKey}
    (hclosed : ClosedUntil until_ db key) (hnow : now < until_) :
    ClosedUntil until_ ((GovernorOp.acquire options shopId operation owner now).apply db) key := by
  rcases apply_acquire_cases options shopId operation owner now db with
    ⟨permit, n, h, hg⟩ | ⟨_, hsame | hr⟩
  · by_cases hkey : key = options.key shopId operation
    · subst hkey
      rw [acquire_of_closed hclosed hnow] at h
      cases h
    · unfold ClosedUntil
      rw [hg.others key hkey]
      exact hclosed
  · rw [hsame]
    exact hclosed
  · by_cases hkey : key = options.key shopId operation
    · subst hkey
      rcases hr.limiter with h | ⟨hcool, hq, _⟩
      · exact ⟨_, h, closed_seen hclosed⟩
      · exact absurd hcool (closed_not_cooled (closed_seen hclosed) hnow hq)
    · unfold ClosedUntil
      rw [hr.others key hkey]
      exact hclosed

theorem le_laterCooldown_stored {n candidate : Int} :
    n ≤ laterCooldown (some n) candidate := by
  unfold laterCooldown
  dsimp only
  split <;> omega

theorem le_laterCooldown_candidate (stored : Option Int) (candidate : Int) :
    candidate ≤ laterCooldown stored candidate := by
  unfold laterCooldown
  cases stored with
  | none => simp
  | some n =>
    dsimp only
    split <;> omega

/-! ## A cooldown -/

/-- The settlements that do not cut the cooldown of `key` short: every one but a `healthy` of
this limiter, and a `throttle` or `transientFailure` that lifts a quota block of it with a
cooldown that ends before `until_`. -/
def KeepsCooldown (key : LimiterKey) (until_ : Int) (db : Store) : GovernorOp → Prop
  | .healthy permit _ _ _ => permit.limiterId ≠ key
  | .throttle permit _ retryAfterMs random now => permit.limiterId = key →
    ∀ l, db.limiters key = some l → l.state = .QUOTA_BLOCKED →
      until_ ≤ now + throttleDelay l retryAfterMs random
  | .transientFailure permit _ random now => permit.limiterId = key →
    ∀ l, db.limiters key = some l → l.state = .QUOTA_BLOCKED →
      until_ ≤ now + transientDelay l random
  | _ => True

/-- A new cooldown of a closed limiter ends no sooner than the stored one, unless a quota
block took the stored one away. -/
theorem closed_laterCooldown {l : Limiter} {until_ candidate : Int} (hclosed : Closed until_ l)
    (hblocked : l.state = .QUOTA_BLOCKED → until_ ≤ candidate) :
    until_ ≤ laterCooldown l.nextPermittedAt candidate := by
  rcases hclosed with hq | ⟨n, hn, hle⟩
  · exact (hblocked hq).trans (le_laterCooldown_candidate _ _)
  · rw [hn]
    exact hle.trans le_laterCooldown_stored

theorem closed_settlement {op : GovernorOp} {db : Store} {key : LimiterKey} {until_ : Int}
    {permit : Permit} {f : Limiter → Limiter} (hop : op.settlement = some (permit, f))
    (hclosed : ClosedUntil until_ db key)
    (hf : key = permit.limiterId → ∀ l, db.limiters key = some l → Closed until_ l →
      Closed until_ (f l)) : ClosedUntil until_ (op.apply db) key := by
  obtain ⟨l, hl, hstate⟩ := hclosed
  unfold ClosedUntil
  rw [settlement_limiters op db hop key, hl]
  by_cases hkey : key = permit.limiterId
  · rw [if_pos hkey]
    exact ⟨f l, rfl, hf hkey l hl hstate⟩
  · rw [if_neg hkey]
    exact ⟨l, rfl, hstate⟩

theorem closed_step {op : GovernorOp} {db : Store} {key : LimiterKey} {until_ : Int}
    (hkeep : KeepsCooldown key until_ db op) (hnow : op.now < until_)
    (hclosed : ClosedUntil until_ db key) : ClosedUntil until_ (op.apply db) key := by
  cases op with
  | acquire options shopId operation owner now => exact closed_acquire hclosed hnow
  | healthy permit outcome meta_ now =>
    apply closed_settlement rfl hclosed
    intro hkey
    exact absurd hkey.symm hkeep
  | throttle permit meta_ retryAfterMs random now =>
    apply closed_settlement rfl hclosed
    intro hkey l hl hstate
    exact Or.inr ⟨_, rfl, closed_laterCooldown hstate (hkeep hkey.symm l hl)⟩
  | transientFailure permit meta_ random now =>
    apply closed_settlement rfl hclosed
    intro hkey l hl hstate
    exact Or.inr ⟨_, rfl, closed_laterCooldown hstate (hkeep hkey.symm l hl)⟩
  | quotaBlocked permit code detail meta_ now =>
    apply closed_settlement rfl hclosed
    intro _ l _ _
    exact Or.inl rfl
  | release permit outcome meta_ now =>
    apply closed_settlement rfl hclosed
    intro _ l _ hstate
    exact hstate

theorem closed_throttle {permit : Permit} {meta_ : ResponseMeta} {retryAfterMs : Option ℚ}
    {random : ℚ} {now : Int} {db db' : Store} {result : ThrottleResult}
    (h : throttle permit meta_ retryAfterMs random now db = .ok (result, db')) :
    ClosedUntil result.nextPermittedAt db' permit.limiterId := by
  unfold throttle at h
  cases hl : db.limiters permit.limiterId with
  | none => simp [hl] at h
  | some l =>
    simp only [hl, Except.ok.injEq, Prod.mk.injEq] at h
    obtain ⟨rfl, rfl⟩ := h
    exact ⟨throttledLimiter l meta_ retryAfterMs random now, by simp,
      Or.inr ⟨_, rfl, le_refl _⟩⟩

/-- After a throttle, no permit of the limiter is given out before the time that the throttle
returned, as long as every settlement in between keeps the cooldown. -/
theorem a_cooldown_holds_without_a_healthy_report
    (permit : Permit) (meta_ : ResponseMeta) (retryAfterMs : Option ℚ) (random : ℚ) (now : Int)
    (db db₁ db₂ : Store) (result : ThrottleResult)
    (hthrottle : throttle permit meta_ retryAfterMs random now db = .ok (result, db₁))
    (ops : List GovernorOp)
    (hrun : Run (Guarded (stepOf GovernorOp.apply)
      (KeepsCooldown permit.limiterId result.nextPermittedAt)) db₁ ops db₂)
    (options : Options) (shopId : Nat) (operation : OutboundProviderOperation) (owner : String)
    (hkey : options.key shopId operation = permit.limiterId) (later : Int)
    (hclock : (now :: ops.map GovernorOp.now ++ [later]).Pairwise (· ≤ ·))
    (hlater : later < result.nextPermittedAt) :
    grantedPermit (acquire options shopId operation owner later db₂) = none := by
  have hclosed : ClosedUntil result.nextPermittedAt db₂ permit.limiterId := by
    apply hrun.invariant (fun db => ClosedUntil result.nextPermittedAt db permit.limiterId)
    · intro s op t hop hstep hs
      have hle : op.now ≤ later := by
        apply (List.pairwise_append.1 hclock).2.2
        · exact List.mem_cons_of_mem _ (List.mem_map_of_mem hop)
        · exact List.mem_singleton_self _
      rw [hstep.1]
      exact closed_step hstep.2 (by omega) hs
    · exact closed_throttle hthrottle
  rw [← hkey] at hclosed
  exact acquire_of_closed hclosed hlater

/-! ### A sample limiter with two permits -/

def sampleOptions : Options := ⟨"TIKTOK_SHOP", "app", 2, 4, 30000, none, two_le_four⟩

def samplePermit (id : Nat) (owner : String) : Permit :=
  ⟨id, sampleOptions.key 1 .CREATE_CONVERSATION, owner, .CREATE_CONVERSATION⟩

def sampleAcquires : List GovernorOp :=
  [.acquire sampleOptions 1 .CREATE_CONVERSATION "a" 0,
    .acquire sampleOptions 1 .CREATE_CONVERSATION "b" 0]

/-- Two permits are out. The first one reports a throttle of a minute, the second one a
success, and the next `acquire` is admitted long before the minute is over. -/
theorem a_healthy_report_cuts_a_cooldown_short :
    ¬ ∀ (before ops : List GovernorOp) (permit : Permit) (meta_ : ResponseMeta)
        (retryAfterMs : Option ℚ) (random : ℚ) (now : Int) (result : ThrottleResult) (db₁ : Store)
        (options : Options) (shopId : Nat) (operation : OutboundProviderOperation)
        (owner : String) (later : Int),
      throttle permit meta_ retryAfterMs random now
        (before.foldl (fun db op => op.apply db) Store.empty) = .ok (result, db₁) →
      (before.map GovernorOp.now ++ now :: ops.map GovernorOp.now ++ [later]).Pairwise (· ≤ ·) →
      options.key shopId operation = permit.limiterId → later < result.nextPermittedAt →
      grantedPermit (acquire options shopId operation owner later
        (ops.foldl (fun db op => op.apply db) db₁)) = none := by
  intro h
  have hthrottle : ∃ db₁, throttle (samplePermit 0 "a") {} (some 60000) 0 100
      (sampleAcquires.foldl (fun db op => op.apply db) Store.empty) =
        .ok (⟨60000, 1, 60100⟩, db₁) ∧
      grantedPermit (acquire sampleOptions 1 .CREATE_CONVERSATION "c" 300
        ([.healthy (samplePermit 1 "b") "ACCEPTED" {} 200].foldl (fun db op => GovernorOp.apply op db)
          db₁)) = some (samplePermit 2 "c") := by
    refine ⟨_, by with_unfolding_all rfl, ?_⟩
    with_unfolding_all rfl
  obtain ⟨db₁, h1, h2⟩ := hthrottle
  rw [h _ _ _ _ _ _ _ _ _ _ _ _ _ _ h1 (by decide) rfl (by decide)] at h2
  cases h2

/-- With a release in place of the success, the cooldown holds. -/
theorem a_release_leaves_the_cooldown_alone :
    ∃ db₁, throttle (samplePermit 0 "a") {} (some 60000) 0 100
        (sampleAcquires.foldl (fun db op => op.apply db) Store.empty) =
          .ok (⟨60000, 1, 60100⟩, db₁) ∧
      grantedPermit (acquire sampleOptions 1 .CREATE_CONVERSATION "c" 300
        ((GovernorOp.release (samplePermit 1 "b") "UNKNOWN" {} 200).apply db₁)) = none := by
  have hthrottle : ∃ db₁, throttle (samplePermit 0 "a") {} (some 60000) 0 100
      (sampleAcquires.foldl (fun db op => op.apply db) Store.empty) =
        .ok (⟨60000, 1, 60100⟩, db₁) := ⟨_, by with_unfolding_all rfl⟩
  obtain ⟨db₁, h1⟩ := hthrottle
  refine ⟨db₁, h1, ?_⟩
  exact a_cooldown_holds_without_a_healthy_report _ _ _ _ _ _ _ _ _ h1
    [.release (samplePermit 1 "b") "UNKNOWN" {} 200] (Run.cons ⟨rfl, trivial⟩ (Run.nil _))
    sampleOptions 1 .CREATE_CONVERSATION "c" rfl 300 (by decide) (by decide)

/-! ## A quota block -/

def Blocked (db : Store) (key : LimiterKey) : Prop :=
  ∃ l, db.limiters key = some l ∧ l.state = .QUOTA_BLOCKED

/-- Settlements of other permits that write `state` from their own view. -/
def Op.OverwritesState (key : LimiterKey) : Op → Prop
  | governor (.healthy permit _ _ _) => permit.limiterId = key
  | governor (.throttle permit _ _ _ _) => permit.limiterId = key
  | governor (.transientFailure permit _ _ _) => permit.limiterId = key
  | _ => False

/-- In every state of the run the limiter is blocked and refuses every `acquire`. -/
def StaysBlocked (key : LimiterKey) (db : Store) (ops : List Op) : Prop :=
  ∀ before after, ops = before ++ after →
    Blocked (runOps before db) key ∧
    ∀ options shopId operation owner now, options.key shopId operation = key →
      grantedPermit (acquire options shopId operation owner now (runOps before db)) = none

theorem closed_of_blocked {db : Store} {key : LimiterKey} (h : Blocked db key) (until_ : Int) :
    ClosedUntil until_ db key := by
  obtain ⟨l, hl, hq⟩ := h
  exact ⟨l, hl, Or.inl hq⟩

theorem blocked_acquire {options : Options} {shopId : Nat} {operation : OutboundProviderOperation}
    {owner : String} {now : Int} {db : Store} {key : LimiterKey} (h : Blocked db key) :
    Blocked ((GovernorOp.acquire options shopId operation owner now).apply db) key := by
  by_cases hkey : key = options.key shopId operation
  · subst hkey
    have hnone : grantedPermit (acquire options shopId operation owner now db) = none :=
      acquire_of_closed (closed_of_blocked h (now + 1)) (Int.lt_succ now)
    obtain ⟨l, hl, hq⟩ := h
    have hseen : (seenLimiter options shopId operation db).state = .QUOTA_BLOCKED :=
      (seen_of_some hl).1.trans hq
    rcases apply_acquire_cases options shopId operation owner now db with
      ⟨_, _, h', _⟩ | ⟨_, hsame | hr⟩
    · rw [hnone] at h'
      cases h'
    · rw [hsame]
      exact ⟨l, hl, hq⟩
    · rcases hr.limiter with h' | ⟨_, hne, _⟩
      · exact ⟨_, h', hseen⟩
      · exact absurd hseen hne
  · unfold Blocked
    rcases apply_acquire_cases options shopId operation owner now db with
      ⟨_, _, _, hg⟩ | ⟨_, hsame | hr⟩
    · rw [hg.others key hkey]
      exact h
    · rw [hsame]
      exact h
    · rw [hr.others key hkey]
      exact h

theorem blocked_settlement {op : GovernorOp} {db : Store} {key : LimiterKey}
    {permit : Permit} {f : Limiter → Limiter} (hop : op.settlement = some (permit, f))
    (h : Blocked db key)
    (hf : key = permit.limiterId → ∀ l, l.state = .QUOTA_BLOCKED → (f l).state = .QUOTA_BLOCKED) :
    Blocked (op.apply db) key := by
  obtain ⟨l, hl, hq⟩ := h
  unfold Blocked
  rw [settlement_limiters op db hop key, hl]
  by_cases hkey : key = permit.limiterId
  · rw [if_pos hkey]
    exact ⟨f l, rfl, hf hkey l hq⟩
  · rw [if_neg hkey]
    exact ⟨l, rfl, hq⟩

theorem blocked_step {op : Op} {db : Store} {key : LimiterKey}
    (hover : ¬ op.OverwritesState key) (hrec : op ≠ .quotaRecovery key.shopId)
    (h : Blocked db key) : Blocked (op.apply db) key := by
  cases op with
  | governor op =>
    cases op with
    | acquire options shopId operation owner now => exact blocked_acquire h
    | healthy permit outcome meta_ now =>
      exact blocked_settlement rfl h (fun hkey => absurd hkey.symm hover)
    | throttle permit meta_ retryAfterMs random now =>
      exact blocked_settlement rfl h (fun hkey => absurd hkey.symm hover)
    | transientFailure permit meta_ random now =>
      exact blocked_settlement rfl h (fun hkey => absurd hkey.symm hover)
    | quotaBlocked permit code detail meta_ now =>
      exact blocked_settlement rfl h (fun _ _ _ => rfl)
    | release permit outcome meta_ now =>
      exact blocked_settlement rfl h (fun _ _ hq => hq)
  | heartbeatReset appScope =>
    obtain ⟨l, hl, hq⟩ := h
    refine ⟨heartbeatLimiter appScope key l, by simp [Op.apply, heartbeatReset, hl], ?_⟩
    unfold heartbeatLimiter
    split <;> exact hq
  | quotaRecovery shopId =>
    obtain ⟨l, hl, hq⟩ := h
    have hne : key.shopId ≠ shopId := fun h => hrec (by rw [h])
    refine ⟨recoveryLimiter shopId key l, by simp [Op.apply, quotaRecovery, hl], ?_⟩
    simp [recoveryLimiter, hne, hq]

theorem healthyLimiter_state (l : Limiter) (meta_ : ResponseMeta) (now : Int) :
    (healthyLimiter l meta_ now).state ≠ .QUOTA_BLOCKED := by
  unfold healthyLimiter
  dsimp only
  split
  · simp
  · split <;> simp

theorem not_blocked_of_overwrite {op : Op} {db : Store} {key : LimiterKey}
    (hover : op.OverwritesState key) : ¬ Blocked (op.apply db) key := by
  rintro ⟨l, hl, hq⟩
  cases op with
  | governor op =>
    cases op with
    | healthy permit outcome meta_ now =>
      rw [Op.apply, settlement_limiters _ db rfl key, if_pos hover.symm] at hl
      obtain ⟨l', _, rfl⟩ := Option.map_eq_some_iff.1 hl
      exact healthyLimiter_state l' meta_ now hq
    | throttle permit meta_ retryAfterMs random now =>
      rw [Op.apply, settlement_limiters _ db rfl key, if_pos hover.symm] at hl
      obtain ⟨l', _, rfl⟩ := Option.map_eq_some_iff.1 hl
      cases hq
    | transientFailure permit meta_ random now =>
      rw [Op.apply, settlement_limiters _ db rfl key, if_pos hover.symm] at hl
      obtain ⟨l', _, rfl⟩ := Option.map_eq_some_iff.1 hl
      cases hq
    | acquire | quotaBlocked | release => exact hover
  | heartbeatReset | quotaRecovery => exact hover

theorem blocked_quotaBlocked {permit : Permit} {code detail : String} {meta_ : ResponseMeta}
    {now : Int} {db db' : Store}
    (h : quotaBlocked permit code detail meta_ now db = .ok db') :
    Blocked db' permit.limiterId := by
  unfold quotaBlocked at h
  cases hl : db.limiters permit.limiterId with
  | none => simp [hl] at h
  | some l =>
    simp only [hl, Except.ok.injEq] at h
    subst h
    exact ⟨quotaBlockedLimiter l code detail meta_ now, by simp, rfl⟩

/-- A quota block lasts exactly as long as no success, throttle or transient failure of
another permit of the limiter is settled. -/
theorem a_quota_block_lasts_until_a_settlement_overwrites_it
    (permit : Permit) (code detail : String) (meta_ : ResponseMeta) (now : Int) (db db₁ : Store)
    (hblocked : quotaBlocked permit code detail meta_ now db = .ok db₁) (ops : List Op)
    (hrecovery : ∀ op ∈ ops, op ≠ .quotaRecovery permit.limiterId.shopId) :
    StaysBlocked permit.limiterId db₁ ops ↔
      ∀ op ∈ ops, ¬ op.OverwritesState permit.limiterId := by
  constructor
  · intro h op hop hover
    obtain ⟨before, after, rfl⟩ := List.append_of_mem hop
    have hblocked := (h (before ++ [op]) after (by simp)).1
    rw [runOps_append] at hblocked
    exact not_blocked_of_overwrite hover hblocked
  · intro h before after hops
    have hb : Blocked (runOps before db₁) permit.limiterId := by
      apply (run_runOps before db₁).invariant (fun db => Blocked db permit.limiterId)
      · intro s op t hop hstep hs
        have hmem : op ∈ ops := by
          rw [hops]
          exact List.mem_append_left _ hop
        rw [hstep]
        exact blocked_step (h op hmem) (hrecovery op hmem) hs
      · exact blocked_quotaBlocked hblocked
    refine ⟨hb, ?_⟩
    intro options shopId operation owner later hkey
    rw [← hkey] at hb
    exact acquire_of_closed (closed_of_blocked hb (later + 1)) (Int.lt_succ later)

/-- The first of two permits reports the exhausted quota, the second one a success that was
on its way, and the next `acquire` is admitted. -/
theorem a_healthy_report_lifts_a_quota_block :
    ¬ ∀ (before ops : List Op) (permit : Permit) (code detail : String) (meta_ : ResponseMeta)
        (now : Int) (db₁ : Store),
      quotaBlocked permit code detail meta_ now (runOps before Store.empty) = .ok db₁ →
      (∀ op ∈ ops, op ≠ .quotaRecovery permit.limiterId.shopId) →
      StaysBlocked permit.limiterId db₁ ops := by
  intro h
  have hblocked : ∃ db₁, quotaBlocked (samplePermit 0 "a") "36009005" "" {} 100
      (runOps (sampleAcquires.map Op.governor) Store.empty) = .ok db₁ ∧
      grantedPermit (acquire sampleOptions 1 .CREATE_CONVERSATION "c" 300
        (runOps [.governor (.healthy (samplePermit 1 "b") "ACCEPTED" {} 200)] db₁)) =
          some (samplePermit 2 "c") := by
    refine ⟨_, rfl, ?_⟩
    rfl
  obtain ⟨db₁, h1, h2⟩ := hblocked
  have := (h _ [.governor (.healthy (samplePermit 1 "b") "ACCEPTED" {} 200)] _ _ _ _ _ _ h1
    (by simp) _ [] (List.append_nil _).symm).2 sampleOptions 1 .CREATE_CONVERSATION "c" 300 rfl
  rw [this] at h2
  cases h2

/-- A release of the second permit leaves the block alone. -/
theorem a_release_leaves_the_quota_block_alone :
    ∃ db₁, quotaBlocked (samplePermit 0 "a") "36009005" "" {} 100
        (runOps (sampleAcquires.map Op.governor) Store.empty) = .ok db₁ ∧
      StaysBlocked (samplePermit 0 "a").limiterId db₁
        [.governor (.release (samplePermit 1 "b") "UNKNOWN" {} 200), .heartbeatReset "app"] := by
  have hblocked : ∃ db₁, quotaBlocked (samplePermit 0 "a") "36009005" "" {} 100
      (runOps (sampleAcquires.map Op.governor) Store.empty) = .ok db₁ := ⟨_, rfl⟩
  obtain ⟨db₁, h1⟩ := hblocked
  refine ⟨db₁, h1, ?_⟩
  apply (a_quota_block_lasts_until_a_settlement_overwrites_it _ _ _ _ _ _ _ h1 _ (by simp)).2
  simp [Op.OverwritesState]

end tiktok_outreach.outbound_throttle
