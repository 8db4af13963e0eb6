-- The capacity of a limiter. Whatever the settlements, the clamps and the two
-- resets do, the effective concurrency stays between one and the technical
-- maximum, and no `acquire` leaves more permits than that.
import TiktokOutreach.GovernorRuns

open runs

namespace tiktok_outreach.outbound_throttle

/-- All workers run with the same bounds. -/
def Op.Configured (initialConcurrency technicalMaxConcurrency : Int) : Op → Prop
  | governor (.acquire options _ _ _ _) =>
    options.initialConcurrency = initialConcurrency ∧
      options.technicalMaxConcurrency = technicalMaxConcurrency
  | _ => True

/-- The technical maximum of an operation. -/
def maxOf (technicalMaxConcurrency : Int) : OutboundProviderOperation → Int
  | .SEND_MESSAGE => 1
  | .CREATE_CONVERSATION => technicalMaxConcurrency

/-! ## The bounds of one limiter -/

structure Bounded (technicalMax : Int) (l : Limiter) : Prop where
  technical : l.technicalMaxConcurrency = technicalMax
  one_le : 1 ≤ l.effectiveConcurrency
  le_max : l.effectiveConcurrency ≤ technicalMax

theorem bounded_prepared_none {initial technicalMax : Int} (h1 : 1 ≤ initial)
    (h2 : initial ≤ technicalMax) : Bounded technicalMax (preparedLimiter none initial technicalMax) := by
  unfold preparedLimiter
  dsimp only
  rw [if_neg (by omega)]
  exact ⟨rfl, h1, h2⟩

theorem bounded_prepared_some {l : Limiter} {initial technicalMax : Int}
    (h : Bounded technicalMax l) :
    Bounded technicalMax (preparedLimiter (some l) initial technicalMax) := by
  unfold preparedLimiter
  dsimp only
  rw [if_neg (not_lt.2 h.le_max)]
  exact ⟨rfl, h.one_le, h.le_max⟩

theorem recovered_effective (l : Limiter) :
    (recoveredLimiter l).effectiveConcurrency = l.effectiveConcurrency ∧
    (recoveredLimiter l).technicalMaxConcurrency = l.technicalMaxConcurrency := by
  unfold recoveredLimiter
  split <;> exact ⟨rfl, rfl⟩

theorem bounded_recovered {l : Limiter} {technicalMax : Int} (h : Bounded technicalMax l) :
    Bounded technicalMax (recoveredLimiter l) := by
  obtain ⟨h1, h2⟩ := recovered_effective l
  refine ⟨by rw [h2]; exact h.technical, by rw [h1]; exact h.one_le, by rw [h1]; exact h.le_max⟩

theorem decreased_bounds {current technicalMax : Int} (h1 : 1 ≤ current)
    (h2 : current ≤ technicalMax) :
    1 ≤ decreasedConcurrency current ∧ decreasedConcurrency current ≤ technicalMax := by
  unfold decreasedConcurrency
  omega

theorem increased_bounds {current technicalMax : Int} (count : Int) (h1 : 1 ≤ current)
    (h2 : current ≤ technicalMax) :
    1 ≤ (increasedConcurrency current technicalMax count).1 ∧
      (increasedConcurrency current technicalMax count).1 ≤ technicalMax := by
  unfold increasedConcurrency
  dsimp only
  split
  · dsimp only
    omega
  · dsimp only
    omega

theorem bounded_settlement {op : GovernorOp} {permit : Permit} {f : Limiter → Limiter}
    (hop : op.settlement = some (permit, f)) {l : Limiter} {technicalMax : Int}
    (h : Bounded technicalMax l) : Bounded technicalMax (f l) := by
  obtain ⟨htech, hone, hle⟩ := h
  cases op with
  | acquire => simp [GovernorOp.settlement] at hop
  | healthy =>
    simp only [GovernorOp.settlement, Option.some.injEq, Prod.mk.injEq] at hop
    obtain ⟨_, rfl⟩ := hop
    obtain ⟨h1, h2⟩ := increased_bounds l.healthySuccessCount hone hle
    rw [← htech] at h1 h2
    exact ⟨htech, h1, by rw [← htech]; exact h2⟩
  | throttle =>
    simp only [GovernorOp.settlement, Option.some.injEq, Prod.mk.injEq] at hop
    obtain ⟨_, rfl⟩ := hop
    obtain ⟨h1, h2⟩ := decreased_bounds hone hle
    exact ⟨htech, h1, h2⟩
  | transientFailure | quotaBlocked | release =>
    simp only [GovernorOp.settlement, Option.some.injEq, Prod.mk.injEq] at hop
    obtain ⟨_, rfl⟩ := hop
    exact ⟨htech, hone, hle⟩

theorem bounded_heartbeat {appScope : String} {key : LimiterKey} {l : Limiter}
    {technicalMaxConcurrency : Int} (h : Bounded (maxOf technicalMaxConcurrency key.operation) l) :
    Bounded (maxOf technicalMaxConcurrency key.operation) (heartbeatLimiter appScope key l) := by
  unfold heartbeatLimiter
  split
  · rename_i hreset
    rw [hreset.2.1]
    exact ⟨rfl, le_refl 1, le_refl 1⟩
  · exact h

theorem bounded_recovery {shopId : Nat} {key : LimiterKey} {l : Limiter} {technicalMax : Int}
    (h : Bounded technicalMax l) : Bounded technicalMax (recoveryLimiter shopId key l) := by
  unfold recoveryLimiter
  split
  · exact ⟨h.technical, le_refl 1, h.one_le.trans h.le_max⟩
  · exact h

/-! ## The bounds in every reachable state -/

def AllBounded (technicalMaxConcurrency : Int) (db : Store) : Prop :=
  ∀ key l, db.limiters key = some l → Bounded (maxOf technicalMaxConcurrency key.operation) l

theorem technicalMax_eq {options : Options} {technicalMaxConcurrency : Int}
    (h : options.technicalMaxConcurrency = technicalMaxConcurrency)
    (operation : OutboundProviderOperation) :
    options.technicalMax operation = maxOf technicalMaxConcurrency operation := by
  unfold Options.technicalMax maxOf
  cases operation with
  | SEND_MESSAGE => rfl
  | CREATE_CONVERSATION => exact h

theorem bounded_seen {initialConcurrency technicalMaxConcurrency : Int}
    (h1 : 1 ≤ initialConcurrency) (h2 : initialConcurrency ≤ technicalMaxConcurrency)
    {options : Options} {shopId : Nat} {operation : OutboundProviderOperation}
    {db : Store} (hinitial : options.initialConcurrency = initialConcurrency)
    (hmax : options.technicalMaxConcurrency = technicalMaxConcurrency)
    (hdb : AllBounded technicalMaxConcurrency db) :
    Bounded (maxOf technicalMaxConcurrency operation) (seenLimiter options shopId operation db) := by
  unfold seenLimiter
  rw [technicalMax_eq hmax]
  cases hl : db.limiters (options.key shopId operation) with
  | some l => exact bounded_prepared_some (hdb _ l hl)
  | none =>
    apply bounded_prepared_none
    · unfold Options.initial
      split <;> omega
    · unfold Options.initial maxOf
      cases operation with
      | SEND_MESSAGE => exact le_refl 1
      | CREATE_CONVERSATION =>
        dsimp only
        rw [if_neg (by decide)]
        omega

theorem allBounded_settlement {op : GovernorOp} {permit : Permit} {f : Limiter → Limiter}
    (hop : op.settlement = some (permit, f)) {db : Store} {technicalMaxConcurrency : Int}
    (hdb : AllBounded technicalMaxConcurrency db) :
    AllBounded technicalMaxConcurrency (op.apply db) := by
  intro key l hl
  rw [settlement_limiters op db hop key] at hl
  split at hl
  · obtain ⟨l', hl', rfl⟩ := Option.map_eq_some_iff.1 hl
    exact bounded_settlement hop (hdb key l' hl')
  · exact hdb key l hl

theorem allBounded_step {initialConcurrency technicalMaxConcurrency : Int}
    (h1 : 1 ≤ initialConcurrency) (h2 : initialConcurrency ≤ technicalMaxConcurrency)
    {op : Op} {db : Store}
    (hop : op.Configured initialConcurrency technicalMaxConcurrency)
    (hdb : AllBounded technicalMaxConcurrency db) :
    AllBounded technicalMaxConcurrency (op.apply db) := by
  intro key l hl
  cases op with
  | governor op =>
    cases op with
    | acquire options shopId operation owner now =>
      have hseen : Bounded (maxOf technicalMaxConcurrency operation)
          (seenLimiter options shopId operation db) := bounded_seen h1 h2 hop.1 hop.2 hdb
      rcases apply_acquire_cases options shopId operation owner now db with
        ⟨permit, n, _, hg⟩ | ⟨_, hsame | hr⟩
      · by_cases hk : key = options.key shopId operation
        · subst hk
          rw [Op.apply, hg.limiter] at hl
          obtain ⟨t1, t2, t3⟩ := bounded_recovered hseen
          cases hl
          exact ⟨t1, t2, t3⟩
        · rw [Op.apply, hg.others key hk] at hl
          exact hdb key l hl
      · rw [Op.apply, hsame] at hl
        exact hdb key l hl
      · by_cases hk : key = options.key shopId operation
        · subst hk
          rcases hr.limiter with h | ⟨_, _, h⟩
          · rw [Op.apply, h] at hl
            cases hl
            exact hseen
          · rw [Op.apply, h] at hl
            cases hl
            exact bounded_recovered hseen
        · rw [Op.apply, hr.others key hk] at hl
          exact hdb key l hl
    | healthy | throttle | transientFailure | quotaBlocked | release =>
      exact allBounded_settlement rfl hdb key l hl
  | heartbeatReset appScope =>
    obtain ⟨l', hl', rfl⟩ := Option.map_eq_some_iff.1 hl
    exact bounded_heartbeat (hdb key l' hl')
  | quotaRecovery shopId =>
    obtain ⟨l', hl', rfl⟩ := Option.map_eq_some_iff.1 hl
    exact bounded_recovery (hdb key l' hl')

/-! ## The permits -/

/-- Each permit has an id of its own, older than the next fresh one. -/
structure FreshIds (db : Store) : Prop where
  nodup : (db.permits.map (·.id)).Nodup
  fresh : ∀ p ∈ db.permits, p.id < db.nextId

theorem freshIds_sublist {db db' : Store} (h : FreshIds db)
    (hsub : db'.permits.Sublist db.permits) (hnext : db'.nextId = db.nextId) : FreshIds db' := by
  refine ⟨h.nodup.sublist (hsub.map _), ?_⟩
  intro p hp
  rw [hnext]
  exact h.fresh p (hsub.subset hp)

theorem purge_sublist (db : Store) (key : LimiterKey) (now : Int) :
    (db.deleteExpiredPermits key now).permits.Sublist db.permits := List.filter_sublist

theorem settlement_sublist {op : GovernorOp} {db : Store} {permit : Permit}
    {f : Limiter → Limiter} (h : op.settlement = some (permit, f)) :
    (op.apply db).permits.Sublist db.permits := by
  rcases settlement_permits op db h with hp | hp
  · rw [hp]
  · rw [hp]
    exact List.filter_sublist

theorem freshIds_granted {options : Options} {shopId : Nat}
    {operation : OutboundProviderOperation} {owner : String} {now : Int} {db db' : Store}
    {permit : Permit} {n : Int}
    (hg : Granted options shopId operation owner now db permit n db') (h : FreshIds db) :
    FreshIds db' := by
  have hpurged : FreshIds (db.deleteExpiredPermits (options.key shopId operation) now) :=
    freshIds_sublist h (purge_sublist _ _ _) rfl
  refine ⟨?_, ?_⟩
  · rw [hg.permits, List.map_append, List.nodup_append]
    refine ⟨hpurged.nodup, by simp, ?_⟩
    intro a ha b hb
    obtain ⟨p, hp, rfl⟩ := List.mem_map.1 ha
    simp only [List.map_cons, List.map_nil, List.mem_singleton] at hb
    have : p.id < db.nextId := hpurged.fresh p hp
    omega
  · intro p hp
    rw [hg.permits] at hp
    rw [hg.nextId]
    rcases List.mem_append.1 hp with h' | h'
    · have : p.id < db.nextId := hpurged.fresh p h'
      omega
    · simp only [List.mem_singleton] at h'
      rw [h']
      exact Nat.lt_succ_self _

theorem freshIds_step {op : Op} {db : Store} (h : FreshIds db) : FreshIds (op.apply db) := by
  cases op with
  | governor op =>
    cases op with
    | acquire options shopId operation owner now =>
      rcases apply_acquire_cases options shopId operation owner now db with
        ⟨permit, n, _, hg⟩ | ⟨_, hsame | hr⟩
      · exact freshIds_granted hg h
      · rw [Op.apply, hsame]
        exact h
      · have hsub := purge_sublist db (options.key shopId operation) now
        rw [← hr.permits] at hsub
        exact freshIds_sublist h hsub hr.nextId
    | healthy | throttle | transientFailure | quotaBlocked | release =>
      exact freshIds_sublist h (settlement_sublist rfl) (settlement_nextId _ db rfl)
  | heartbeatReset | quotaRecovery => exact freshIds_sublist h (List.Sublist.refl _) rfl

/-- With ids of their own, at most the one permit goes when a settlement gives it back. -/
theorem deletePermit_erases {db : Store} (h : FreshIds db) (permit : Permit) :
    (db.deletePermit permit).permits = db.permits ∨
    ∃ row ∈ db.permits, row.id = permit.id ∧ row.owner = permit.owner ∧
      (db.deletePermit permit).permits = db.permits.erase row := by
  unfold Store.deletePermit
  dsimp only
  by_cases hrow : ∃ row ∈ db.permits, row.id = permit.id ∧ row.owner = permit.owner
  · obtain ⟨row, hmem, hid, howner⟩ := hrow
    refine Or.inr ⟨row, hmem, hid, howner, ?_⟩
    rw [(List.Nodup.of_map _ h.nodup).erase_eq_filter]
    apply List.filter_congr
    intro p hp
    have hiff : (p.id = permit.id ∧ p.owner = permit.owner) ↔ p = row := by
      constructor
      · rintro ⟨h1, _⟩
        exact List.inj_on_of_nodup_map h.nodup hp hmem (h1.trans hid.symm)
      · rintro rfl
        exact ⟨hid, howner⟩
    by_cases hpr : p = row
    · simp [hpr, hid, howner]
    · simp [hiff, hpr, bne_iff_ne.2 hpr]
  · left
    apply List.filter_eq_self.2
    intro p hp
    exact decide_eq_true (fun h => hrow ⟨p, hp, h⟩)

/-! ## The laws -/

/-- The permits of the limiter after an `acquire` that was granted: those that have not
expired, and one new one. -/
theorem granted_permitsOf {options : Options} {shopId : Nat}
    {operation : OutboundProviderOperation} {owner : String} {now : Int} {db db' : Store}
    {permit : Permit} {n : Int}
    (hg : Granted options shopId operation owner now db permit n db') :
    ∃ row : PermitRow, row.id = permit.id ∧ row.owner = owner ∧
      db'.permits =
        (db.deleteExpiredPermits (options.key shopId operation) now).permits ++ [row] ∧
      ∃ l, db'.limiters (options.key shopId operation) = some l ∧
        (db'.permitsOf (options.key shopId operation)).length ≤ l.effectiveConcurrency := by
  refine ⟨_, ?_, ?_, hg.permits, _, hg.limiter, ?_⟩
  · rw [hg.permit_eq]
  · rfl
  · have hroom := hg.room
    unfold Store.permitsOf at *
    rw [hg.permits, List.filter_append]
    simp only [List.filter_cons, decide_true, if_true, List.filter_nil, List.length_append,
      List.length_cons, List.length_nil]
    push_cast
    omega

theorem the_limiter_keeps_its_capacity {initialConcurrency technicalMaxConcurrency : Int}
    (h1 : 1 ≤ initialConcurrency) (h2 : initialConcurrency ≤ technicalMaxConcurrency)
    (ops : List Op) (hops : ∀ op ∈ ops, op.Configured initialConcurrency technicalMaxConcurrency) :
    let db := runOps ops Store.empty
    (∀ key l, db.limiters key = some l →
      1 ≤ l.effectiveConcurrency ∧ l.effectiveConcurrency ≤ l.technicalMaxConcurrency ∧
      (key.operation = .SEND_MESSAGE →
        l.effectiveConcurrency = 1 ∧ l.technicalMaxConcurrency = 1)) ∧
    (∀ options shopId operation owner now permit,
      grantedPermit (acquire options shopId operation owner now db) = some permit →
      let db' := (GovernorOp.acquire options shopId operation owner now).apply db
      let key := options.key shopId operation
      ∃ row : PermitRow, row.id = permit.id ∧ row.owner = owner ∧
        db'.permits = (db.deleteExpiredPermits key now).permits ++ [row] ∧
        ∃ l, db'.limiters key = some l ∧ (db'.permitsOf key).length ≤ l.effectiveConcurrency) ∧
    (∀ op permit f, GovernorOp.settlement op = some (permit, f) →
      (op.apply db).permits = db.permits ∨
      ∃ row ∈ db.permits, row.id = permit.id ∧ row.owner = permit.owner ∧
        (op.apply db).permits = db.permits.erase row) := by
  intro db
  have hbounded : AllBounded technicalMaxConcurrency db := by
    apply (run_runOps ops Store.empty).invariant (AllBounded technicalMaxConcurrency)
    · intro s op t hop hstep hs
      rw [hstep]
      exact allBounded_step h1 h2 (hops op hop) hs
    · intro key l hl
      cases hl
  have hfresh : FreshIds db := by
    apply (run_runOps ops Store.empty).invariant FreshIds
    · intro s op t _ hstep hs
      rw [hstep]
      exact freshIds_step hs
    · exact ⟨List.nodup_nil, by simp [Store.empty]⟩
  refine ⟨?_, ?_, ?_⟩
  · intro key l hl
    obtain ⟨htech, hone, hle⟩ := hbounded key l hl
    refine ⟨hone, by rw [htech]; exact hle, ?_⟩
    intro hsend
    rw [hsend] at htech hle
    exact ⟨le_antisymm hle hone, htech⟩
  · intro options shopId operation owner now permit h
    rcases apply_acquire_cases options shopId operation owner now db with
      ⟨permit', n, h', hg⟩ | ⟨h', _⟩
    · rw [h] at h'
      cases h'
      exact granted_permitsOf hg
    · rw [h] at h'
      cases h'
  · intro op permit f hop
    rcases settlement_permits op db hop with hp | hp
    · exact Or.inl hp
    · rw [hp]
      exact deletePermit_erases hfresh permit

/-- The limit of two workers that share a limiter, after a throttle and a reset. -/
theorem two_workers_keep_the_capacity :
    let options : Options := ⟨"TIKTOK_SHOP", "app", 2, 4, 30000, none, by decide⟩
    let key := options.key 1 .CREATE_CONVERSATION
    let db := runOps [.governor (.acquire options 1 .CREATE_CONVERSATION "a" 0),
      .governor (.throttle ⟨0, key, "a", .CREATE_CONVERSATION⟩ {} none 0 5),
      .heartbeatReset "app", .quotaRecovery 1] Store.empty
    ∀ key l, db.limiters key = some l →
      1 ≤ l.effectiveConcurrency ∧ l.effectiveConcurrency ≤ l.technicalMaxConcurrency := by
  intro options key db
  have h := @the_limiter_keeps_its_capacity 2 4 (by decide) (by decide)
    [.governor (.acquire options 1 .CREATE_CONVERSATION "a" 0),
      .governor (.throttle ⟨0, key, "a", .CREATE_CONVERSATION⟩ {} none 0 5),
      .heartbeatReset "app", .quotaRecovery 1]
    (by simp [Op.Configured, options])
  intro key' l hl
  exact ⟨(h.1 key' l hl).1, (h.1 key' l hl).2.1⟩

end tiktok_outreach.outbound_throttle
