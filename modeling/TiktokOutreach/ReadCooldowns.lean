-- The cooldowns of the reads: a stored cooldown holds unless `acquire` has read the row
-- before it, a success clears it too early, or a shorter one takes its place.
import TiktokOutreach.ReadLeases

open runs executions tables tiktok_outreach.read_governor tiktok_outreach.read_system
  tiktok_outreach.read_leases

namespace tiktok_outreach.read_cooldowns

/-! ## What the events say -/

/-- The next permitted time of a row. -/
def cooldown (w : World) (key : RowKey) : Option Int :=
  (w.rows.get key).bind (·.nextPermittedAt)

/-- A lease that is granted for an operation after a cooldown of it is not granted too early. -/
def Later (event event' : Event) : Prop :=
  ∀ (lease : TikTokReadLease) (nextPermittedAt now : Int),
    event = .cooled lease.operationKey nextPermittedAt → event' = .granted lease now →
      nextPermittedAt ≤ now

/-- The cooldowns are honoured. -/
def Honoured (w : World) : Prop := w.events.Pairwise Later

/-- A lease of the group was granted when the time had come. -/
def passed (w : World) (lease : TikTokReadLease) (nextPermittedAt : Int) : Bool :=
  (groupGrants lease.groupKey w).any (fun grant => nextPermittedAt ≤ grant.2)

/-- The steps under which the cooldowns are honoured: when a claim is granted, the row of the
operation has the cooldown that `acquire` read, or none; what a success clears or a throttled
request replaces by an earlier time is a cooldown that has passed. -/
def orderly (w : World) : SystemLabel → Bool
  | .run _ (.claim lease now permitted) _ =>
    !(w.rows.get lease.groupKey).any (usable now) ||
      (cooldown w lease.operationKey).all (fun time => permitted = some time)
  | .run _ (.clearCooldown lease _) _ => (cooldown w lease.operationKey).all (passed w lease)
  | .run _ (.storeCooldown lease _ nextPermittedAt _ _) _ =>
    (cooldown w lease.operationKey).all (fun time => time ≤ nextPermittedAt || passed w lease time)
  | _ => true

/-! ## What a call does to a cooldown -/

section Executed

variable {options : GovernorOptions} {i : Nat} {w w' : World} {c : Call}
  {res : Except Failure c.Result}

theorem cooldown_of_exec (h : Exec options i w c res w') (key : RowKey) :
    cooldown w' key = cooldown w key ∨
      (∃ lease requestId, c = .clearCooldown lease requestId ∧ lease.operationKey = key) ∨
      ∃ lease count nextPermittedAt retryAfterMs requestId,
        c = .storeCooldown lease count nextPermittedAt retryAfterMs requestId ∧
          lease.operationKey = key ∧ cooldown w' key = some nextPermittedAt := by
  unfold cooldown
  rcases rowStep_of_exec h key with hsame | ⟨hnone, hempty⟩ | ⟨row, row', hrow, hrow', hchange⟩
  · rw [hsame]
    exact Or.inl rfl
  · rw [hnone, hempty]
    exact Or.inl rfl
  · rw [hrow, hrow']
    cases hchange with
    | cleared lease requestId hkey => exact Or.inr (Or.inl ⟨lease, requestId, rfl, hkey⟩)
    | cooled lease count nextPermittedAt retryAfterMs requestId hkey =>
      exact Or.inr (Or.inr ⟨lease, count, nextPermittedAt, retryAfterMs, requestId, rfl, hkey, rfl⟩)
    | _ => exact Or.inl rfl

/-- What a call notes. -/
inductive Notes (options : GovernorOptions) (w w' : World) : Call → Event → Prop
  | granted (lease : TikTokReadLease) (now : Int) (permitted : Option Int)
      (h : Grants options w w' lease now) :
      Notes options w w' (.claim lease now permitted) (.granted lease now)
  | sent (lease : TikTokReadLease) (startedAt : Int) :
      Notes options w w' (.send lease startedAt) (.sent lease)
  | cooled (lease : TikTokReadLease) (count : Nat) (nextPermittedAt : Int)
      (retryAfterMs : Option Int) (requestId : Option String)
      (h : cooldown w' lease.operationKey = some nextPermittedAt) :
      Notes options w w' (.storeCooldown lease count nextPermittedAt retryAfterMs requestId)
        (.cooled lease.operationKey nextPermittedAt)

theorem notes_of_performs {a : c.Result} (h : Performs options i w c a w') :
    w'.events = w.events ∨ ∃ event, w'.events = w.events ++ [event] ∧
      Notes options w w' c event := by
  cases h with
  | upsert key =>
    refine Or.inl ?_
    unfold World.upsert
    split <;> rfl
  | claim lease now permitted =>
    rcases grants_of_claim options w lease now with ⟨hsame, _⟩ | hgrants
    · rw [hsame]
      exact Or.inl rfl
    · refine Or.inr ⟨.granted lease now, ?_, .granted lease now permitted hgrants⟩
      obtain ⟨row, hrow, husable, _⟩ := hgrants.taken
      simp [World.claim, hrow, husable, World.note]
  | storeCooldown lease count nextPermittedAt retryAfterMs requestId =>
    cases hrow : w.rows.get lease.operationKey with
    | none => exact Or.inl (by simp [World.storeCooldown, hrow])
    | some row =>
      refine Or.inr ⟨_, ?_, .cooled lease count nextPermittedAt retryAfterMs requestId ?_⟩
      · simp [World.storeCooldown, hrow, World.note]
      · simp [cooldown, World.storeCooldown, hrow, World.note]
  | send lease startedAt => exact Or.inr ⟨_, rfl, .sent lease startedAt⟩
  | _ => exact Or.inl rfl

theorem notes_of_exec (h : Exec options i w c res w') :
    w'.events = w.events ∨ ∃ event, w'.events = w.events ++ [event] ∧
      Notes options w w' c event := by
  rcases h.effect with ⟨a, w1, clock, hperforms, _, rfl, _⟩ | ⟨clock, _, rfl, _⟩
  · rcases notes_of_performs hperforms with hsame | ⟨event, hevents, hnotes⟩
    · exact Or.inl hsame
    · refine Or.inr ⟨event, hevents, ?_⟩
      cases hnotes with
      | granted lease now permitted hgrants =>
        exact .granted lease now permitted ⟨hgrants.taken, hgrants.noted⟩
      | sent lease startedAt => exact .sent lease startedAt
      | cooled lease count nextPermittedAt retryAfterMs requestId hstored =>
        exact .cooled lease count nextPermittedAt retryAfterMs requestId hstored
  · exact Or.inl rfl

theorem passed_iff {lease : TikTokReadLease} {time : Int} :
    passed w lease time = true ↔
      ∃ grant ∈ grants w, grant.1.groupKey = lease.groupKey ∧ time ≤ grant.2 := by
  unfold passed
  rw [List.any_eq_true]
  constructor
  · rintro ⟨grant, hmem, hle⟩
    obtain ⟨hgrant, hkey⟩ := mem_groupGrants.1 hmem
    exact ⟨grant, hgrant, hkey, of_decide_eq_true hle⟩
  · rintro ⟨grant, hgrant, hkey, hle⟩
    exact ⟨grant, mem_groupGrants.2 ⟨hgrant, hkey⟩, decide_eq_true hle⟩

theorem passed_mono (h : Exec options i w c res w') {lease : TikTokReadLease} {time : Int}
    (hpassed : passed w lease time = true) : passed w' lease time = true := by
  obtain ⟨grant, hgrant, hkey, hle⟩ := passed_iff.1 hpassed
  exact passed_iff.2 ⟨grant, mem_grants_mono h hgrant, hkey, hle⟩

theorem passed_le {lease : TikTokReadLease} {time time' : Int} (hle : time ≤ time')
    (h : passed w lease time' = true) : passed w lease time = true := by
  obtain ⟨grant, hgrant, hkey, hlater⟩ := passed_iff.1 h
  exact passed_iff.2 ⟨grant, hgrant, hkey, by omega⟩

theorem operationKey_injective {lease lease' : TikTokReadLease}
    (h : lease.operationKey = lease'.operationKey) : lease.groupKey = lease'.groupKey := by
  unfold ReadInput.operationKey at h
  unfold ReadInput.groupKey
  simp only [RowKey.mk.injEq, RowOperation.read.injEq] at h
  rw [h.1, h.2.1, h.2.2]

/-- The same rows and groups have passed. -/
theorem passed_congr {lease lease' : TikTokReadLease}
    (h : lease.operationKey = lease'.operationKey) (time : Int) :
    passed w lease time = passed w lease' time := by
  unfold passed
  rw [operationKey_injective h]

end Executed

/-! ## The invariant -/

/-- A stored cooldown is in the row of its operation, or a longer one is, or it has passed. -/
structure Kept (w : World) : Prop where
  honoured : Honoured w
  stored : ∀ (lease : TikTokReadLease) (time : Int), .cooled lease.operationKey time ∈ w.events →
    (∃ time', cooldown w lease.operationKey = some time' ∧ time ≤ time') ∨
      passed w lease time = true

section Step

variable {options : GovernorOptions} {ls : List SystemLabel} {w w' : World} {i : Nat} {c : Call}
  {res : Except Failure c.Result}

/-- A stored cooldown stays stored. -/
theorem stored_step (hkept : Kept w) (horderly : orderly w (.run i c res) = true)
    (h : Exec options i w c res w') {lease : TikTokReadLease} {time : Int}
    (hmem : .cooled lease.operationKey time ∈ w.events) :
    (∃ time', cooldown w' lease.operationKey = some time' ∧ time ≤ time') ∨
      passed w' lease time = true := by
  rcases hkept.stored lease time hmem with ⟨time', hcooldown, hle⟩ | hpassed
  · rcases cooldown_of_exec h lease.operationKey with
      hsame | ⟨lease', requestId, rfl, hkey⟩ | ⟨lease', count, stored, retryAfterMs, requestId, rfl, hkey, hstored⟩
    · exact Or.inl ⟨time', hsame.trans hcooldown, hle⟩
    · have hpassed : passed w lease' time' = true := by
        simpa [orderly, hkey, hcooldown] using horderly
      rw [passed_congr hkey] at hpassed
      exact Or.inr (passed_mono h (passed_le hle hpassed))
    · have hcases : time' ≤ stored ∨ passed w lease' time' = true := by
        simpa [orderly, hkey, hcooldown] using horderly
      rcases hcases with hlonger | hpassed
      · exact Or.inl ⟨stored, hstored, by omega⟩
      · rw [passed_congr hkey] at hpassed
        exact Or.inr (passed_mono h (passed_le hle hpassed))
  · exact Or.inr (passed_mono h hpassed)

/-- A claim is not granted before the cooldowns of its operation that were stored. -/
theorem le_of_granted (hinv : Inv options ls w) (hkept : Kept w) {lease : TikTokReadLease}
    {now : Int} {permitted : Option Int} {res : Except Failure Nat}
    (hok : okCall (rolesAfter ls i) (.claim lease now permitted))
    (horderly : orderly w (.run i (.claim lease now permitted) res) = true)
    (h : Grants options w w' lease now) {time : Int}
    (hmem : .cooled lease.operationKey time ∈ w.events) : time ≤ now := by
  obtain ⟨row, hrow, husable, _⟩ := h.taken
  rcases hkept.stored lease time hmem with ⟨time', hcooldown, hle⟩ | hpassed
  · have hread : permitted = some time' := by
      simpa [orderly, hrow, husable, hcooldown] using horderly
    have htime := hok.2.2 time' hread
    omega
  · obtain ⟨grant, hgrant, hkey, hle⟩ := passed_iff.1 hpassed
    have hspacing := spacing_of_usable hinv hrow husable grant hgrant hkey
    omega

theorem kept_step (hinv : Inv options ls w) (hkept : Kept w) (hok : okCall (rolesAfter ls i) c)
    (h : Exec options i w c res w') (horderly : orderly w (.run i c res) = true) : Kept w' := by
  rcases notes_of_exec h with hsame | ⟨event, hevents, hnotes⟩
  · refine ⟨?_, ?_⟩
    · unfold Honoured
      rw [hsame]
      exact hkept.honoured
    · intro lease time hmem
      rw [hsame] at hmem
      exact stored_step hkept horderly h hmem
  · refine ⟨?_, ?_⟩
    · unfold Honoured
      rw [hevents, List.pairwise_append]
      refine ⟨hkept.honoured, List.pairwise_singleton _ _, ?_⟩
      intro earlier hmem last hlast lease time now hcooled hgranted
      rw [List.mem_singleton] at hlast
      subst hlast hcooled hgranted
      cases hnotes with
      | granted _ _ permitted hgrants => exact le_of_granted hinv hkept hok horderly hgrants hmem
    · intro lease time hmem
      rw [hevents, List.mem_append, List.mem_singleton] at hmem
      rcases hmem with hmem | hlast
      · exact stored_step hkept horderly h hmem
      · subst hlast
        generalize hkey : lease.operationKey = key at hnotes ⊢
        cases hnotes with
        | cooled lease' count _ retryAfterMs requestId hstored =>
          exact Or.inl ⟨time, hstored, le_rfl⟩

end Step

/-! ## Runs -/

section Runs

variable {options : GovernorOptions} {w : World} {ls : List SystemLabel} {pool : SystemPool}

/-- A world before the first grant and the first cooldown. -/
def Untouched (w : World) : Prop := Fresh w ∧ w.events = []

/-- In a run whose steps are orderly no lease is granted for an operation before a cooldown of it
that was stored has passed. -/
theorem read_cooldowns_are_honoured (hw : Untouched w)
    (h : Run (Guarded (PoolStep (machine options) (Startable options))
      (fun pool l => orderly pool.world l = true)) (idle w) ls pool) : Honoured pool.world := by
  have hkept : (Inv options ls pool.world ∧ Kept pool.world) ∧
      Follows protocol pool (rolesAfter ls) := by
    apply system_invariant (fun w l => orderly w l = true)
      (fun ls w => Inv options ls w ∧ Kept w)
    · rintro ls w i ⟨hinv, hkept⟩
      exact ⟨inv_quiet (by simp) hinv rfl rfl rfl rfl, hkept⟩
    · rintro ls w i ⟨hinv, hkept⟩
      exact ⟨inv_quiet (by simp) hinv rfl rfl rfl rfl, hkept⟩
    · rintro ls w i ⟨hinv, hkept⟩
      exact ⟨inv_quiet (by simp) hinv rfl rfl rfl rfl, hkept.honoured, hkept.stored⟩
    · rintro ls w i c res w' ⟨hinv, hkept⟩ hok hexec horderly
      exact ⟨inv_step hinv hok hexec, kept_step hinv hkept hok hexec horderly⟩
    · exact h
    · refine ⟨inv_nil hw.1, ?_, ?_⟩
      · unfold Honoured
        rw [hw.2]
        exact List.Pairwise.nil
      · intro lease time hmem
        rw [hw.2] at hmem
        cases hmem
  exact hkept.1.2.honoured

end Runs

/-! ## Samples -/

/-- What a caller reports of a throttled read. -/
def tooMany : TikTokReadGovernorEvent := { httpStatus := some 429 }

/-- A read is throttled, and the next one waits until it is permitted. -/
def patientTurns : List SystemTurn :=
  spawnJob 0 (.caller conversations [.throttled tooMany]) :: (performed 0 8 ++
    (.run 0 (.performed 5000) :: spawnJob 1 (.caller conversations []) :: (performed 1 5 ++ [])))

theorem starts_patient : Starts (Startable sampleOptions) patientTurns :=
  starts_job (starts_runs (starts_run (starts_job (starts_runs starts_nil))))

theorem untouched_empty : Untouched {} := ⟨fresh_empty, rfl⟩

theorem a_patient_read_is_honoured : ∃ ls pool,
    Run (Guarded (PoolStep (machine sampleOptions) (Startable sampleOptions))
      (fun pool l => orderly pool.world l = true)) (idle {}) ls pool ∧
    pool.world.events = [.granted ⟨conversations, 0⟩ 0, .cooled conversations.operationKey 5000,
      .granted ⟨conversations, 1⟩ 5000] ∧ Honoured pool.world := by
  have hplay : (playJobs (fun pool l => orderly pool.world l) patientTurns (idle {})).map
      (fun r => r.2.world.events) = some [.granted ⟨conversations, 0⟩ 0,
        .cooled conversations.operationKey 5000, .granted ⟨conversations, 1⟩ 5000] := by decide
  obtain ⟨ls, pool, hrun, hevents⟩ := exists_run_of_jobs starts_patient hplay
  exact ⟨ls, pool, hrun, hevents, read_cooldowns_are_honoured untouched_empty hrun⟩

/-- The second caller has read the row when the first one stores the cooldown. -/
def hastyTurns : List SystemTurn :=
  spawnJob 0 (.caller conversations [.throttled tooMany]) :: (performed 0 4 ++
    (.run 0 (.performed 750) :: spawnJob 1 (.caller conversations []) :: (performed 1 3 ++
      (performed 0 4 ++ (performed 1 2 ++ [])))))

theorem starts_hasty : Starts (Startable sampleOptions) hastyTurns :=
  starts_job (starts_runs (starts_run (starts_job (starts_runs (starts_runs (starts_runs
    starts_nil))))))

theorem a_hasty_read_is_granted_in_the_cooldown : ∃ ls pool,
    SystemRun sampleOptions (idle {}) ls pool ∧ ¬ Honoured pool.world := by
  have hplay : (playJobs (fun _ _ => true) hastyTurns (idle {})).map
      (fun r => r.2.world.events) = some [.granted ⟨conversations, 0⟩ 0,
        .cooled conversations.operationKey 5750, .granted ⟨conversations, 1⟩ 750] := by decide
  obtain ⟨ls, pool, hrun, hevents⟩ := exists_run_of_jobs starts_hasty hplay
  refine ⟨ls, pool, hrun.mono (fun _ _ _ hstep => hstep.1), ?_⟩
  have hevents : pool.world.events = [.granted ⟨conversations, 0⟩ 0,
      .cooled conversations.operationKey 5750, .granted ⟨conversations, 1⟩ 750] := hevents
  intro hhonoured
  unfold Honoured at hhonoured
  rw [hevents, List.pairwise_cons, List.pairwise_cons] at hhonoured
  have hlater := hhonoured.2.1 _ (List.mem_singleton_self _) ⟨conversations, 1⟩ 5750 750 rfl rfl
  omega

end tiktok_outreach.read_cooldowns
