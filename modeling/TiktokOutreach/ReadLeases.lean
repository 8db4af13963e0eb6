-- The leases of the reads: a group has one holder at a time, its holders keep
-- their distance, and whoever lost a lease writes nothing of the next one.
import TiktokOutreach.ReadPlays

open runs executions tables tiktok_outreach.read_governor tiktok_outreach.read_system

namespace tiktok_outreach.read_leases

/-! ## What a call does to a row -/

/-- How a call writes a row. -/
inductive RowChange (options : GovernorOptions) (key : RowKey) (row : ProviderReadThrottle) :
    Call → ProviderReadThrottle → Prop
  | claimed (lease : TikTokReadLease) (now : Int) (permitted : Option Int)
      (hkey : lease.groupKey = key) (h : usable now row = true) :
      RowChange options key row (.claim lease now permitted) (claimedRow options lease now row)
  | started (lease : TikTokReadLease) (now : Int) (hkey : lease.groupKey = key)
      (h : row.leaseId = some lease.leaseId) :
      RowChange options key row (.requestStarted lease now)
        { row with leaseExpiresAt := some (now + options.leaseMs) }
  | spaced (lease : TikTokReadLease) (now : Int) (hkey : lease.groupKey = key)
      (h : row.leaseId = some lease.leaseId) :
      RowChange options key row (.space lease now)
        { row with spacingUntil := some (now + spacingMs options lease.operation) }
  | released (lease : TikTokReadLease) (hkey : lease.groupKey = key)
      (h : row.leaseId = some lease.leaseId) :
      RowChange options key row (.release lease)
        { row with leaseId := none, leaseExpiresAt := none }
  | cleared (lease : TikTokReadLease) (requestId : Option String)
      (hkey : lease.operationKey = key) :
      RowChange options key row (.clearCooldown lease requestId)
        { row with
          consecutiveThrottleCount := 0
          nextPermittedAt := none
          retryAfterMs := none
          lastProviderRequestId := requestId.or row.lastProviderRequestId }
  | cooled (lease : TikTokReadLease) (count : Nat) (nextPermittedAt : Int)
      (retryAfterMs : Option Int) (requestId : Option String)
      (hkey : lease.operationKey = key) :
      RowChange options key row
        (.storeCooldown lease count nextPermittedAt retryAfterMs requestId)
        { row with
          consecutiveThrottleCount := count
          nextPermittedAt := some nextPermittedAt
          retryAfterMs := retryAfterMs.or row.retryAfterMs
          lastProviderRequestId := requestId.or row.lastProviderRequestId }

/-- A row stays, or is added empty, or is written. -/
def RowStep (options : GovernorOptions) (w w' : World) (c : Call) (key : RowKey) : Prop :=
  w'.rows.get key = w.rows.get key ∨
    (w.rows.get key = none ∧ w'.rows.get key = some {}) ∨
    ∃ row row', w.rows.get key = some row ∧ w'.rows.get key = some row' ∧
      RowChange options key row c row'

/-- The rows of an `updateMany`. -/
theorem rowStep_updateMany {options : GovernorOptions} {w : World} {c : Call} {key : RowKey}
    (p : RowKey → ProviderReadThrottle → Bool) (f : ProviderReadThrottle → ProviderReadThrottle)
    (h : ∀ row, p key row = true → RowChange options key row c (f row)) :
    RowStep options w { w with rows := w.rows.updateMany p f } c key := by
  cases hget : w.rows.get key with
  | none =>
    refine Or.inl ?_
    simp [hget]
  | some row =>
    by_cases hp : p key row = true
    · refine Or.inr (Or.inr ⟨row, f row, hget, ?_, h row hp⟩)
      simp [hget, hp]
    · refine Or.inl ?_
      simp [hget, hp]

theorem ownRow_iff {lease : TikTokReadLease} {key : RowKey} {row : ProviderReadThrottle} :
    ownRow lease key row = true ↔ lease.groupKey = key ∧ row.leaseId = some lease.leaseId := by
  simp only [ownRow, Bool.and_eq_true, decide_eq_true_eq]
  constructor
  · rintro ⟨rfl, h⟩
    exact ⟨rfl, h⟩
  · rintro ⟨rfl, h⟩
    exact ⟨rfl, h⟩

section Performed

variable {options : GovernorOptions} {i : Nat} {w w' : World} {c : Call}

theorem rowStep_of_performs {a : c.Result} (h : Performs options i w c a w') (key : RowKey) :
    RowStep options w w' c key := by
  cases h with
  | upsert key' =>
    cases hget : w.rows.get key' with
    | some row =>
      refine Or.inl ?_
      simp [World.upsert, hget]
    | none =>
      by_cases hkey : key = key'
      · subst hkey
        refine Or.inr (Or.inl ⟨hget, ?_⟩)
        simp [World.upsert, hget]
      · refine Or.inl ?_
        simp [World.upsert, hget, hkey]
  | claim lease now permitted =>
    cases hget : w.rows.get lease.groupKey with
    | none =>
      refine Or.inl ?_
      simp [World.claim, hget]
    | some row =>
      by_cases husable : usable now row = true
      · by_cases hkey : key = lease.groupKey
        · subst hkey
          refine Or.inr (Or.inr ⟨row, _, hget, ?_, .claimed lease now permitted rfl husable⟩)
          simp [World.claim, hget, husable, World.note]
        · refine Or.inl ?_
          simp [World.claim, hget, husable, World.note, hkey]
      · refine Or.inl ?_
        simp [World.claim, hget, husable]
  | requestStarted lease now =>
    apply rowStep_updateMany
    intro row hown
    obtain ⟨hkey, hlease⟩ := ownRow_iff.1 hown
    exact .started lease now hkey hlease
  | clearCooldown lease requestId =>
    apply rowStep_updateMany
    intro row hkey
    exact .cleared lease requestId (of_decide_eq_true hkey).symm
  | space lease now =>
    apply rowStep_updateMany
    intro row hown
    obtain ⟨hkey, hlease⟩ := ownRow_iff.1 hown
    exact .spaced lease now hkey hlease
  | storeCooldown lease count nextPermittedAt retryAfterMs requestId =>
    cases hget : w.rows.get lease.operationKey with
    | none =>
      refine Or.inl ?_
      simp [World.storeCooldown, hget]
    | some row =>
      by_cases hkey : key = lease.operationKey
      · subst hkey
        refine Or.inr (Or.inr ⟨row, _, hget, ?_,
          .cooled lease count nextPermittedAt retryAfterMs requestId rfl⟩)
        simp [World.storeCooldown, hget, World.note]
      · refine Or.inl ?_
        simp [World.storeCooldown, hget, World.note, hkey]
  | release lease =>
    apply rowStep_updateMany
    intro row hown
    obtain ⟨hkey, hlease⟩ := ownRow_iff.1 hown
    exact .released lease hkey hlease
  | _ => exact Or.inl rfl

/-! ## Grants -/

def grantOf : Event → Option (TikTokReadLease × Int)
  | .granted lease now => some (lease, now)
  | _ => none

/-- The leases that were granted, with the clocks of their claims, oldest first. -/
def grants (w : World) : List (TikTokReadLease × Int) := w.events.filterMap grantOf

/-- A claim that found its row free. -/
structure Grants (options : GovernorOptions) (w w' : World) (lease : TikTokReadLease)
    (now : Int) : Prop where
  taken : ∃ row, w.rows.get lease.groupKey = some row ∧ usable now row = true ∧
    w'.rows.get lease.groupKey = some (claimedRow options lease now row)
  noted : grants w' = grants w ++ [(lease, now)]

theorem grants_note (w : World) (event : Event) :
    grants (w.note event) = grants w ++ (grantOf event).toList := by
  cases h : grantOf event <;> simp [grants, World.note, h]

theorem grants_of_claim (options : GovernorOptions) (w : World) (lease : TikTokReadLease)
    (now : Int) :
    (w.claim options lease now = w ∧ (w.rows.get lease.groupKey).any (usable now) = false) ∨
      Grants options w (w.claim options lease now) lease now := by
  cases hget : w.rows.get lease.groupKey with
  | none => exact Or.inl ⟨by simp [World.claim, hget], rfl⟩
  | some row =>
    by_cases husable : usable now row = true
    · refine Or.inr ⟨⟨row, hget, husable, ?_⟩, ?_⟩
      · simp [World.claim, hget, husable, World.note]
      · simp only [World.claim, hget, husable, if_true]
        exact grants_note _ _
    · refine Or.inl ⟨?_, by simpa using husable⟩
      simp [World.claim, hget, husable]

theorem grants_of_performs {a : c.Result} (h : Performs options i w c a w') :
    grants w' = grants w ∨ ∃ lease now permitted, c = .claim lease now permitted ∧
      Grants options w w' lease now := by
  cases h with
  | upsert key =>
    refine Or.inl ?_
    unfold World.upsert
    split <;> rfl
  | claim lease now permitted =>
    rcases grants_of_claim options w lease now with ⟨hsame, _⟩ | hgrants
    · rw [hsame]
      exact Or.inl rfl
    · exact Or.inr ⟨lease, now, permitted, rfl, hgrants⟩
  | storeCooldown lease count nextPermittedAt retryAfterMs requestId =>
    refine Or.inl ?_
    unfold World.storeCooldown
    split
    · rfl
    · rw [grants_note]
      simp [grantOf, grants]
  | send lease startedAt =>
    refine Or.inl ?_
    unfold World.launch
    rw [grants_note]
    simp [grantOf, grants]
  | _ => exact Or.inl rfl

/-! ## The clock and the leases to draw -/

theorem clock_of_performs {a : c.Result} (h : Performs options i w c a w') :
    w'.clock = w.clock := by
  cases h with
  | upsert key =>
    unfold World.upsert
    split <;> rfl
  | claim lease now permitted =>
    unfold World.claim
    split
    · rfl
    · split <;> rfl
  | storeCooldown lease count nextPermittedAt retryAfterMs requestId =>
    unfold World.storeCooldown
    split <;> rfl
  | _ => rfl

theorem nextLease_of_performs {a : c.Result} (h : Performs options i w c a w') :
    w'.nextLease = w.nextLease ∨ c = .newLease ∧ w'.nextLease = w.nextLease + 1 := by
  cases h with
  | newLease => exact Or.inr ⟨rfl, rfl⟩
  | upsert key =>
    refine Or.inl ?_
    unfold World.upsert
    split <;> rfl
  | claim lease now permitted =>
    refine Or.inl ?_
    unfold World.claim
    split
    · rfl
    · split <;> rfl
  | storeCooldown lease count nextPermittedAt retryAfterMs requestId =>
    refine Or.inl ?_
    unfold World.storeCooldown
    split <;> rfl
  | _ => exact Or.inl rfl

theorem reading_of_performs {now : Int} (h : Performs options i w .now now w') :
    now = w.clock := by
  cases h with
  | now => rfl
  | other _ _ h => cases h

theorem drawn_of_performs {leaseId : Nat} (h : Performs options i w .newLease leaseId w') :
    leaseId = w.nextLease ∧ w'.nextLease = leaseId + 1 := by
  cases h with
  | newLease => exact ⟨rfl, rfl⟩
  | other _ _ h => cases h

theorem claimed_of_performs {lease : TikTokReadLease} {now : Int} {permitted : Option Int}
    {a : Nat} (h : Performs options i w (.claim lease now permitted) a w') :
    w' = w.claim options lease now ∧
      a = if (w.rows.get lease.groupKey).any (usable now) then 1 else 0 := by
  cases h with
  | claim => exact ⟨rfl, rfl⟩
  | other _ _ h => cases h

end Performed

/-! ## What a step does -/

section Executed

variable {options : GovernorOptions} {i : Nat} {w w' : World} {c : Call}
  {res : Except Failure c.Result}

theorem rowStep_of_exec (h : Exec options i w c res w') (key : RowKey) :
    RowStep options w w' c key := by
  rcases h.effect with ⟨a, w1, clock, hperforms, _, rfl, _⟩ | ⟨clock, _, rfl, _⟩
  · have hstep : RowStep options w w1 c key := rowStep_of_performs hperforms key
    exact hstep
  · exact Or.inl rfl

theorem grants_of_exec (h : Exec options i w c res w') :
    grants w' = grants w ∨ ∃ lease now permitted, c = .claim lease now permitted ∧
      Grants options w w' lease now := by
  rcases h.effect with ⟨a, w1, clock, hperforms, _, rfl, _⟩ | ⟨clock, _, rfl, _⟩
  · have hgrants : grants w1 = grants w ∨ ∃ lease now permitted,
        c = .claim lease now permitted ∧ Grants options w w1 lease now :=
      grants_of_performs hperforms
    rcases hgrants with hsame | ⟨lease, now, permitted, hc, htaken, hnoted⟩
    · exact Or.inl hsame
    · exact Or.inr ⟨lease, now, permitted, hc, htaken, hnoted⟩
  · exact Or.inl rfl

theorem clock_of_exec (h : Exec options i w c res w') : w.clock ≤ w'.clock := by
  rcases h.effect with ⟨a, w1, clock, hperforms, hclock, rfl, _⟩ | ⟨clock, hclock, rfl, _⟩
  · rw [clock_of_performs hperforms] at hclock
    exact hclock
  · exact hclock

theorem nextLease_of_exec (h : Exec options i w c res w') :
    w'.nextLease = w.nextLease ∨ c = .newLease ∧ w'.nextLease = w.nextLease + 1 := by
  rcases h.effect with ⟨a, w1, clock, hperforms, _, rfl, _⟩ | ⟨clock, _, rfl, _⟩
  · have hnext : w1.nextLease = w.nextLease ∨ c = .newLease ∧ w1.nextLease = w.nextLease + 1 :=
      nextLease_of_performs hperforms
    exact hnext
  · exact Or.inl rfl

theorem reading_of_exec {now : Int} (h : Exec options i w .now (.ok now) w') : now = w.clock := by
  rcases h.effect with ⟨a, w1, clock, hperforms, _, _, hres⟩ | ⟨clock, _, _, _, hres⟩
  · rw [← reading_of_performs hperforms]
    exact hres now rfl
  · exact absurd rfl (hres now)

theorem drawn_of_exec {leaseId : Nat} (h : Exec options i w .newLease (.ok leaseId) w') :
    leaseId = w.nextLease ∧ w'.nextLease = leaseId + 1 := by
  rcases h.effect with ⟨a, w1, clock, hperforms, _, rfl, hres⟩ | ⟨clock, _, _, _, hres⟩
  · have ha : leaseId = a := hres leaseId rfl
    have hdrawn : a = w.nextLease ∧ w1.nextLease = a + 1 := drawn_of_performs hperforms
    rw [ha]
    exact hdrawn
  · exact absurd rfl (hres leaseId)

theorem claim_of_exec {lease : TikTokReadLease} {now : Int} {permitted : Option Int}
    {res : Except Failure Nat} (h : Exec options i w (.claim lease now permitted) res w') :
    w'.rows = w.rows ∨ Grants options w w' lease now := by
  rcases h.effect with ⟨a, w1, clock, hperforms, _, rfl, _⟩ | ⟨clock, _, rfl, _⟩
  · obtain ⟨rfl, _⟩ := claimed_of_performs hperforms
    rcases grants_of_claim options w lease now with ⟨hsame, _⟩ | ⟨htaken, hnoted⟩
    · rw [hsame]
      exact Or.inl rfl
    · exact Or.inr ⟨htaken, hnoted⟩
  · exact Or.inl rfl

/-- A claim that counts one row is a grant. -/
theorem granted_of_exec {lease : TikTokReadLease} {now : Int} {permitted : Option Int}
    (h : Exec options i w (.claim lease now permitted) (.ok (1 : Nat)) w') :
    Grants options w w' lease now := by
  rcases h.effect with ⟨a, w1, clock, hperforms, _, rfl, hres⟩ | ⟨clock, _, _, _, hres⟩
  · obtain ⟨hw1, ha⟩ := claimed_of_performs hperforms
    have hcount : (1 : Nat) = a := hres (1 : Nat) rfl
    rcases grants_of_claim options w lease now with ⟨_, hnone⟩ | ⟨htaken, hnoted⟩
    · rw [hnone] at ha
      rw [← hcount] at ha
      cases ha
    · rw [← hw1] at htaken hnoted
      exact ⟨htaken, hnoted⟩
  · exact absurd rfl (hres (1 : Nat))

/-- A row has a lease from a claim, or it had it before. -/
theorem leaseId_of_exec (h : Exec options i w c res w') {key : RowKey}
    {row' : ProviderReadThrottle} {leaseId : Nat} (hrow : w'.rows.get key = some row')
    (hlease : row'.leaseId = some leaseId) :
    (∃ row, w.rows.get key = some row ∧ row.leaseId = some leaseId) ∨
      ∃ lease now permitted, c = .claim lease now permitted ∧ lease.leaseId = leaseId ∧
        lease.groupKey = key := by
  rcases rowStep_of_exec h key with hsame | ⟨_, hempty⟩ | ⟨row, row1, hget, hget', hchange⟩
  · rw [hsame] at hrow
    exact Or.inl ⟨row', hrow, hlease⟩
  · rw [hempty] at hrow
    cases hrow
    cases hlease
  · rw [hget'] at hrow
    cases hrow
    cases hchange with
    | claimed lease now permitted hkey husable =>
      cases hlease
      exact Or.inr ⟨lease, now, permitted, rfl, rfl, hkey⟩
    | released lease hkey hown => cases hlease
    | _ => exact Or.inl ⟨row, hget, hlease⟩

end Executed

/-! ## Roles after a step -/

section After

variable {ls : List SystemLabel} {l : SystemLabel} {j : Nat}

theorem reading_after {now : Int} (h : (rolesAfter (ls ++ [l]) j).reading = some now) :
    ((rolesAfter ls j).reading = some now ∧ l ≠ .spawn j) ∨ l = .run j .now (.ok now) := by
  rcases staged_cases protocol start ls l j with ⟨hsame, hspawn, _⟩ | ⟨hstart, _⟩ | ⟨c, res, rfl, hnext⟩
  · rw [rolesAfter, hsame] at h
    exact Or.inl ⟨h, hspawn⟩
  · rw [rolesAfter, hstart] at h
    cases h
  · rw [rolesAfter, hnext] at h
    cases c with
    | now =>
      cases res with
      | error e => exact Or.inl ⟨h, by simp⟩
      | ok now' =>
        cases h
        exact Or.inr rfl
    | _ => cases res <;> exact Or.inl ⟨h, by simp⟩

/-- A thread has the lease that it drew until it claims with it. -/
theorem drawn_after {leaseId : Nat} (h : (rolesAfter (ls ++ [l]) j).drawn = some leaseId) :
    ((rolesAfter ls j).drawn = some leaseId ∧
      ∀ lease now permitted res, l ≠ .run j (.claim lease now permitted) res) ∨
      l = .run j .newLease (.ok leaseId) := by
  rcases staged_cases protocol start ls l j with ⟨hsame, _, hrun⟩ | ⟨hstart, _⟩ | ⟨c, res, rfl, hnext⟩
  · rw [rolesAfter, hsame] at h
    exact Or.inl ⟨h, fun _ _ _ _ => hrun _ _⟩
  · rw [rolesAfter, hstart] at h
    cases h
  · rw [rolesAfter, hnext] at h
    cases c with
    | newLease =>
      cases res with
      | error e => exact Or.inl ⟨h, by simp⟩
      | ok leaseId' =>
        cases h
        exact Or.inr rfl
    | claim lease now permitted => cases res <;> cases h
    | _ => cases res <;> exact Or.inl ⟨h, by simp⟩

theorem held_after {lease : TikTokReadLease} {acquiredAt : Int}
    (h : (rolesAfter (ls ++ [l]) j).held = some (lease, acquiredAt)) :
    ((rolesAfter ls j).held = some (lease, acquiredAt) ∧ l ≠ .spawn j) ∨
      ∃ permitted, l = .run j (.claim lease acquiredAt permitted) (.ok (1 : Nat)) := by
  rcases staged_cases protocol start ls l j with ⟨hsame, hspawn, _⟩ | ⟨hstart, _⟩ | ⟨c, res, rfl, hnext⟩
  · rw [rolesAfter, hsame] at h
    exact Or.inl ⟨h, hspawn⟩
  · rw [rolesAfter, hstart] at h
    cases h
  · rw [rolesAfter, hnext] at h
    cases c with
    | claim lease' now permitted =>
      cases res with
      | error e => cases h
      | ok count =>
        by_cases hcount : count = 1
        · simp only [protocol, nextRole, hcount, if_true, Option.some.injEq, Prod.mk.injEq] at h
          obtain ⟨rfl, rfl⟩ := h
          refine Or.inr ⟨permitted, ?_⟩
          rw [hcount]
        · simp [protocol, nextRole, hcount] at h
    | _ => cases res <;> exact Or.inl ⟨h, by simp⟩

end After

/-! ## The invariant -/

/-- The spacing of a group. -/
def groupSpacing (options : GovernorOptions) (key : RowKey) : Nat :=
  if key.operation = .lease .SEARCH_CREATORS then options.marketplaceSpacingMs
  else options.spacingMs

theorem spacingMs_group (options : GovernorOptions) (input : ReadInput) :
    spacingMs options input.operation = groupSpacing options input.groupKey := by
  unfold spacingMs groupSpacing ReadInput.groupKey
  cases input.operation <;> simp [leaseOperation]

/-- The grants of a group, oldest first. -/
def groupGrants (key : RowKey) (w : World) : List (TikTokReadLease × Int) :=
  (grants w).filter (fun grant => grant.1.groupKey = key)

/-- The clocks of the claims that were granted in a group, oldest first. -/
def readings (key : RowKey) (w : World) : List Int := (groupGrants key w).map (·.2)

theorem mem_groupGrants {key : RowKey} {w : World} {grant : TikTokReadLease × Int} :
    grant ∈ groupGrants key w ↔ grant ∈ grants w ∧ grant.1.groupKey = key := by
  simp [groupGrants]

theorem groupGrants_noted {options : GovernorOptions} {w w' : World} {lease : TikTokReadLease}
    {now : Int} (h : Grants options w w' lease now) (key : RowKey) :
    groupGrants key w' =
      groupGrants key w ++ if lease.groupKey = key then [(lease, now)] else [] := by
  unfold groupGrants
  rw [h.noted, List.filter_append]
  by_cases hkey : lease.groupKey = key <;> simp [hkey]

structure Inv (options : GovernorOptions) (ls : List SystemLabel) (w : World) : Prop where
  past : ∀ grant ∈ grants w, grant.2 ≤ w.clock ∧ grant.1.leaseId < w.nextLease
  apart : ((grants w).map (fun grant => grant.1.leaseId)).Nodup
  /-- The spacing after each grant has begun. -/
  spaced : ∀ grant ∈ grants w, ∃ row spacingUntil,
    w.rows.get grant.1.groupKey = some row ∧ row.spacingUntil = some spacingUntil ∧
      grant.2 + groupSpacing options grant.1.groupKey ≤ spacingUntil
  ordered : ∀ key, (readings key w).Pairwise (fun (a b : Int) => a + groupSpacing options key ≤ b)
  rows : ∀ key row leaseId, w.rows.get key = some row → row.leaseId = some leaseId →
    leaseId < w.nextLease
  /-- Who has the row was granted it last. -/
  last : ∀ key row, w.rows.get key = some row → ∀ grant ∈ grants w,
    row.leaseId = some grant.1.leaseId → (groupGrants key w).getLast? = some grant
  reading : ∀ i now, (rolesAfter ls i).reading = some now →
    now ≤ w.clock ∧ Since ls i (.run i .now (.ok now))
  /-- A lease that was drawn for a claim to come is new. -/
  drawn : ∀ i leaseId, (rolesAfter ls i).drawn = some leaseId → leaseId < w.nextLease ∧
    (∀ grant ∈ grants w, grant.1.leaseId ≠ leaseId) ∧
    ∀ key row, w.rows.get key = some row → row.leaseId ≠ some leaseId
  single : ∀ i j leaseId, (rolesAfter ls i).drawn = some leaseId →
    (rolesAfter ls j).drawn = some leaseId → i = j
  held : ∀ i lease acquiredAt, (rolesAfter ls i).held = some (lease, acquiredAt) →
    (lease, acquiredAt) ∈ grants w ∧
    (∃ permitted, Since ls i (.run i (.claim lease acquiredAt permitted) (.ok (1 : Nat)))) ∧
    ∀ now, (rolesAfter ls i).reading = some now → acquiredAt ≤ now

/-- A world without a grant, whose rows have leases that were drawn before. -/
structure Fresh (w : World) : Prop where
  grants : grants w = []
  rows : ∀ key row leaseId, w.rows.get key = some row → row.leaseId = some leaseId →
    leaseId < w.nextLease

theorem inv_nil {options : GovernorOptions} {w : World} (h : Fresh w) : Inv options [] w where
  past := by simp [h.grants]
  apart := by simp [h.grants]
  spaced := by simp [h.grants]
  ordered := by simp [readings, groupGrants, h.grants]
  rows := h.rows
  last := by simp [h.grants]
  reading := by simp [rolesAfter, staged, start]
  drawn := by simp [rolesAfter, staged, start]
  single := by simp [rolesAfter, staged, start]
  held := by simp [rolesAfter, staged, start]

section Step

variable {options : GovernorOptions} {ls : List SystemLabel} {w w' : World} {i : Nat} {c : Call}
  {res : Except Failure c.Result}

/-- The grants of a group so far are a spacing away from a claim that finds the row free. -/
theorem spacing_of_usable (hinv : Inv options ls w) {key : RowKey} {row : ProviderReadThrottle}
    {now : Int} (hrow : w.rows.get key = some row) (husable : usable now row = true) :
    ∀ grant ∈ grants w, grant.1.groupKey = key →
      grant.2 + groupSpacing options key ≤ now := by
  rintro grant hgrant rfl
  obtain ⟨row', spacingUntil, hrow', hspacing, hle⟩ := hinv.spaced grant hgrant
  rw [hrow] at hrow'
  cases hrow'
  have hpast : spacingUntil ≤ now := by
    simp only [usable, hspacing, Bool.and_eq_true, Option.all_some, decide_eq_true_eq] at husable
    exact husable.1
  omega

/-- The last grant of a group is not before the others. -/
theorem le_of_last (hinv : Inv options ls w) {key : RowKey} {last : TikTokReadLease × Int}
    (hlast : (groupGrants key w).getLast? = some last) :
    ∀ grant ∈ grants w, grant.1.groupKey = key → grant.2 ≤ last.2 := by
  obtain ⟨earlier, hearlier⟩ := List.getLast?_eq_some_iff.1 hlast
  have hordered := hinv.ordered key
  unfold readings at hordered
  rw [hearlier, List.map_append, List.pairwise_append] at hordered
  intro grant hgrant hkey
  have hmem : grant ∈ groupGrants key w := mem_groupGrants.2 ⟨hgrant, hkey⟩
  rw [hearlier, List.mem_append, List.mem_singleton] at hmem
  rcases hmem with hmem | rfl
  · have hle : grant.2 + groupSpacing options key ≤ last.2 :=
      hordered.2.2 _ (List.mem_map_of_mem hmem) _ (by simp)
    omega
  · exact le_rfl

theorem free_of_usable {row : ProviderReadThrottle} {now : Int} (h : usable now row = true) :
    row.leaseId = none ∨ ∃ expiresAt, row.leaseExpiresAt = some expiresAt ∧ expiresAt ≤ now := by
  unfold usable at h
  simp only [Bool.and_eq_true, Bool.or_eq_true, Option.isNone_iff_eq_none, Option.any_eq_true,
    decide_eq_true_eq] at h
  exact h.2

/-- The thread that holds the row was granted it last. -/
theorem last_of_held (hinv : Inv options ls w) {key : RowKey} {row : ProviderReadThrottle}
    {lease : TikTokReadLease} (hrow : w.rows.get key = some row)
    (hown : row.leaseId = some lease.leaseId) {acquiredAt : Int}
    (hheld : (rolesAfter ls i).held = some (lease, acquiredAt)) :
    (groupGrants key w).getLast? = some (lease, acquiredAt) := by
  have hgrant : (lease, acquiredAt) ∈ grants w := (hinv.held i lease acquiredAt hheld).1
  exact hinv.last key row hrow _ hgrant hown

/-- It read the clock after that. -/
theorem later_of_held (hinv : Inv options ls w) {key : RowKey} {row : ProviderReadThrottle}
    {lease : TikTokReadLease} {now : Int} (hrow : w.rows.get key = some row)
    (hown : row.leaseId = some lease.leaseId) (hheld : Holds (rolesAfter ls i) lease)
    (hreading : (rolesAfter ls i).reading = some now) :
    ∀ grant ∈ grants w, grant.1.groupKey = key → grant.2 ≤ now := by
  obtain ⟨acquiredAt, hheld⟩ := hheld
  have hlast := last_of_held hinv hrow hown hheld
  intro grant hmem hkey
  have hle : grant.2 ≤ acquiredAt := le_of_last hinv hlast grant hmem hkey
  have hnow := (hinv.held i lease acquiredAt hheld).2.2 now hreading
  omega

/-- A claim makes its own thread's lease. -/
theorem drawn_of_claim (hinv : Inv options ls w) {lease : TikTokReadLease} {now : Int}
    {permitted : Option Int} (hok : okCall (rolesAfter ls i) (.claim lease now permitted)) :
    now ≤ w.clock ∧ lease.leaseId < w.nextLease ∧
      (∀ grant ∈ grants w, grant.1.leaseId ≠ lease.leaseId) ∧
      ∀ key row, w.rows.get key = some row → row.leaseId ≠ some lease.leaseId :=
  ⟨(hinv.reading i now hok.1).1, hinv.drawn i lease.leaseId hok.2.1⟩

theorem mem_grants_mono (h : Exec options i w c res w') {grant : TikTokReadLease × Int}
    (hgrant : grant ∈ grants w) : grant ∈ grants w' := by
  rcases grants_of_exec h with hsame | ⟨lease, now, permitted, _, hgrants⟩
  · rw [hsame]
    exact hgrant
  · rw [hgrants.noted]
    exact List.mem_append_left _ hgrant

theorem past_step (hinv : Inv options ls w) (hok : okCall (rolesAfter ls i) c)
    (h : Exec options i w c res w') :
    ∀ grant ∈ grants w', grant.2 ≤ w'.clock ∧ grant.1.leaseId < w'.nextLease := by
  have hclock := clock_of_exec h
  have hnext : w.nextLease ≤ w'.nextLease := by
    rcases nextLease_of_exec h with hsame | ⟨_, hnext⟩ <;> omega
  intro grant hgrant
  have hold : ∀ grant ∈ grants w, grant.2 ≤ w'.clock ∧ grant.1.leaseId < w'.nextLease := by
    intro grant hgrant
    obtain ⟨htime, hlease⟩ := hinv.past grant hgrant
    exact ⟨by omega, by omega⟩
  rcases grants_of_exec h with hsame | ⟨lease, now, permitted, rfl, hgrants⟩
  · rw [hsame] at hgrant
    exact hold grant hgrant
  · rw [hgrants.noted, List.mem_append, List.mem_singleton] at hgrant
    obtain ⟨htime, hlease, _⟩ := drawn_of_claim hinv hok
    rcases hgrant with hgrant | rfl
    · exact hold grant hgrant
    · have hnow : now ≤ w'.clock := by omega
      have hid : lease.leaseId < w'.nextLease := by omega
      exact ⟨hnow, hid⟩

theorem apart_step (hinv : Inv options ls w) (hok : okCall (rolesAfter ls i) c)
    (h : Exec options i w c res w') :
    ((grants w').map (fun grant => grant.1.leaseId)).Nodup := by
  rcases grants_of_exec h with hsame | ⟨lease, now, permitted, rfl, hgrants⟩
  · rw [hsame]
    exact hinv.apart
  · rw [hgrants.noted, List.map_append, List.nodup_append]
    refine ⟨hinv.apart, by simp, ?_⟩
    obtain ⟨_, _, hnew, _⟩ := drawn_of_claim hinv hok
    intro leaseId hmem leaseId' hlast
    obtain ⟨grant, hgrant, rfl⟩ := List.mem_map.1 hmem
    simp only [List.map_cons, List.map_nil, List.mem_singleton] at hlast
    rw [hlast]
    exact hnew grant hgrant

/-- The spacing after the grants of a row that is written. -/
theorem spaced_of_change (hinv : Inv options ls w) (hok : okCall (rolesAfter ls i) c)
    {key : RowKey} {row row' : ProviderReadThrottle} (hrow : w.rows.get key = some row)
    (hchange : RowChange options key row c row') {grant : TikTokReadLease × Int}
    (hgrant : grant ∈ grants w) (hkey : grant.1.groupKey = key) :
    ∃ spacingUntil, row'.spacingUntil = some spacingUntil ∧
      grant.2 + groupSpacing options key ≤ spacingUntil := by
  obtain ⟨row1, spacingUntil, hrow1, hspacing, hle⟩ := hinv.spaced grant hgrant
  rw [hkey, hrow] at hrow1
  cases hrow1
  rw [hkey] at hle
  cases hchange with
  | claimed lease now permitted hlease husable =>
    have hbefore := spacing_of_usable hinv hrow husable grant hgrant hkey
    refine ⟨now + spacingMs options lease.operation, rfl, ?_⟩
    rw [spacingMs_group options lease.toReadInput, hlease]
    omega
  | spaced lease now hlease hown =>
    have hbefore := later_of_held hinv hrow hown hok.1 hok.2.1 grant hgrant hkey
    refine ⟨now + spacingMs options lease.operation, rfl, ?_⟩
    rw [spacingMs_group options lease.toReadInput, hlease]
    omega
  | _ => exact ⟨spacingUntil, hspacing, hle⟩

theorem spaced_step (hinv : Inv options ls w) (hok : okCall (rolesAfter ls i) c)
    (h : Exec options i w c res w') :
    ∀ grant ∈ grants w', ∃ row spacingUntil, w'.rows.get grant.1.groupKey = some row ∧
      row.spacingUntil = some spacingUntil ∧
      grant.2 + groupSpacing options grant.1.groupKey ≤ spacingUntil := by
  have hold : ∀ grant ∈ grants w, ∃ row spacingUntil, w'.rows.get grant.1.groupKey = some row ∧
      row.spacingUntil = some spacingUntil ∧
      grant.2 + groupSpacing options grant.1.groupKey ≤ spacingUntil := by
    intro grant hgrant
    obtain ⟨row, spacingUntil, hrow, hspacing, hle⟩ := hinv.spaced grant hgrant
    rcases rowStep_of_exec h grant.1.groupKey with hsame | ⟨hnone, _⟩ | ⟨row1, row', hrow1, hrow', hchange⟩
    · rw [hsame]
      exact ⟨row, spacingUntil, hrow, hspacing, hle⟩
    · rw [hnone] at hrow
      cases hrow
    · obtain ⟨spacingUntil', hspacing', hle'⟩ := spaced_of_change hinv hok hrow1 hchange hgrant rfl
      exact ⟨row', spacingUntil', hrow', hspacing', hle'⟩
  intro grant hgrant
  rcases grants_of_exec h with hsame | ⟨lease, now, permitted, rfl, hgrants⟩
  · rw [hsame] at hgrant
    exact hold grant hgrant
  · rw [hgrants.noted, List.mem_append, List.mem_singleton] at hgrant
    rcases hgrant with hgrant | rfl
    · exact hold grant hgrant
    · obtain ⟨row, _, _, hrow⟩ := hgrants.taken
      refine ⟨_, _, hrow, rfl, ?_⟩
      rw [spacingMs_group options lease.toReadInput]

theorem ordered_step (hinv : Inv options ls w) (h : Exec options i w c res w') (key : RowKey) :
    (readings key w').Pairwise (fun (a b : Int) => a + groupSpacing options key ≤ b) := by
  rcases grants_of_exec h with hsame | ⟨lease, now, permitted, rfl, hgrants⟩
  · unfold readings groupGrants
    rw [hsame]
    exact hinv.ordered key
  · unfold readings
    rw [groupGrants_noted hgrants, List.map_append, List.pairwise_append]
    refine ⟨hinv.ordered key, ?_, ?_⟩
    · by_cases hkey : lease.groupKey = key <;> simp [hkey]
    · intro a ha b hb
      obtain ⟨grant, hgrant, rfl⟩ := List.mem_map.1 ha
      obtain ⟨hmem, hgroup⟩ := mem_groupGrants.1 hgrant
      obtain ⟨row, hrow, husable, _⟩ := hgrants.taken
      by_cases hkey : lease.groupKey = key
      · obtain rfl : now = b := by simpa [hkey, eq_comm] using hb
        rw [hkey] at hrow
        exact spacing_of_usable hinv hrow husable grant hmem hgroup
      · simp [hkey] at hb

theorem rows_step (hinv : Inv options ls w) (hok : okCall (rolesAfter ls i) c)
    (h : Exec options i w c res w') {key : RowKey} {row' : ProviderReadThrottle} {leaseId : Nat}
    (hrow : w'.rows.get key = some row') (hlease : row'.leaseId = some leaseId) :
    leaseId < w'.nextLease := by
  have hnext : w.nextLease ≤ w'.nextLease := by
    rcases nextLease_of_exec h with hsame | ⟨_, hnext⟩ <;> omega
  rcases leaseId_of_exec h hrow hlease with ⟨row, hget, hrowLease⟩ | ⟨lease, now, permitted, rfl, rfl, _⟩
  · have hlt := hinv.rows key row leaseId hget hrowLease
    omega
  · have hlt := (drawn_of_claim hinv hok).2.1
    omega

theorem last_step (hinv : Inv options ls w) (hok : okCall (rolesAfter ls i) c)
    (h : Exec options i w c res w') {key : RowKey} {row' : ProviderReadThrottle}
    (hrow : w'.rows.get key = some row') {grant : TikTokReadLease × Int}
    (hgrant : grant ∈ grants w') (hlease : row'.leaseId = some grant.1.leaseId) :
    (groupGrants key w').getLast? = some grant := by
  rcases grants_of_exec h with hsame | ⟨lease, now, permitted, rfl, hgrants⟩
  · have hgroup : groupGrants key w' = groupGrants key w := by
      unfold groupGrants
      rw [hsame]
    rw [hsame] at hgrant
    rw [hgroup]
    rcases leaseId_of_exec h hrow hlease with ⟨row, hget, hrowLease⟩ | ⟨lease, now, permitted, rfl, hid, _⟩
    · exact hinv.last key row hget grant hgrant hrowLease
    · exact absurd hid.symm ((drawn_of_claim hinv hok).2.2.1 grant hgrant)
  · obtain ⟨_, _, hnew, hfree⟩ := drawn_of_claim hinv hok
    rw [groupGrants_noted hgrants]
    rw [hgrants.noted, List.mem_append, List.mem_singleton] at hgrant
    by_cases hkey : lease.groupKey = key
    · rw [if_pos hkey, List.getLast?_append]
      obtain ⟨row1, _, _, hrow1⟩ := hgrants.taken
      rw [hkey, hrow] at hrow1
      have hid : lease.leaseId = grant.1.leaseId := by
        cases hrow1
        simpa [claimedRow] using hlease
      rcases hgrant with hgrant | rfl
      · exact absurd hid.symm (hnew grant hgrant)
      · rfl
    · rw [if_neg hkey, List.append_nil]
      rcases leaseId_of_exec h hrow hlease with ⟨row, hget, hrowLease⟩ | ⟨lease', now', permitted', heq, _, hgroup⟩
      · rcases hgrant with hgrant | rfl
        · exact hinv.last key row hget grant hgrant hrowLease
        · exact absurd hrowLease (hfree key row hget)
      · cases heq
        exact absurd hgroup hkey

theorem reading_step (hinv : Inv options ls w) (h : Exec options i w c res w') {j : Nat} {now : Int}
    (hj : (rolesAfter (ls ++ [.run i c res]) j).reading = some now) :
    now ≤ w'.clock ∧ Since (ls ++ [.run i c res]) j (.run j .now (.ok now)) := by
  have hclock := clock_of_exec h
  rcases reading_after hj with ⟨hj, hspawn⟩ | hl
  · obtain ⟨hpast, hsince⟩ := hinv.reading j now hj
    exact ⟨by omega, since_snoc hsince hspawn⟩
  · cases hl
    have hnow := reading_of_exec h
    exact ⟨by omega, since_last ls i _⟩

theorem drawn_step (hinv : Inv options ls w) (hok : okCall (rolesAfter ls i) c)
    (h : Exec options i w c res w') {j leaseId : Nat}
    (hj : (rolesAfter (ls ++ [.run i c res]) j).drawn = some leaseId) :
    leaseId < w'.nextLease ∧ (∀ grant ∈ grants w', grant.1.leaseId ≠ leaseId) ∧
      ∀ key row, w'.rows.get key = some row → row.leaseId ≠ some leaseId := by
  rcases drawn_after hj with ⟨hdrawn, hclaim⟩ | hl
  · obtain ⟨hlt, hnew, hfree⟩ := hinv.drawn j leaseId hdrawn
    -- only the thread that drew the lease claims with it
    have hother : ∀ lease now permitted, c = .claim lease now permitted →
        lease.leaseId ≠ leaseId := by
      rintro lease now permitted rfl rfl
      have hij : i = j := hinv.single i j lease.leaseId hok.2.1 hdrawn
      subst hij
      exact hclaim _ _ _ _ rfl
    refine ⟨?_, ?_, ?_⟩
    · rcases nextLease_of_exec h with hsame | ⟨_, hnext⟩ <;> omega
    · intro grant hgrant
      rcases grants_of_exec h with hsame | ⟨lease, now, permitted, hc, hgrants⟩
      · rw [hsame] at hgrant
        exact hnew grant hgrant
      · rw [hgrants.noted, List.mem_append, List.mem_singleton] at hgrant
        rcases hgrant with hgrant | rfl
        · exact hnew grant hgrant
        · exact hother lease now permitted hc
    · intro key row hrow hlease
      rcases leaseId_of_exec h hrow hlease with ⟨row0, hget, hrowLease⟩ | ⟨lease, now, permitted, hc, hid, _⟩
      · exact hfree key row0 hget hrowLease
      · exact hother lease now permitted hc hid
  · cases hl
    obtain ⟨hlease, hnext⟩ := drawn_of_exec h
    refine ⟨by omega, ?_, ?_⟩
    · intro grant hgrant
      rcases grants_of_exec h with hsame | ⟨_, _, _, hc, _⟩
      · rw [hsame] at hgrant
        have hlt := (hinv.past grant hgrant).2
        omega
      · cases hc
    · intro key row hrow hrowLease
      rcases leaseId_of_exec h hrow hrowLease with ⟨row0, hget, hrow0⟩ | ⟨_, _, _, hc, _⟩
      · have hlt := hinv.rows key row0 leaseId hget hrow0
        omega
      · cases hc

theorem single_step (hinv : Inv options ls w) (h : Exec options i w c res w') {j k leaseId : Nat}
    (hj : (rolesAfter (ls ++ [.run i c res]) j).drawn = some leaseId)
    (hk : (rolesAfter (ls ++ [.run i c res]) k).drawn = some leaseId) : j = k := by
  rcases drawn_after hj with ⟨hdrawn, _⟩ | hl
  · rcases drawn_after hk with ⟨hdrawn', _⟩ | hl'
    · exact hinv.single j k leaseId hdrawn hdrawn'
    · cases hl'
      obtain ⟨hlease, _⟩ := drawn_of_exec h
      have hlt := (hinv.drawn j leaseId hdrawn).1
      omega
  · rcases drawn_after hk with ⟨hdrawn', _⟩ | hl'
    · cases hl
      obtain ⟨hlease, _⟩ := drawn_of_exec h
      have hlt := (hinv.drawn k leaseId hdrawn').1
      omega
    · rw [hl] at hl'
      cases hl'
      rfl

theorem held_step (hinv : Inv options ls w) (hok : okCall (rolesAfter ls i) c)
    (h : Exec options i w c res w') {j : Nat} {lease : TikTokReadLease} {acquiredAt : Int}
    (hj : (rolesAfter (ls ++ [.run i c res]) j).held = some (lease, acquiredAt)) :
    (lease, acquiredAt) ∈ grants w' ∧
      (∃ permitted, Since (ls ++ [.run i c res]) j
        (.run j (.claim lease acquiredAt permitted) (.ok (1 : Nat)))) ∧
      ∀ now, (rolesAfter (ls ++ [.run i c res]) j).reading = some now → acquiredAt ≤ now := by
  rcases held_after hj with ⟨hheld, hspawn⟩ | ⟨permitted, hl⟩
  · obtain ⟨hgrant, ⟨permitted, hsince⟩, hlater⟩ := hinv.held j lease acquiredAt hheld
    refine ⟨mem_grants_mono h hgrant, ⟨permitted, since_snoc hsince hspawn⟩, ?_⟩
    intro now hreading
    rcases reading_after hreading with ⟨hreading, _⟩ | hl
    · exact hlater now hreading
    · cases hl
      have hnow := reading_of_exec h
      have hpast : acquiredAt ≤ w.clock := (hinv.past _ hgrant).1
      omega
  · cases hl
    have hgrants := granted_of_exec h
    refine ⟨?_, ⟨permitted, since_last ls i _⟩, ?_⟩
    · rw [hgrants.noted]
      exact List.mem_append_right _ List.mem_cons_self
    · intro now hreading
      rcases reading_after hreading with ⟨hreading, _⟩ | hl
      · rw [hok.1] at hreading
        cases hreading
        exact le_rfl
      · cases hl

theorem inv_step (hinv : Inv options ls w) (hok : okCall (rolesAfter ls i) c)
    (h : Exec options i w c res w') : Inv options (ls ++ [.run i c res]) w' where
  past := past_step hinv hok h
  apart := apart_step hinv hok h
  spaced := spaced_step hinv hok h
  ordered := ordered_step hinv h
  rows _ _ _ hrow hlease := rows_step hinv hok h hrow hlease
  last _ _ hrow _ hgrant hlease := last_step hinv hok h hrow hgrant hlease
  reading _ _ hj := reading_step hinv h hj
  drawn _ _ hj := drawn_step hinv hok h hj
  single _ _ _ hj hk := single_step hinv h hj hk
  held _ _ _ hj := held_step hinv hok h hj

/-- A new thread, or the end of one. -/
theorem inv_quiet {l : SystemLabel} (hl : ∀ j c res, l ≠ .run j c res) (hinv : Inv options ls w)
    (hrows : w'.rows = w.rows) (hclock : w'.clock = w.clock) (hnext : w'.nextLease = w.nextLease)
    (hevents : w'.events = w.events) : Inv options (ls ++ [l]) w' := by
  have hgrants : grants w' = grants w := by
    unfold grants
    rw [hevents]
  have hgroups : ∀ key, groupGrants key w' = groupGrants key w := by
    intro key
    unfold groupGrants
    rw [hgrants]
  have hreading : ∀ j now, (rolesAfter (ls ++ [l]) j).reading = some now →
      (rolesAfter ls j).reading = some now ∧ l ≠ .spawn j := by
    intro j now hj
    rcases reading_after hj with hsame | hrun
    · exact hsame
    · exact absurd hrun (hl _ _ _)
  have hdrawn : ∀ j leaseId, (rolesAfter (ls ++ [l]) j).drawn = some leaseId →
      (rolesAfter ls j).drawn = some leaseId := by
    intro j leaseId hj
    rcases drawn_after hj with ⟨hsame, _⟩ | hrun
    · exact hsame
    · exact absurd hrun (hl _ _ _)
  have hheld : ∀ j lease acquiredAt, (rolesAfter (ls ++ [l]) j).held = some (lease, acquiredAt) →
      (rolesAfter ls j).held = some (lease, acquiredAt) ∧ l ≠ .spawn j := by
    intro j lease acquiredAt hj
    rcases held_after hj with hsame | ⟨_, hrun⟩
    · exact hsame
    · exact absurd hrun (hl _ _ _)
  constructor
  · rw [hgrants, hclock, hnext]
    exact hinv.past
  · rw [hgrants]
    exact hinv.apart
  · rw [hgrants, hrows]
    exact hinv.spaced
  · intro key
    unfold readings
    rw [hgroups]
    exact hinv.ordered key
  · rw [hrows, hnext]
    exact hinv.rows
  · intro key row hrow
    rw [hrows] at hrow
    rw [hgrants, hgroups]
    exact hinv.last key row hrow
  · intro j now hj
    obtain ⟨hsame, hspawn⟩ := hreading j now hj
    obtain ⟨hpast, hsince⟩ := hinv.reading j now hsame
    rw [hclock]
    exact ⟨hpast, since_snoc hsince hspawn⟩
  · intro j leaseId hj
    rw [hgrants, hrows, hnext]
    exact hinv.drawn j leaseId (hdrawn j leaseId hj)
  · intro j k leaseId hj hk
    exact hinv.single j k leaseId (hdrawn j leaseId hj) (hdrawn k leaseId hk)
  · intro j lease acquiredAt hj
    obtain ⟨hsame, hspawn⟩ := hheld j lease acquiredAt hj
    obtain ⟨hgrant, ⟨permitted, hsince⟩, hlater⟩ := hinv.held j lease acquiredAt hsame
    rw [hgrants]
    refine ⟨hgrant, ⟨permitted, since_snoc hsince hspawn⟩, ?_⟩
    intro now hnow
    exact hlater now (hreading j now hnow).1

end Step

/-! ## Runs -/

section Runs

variable {options : GovernorOptions} {w : World} {ls : List SystemLabel} {pool : SystemPool}

/-- The invariant holds in every run, also in one whose steps are under a guard. -/
theorem inv_run (guard : World → SystemLabel → Prop) (hw : Fresh w)
    (h : Run (Guarded (PoolStep (machine options) (Startable options))
      (fun pool l => guard pool.world l)) (idle w) ls pool) :
    Inv options ls pool.world ∧ Follows protocol pool (rolesAfter ls) := by
  apply system_invariant guard (Inv options)
  · intro ls w i hinv
    exact inv_quiet (by simp) hinv rfl rfl rfl rfl
  · intro ls w i hinv
    exact inv_quiet (by simp) hinv rfl rfl rfl rfl
  · intro ls w i hinv
    exact inv_quiet (by simp) hinv rfl rfl rfl rfl
  · intro ls w i c res w' hinv hok hexec _
    exact inv_step hinv hok hexec
  · exact h
  · exact inv_nil hw

/-- The columns of a row that say who holds the lease, and until when. -/
def leaseColumns (row : ProviderReadThrottle) : Option Nat × Option Int × Option Int :=
  (row.leaseId, row.leaseExpiresAt, row.spacingUntil)

/-- A thread takes the lease of a group, whose last holder released it or let it expire. -/
structure Takes (options : GovernorOptions) (ls : List SystemLabel) (w w' : World) (i : Nat)
    (lease : TikTokReadLease) (now : Int) (key : RowKey) (row : ProviderReadThrottle) : Prop where
  group : lease.groupKey = key
  /-- The thread read the clock in the same call of `acquire`. -/
  reading : Since ls i (.run i .now (.ok now)) ∧ now ≤ w.clock
  free : row.leaseId = none ∨ ∃ expiresAt, row.leaseExpiresAt = some expiresAt ∧ expiresAt ≤ now
  row : w'.rows.get key = some (claimedRow options lease now row)
  noted : grants w' = grants w ++ [(lease, now)]

/-- A thread has the lease in the row from its own claim, the last grant of the group. -/
def HasLast (ls : List SystemLabel) (w : World) (i : Nat) (key : RowKey)
    (row : ProviderReadThrottle) : Prop :=
  ∃ lease acquiredAt permitted, row.leaseId = some lease.leaseId ∧
    Since ls i (.run i (.claim lease acquiredAt permitted) (.ok (1 : Nat))) ∧
    (groupGrants key w).getLast? = some (lease, acquiredAt)

theorem takes_of_claim (hinv : Inv options ls w) {w' : World} {i : Nat} {lease : TikTokReadLease}
    {now : Int} {permitted : Option Int} {res : Except Failure Nat}
    (hok : okCall (rolesAfter ls i) (.claim lease now permitted))
    (h : Exec options i w (.claim lease now permitted) res w') {key : RowKey}
    {row : ProviderReadThrottle} (hrow : w.rows.get key = some row) :
    w'.rows.get key = some row ∨ Takes options ls w w' i lease now key row := by
  rcases claim_of_exec h with hsame | hgrants
  · rw [hsame]
    exact Or.inl hrow
  · by_cases hkey : lease.groupKey = key
    · subst hkey
      obtain ⟨row1, hrow1, husable, htaken⟩ := hgrants.taken
      rw [hrow] at hrow1
      cases hrow1
      obtain ⟨hpast, hsince⟩ := hinv.reading i now hok.1
      exact Or.inr ⟨rfl, ⟨hsince, hpast⟩, free_of_usable husable, htaken, hgrants.noted⟩
    · rcases rowStep_of_exec h key with hsame | ⟨hnone, _⟩ | ⟨row1, row', hrow1, hrow', hchange⟩
      · rw [hsame]
        exact Or.inl hrow
      · rw [hrow] at hnone
        cases hnone
      · cases hchange with
        | claimed _ _ _ hgroup => exact absurd hgroup hkey

/-- In a run of any callers of the governor, beside the clients with their retries: the clocks of
the claims that were granted in a group are its spacing apart, no lease is granted twice, and the
lease of a group is written only by a claim that finds the last one released or expired, or by the
thread that was granted it last. -/
theorem read_leases_are_kept (hw : Fresh w) (h : SystemRun options (idle w) ls pool) :
    (∀ key, (readings key pool.world).Pairwise
      (fun (a b : Int) => a + groupSpacing options key ≤ b)) ∧
    ((grants pool.world).map (fun grant => grant.1.leaseId)).Nodup ∧
    ∀ l pool', PoolStep (machine options) (Startable options) pool l pool' →
      ∀ key row, pool.world.rows.get key = some row →
        (∃ row', pool'.world.rows.get key = some row' ∧ leaseColumns row' = leaseColumns row) ∨
        (∃ i lease now permitted res, l = .run i (.claim lease now permitted) res ∧
          Takes options ls pool.world pool'.world i lease now key row) ∨
        ∃ i c res, l = .run i c res ∧ HasLast ls pool.world i key row := by
  obtain ⟨hinv, hfollows⟩ := inv_run (fun _ _ => True) hw
    (h.mono (fun _ _ _ hstep => ⟨hstep, trivial⟩))
  refine ⟨hinv.ordered, hinv.apart, ?_⟩
  intro l pool' hstep key row hrow
  rcases step_cases hfollows hstep with ⟨i, _, hworld⟩ | ⟨i, _, hworld⟩ | ⟨i, c, res, rfl, hok, hexec⟩
  · refine Or.inl ⟨row, ?_, rfl⟩
    rw [hworld]
    exact hrow
  · refine Or.inl ⟨row, ?_, rfl⟩
    rcases hworld with hworld | hworld <;> rw [hworld] <;> exact hrow
  · rcases rowStep_of_exec hexec key with hsame | ⟨hnone, _⟩ | ⟨row1, row', hrow1, hrow', hchange⟩
    · refine Or.inl ⟨row, ?_, rfl⟩
      rw [hsame]
      exact hrow
    · rw [hrow] at hnone
      cases hnone
    · rw [hrow] at hrow1
      cases hrow1
      have hhas : ∀ lease, row.leaseId = some lease.leaseId → Holds (rolesAfter ls i) lease →
          HasLast ls pool.world i key row := by
        rintro lease hown ⟨acquiredAt, hheld⟩
        obtain ⟨_, ⟨permitted, hsince⟩, _⟩ := hinv.held i lease acquiredAt hheld
        exact ⟨lease, acquiredAt, permitted, hown, hsince, last_of_held hinv hrow hown hheld⟩
      cases hchange with
      | claimed lease now permitted hkey husable =>
        rcases takes_of_claim hinv hok hexec hrow with hsame | htakes
        · exact Or.inl ⟨row, hsame, rfl⟩
        · exact Or.inr (Or.inl ⟨i, lease, now, permitted, res, rfl, htakes⟩)
      | started lease now hkey hown =>
        exact Or.inr (Or.inr ⟨i, _, res, rfl, hhas lease hown hok.1⟩)
      | spaced lease now hkey hown =>
        exact Or.inr (Or.inr ⟨i, _, res, rfl, hhas lease hown hok.1⟩)
      | released lease hkey hown =>
        exact Or.inr (Or.inr ⟨i, _, res, rfl, hhas lease hown hok.1⟩)
      | cleared => exact Or.inl ⟨_, hrow', rfl⟩
      | cooled => exact Or.inl ⟨_, hrow', rfl⟩

end Runs

/-! ## A lease that is taken over -/

/-- The first holder is silent for longer than its lease. -/
def takeoverTurns : List SystemTurn :=
  spawnJob 0 (.caller conversations []) :: (performed 0 4 ++ (.run 0 (.performed 130000) ::
    spawnJob 1 (.caller conversations []) :: (performed 1 5 ++ [])))

theorem starts_takeover : Starts (Startable sampleOptions) takeoverTurns :=
  starts_job (starts_runs (starts_run (starts_job (starts_runs starts_nil))))

theorem fresh_empty : Fresh {} := by
  constructor
  · rfl
  · intro key row leaseId hrow
    cases hrow

theorem takeover_keeps_the_leases : ∃ ls pool, SystemRun sampleOptions (idle {}) ls pool ∧
    readings conversations.groupKey pool.world = [0, 130000] ∧
    ((grants pool.world).map (fun grant => grant.1.leaseId)).Nodup := by
  have hplay : (playJobs (fun _ _ => true) takeoverTurns (idle {})).map
      (fun r => readings conversations.groupKey r.2.world) = some [0, 130000] := by decide
  obtain ⟨ls, pool, hrun, hreadings⟩ := exists_run_of_jobs starts_takeover hplay
  have hsystem : SystemRun sampleOptions (idle {}) ls pool :=
    hrun.mono (fun _ _ _ hstep => hstep.1)
  exact ⟨ls, pool, hsystem, hreadings, (read_leases_are_kept fresh_empty hsystem).2.1⟩

end tiktok_outreach.read_leases
