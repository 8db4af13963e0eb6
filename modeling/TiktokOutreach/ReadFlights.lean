-- The requests of a lease group that are under way: one at a time, as long as every retry
-- renews a lease that is still its own.
import TiktokOutreach.ReadLeases

open runs executions executions.Js tables tiktok_outreach.read_governor
  tiktok_outreach.read_only_client tiktok_outreach.read_system tiktok_outreach.read_leases

namespace tiktok_outreach.read_flights

/-! ## Reads -/

/-- A thread that reads as a client of the governor does. -/
def Reads (options : GovernorOptions) (p : Prog Call (fun c => Except Failure c.Result) Unit) :
    Prop :=
  ∃ client request, p = (Job.requestRaw client request).thread options

theorem startable_of_reads {options : GovernorOptions}
    {p : Prog Call (fun c => Except Failure c.Result) Unit} (h : Reads options p) :
    Startable options p := by
  obtain ⟨client, request, rfl⟩ := h
  exact ⟨_, rfl⟩

/-- A lease is renewed only while it runs, and asked for only between two requests. -/
def okRenewal (r : Role) : Call → Prop
  | .claim _ _ _ => r.flying = false
  | .requestStarted _ _ => r.startedAt.isSome
  | _ => True

def renewals : Protocol Call (fun c => Except Failure c.Result) Role where
  ok := okRenewal
  next := nextRole

/-- The calls that renew no lease and ask for none. -/
def unconcerned : Call → Bool
  | .claim _ _ _ | .requestStarted _ _ => false
  | _ => true

theorem ok_unconcerned {c : Call} (h : unconcerned c = true) (r : Role) : okRenewal r c := by
  cases c <;> trivial

section Renewals

variable {L : Type} {lease : TikTokReadLease} {governor : GovernorOptions}
  {options : ClientOptions}

theorem within_unconcerned {c : Call} (h : unconcerned c = true) :
    Within renewals (fun _ => True) (query c : Program L c.Result) :=
  within_call (fun r _ => ok_unconcerned h r) (fun _ _ _ => trivial)

theorem within_now_unconcerned :
    Within renewals (fun _ => True) (query .now : Program L Int) := within_unconcerned rfl

theorem within_release_unconcerned :
    Within renewals (fun _ => True) (release lease : Program L Unit) := within_unconcerned rfl

theorem within_succeeded_unconcerned (event : TikTokReadGovernorEvent) :
    Within renewals (fun _ => True) (succeeded lease event : Program L Unit) := by
  unfold succeeded
  apply within_bind within_now_unconcerned
  intro now
  apply within_bind (within_unconcerned rfl)
  intro _
  apply within_bind (within_unconcerned rfl)
  intro _
  exact within_release_unconcerned

theorem within_throttled_unconcerned (event : TikTokReadGovernorEvent) :
    Within renewals (fun _ => True) (throttled governor lease event : Program L Int) := by
  unfold throttled
  apply within_bind (within_unconcerned rfl)
  intro current
  apply within_bind
  · unfold localBackoffMs
    apply within_ite
    · unfold configuredMarketplaceRetryDelayMs
      apply within_bind (within_unconcerned rfl)
      intro seconds
      exact within_pure _
    · apply within_ite
      · exact within_pure _
      · exact within_pure _
  · intro backoffMs
    apply within_bind within_now_unconcerned
    intro now
    apply within_bind (within_unconcerned rfl)
    intro _
    apply within_bind within_release_unconcerned
    intro _
    exact within_pure _

theorem within_providerThrottled_unconcerned (response : Response) (code : Option Int)
    (requestId : Option String) (retryAfter : Option ℚ) :
    Within renewals (fun _ => True)
      (providerThrottled governor lease response code requestId retryAfter) := by
  unfold providerThrottled
  apply within_bind (within_throttled_unconcerned _)
  intro nextPermittedAt
  have hfinalized : Within renewals (fun _ => True) setFinalized := fun _ _ _ => trivial
  apply within_bind hfinalized
  intro _
  exact within_throw _

theorem within_malformed_unconcerned (response : Response) (retryAfter : Option ℚ)
    (message : String) :
    Within renewals (fun _ => True) (malformed governor lease response retryAfter message) := by
  unfold malformed
  apply within_ite
  · exact within_providerThrottled_unconcerned _ _ _ _
  · exact within_throw _

/-- A thread whose lease runs. -/
def Runs (r : Role) : Prop := r.startedAt.isSome = true ∧ r.flying = false

theorem lawful_handleResponse {r : Role} (hr : Runs r) {retry : Option Retry}
    (hretry : ∀ again, retry = some again → ∀ retryAfter r, Runs r →
      Lawful renewals (fun _ => True) (again retryAfter) r)
    (response : Response) (retryAfter : Option ℚ) :
    Lawful renewals (fun _ => True) (handleResponse governor lease response retryAfter retry) r := by
  unfold handleResponse
  split
  · exact within_malformed_unconcerned _ _ _ r trivial
  · exact within_malformed_unconcerned _ _ _ r trivial
  · apply lawful_ite
    · intro _
      apply lawful_bind (within_succeeded_unconcerned _ r trivial)
      intro _ _ _
      exact lawful_locals (lawful_pure trivial)
    · intro _
      unfold rejected
      split
      · exact within_providerThrottled_unconcerned _ _ _ _ r trivial
      · exact hretry _ rfl _ r hr
      · exact lawful_throw trivial

theorem triple_requestStarted_runs :
    Triple renewals Runs (requestStarted lease : Program L Int) (fun _ => Runs)
      (fun _ _ => True) := by
  unfold requestStarted
  have hnow : Triple renewals Runs (query .now : Program L Int) (fun _ => Runs)
      (fun _ _ => True) :=
    triple_call (fun _ _ => trivial) (fun r now hr => hr) (fun _ _ _ => trivial)
  apply triple_bind hnow
  intro now
  have hstarted : Triple renewals Runs (query (.requestStarted lease now) : Program L Unit)
      (fun _ => Runs) (fun _ _ => True) :=
    triple_call (fun r hr => hr.1) (fun r _ hr => ⟨rfl, hr.2⟩) (fun _ _ _ => trivial)
  apply triple_bind hstarted
  intro _
  exact triple_pure (fun r hr => hr)

theorem triple_exchange_runs (startedAt : Int) :
    Triple renewals Runs (exchange lease startedAt) (fun _ => Runs) (fun _ => Runs) := by
  unfold exchange
  have hsend : Triple renewals Runs (query (.send lease startedAt) : Program Bool Unit)
      (fun _ r => r.startedAt.isSome = true) (fun _ => Runs) :=
    triple_call (fun _ _ => trivial) (fun r _ hr => hr.1) (fun r _ hr => hr)
  apply triple_bind hsend
  intro _
  have hreceive : Triple renewals (fun r => r.startedAt.isSome = true)
      (query (.receive lease) : Program Bool Response) (fun _ => Runs) (fun _ => Runs) :=
    triple_call (fun _ _ => trivial) (fun r _ hr => ⟨hr, rfl⟩) (fun r _ hr => ⟨hr, rfl⟩)
  apply triple_tryCatch (Y := fun _ => Runs)
  · apply triple_bind hreceive
    intro response
    exact triple_pure (fun r hr => hr)
  · intro e
    exact triple_pure (fun r hr => hr)

theorem triple_of_lawful {α : Type} {pre : Role → Prop} {m : Program L α}
    (h : ∀ r, pre r → Lawful renewals (fun _ => True) m r) :
    Triple renewals pre m (fun _ _ => True) (fun _ _ => True) := by
  intro l r hr
  apply Prog.conforms_mono (h r hr l)
  rintro ⟨out, l'⟩ r' _
  cases out <;> trivial

theorem lawful_of_triple {α : Type} {pre : Role → Prop} {m : Program L α}
    (h : Triple renewals pre m (fun _ _ => True) (fun _ _ => True)) {r : Role} (hr : pre r) :
    Lawful renewals (fun _ => True) m r :=
  fun l => Prog.conforms_mono (h l r hr) (fun _ _ _ => trivial)

theorem triple_turn_runs {retry : Option Retry}
    (hretry : ∀ again, retry = some again → ∀ retryAfter r, Runs r →
      Lawful renewals (fun _ => True) (again retryAfter) r) :
    Triple renewals Runs (turn governor lease retry) (fun _ _ => True) (fun _ _ => True) := by
  unfold turn
  apply triple_bind triple_requestStarted_runs
  intro startedAt
  have hnow : Triple renewals Runs (query .now : Program Bool Int) (fun _ => Runs)
      (fun _ _ => True) :=
    triple_call (fun _ _ => trivial) (fun r _ hr => hr) (fun _ _ _ => trivial)
  apply triple_bind hnow
  intro _
  have hexchange : Triple renewals Runs (exchange lease startedAt) (fun _ => Runs)
      (fun _ _ => True) :=
    triple_conseq (triple_exchange_runs startedAt) (fun _ hr => hr) (fun _ _ hr => hr)
      (fun _ _ _ => trivial)
  apply triple_bind hexchange
  intro answer
  split
  · exact triple_of_lawful (fun r hr => hretry _ rfl _ r hr)
  · exact triple_throw (fun _ _ => trivial)
  · apply triple_bind hnow
    intro now
    exact triple_of_lawful (fun r hr => lawful_handleResponse hr hretry _ _)

theorem triple_requestLoop_runs (left : Nat) :
    Triple renewals Runs (requestLoop governor options lease left) (fun _ _ => True)
      (fun _ _ => True) := by
  induction left with
  | zero =>
    apply triple_turn_runs
    intro again hagain
    cases hagain
  | succ left ih =>
    apply triple_turn_runs
    intro again hagain retryAfter r hr
    split at hagain
    · cases hagain
      have hbackoff : Triple renewals Runs (backoff (1 - left) retryAfter) (fun _ => Runs)
          (fun _ _ => True) := by
        unfold backoff
        have hjitter : Triple renewals Runs (query .jitter : Program Bool Nat) (fun _ => Runs)
            (fun _ _ => True) :=
          triple_call (fun _ _ => trivial) (fun r _ hr => hr) (fun _ _ _ => trivial)
        apply triple_bind hjitter
        intro jitter
        exact triple_call (fun _ _ => trivial) (fun r _ hr => hr) (fun _ _ _ => trivial)
      apply lawful_of_triple _ hr
      apply triple_bind hbackoff
      intro _
      exact ih
    · cases hagain

/-- A lease that is granted runs from the clock of its claim. -/
theorem triple_acquire_runs (input : ReadInput) :
    Triple renewals (fun r => r.flying = false) (acquire input : Program L TikTokReadLease)
      (fun _ => Runs) (fun _ _ => True) := by
  unfold acquire
  have hquery : ∀ c : Call, unconcerned c = true →
      (∀ r res, (nextRole r c res).flying = r.flying ∨ (nextRole r c res).flying = false) →
      Triple renewals (fun r => r.flying = false) (query c : Program L c.Result)
        (fun _ r => r.flying = false) (fun _ _ => True) := by
    intro c hc hflying
    apply triple_call
    · intro r _
      exact ok_unconcerned hc r
    · intro r a hr
      rcases hflying r (.ok a) with hsame | hnot
      · exact hsame.trans hr
      · exact hnot
    · intro _ _ _
      trivial
  apply triple_bind (hquery .now rfl (fun r res => by cases res <;> exact Or.inl rfl))
  intro now
  apply triple_bind (hquery .newLease rfl (fun r res => by cases res <;> exact Or.inl rfl))
  intro leaseId
  apply triple_bind (hquery (.upsert _) rfl (fun r res => by cases res <;> exact Or.inl rfl))
  intro operationState
  split
  · exact triple_throw (fun _ _ => trivial)
  · apply triple_bind (hquery (.upsert _) rfl (fun r res => by cases res <;> exact Or.inl rfl))
    intro _
    have hclaim : Triple renewals (fun r => r.flying = false)
        (query (.claim ⟨input, leaseId⟩ now operationState.nextPermittedAt) : Program L Nat)
        (fun claimed r => claimed = 1 → Runs r) (fun _ _ => True) := by
      apply triple_call
      · intro r hr
        exact hr
      · intro r claimed hr hone
        have hone : claimed = 1 := hone
        exact ⟨by simp [renewals, nextRole, hone], hr⟩
      · intro _ _ _
        trivial
    apply triple_bind hclaim
    intro claimed
    by_cases hone : claimed = (1 : Nat)
    · rw [if_pos hone]
      exact triple_pure (fun r hr => hr hone)
    · rw [if_neg hone]
      have hfind : Triple renewals (fun r => claimed = 1 → Runs r)
          (query (.find input.groupKey) : Program L ProviderReadThrottle) (fun _ _ => True)
          (fun _ _ => True) :=
        triple_call (fun _ _ => trivial) (fun _ _ _ => trivial) (fun _ _ _ => trivial)
      apply triple_bind hfind
      intro current
      exact triple_throw (fun _ _ => trivial)

theorem triple_requestRaw_runs (request : ReadRequest) :
    Triple renewals (fun r => r.flying = false) (requestRaw governor options request)
      (fun _ _ => True) (fun _ _ => True) := by
  unfold requestRaw
  split
  · exact triple_throw (fun _ _ => trivial)
  · split
    · exact triple_throw (fun _ _ => trivial)
    · apply triple_bind (triple_acquire_runs _)
      intro lease
      have hrelease : Within renewals (fun _ => True) (releaseUnfinalized lease) := by
        intro r _
        unfold releaseUnfinalized
        apply lawful_getLocals
        intro finalized
        apply lawful_ite
        · intro _
          exact lawful_pure trivial
        · intro _
          apply within_tryCatch within_release_unconcerned _ r trivial
          intro _
          exact within_pure _
      apply triple_of_lawful
      intro r hr
      exact lawful_tryFinally (lawful_of_triple (triple_requestLoop_runs 2) hr)
        (fun r' _ => hrelease r' trivial)

end Renewals

/-- The reads follow both protocols. -/
theorem reads_conform {options : GovernorOptions}
    {p : Prog Call (fun c => Except Failure c.Result) Unit} (h : Reads options p) :
    p.Conforms (protocol.both renewals) start (fun _ _ => True) := by
  have hstartable := startable_conforms (startable_of_reads h)
  have hrenewals : p.Conforms renewals start (fun _ _ => True) := by
    obtain ⟨client, request, rfl⟩ := h
    exact conforms_thread (triple_requestRaw_runs request) rfl
  have hnext : renewals.next = protocol.next := rfl
  exact Prog.conforms_both hnext hstartable hrenewals

/-! ## The conditions -/

/-- The lease has been used for a request. -/
def used (w : World) (lease : TikTokReadLease) : Bool := w.events.contains (.sent lease)

/-- The row of the group has the lease. -/
def owned (w : World) (lease : TikTokReadLease) : Bool :=
  (w.rows.get lease.groupKey).any (fun row => row.leaseId = some lease.leaseId)

/-- No request takes longer than the lease, from the renewal before it, and the first renewal
comes before the lease has run out. -/
def inTime (options : GovernorOptions) (w : World) (l : SystemLabel) : Bool :=
  w.flights.all (fun flight => w.clock < flight.startedAt + options.leaseMs) &&
    match l with
    | .run _ (.send _ startedAt) _ => w.clock < startedAt + options.leaseMs
    | .run _ (.requestStarted lease _) _ => used w lease ||
      (grants w).any (fun grant => grant.1 = lease && w.clock < grant.2 + options.leaseMs)
    | _ => true

/-- A retry renews a lease that is its own. -/
def renewsOwn (w : World) : SystemLabel → Bool
  | .run _ (.requestStarted lease _) _ => !used w lease || owned w lease
  | _ => true

/-- No two requests of a group are under way. -/
def OneInFlight (w : World) : Prop :=
  w.flights.Pairwise (fun flight flight' => flight.lease.groupKey ≠ flight'.lease.groupKey)

/-! ## Roles after a step -/

section After

variable {ls : List SystemLabel} {l : SystemLabel} {j : Nat}

/-- A lease runs since its claim, or since its renewal, or since before the step. -/
theorem started_after {lease : TikTokReadLease} {acquiredAt startedAt : Int}
    (hheld : (rolesAfter (ls ++ [l]) j).held = some (lease, acquiredAt))
    (hstarted : (rolesAfter (ls ++ [l]) j).startedAt = some startedAt) :
    ((rolesAfter ls j).held = some (lease, acquiredAt) ∧
        (rolesAfter ls j).startedAt = some startedAt ∧
        (∀ lease' now res, l ≠ .run j (.requestStarted lease' now) res) ∧
        ∀ lease' res, l ≠ .run j (.release lease') res) ∨
      (startedAt = acquiredAt ∧ ∃ permitted,
        l = .run j (.claim lease acquiredAt permitted) (.ok (1 : Nat))) ∨
      ((rolesAfter ls j).held = some (lease, acquiredAt) ∧
        ∃ lease', l = .run j (.requestStarted lease' startedAt) (.ok ())) := by
  rcases staged_cases protocol start ls l j with ⟨hsame, _, hrun⟩ | ⟨hstart, _⟩ | ⟨c, res, rfl, hnext⟩
  · rw [rolesAfter, hsame] at hheld hstarted
    exact Or.inl ⟨hheld, hstarted, fun _ _ _ => hrun _ _, fun _ _ => hrun _ _⟩
  · rw [rolesAfter, hstart] at hheld
    cases hheld
  · rw [rolesAfter, hnext] at hheld hstarted
    cases c with
    | claim lease' now permitted =>
      cases res with
      | error e => cases hheld
      | ok count =>
        by_cases hcount : count = 1
        · simp only [protocol, nextRole, hcount, if_true, Option.some.injEq, Prod.mk.injEq]
            at hheld hstarted
          obtain ⟨rfl, rfl⟩ := hheld
          refine Or.inr (Or.inl ⟨hstarted.symm, permitted, ?_⟩)
          rw [hcount]
        · simp [protocol, nextRole, hcount] at hheld
    | requestStarted lease' now =>
      cases res with
      | error e => cases hstarted
      | ok _ =>
        cases hstarted
        exact Or.inr (Or.inr ⟨hheld, lease', rfl⟩)
    | release lease' => cases res <;> cases hstarted
    | _ => cases res <;> exact Or.inl ⟨hheld, hstarted, by simp, by simp⟩

/-- A thread has a request under way until the exchange is over. -/
theorem flying_after (hflying : (rolesAfter ls j).flying = true) :
    (rolesAfter (ls ++ [l]) j).flying = true ∨ rolesAfter (ls ++ [l]) j = start ∨
      ∃ lease res, l = .run j (.receive lease) res := by
  rcases staged_cases protocol start ls l j with ⟨hsame, _⟩ | ⟨hstart, _⟩ | ⟨c, res, rfl, hnext⟩
  · rw [rolesAfter, hsame]
    exact Or.inl hflying
  · exact Or.inr (Or.inl hstart)
  · rw [rolesAfter, hnext]
    cases c with
    | receive lease => exact Or.inr (Or.inr ⟨lease, res, rfl⟩)
    | _ => cases res <;> first | exact Or.inl hflying | exact Or.inl rfl

end After

/-! ## The invariant -/

/-- The row of the group has the lease until it has run for its duration. -/
def Leased (options : GovernorOptions) (w : World) (lease : TikTokReadLease) (startedAt : Int) :
    Prop :=
  ∃ row expiresAt, w.rows.get lease.groupKey = some row ∧ row.leaseId = some lease.leaseId ∧
    row.leaseExpiresAt = some expiresAt ∧ startedAt + options.leaseMs ≤ expiresAt

structure Flying (options : GovernorOptions) (ls : List SystemLabel) (w : World) : Prop where
  leases : Inv options ls w
  /-- A lease runs from its claim or later. -/
  later : ∀ i lease acquiredAt startedAt, (rolesAfter ls i).held = some (lease, acquiredAt) →
    (rolesAfter ls i).startedAt = some startedAt → acquiredAt ≤ startedAt
  owner : ∀ i j lease lease' acquiredAt acquiredAt',
    (rolesAfter ls i).held = some (lease, acquiredAt) →
    (rolesAfter ls j).held = some (lease', acquiredAt') → lease.leaseId = lease'.leaseId → i = j
  /-- A lease that has not run out is in its row. -/
  leased : ∀ i lease acquiredAt startedAt, (rolesAfter ls i).held = some (lease, acquiredAt) →
    (rolesAfter ls i).startedAt = some startedAt → w.clock < startedAt + options.leaseMs →
    Leased options w lease startedAt
  /-- So is the lease of a request that is under way. -/
  flights : ∀ flight ∈ w.flights, flight.lease.leaseId < w.nextLease ∧
    Leased options w flight.lease flight.startedAt
  /-- Who holds the lease of such a request has it under way. -/
  flying : ∀ flight ∈ w.flights, ∀ i lease acquiredAt,
    (rolesAfter ls i).held = some (lease, acquiredAt) → lease.leaseId = flight.lease.leaseId →
    i = flight.thread ∧ (rolesAfter ls i).flying = true
  single : OneInFlight w

section Step

variable {options : GovernorOptions} {ls : List SystemLabel} {w w' : World} {i : Nat} {c : Call}
  {res : Except Failure c.Result}

/-- The requests under way after a step. -/
inductive FlightStep (w w' : World) (i : Nat) : (c : Call) → Except Failure c.Result → Prop
  | same (c : Call) (res : Except Failure c.Result) (hc : ∀ lease, c ≠ .receive lease)
      (h : w'.flights = w.flights) : FlightStep w w' i c res
  | sent (lease : TikTokReadLease) (startedAt : Int)
      (h : w'.flights = w.flights ++ [⟨i, lease, startedAt⟩]) :
      FlightStep w w' i (.send lease startedAt) (.ok ())
  | ended (lease : TikTokReadLease) (res : Except Failure Response)
      (h : w'.flights = w.flights.filter (fun flight => flight.thread ≠ i)) :
      FlightStep w w' i (.receive lease) res

theorem flights_of_performs {a : c.Result} (h : Performs options i w c a w') :
    w'.flights = w.flights ∨
      (∃ lease startedAt, c = .send lease startedAt ∧
        w'.flights = w.flights ++ [⟨i, lease, startedAt⟩]) ∨
      ∃ lease, c = .receive lease ∧
        w'.flights = w.flights.filter (fun flight => flight.thread ≠ i) := by
  cases h with
  | upsert key =>
    refine Or.inl ?_
    unfold World.upsert
    split <;> rfl
  | claim lease now permitted =>
    refine Or.inl ?_
    unfold World.claim
    split
    · rfl
    · split <;> rfl
  | storeCooldown lease count nextPermittedAt retryAfterMs requestId =>
    refine Or.inl ?_
    unfold World.storeCooldown
    split <;> rfl
  | send lease startedAt => exact Or.inr (Or.inl ⟨lease, startedAt, rfl, rfl⟩)
  | receive lease response => exact Or.inr (Or.inr ⟨lease, rfl, rfl⟩)
  | _ => exact Or.inl rfl

/-- A request that is sent was sent, and one that was waited for is over. -/
theorem flights_of_exec (h : Exec options i w c res w') : FlightStep w w' i c res := by
  cases h with
  | done w1 _ a clock hperforms hclock =>
    cases c with
    | send lease startedAt =>
      cases hperforms with
      | send => exact .sent lease startedAt rfl
      | other _ _ hc => cases hc
    | receive lease =>
      cases hperforms with
      | receive => exact .ended lease _ rfl
      | other _ _ hc => cases hc
    | _ =>
      refine .same _ _ (by simp) ?_
      rcases flights_of_performs hperforms with hsame | ⟨_, _, hc, _⟩ | ⟨_, hc, _⟩
      · exact hsame
      · cases hc
      · cases hc
  | lost w1 _ a e clock hc hperforms hclock =>
    cases c with
    | send lease startedAt => cases hc
    | receive lease =>
      cases hperforms with
      | receive => exact .ended lease _ rfl
      | other _ _ hc => cases hc
    | _ =>
      refine .same _ _ (by simp) ?_
      rcases flights_of_performs hperforms with hsame | ⟨_, _, hc, _⟩ | ⟨_, hc, _⟩
      · exact hsame
      · cases hc
      · cases hc
  | failed _ e clock hc hclock =>
    refine .same _ _ ?_ rfl
    rintro lease rfl
    cases hc

/-- A renewal that was answered set the end of the lease in its row. -/
theorem renewed_of_exec {lease : TikTokReadLease} {now : Int} {row : ProviderReadThrottle}
    (h : Exec options i w (.requestStarted lease now) (.ok ()) w')
    (hrow : w.rows.get lease.groupKey = some row) (hown : row.leaseId = some lease.leaseId) :
    w'.rows.get lease.groupKey =
      some { row with leaseExpiresAt := some (now + options.leaseMs) } := by
  rcases h.effect with ⟨a, w1, clock, hperforms, _, rfl, _⟩ | ⟨_, _, _, _, hnot⟩
  · cases hperforms with
    | requestStarted => simp [World.requestStarted, hrow, ownRow, hown]
    | other _ _ hc => cases hc
  · exact absurd rfl (hnot ())

/-- A lease that has not run out stays in its row, if its own thread does not renew or
release it. -/
theorem leased_keeps (hinv : Inv options ls w) (hok : okCall (rolesAfter ls i) c)
    (h : Exec options i w c res w') {lease : TikTokReadLease} {startedAt : Int}
    (hleased : Leased options w lease startedAt) (hclock : w.clock < startedAt + options.leaseMs)
    (hother : ∀ lease', Holds (rolesAfter ls i) lease' → lease'.leaseId = lease.leaseId →
      (∀ now, c ≠ .requestStarted lease' now) ∧ c ≠ .release lease') :
    Leased options w' lease startedAt := by
  obtain ⟨row, expiresAt, hrow, hown, hexpires, hle⟩ := hleased
  rcases rowStep_of_exec h lease.groupKey with hsame | ⟨hnone, _⟩ | ⟨row1, row', hrow1, hrow', hchange⟩
  · exact ⟨row, expiresAt, hsame.trans hrow, hown, hexpires, hle⟩
  · rw [hrow] at hnone
    cases hnone
  · rw [hrow] at hrow1
    cases hrow1
    cases hchange with
    | claimed lease' now permitted hkey husable =>
      have hnow := (hinv.reading i now hok.1).1
      rcases free_of_usable husable with hfree | ⟨expiresAt', hexpires', hpast⟩
      · rw [hown] at hfree
        cases hfree
      · rw [hexpires] at hexpires'
        cases hexpires'
        omega
    | started lease' now hkey hown' =>
      have hid : lease'.leaseId = lease.leaseId := Option.some.inj (hown'.symm.trans hown)
      exact absurd rfl ((hother lease' hok.1 hid).1 now)
    | released lease' hkey hown' =>
      have hid : lease'.leaseId = lease.leaseId := Option.some.inj (hown'.symm.trans hown)
      exact absurd rfl (hother lease' hok.1 hid).2
    | _ => exact ⟨_, expiresAt, hrow', hown, hexpires, hle⟩

theorem holds_unique {r : Role} {lease lease' : TikTokReadLease} {acquiredAt : Int}
    (h : Holds r lease) (h' : r.held = some (lease', acquiredAt)) : lease = lease' := by
  obtain ⟨_, hheld⟩ := h
  rw [hheld] at h'
  cases h'
  rfl

/-- Under the conditions a lease is renewed while its row has it. -/
theorem owned_of_renewal (hflying : Flying options ls w) {lease : TikTokReadLease} {now : Int}
    {res : Except Failure Unit} (hok : okCall (rolesAfter ls i) (.requestStarted lease now))
    (hrenewal : okRenewal (rolesAfter ls i) (.requestStarted lease now))
    (htime : inTime options w (.run i (.requestStarted lease now) res) = true)
    (hown : renewsOwn w (.run i (.requestStarted lease now) res) = true) :
    ∃ row, w.rows.get lease.groupKey = some row ∧ row.leaseId = some lease.leaseId := by
  have hcases : used w lease = true ∨
      ∃ acquiredAt, (lease, acquiredAt) ∈ grants w ∧ w.clock < acquiredAt + options.leaseMs := by
    simp only [inTime, Bool.and_eq_true, Bool.or_eq_true, List.any_eq_true, decide_eq_true_eq]
      at htime
    rcases htime.2 with hused | ⟨⟨lease', acquiredAt⟩, hgrant, rfl, hclock⟩
    · exact Or.inl hused
    · exact Or.inr ⟨acquiredAt, hgrant, hclock⟩
  rcases hcases with hused | ⟨acquiredAt, hgrant, hclock⟩
  · simp only [renewsOwn, hused, Bool.not_true, Bool.false_or, owned, Option.any_eq_true,
      decide_eq_true_eq] at hown
    exact hown
  · obtain ⟨acquiredAt', hheld⟩ := hok.1
    obtain ⟨startedAt, hstarted⟩ := Option.isSome_iff_exists.1 hrenewal
    have hlater := hflying.later i lease acquiredAt' startedAt hheld hstarted
    -- a lease is granted once
    have hsame : acquiredAt' = acquiredAt := by
      have hgrant' := (hflying.leases.held i lease acquiredAt' hheld).1
      have hinj := List.inj_on_of_nodup_map hflying.leases.apart hgrant' hgrant rfl
      exact (Prod.mk.inj hinj).2
    obtain ⟨row, _, hrow, hlease, _⟩ :=
      hflying.leased i lease acquiredAt' startedAt hheld hstarted (by omega)
    exact ⟨row, hrow, hlease⟩

theorem leased_step (hflying : Flying options ls w) (hok : okCall (rolesAfter ls i) c)
    (hrenewal : okRenewal (rolesAfter ls i) c) (h : Exec options i w c res w')
    (htime : inTime options w (.run i c res) = true) (hown : renewsOwn w (.run i c res) = true)
    {j : Nat} {lease : TikTokReadLease} {acquiredAt startedAt : Int}
    (hheld : (rolesAfter (ls ++ [.run i c res]) j).held = some (lease, acquiredAt))
    (hstarted : (rolesAfter (ls ++ [.run i c res]) j).startedAt = some startedAt)
    (hclock : w'.clock < startedAt + options.leaseMs) : Leased options w' lease startedAt := by
  rcases started_after hheld hstarted with
    ⟨hbefore, hsince, hnoRenewal, hnoRelease⟩ | ⟨rfl, permitted, hl⟩ | ⟨hbefore, lease', hl⟩
  · have hruns : w.clock < startedAt + options.leaseMs := by
      have hpast := clock_of_exec h
      omega
    apply leased_keeps hflying.leases hok h
      (hflying.leased j lease acquiredAt startedAt hbefore hsince hruns) hruns
    rintro lease' ⟨acquiredAt', hheld'⟩ hid
    have hij := hflying.owner i j lease' lease acquiredAt' acquiredAt hheld' hbefore hid
    subst hij
    constructor
    · rintro now rfl
      exact hnoRenewal lease' now res rfl
    · rintro rfl
      exact hnoRelease lease' res rfl
  · cases hl
    obtain ⟨row, hrow, husable, htaken⟩ := (granted_of_exec h).taken
    exact ⟨_, _, htaken, rfl, rfl, le_rfl⟩
  · cases hl
    have hsame := holds_unique hok.1 hbefore
    subst hsame
    obtain ⟨row, hrow, hlease⟩ := owned_of_renewal hflying hok hrenewal htime hown
    exact ⟨_, _, renewed_of_exec h hrow hlease, hlease, rfl, le_rfl⟩

theorem later_step (hflying : Flying options ls w) (hok : okCall (rolesAfter ls i) c)
    {j : Nat} {lease : TikTokReadLease} {acquiredAt startedAt : Int}
    (hheld : (rolesAfter (ls ++ [.run i c res]) j).held = some (lease, acquiredAt))
    (hstarted : (rolesAfter (ls ++ [.run i c res]) j).startedAt = some startedAt) :
    acquiredAt ≤ startedAt := by
  rcases started_after hheld hstarted with ⟨hbefore, hsince, _⟩ | ⟨rfl, _⟩ | ⟨hbefore, lease', hl⟩
  · exact hflying.later j lease acquiredAt startedAt hbefore hsince
  · exact le_rfl
  · cases hl
    exact (hflying.leases.held i lease acquiredAt hbefore).2.2 startedAt hok.2.1

/-- A lease that is granted now is no lease of another thread. -/
theorem new_of_claim (hflying : Flying options ls w) {lease : TikTokReadLease} {now : Int}
    {permitted : Option Int} (hok : okCall (rolesAfter ls i) (.claim lease now permitted))
    {j : Nat} {lease' : TikTokReadLease} {acquiredAt : Int}
    (hheld : (rolesAfter ls j).held = some (lease', acquiredAt)) :
    lease'.leaseId ≠ lease.leaseId :=
  (drawn_of_claim hflying.leases hok).2.2.1 _ (hflying.leases.held j lease' acquiredAt hheld).1

theorem owner_step (hflying : Flying options ls w) (hok : okCall (rolesAfter ls i) c)
    {j k : Nat} {lease lease' : TikTokReadLease} {acquiredAt acquiredAt' : Int}
    (hj : (rolesAfter (ls ++ [.run i c res]) j).held = some (lease, acquiredAt))
    (hk : (rolesAfter (ls ++ [.run i c res]) k).held = some (lease', acquiredAt'))
    (hid : lease.leaseId = lease'.leaseId) : j = k := by
  rcases held_after hj with ⟨hj0, _⟩ | ⟨permitted, hl⟩
  · rcases held_after hk with ⟨hk0, _⟩ | ⟨permitted, hl⟩
    · exact hflying.owner j k lease lease' acquiredAt acquiredAt' hj0 hk0 hid
    · cases hl
      exact absurd hid (new_of_claim hflying hok hj0)
  · rcases held_after hk with ⟨hk0, _⟩ | ⟨permitted', hl'⟩
    · cases hl
      exact absurd hid.symm (new_of_claim hflying hok hk0)
    · rw [hl] at hl'
      cases hl'
      rfl

/-- A request that is under way after a step was under way before, or is sent by it. -/
theorem mem_flights (h : Exec options i w c res w') {flight : Flight}
    (hmem : flight ∈ w'.flights) :
    (flight ∈ w.flights ∧ ∀ lease, c = .receive lease → flight.thread ≠ i) ∨
      ∃ lease startedAt, c = .send lease startedAt ∧ HEq res (Except.ok () : Except Failure Unit) ∧
        flight = ⟨i, lease, startedAt⟩ := by
  cases flights_of_exec h with
  | same _ _ hc hsame =>
    rw [hsame] at hmem
    exact Or.inl ⟨hmem, fun lease hreceive => absurd hreceive (hc lease)⟩
  | sent lease startedAt hsent =>
    rw [hsent, List.mem_append, List.mem_singleton] at hmem
    rcases hmem with hmem | hlast
    · exact Or.inl ⟨hmem, fun _ hreceive => nomatch hreceive⟩
    · exact Or.inr ⟨lease, startedAt, rfl, HEq.rfl, hlast⟩
  | ended lease _ hover =>
    rw [hover, List.mem_filter] at hmem
    exact Or.inl ⟨hmem.1, fun _ _ => of_decide_eq_true hmem.2⟩

theorem nextLease_le (h : Exec options i w c res w') : w.nextLease ≤ w'.nextLease := by
  rcases nextLease_of_exec h with hsame | ⟨_, hnext⟩ <;> omega

/-- The lease with which a request is sent is in its row. -/
theorem leased_of_send (hflying : Flying options ls w) {lease : TikTokReadLease} {startedAt : Int}
    {res : Except Failure Unit} (hok : okCall (rolesAfter ls i) (.send lease startedAt))
    (htime : inTime options w (.run i (.send lease startedAt) res) = true) :
    w.clock < startedAt + options.leaseMs ∧ Leased options w lease startedAt := by
  have hclock : w.clock < startedAt + options.leaseMs := by
    simp only [inTime, Bool.and_eq_true, decide_eq_true_eq] at htime
    exact htime.2
  obtain ⟨acquiredAt, hheld⟩ := hok.1
  exact ⟨hclock, hflying.leased i lease acquiredAt startedAt hheld hok.2.1 hclock⟩

/-- The thread that holds the lease of a request waits for its answer. -/
theorem busy_of_flight (hflying : Flying options ls w) {flight : Flight}
    (hmem : flight ∈ w.flights) {lease : TikTokReadLease} (hholds : Holds (rolesAfter ls i) lease)
    (hid : lease.leaseId = flight.lease.leaseId) : (rolesAfter ls i).flying = true := by
  obtain ⟨acquiredAt, hheld⟩ := hholds
  exact (hflying.flying flight hmem i lease acquiredAt hheld hid).2

theorem flights_step (hflying : Flying options ls w) (hok : okCall (rolesAfter ls i) c)
    (h : Exec options i w c res w') (htime : inTime options w (.run i c res) = true)
    {flight : Flight} (hmem : flight ∈ w'.flights) :
    flight.lease.leaseId < w'.nextLease ∧ Leased options w' flight.lease flight.startedAt := by
  have hnext := nextLease_le h
  rcases mem_flights h hmem with ⟨hold, _⟩ | ⟨lease, startedAt, rfl, _, rfl⟩
  · obtain ⟨hlt, hleased⟩ := hflying.flights flight hold
    have hclock : w.clock < flight.startedAt + options.leaseMs := by
      simp only [inTime, Bool.and_eq_true, List.all_eq_true, decide_eq_true_eq] at htime
      exact htime.1 flight hold
    refine ⟨by omega, leased_keeps hflying.leases hok h hleased hclock ?_⟩
    intro lease' hholds hid
    have hbusy := busy_of_flight hflying hold hholds hid
    constructor
    · rintro now rfl
      rw [hok.2.2] at hbusy
      cases hbusy
    · rintro rfl
      rw [hok.2] at hbusy
      cases hbusy
  · obtain ⟨hclock, hleased⟩ := leased_of_send hflying hok htime
    obtain ⟨acquiredAt, hheld⟩ := hok.1
    have hlt : lease.leaseId < w.nextLease :=
      (hflying.leases.past _ (hflying.leases.held i lease acquiredAt hheld).1).2
    refine ⟨Nat.lt_of_lt_of_le hlt hnext, leased_keeps hflying.leases hok h hleased hclock ?_⟩
    intro _ _ _
    exact ⟨fun _ => by simp, by simp⟩

theorem flying_step (hflying : Flying options ls w) (hok : okCall (rolesAfter ls i) c)
    (h : Exec options i w c res w') {flight : Flight} (hmem : flight ∈ w'.flights) {j : Nat}
    {lease : TikTokReadLease} {acquiredAt : Int}
    (hheld : (rolesAfter (ls ++ [.run i c res]) j).held = some (lease, acquiredAt))
    (hid : lease.leaseId = flight.lease.leaseId) :
    j = flight.thread ∧ (rolesAfter (ls ++ [.run i c res]) j).flying = true := by
  rcases held_after hheld with ⟨hbefore, _⟩ | ⟨permitted, hl⟩
  · rcases mem_flights h hmem with ⟨hold, hreceive⟩ | ⟨lease', startedAt, rfl, hres, rfl⟩
    · obtain ⟨rfl, hbusy⟩ := hflying.flying flight hold j lease acquiredAt hbefore hid
      refine ⟨rfl, ?_⟩
      rcases flying_after hbusy with hbusy' | hgone | ⟨lease', res', hl⟩
      · exact hbusy'
      · rw [hgone] at hheld
        cases hheld
      · cases hl
        exact absurd rfl (hreceive lease' rfl)
    · cases hres
      obtain ⟨acquiredAt', hheld'⟩ := hok.1
      have hji := hflying.owner j i lease lease' acquiredAt acquiredAt' hbefore hheld' hid
      subst hji
      refine ⟨rfl, ?_⟩
      rw [rolesAfter, staged_snoc]
      exact congrArg Role.flying (setRole_self _ _ _)
  · cases hl
    rcases mem_flights h hmem with ⟨hold, _⟩ | ⟨_, _, hc, _⟩
    · obtain ⟨_, row, _, hrow, hown, _⟩ := hflying.flights flight hold
      have hfree := (drawn_of_claim hflying.leases hok).2.2.2 _ row hrow
      rw [hid] at hfree
      exact absurd hown hfree
    · cases hc

theorem single_step (hflying : Flying options ls w) (hok : okCall (rolesAfter ls i) c)
    (h : Exec options i w c res w') (htime : inTime options w (.run i c res) = true) :
    OneInFlight w' := by
  have hsingle := hflying.single
  unfold OneInFlight at hsingle ⊢
  cases flights_of_exec h with
  | same _ _ _ hsame =>
    rw [hsame]
    exact hsingle
  | sent lease startedAt hsent =>
    rw [hsent, List.pairwise_append]
    refine ⟨hsingle, List.pairwise_singleton _ _, ?_⟩
    intro flight hold last hlast hgroup
    rw [List.mem_singleton] at hlast
    subst hlast
    obtain ⟨_, row, _, hrow, hown, _⟩ := hflying.flights flight hold
    obtain ⟨_, row', _, hrow', hown', _⟩ := leased_of_send hflying hok htime
    rw [hgroup, hrow'] at hrow
    cases hrow
    have hid : lease.leaseId = flight.lease.leaseId := Option.some.inj (hown'.symm.trans hown)
    have hbusy := busy_of_flight hflying hold hok.1 hid
    rw [hok.2.2] at hbusy
    cases hbusy
  | ended lease _ hover =>
    rw [hover]
    exact hsingle.filter _

theorem flying_inv_step (hflying : Flying options ls w) (hok : okCall (rolesAfter ls i) c)
    (hrenewal : okRenewal (rolesAfter ls i) c) (h : Exec options i w c res w')
    (htime : inTime options w (.run i c res) = true) (hown : renewsOwn w (.run i c res) = true) :
    Flying options (ls ++ [.run i c res]) w' where
  leases := inv_step hflying.leases hok h
  later _ _ _ _ hheld hstarted := later_step hflying hok hheld hstarted
  owner _ _ _ _ _ _ hj hk hid := owner_step hflying hok hj hk hid
  leased _ _ _ _ hheld hstarted hclock :=
    leased_step hflying hok hrenewal h htime hown hheld hstarted hclock
  flights _ hmem := flights_step hflying hok h htime hmem
  flying _ hmem _ _ _ hheld hid := flying_step hflying hok h hmem hheld hid
  single := single_step hflying hok h htime

end Step

/-! ## Runs -/

section Runs

variable {options : GovernorOptions} {w w' : World} {ls : List SystemLabel} {pool : SystemPool}

/-- A new thread, or the end of one, whose request is cut. -/
theorem flying_quiet {l : SystemLabel} (hl : ∀ j c res, l ≠ .run j c res)
    (hflying : Flying options ls w) (hrows : w'.rows = w.rows) (hclock : w'.clock = w.clock)
    (hnext : w'.nextLease = w.nextLease) (hevents : w'.events = w.events)
    (hflights : w'.flights.Sublist w.flights) : Flying options (ls ++ [l]) w' := by
  have hheld : ∀ j lease acquiredAt, (rolesAfter (ls ++ [l]) j).held = some (lease, acquiredAt) →
      (rolesAfter ls j).held = some (lease, acquiredAt) := by
    intro j lease acquiredAt hj
    rcases held_after hj with ⟨hsame, _⟩ | ⟨_, hrun⟩
    · exact hsame
    · exact absurd hrun (hl _ _ _)
  have hstarted : ∀ j lease acquiredAt startedAt,
      (rolesAfter (ls ++ [l]) j).held = some (lease, acquiredAt) →
      (rolesAfter (ls ++ [l]) j).startedAt = some startedAt →
      (rolesAfter ls j).startedAt = some startedAt := by
    intro j lease acquiredAt startedAt hj hsince
    rcases started_after hj hsince with ⟨_, hsame, _⟩ | ⟨_, _, hrun⟩ | ⟨_, _, hrun⟩
    · exact hsame
    · exact absurd hrun (hl _ _ _)
    · exact absurd hrun (hl _ _ _)
  have hleased : ∀ lease startedAt, Leased options w lease startedAt →
      Leased options w' lease startedAt := by
    intro lease startedAt h
    unfold Leased
    rw [hrows]
    exact h
  constructor
  · exact inv_quiet hl hflying.leases hrows hclock hnext hevents
  · intro j lease acquiredAt startedAt hj hsince
    exact hflying.later j lease acquiredAt startedAt (hheld _ _ _ hj) (hstarted _ _ _ _ hj hsince)
  · intro j k lease lease' acquiredAt acquiredAt' hj hk hid
    exact hflying.owner j k lease lease' acquiredAt acquiredAt' (hheld _ _ _ hj) (hheld _ _ _ hk) hid
  · intro j lease acquiredAt startedAt hj hsince hruns
    rw [hclock] at hruns
    exact hleased _ _ (hflying.leased j lease acquiredAt startedAt (hheld _ _ _ hj)
      (hstarted _ _ _ _ hj hsince) hruns)
  · intro flight hmem
    obtain ⟨hlt, hrow⟩ := hflying.flights flight (hflights.mem hmem)
    rw [hnext]
    exact ⟨hlt, hleased _ _ hrow⟩
  · intro flight hmem j lease acquiredAt hj hid
    obtain ⟨hthread, hbusy⟩ :=
      hflying.flying flight (hflights.mem hmem) j lease acquiredAt (hheld _ _ _ hj) hid
    refine ⟨hthread, ?_⟩
    rcases flying_after hbusy with hbusy' | hgone | ⟨_, _, hrun⟩
    · exact hbusy'
    · rw [hgone] at hj
      cases hj
    · exact absurd hrun (hl _ _ _)
  · exact hflying.single.sublist hflights

/-- A world before the first request. -/
def Grounded (w : World) : Prop := Fresh w ∧ w.flights = []

theorem flying_nil (hw : Grounded w) : Flying options [] w where
  leases := inv_nil hw.1
  later := by simp [rolesAfter, staged, start]
  owner := by simp [rolesAfter, staged, start]
  leased := by simp [rolesAfter, staged, start]
  flights := by simp [hw.2]
  flying := by simp [hw.2]
  single := by simp [OneInFlight, hw.2]

/-- A run of reads whose steps are in time, and whose retries renew leases of their own. -/
abbrev ReadRun (options : GovernorOptions) :=
  Run (Guarded (PoolStep (machine options) (Reads options))
    (fun pool l => (inTime options pool.world l && renewsOwn pool.world l) = true))

theorem flying_run (hw : Grounded w) (h : ReadRun options (idle w) ls pool) :
    Flying options ls pool.world ∧ Follows (protocol.both renewals) pool (rolesAfter ls) := by
  have hI : HistoryInvariant (machine options) (protocol.both renewals) start
      (fun w l => (inTime options w l && renewsOwn w l) = true) (Flying options) := {
    spawn := fun ls w i hflying =>
      flying_quiet (by simp) hflying rfl rfl rfl rfl (List.Sublist.refl _)
    work := fun ls w i c w' hflying hok hwork => hwork.elim
    run := fun ls w i c res w' hflying hok hexec hguard => by
      rw [Bool.and_eq_true] at hguard
      exact flying_inv_step hflying hok.1 hok.2 hexec hguard.1 hguard.2
    ends := fun ls w i hflying =>
      flying_quiet (by simp) hflying rfl rfl rfl rfl (List.Sublist.refl _)
    crash := fun ls w i c hflying =>
      flying_quiet (by simp) hflying rfl rfl rfl rfl List.filter_sublist }
  exact history_invariant hI (fun p hp => reads_conform hp) h (fun _ => rfl) (flying_nil hw)

/-- In a run of reads, in which no exchange outlasts its lease and every retry renews a lease that
is its own, no two requests of a lease group are under way, and a request is sent only while its
caller has the lease. -/
theorem one_read_is_in_flight (hw : Grounded w) (h : ReadRun options (idle w) ls pool) :
    OneInFlight pool.world ∧
      ∀ l pool', PoolStep (machine options) (Reads options) pool l pool' →
        inTime options pool.world l = true →
        ∀ i lease startedAt res, l = .run i (.send lease startedAt) res →
          ∃ row expiresAt, pool.world.rows.get lease.groupKey = some row ∧
            row.leaseId = some lease.leaseId ∧ row.leaseExpiresAt = some expiresAt ∧
            pool.world.clock < expiresAt := by
  obtain ⟨hflying, hfollows⟩ := flying_run hw h
  refine ⟨hflying.single, ?_⟩
  rintro l pool' hstep htime i lease startedAt res rfl
  obtain ⟨⟨next, hthread⟩, _⟩ := hstep.of_run
  have hok : okCall (rolesAfter ls i) (.send lease startedAt) := (hfollows i _ hthread).1.1
  obtain ⟨hclock, row, expiresAt, hrow, hown, hexpires, hle⟩ := leased_of_send hflying hok htime
  exact ⟨row, expiresAt, hrow, hown, hexpires, by omega⟩

end Runs

/-! ## Samples -/

def client : ClientOptions := {}

def read : ReadRequest := { conversations with }

/-- TikTok is not available for some seconds. -/
def unavailable (seconds : ℚ) : Response where
  status := 503
  retryAfter := some (.seconds seconds)
  body := .payload none none none

/-- The calls of a thread from its start until it sends its request. -/
def sends (i : Nat) (job : Job) (turns : List SystemTurn) : List SystemTurn :=
  spawnJob i job :: (performed i 9 ++ turns)

/-- A retry with the calls until it sends its request, after a pause. -/
def retried (i : Nat) (seconds : ℚ) (pause : Nat) (turns : List SystemTurn) : List SystemTurn :=
  .run i (.response (unavailable seconds) 0) :: (performed i 2 ++ (.run i (.performed pause) ::
    turns))

/-- A read is tried again after two seconds, while another one is turned away. -/
def briefTurns : List SystemTurn :=
  sends 0 (.requestRaw client read) (retried 0 2 2000 (spawnJob 1 (.requestRaw client read) ::
    (performed 1 6 ++ (performed 0 4 ++ []))))

theorem starts_sends {i : Nat} {turns : List SystemTurn}
    (h : Starts (Reads sampleOptions) turns) :
    Starts (Reads sampleOptions) (sends i (.requestRaw client read) turns) :=
  starts_spawn ⟨client, read, rfl⟩ (starts_runs h)

theorem starts_retried {i : Nat} {seconds : ℚ} {pause : Nat} {turns : List SystemTurn}
    (h : Starts (Reads sampleOptions) turns) :
    Starts (Reads sampleOptions) (retried i seconds pause turns) :=
  starts_run (starts_runs (starts_run h))

theorem starts_brief : Starts (Reads sampleOptions) briefTurns :=
  starts_sends (starts_retried (starts_spawn ⟨client, read, rfl⟩ (starts_runs (starts_runs
    starts_nil))))

theorem grounded_empty : Grounded {} := ⟨fresh_empty, rfl⟩

theorem a_brief_retry_is_alone : ∃ ls pool, ReadRun sampleOptions (idle {}) ls pool ∧
    pool.world.flights = [⟨0, ⟨conversations, 0⟩, 2000⟩] ∧ OneInFlight pool.world := by
  have hplay : (playJobs
      (fun pool l => inTime sampleOptions pool.world l && renewsOwn pool.world l) briefTurns
      (idle {})).map (fun r => r.2.world.flights) = some [⟨0, ⟨conversations, 0⟩, 2000⟩] := by
    decide +kernel
  obtain ⟨ls, pool, hrun, hflights⟩ :=
    exists_run_of_turns (player_sound sampleOptions) starts_brief hplay
  exact ⟨ls, pool, hrun, hflights, (one_read_is_in_flight grounded_empty hrun).1⟩

/-- TikTok asks for a pause that is longer than a lease. -/
def longTurns : List SystemTurn :=
  sends 0 (.requestRaw client read) (retried 0 200 200000
    (sends 1 (.requestRaw client read) (performed 0 4 ++ [])))

theorem starts_long : Starts (Reads sampleOptions) longTurns :=
  starts_sends (starts_retried (starts_sends (starts_runs starts_nil)))

theorem two_reads_are_in_flight : ∃ ls pool,
    Run (Guarded (PoolStep (machine sampleOptions) (Reads sampleOptions))
      (fun pool l => inTime sampleOptions pool.world l = true)) (idle {}) ls pool ∧
    ¬ OneInFlight pool.world := by
  have hplay : (playJobs (fun pool l => inTime sampleOptions pool.world l) longTurns
      (idle {})).map (fun r => r.2.world.flights) =
        some [⟨1, ⟨conversations, 1⟩, 200000⟩, ⟨0, ⟨conversations, 0⟩, 200000⟩] := by
    decide +kernel
  obtain ⟨ls, pool, hrun, hflights⟩ :=
    exists_run_of_turns (player_sound sampleOptions) starts_long hplay
  have hflights : pool.world.flights =
      [⟨1, ⟨conversations, 1⟩, 200000⟩, ⟨0, ⟨conversations, 0⟩, 200000⟩] := hflights
  refine ⟨ls, pool, hrun, ?_⟩
  unfold OneInFlight
  rw [hflights]
  simp

end tiktok_outreach.read_flights
