-- The callers and the clients of the governor follow the protocol of its
-- leases, whatever they are answered.
import TiktokOutreach.ReadSystem

open runs executions executions.Js tiktok_outreach.read_governor
  tiktok_outreach.read_only_client

namespace tiktok_outreach.read_system

/-- The thread was granted the lease, and no request of it is under way. -/
def HasLease (lease : TikTokReadLease) (r : Role) : Prop := Holds r lease ∧ r.flying = false

/-! ## The operations of the governor -/

section Operations

variable {L : Type} {lease : TikTokReadLease} {options : GovernorOptions}

/-- The calls after which a thread still has the lease that it was granted. -/
def keepsLease : Call → Bool
  | .claim _ _ _ | .send _ _ | .receive _ => false
  | _ => true

theorem hasLease_next {c : Call} (h : keepsLease c = true) (r : Role)
    (res : Except Failure c.Result) (hr : HasLease lease r) : HasLease lease (nextRole r c res) := by
  cases c with
  | claim => cases h
  | send => cases h
  | receive => cases h
  | _ => cases res <;> exact hr

/-- The calls that every holder of a lease may make with it. -/
theorem within_lease_query {c : Call} (hok : ∀ r, HasLease lease r → okCall r c)
    (hkeep : keepsLease c = true) :
    Within protocol (HasLease lease) (query c : Program L c.Result) :=
  within_call hok (fun r res hr => hasLease_next hkeep r res hr)

theorem within_release :
    Within protocol (HasLease lease) (release lease : Program L Unit) := by
  unfold release
  apply within_lease_query
  · intro r hr
    exact hr
  · rfl

theorem within_now : Within protocol (HasLease lease) (query .now : Program L Int) := by
  apply within_lease_query
  · intro r _
    trivial
  · rfl

/-- The lease runs from the reading that is returned. -/
theorem triple_requestStarted :
    Triple protocol (HasLease lease) (requestStarted lease : Program L Int)
      (fun now r => HasLease lease r ∧ r.startedAt = some now) (fun _ => HasLease lease) := by
  unfold requestStarted
  have hnow : Triple protocol (HasLease lease) (query .now : Program L Int)
      (fun now r => HasLease lease r ∧ r.reading = some now) (fun _ => HasLease lease) :=
    triple_call (fun _ _ => trivial) (fun r now hr => ⟨hr, rfl⟩) (fun r e hr => hr)
  apply triple_bind hnow
  intro now
  have hstarted : Triple protocol (fun r => HasLease lease r ∧ r.reading = some now)
      (query (.requestStarted lease now) : Program L Unit)
      (fun _ r => HasLease lease r ∧ r.startedAt = some now) (fun _ => HasLease lease) :=
    triple_call (fun r hr => ⟨hr.1.1, hr.2, hr.1.2⟩) (fun r _ hr => ⟨hr.1, rfl⟩)
      (fun r e hr => hr.1)
  apply triple_bind hstarted
  intro _
  exact triple_pure (fun r hr => hr)

theorem within_requestStarted :
    Within protocol (HasLease lease) (requestStarted lease : Program L Int) :=
  within_of_triple (triple_conseq triple_requestStarted (fun _ hr => hr) (fun _ _ hr => hr.1)
    (fun _ _ hr => hr))

theorem within_succeeded (event : TikTokReadGovernorEvent) :
    Within protocol (HasLease lease) (succeeded lease event : Program L Unit) := by
  unfold succeeded
  intro r hr
  apply lawful_call_bind
  · trivial
  · intro now
    apply lawful_call_bind
    · exact hr
    · intro _
      apply lawful_call_bind
      · exact ⟨hr.1, rfl, hr.2⟩
      · intro _
        exact within_release _ hr
      · intro _
        exact hr
    · intro _
      exact hr
  · intro _
    exact hr

theorem within_localBackoffMs (event : TikTokReadGovernorEvent) (count : Nat) :
    Within protocol (HasLease lease) (localBackoffMs lease event count : Program L Int) := by
  unfold localBackoffMs
  apply within_ite
  · unfold configuredMarketplaceRetryDelayMs
    apply within_bind
    · apply within_lease_query
      · intro r _
        trivial
      · rfl
    · intro seconds
      exact within_pure _
  · apply within_ite
    · exact within_pure _
    · exact within_pure _

theorem within_throttled (event : TikTokReadGovernorEvent) :
    Within protocol (HasLease lease) (throttled options lease event : Program L Int) := by
  unfold throttled
  apply within_bind
  · apply within_lease_query
    · intro r _
      trivial
    · rfl
  · intro current
    apply within_bind (within_localBackoffMs _ _)
    intro backoffMs
    apply within_bind within_now
    intro now
    apply within_bind
    · apply within_lease_query
      · intro r hr
        exact hr
      · rfl
    · intro _
      apply within_bind within_release
      intro _
      exact within_pure _

/-- A lease is granted to the thread that asked for it with a reading of the clock, after the
cooldown that it read. -/
theorem triple_acquire (input : ReadInput) :
    Triple protocol (fun r => r.flying = false) (acquire input : Program L TikTokReadLease)
      (fun lease r => HasLease lease r) (fun _ _ => True) := by
  unfold acquire
  have hnow : Triple protocol (fun r => r.flying = false) (query .now : Program L Int)
      (fun now r => r.flying = false ∧ r.reading = some now) (fun _ _ => True) :=
    triple_call (fun _ _ => trivial) (fun r now hr => ⟨hr, rfl⟩) (fun _ _ _ => trivial)
  apply triple_bind hnow
  intro now
  have hlease : Triple protocol (fun r => r.flying = false ∧ r.reading = some now)
      (query .newLease : Program L Nat)
      (fun leaseId r => r.flying = false ∧ r.reading = some now ∧ r.drawn = some leaseId)
      (fun _ _ => True) :=
    triple_call (fun _ _ => trivial) (fun r leaseId hr => ⟨hr.1, hr.2, rfl⟩) (fun _ _ _ => trivial)
  apply triple_bind hlease
  intro leaseId
  have hupsert : ∀ key, Triple protocol
      (fun r => r.flying = false ∧ r.reading = some now ∧ r.drawn = some leaseId)
      (query (.upsert key) : Program L ProviderReadThrottle)
      (fun _ r => r.flying = false ∧ r.reading = some now ∧ r.drawn = some leaseId)
      (fun _ _ => True) := fun key =>
    triple_call (fun _ _ => trivial) (fun r row hr => hr) (fun _ _ _ => trivial)
  apply triple_bind (hupsert _)
  intro operationState
  split
  · exact triple_throw (fun _ _ => trivial)
  · next hpermitted =>
    apply triple_bind (hupsert _)
    intro _
    have hclaim : Triple protocol
        (fun r => r.flying = false ∧ r.reading = some now ∧ r.drawn = some leaseId)
        (query (.claim ⟨input, leaseId⟩ now operationState.nextPermittedAt) : Program L Nat)
        (fun claimed r => claimed = 1 → HasLease ⟨input, leaseId⟩ r) (fun _ _ => True) := by
      apply triple_call
      · intro r hr
        refine ⟨hr.2.1, hr.2.2, ?_⟩
        intro time htime
        by_contra hnot
        have hlater : now < time := Int.not_le.1 hnot
        exact hpermitted (by simpa [htime] using hlater)
      · intro r claimed hr hone
        have hone : claimed = 1 := hone
        exact ⟨⟨now, by simp [protocol, nextRole, hone]⟩, hr.1⟩
      · intro _ _ _
        trivial
    apply triple_bind hclaim
    intro claimed
    by_cases hone : claimed = (1 : Nat)
    · rw [if_pos hone]
      exact triple_pure (fun r hr => hr hone)
    · rw [if_neg hone]
      have hfind : Triple protocol (fun r => claimed = 1 → HasLease ⟨input, leaseId⟩ r)
          (query (.find input.groupKey) : Program L ProviderReadThrottle) (fun _ _ => True)
          (fun _ _ => True) :=
        triple_call (fun _ _ => trivial) (fun _ _ _ => trivial) (fun _ _ _ => trivial)
      apply triple_bind hfind
      intro current
      exact triple_throw (fun _ _ => trivial)

end Operations

/-! ## The client -/

section Client

variable {lease : TikTokReadLease} {governor : GovernorOptions} {options : ClientOptions}

theorem within_setFinalized : Within protocol (HasLease lease) setFinalized := fun _ hr _ => hr

theorem within_backoff (attempt : Nat) (retryAfter : Option ℚ) :
    Within protocol (HasLease lease) (backoff attempt retryAfter) := by
  unfold backoff
  apply within_bind
  · apply within_lease_query
    · intro r _
      trivial
    · rfl
  · intro jitter
    apply within_lease_query
    · intro r _
      trivial
    · rfl

theorem within_providerThrottled (response : Response) (code : Option Int)
    (requestId : Option String) (retryAfter : Option ℚ) :
    Within protocol (HasLease lease)
      (providerThrottled governor lease response code requestId retryAfter) := by
  unfold providerThrottled
  apply within_bind (within_throttled _)
  intro nextPermittedAt
  apply within_bind within_setFinalized
  intro _
  exact within_throw _

theorem within_malformed (response : Response) (retryAfter : Option ℚ) (message : String) :
    Within protocol (HasLease lease) (malformed governor lease response retryAfter message) := by
  unfold malformed
  apply within_ite
  · exact within_providerThrottled _ _ _ _
  · exact within_throw _

theorem within_rejected {retry : Option Retry}
    (hretry : ∀ again, retry = some again → ∀ retryAfter,
      Within protocol (HasLease lease) (again retryAfter))
    (response : Response) (code : Option Int) (requestId message : Option String)
    (retryAfter : Option ℚ) :
    Within protocol (HasLease lease)
      (rejected governor lease response code requestId message retryAfter retry) := by
  unfold rejected
  split
  · exact within_providerThrottled _ _ _ _
  · exact hretry _ rfl _
  · exact within_throw _

theorem within_handleResponse {retry : Option Retry}
    (hretry : ∀ again, retry = some again → ∀ retryAfter,
      Within protocol (HasLease lease) (again retryAfter))
    (response : Response) (retryAfter : Option ℚ) :
    Within protocol (HasLease lease)
      (handleResponse governor lease response retryAfter retry) := by
  unfold handleResponse
  split
  · exact within_malformed _ _ _
  · exact within_malformed _ _ _
  · apply within_ite
    · apply within_bind (within_succeeded _)
      intro _
      apply within_bind within_setFinalized
      intro _
      exact within_pure _
    · exact within_rejected hretry _ _ _ _ _

/-- A request is sent with the reading from which the lease runs, and is over when the exchange
ends. -/
theorem triple_exchange (startedAt : Int) :
    Triple protocol (fun r => HasLease lease r ∧ r.startedAt = some startedAt)
      (exchange lease startedAt) (fun _ => HasLease lease) (fun _ => HasLease lease) := by
  unfold exchange
  have hsend : Triple protocol (fun r => HasLease lease r ∧ r.startedAt = some startedAt)
      (query (.send lease startedAt) : Program Bool Unit)
      (fun _ r => Holds r lease ∧ r.flying = true) (fun _ => HasLease lease) :=
    triple_call (fun r hr => ⟨hr.1.1, hr.2, hr.1.2⟩) (fun r _ hr => ⟨hr.1.1, rfl⟩)
      (fun r _ hr => hr.1)
  apply triple_bind hsend
  intro _
  have hreceive : Triple protocol (fun r => Holds r lease ∧ r.flying = true)
      (query (.receive lease) : Program Bool Response) (fun _ => HasLease lease)
      (fun _ => HasLease lease) :=
    triple_call (fun r hr => hr) (fun r _ hr => ⟨hr.1, rfl⟩) (fun r _ hr => ⟨hr.1, rfl⟩)
  apply triple_tryCatch (Y := fun _ => HasLease lease)
  · apply triple_bind hreceive
    intro response
    exact triple_pure (fun r hr => hr)
  · intro e
    exact triple_pure (fun r hr => hr)

theorem within_turn {retry : Option Retry}
    (hretry : ∀ again, retry = some again → ∀ retryAfter,
      Within protocol (HasLease lease) (again retryAfter)) :
    Within protocol (HasLease lease) (turn governor lease retry) := by
  apply within_of_triple
  unfold turn
  apply triple_bind triple_requestStarted
  intro startedAt
  have hnow : Triple protocol (fun r => HasLease lease r ∧ r.startedAt = some startedAt)
      (query .now : Program Bool Int)
      (fun _ r => HasLease lease r ∧ r.startedAt = some startedAt) (fun _ => HasLease lease) :=
    triple_call (fun _ _ => trivial) (fun r _ hr => hr) (fun r _ hr => hr.1)
  apply triple_bind hnow
  intro _
  apply triple_bind (triple_exchange startedAt)
  intro answer
  apply triple_of_within
  split
  · exact hretry _ rfl _
  · exact within_throw _
  · apply within_bind within_now
    intro now
    exact within_handleResponse hretry _ _

theorem within_requestLoop (left : Nat) :
    Within protocol (HasLease lease) (requestLoop governor options lease left) := by
  induction left with
  | zero =>
    apply within_turn
    intro again hagain
    cases hagain
  | succ left ih =>
    apply within_turn
    intro again hagain retryAfter
    split at hagain
    · cases hagain
      apply within_bind (within_backoff _ _)
      intro _
      exact ih
    · cases hagain

theorem within_releaseUnfinalized :
    Within protocol (HasLease lease) (releaseUnfinalized lease) := by
  intro r hr
  unfold releaseUnfinalized
  apply lawful_getLocals
  intro finalized
  apply lawful_ite
  · intro _
    exact within_pure _ r hr
  · intro _
    apply within_tryCatch within_release
    · intro _
      exact within_pure _
    · exact hr

theorem triple_requestRaw (request : ReadRequest) :
    Triple protocol (fun r => r.flying = false) (requestRaw governor options request)
      (fun _ _ => True) (fun _ _ => True) := by
  unfold requestRaw
  split
  · exact triple_throw (fun _ _ => trivial)
  · split
    · exact triple_throw (fun _ _ => trivial)
    · apply triple_bind (triple_acquire _)
      intro lease
      have hread : Within protocol (HasLease lease)
          (Js.tryFinally (requestLoop governor options lease 2) (releaseUnfinalized lease)) :=
        fun r hr => lawful_tryFinally (within_requestLoop 2 r hr)
          (fun r' hr' => within_releaseUnfinalized r' hr')
      exact triple_conseq (triple_of_within hread) (fun _ hr => hr) (fun _ _ _ => trivial)
        (fun _ _ _ => trivial)

end Client

/-! ## Callers -/

section Callers

variable {lease : TikTokReadLease} {options : GovernorOptions}

theorem within_operate (operation : LeaseOperation) :
    Within protocol (HasLease lease) (operate options lease operation) := by
  cases operation with
  | requestStarted =>
    apply within_bind within_requestStarted
    intro _
    exact within_pure _
  | succeeded event => exact within_succeeded event
  | throttled event =>
    apply within_bind (within_throttled event)
    intro _
    exact within_pure _
  | release => exact within_release

theorem within_operateAll (operations : List LeaseOperation) :
    Within protocol (HasLease lease) (operateAll options lease operations) := by
  induction operations with
  | nil => exact within_pure _
  | cons operation rest ih =>
    unfold operateAll
    apply within_bind
    · apply within_tryCatch (within_operate operation)
      intro _
      exact within_pure _
    · intro _
      exact ih

theorem triple_caller (input : ReadInput) (operations : List LeaseOperation) :
    Triple protocol (fun r => r.flying = false) (caller options input operations)
      (fun _ _ => True) (fun _ _ => True) := by
  unfold caller
  apply triple_bind (triple_acquire input)
  intro lease
  exact triple_conseq (triple_of_within (within_operateAll operations)) (fun _ hr => hr)
    (fun _ _ _ => trivial) (fun _ _ _ => trivial)

end Callers

theorem startable_conforms {options : GovernorOptions}
    {p : Prog Call (fun c => Except Failure c.Result) Unit} (h : Startable options p) :
    p.Conforms protocol start (fun _ _ => True) := by
  obtain ⟨job, rfl⟩ := h
  cases job with
  | caller input operations => exact conforms_thread (triple_caller input operations) rfl
  | requestRaw client request => exact conforms_thread (triple_requestRaw request) rfl

/-! ## Runs -/

/-- The roles of the threads after these steps. -/
abbrev rolesAfter (ls : List SystemLabel) : Nat → Role := staged protocol start ls

theorem step_cases {options : GovernorOptions} {s t : SystemPool} {l : SystemLabel}
    {roles : Nat → Role} (hfollows : Follows protocol s roles)
    (h : PoolStep (machine options) (Startable options) s l t) :
    (∃ i, l = .spawn i ∧ t.world = s.world) ∨
      (∃ i, l = .crash i ∧ (t.world = s.world ∨ t.world = s.world.land i)) ∨
      ∃ i c res, l = .run i c res ∧ okCall (roles i) c ∧
        Exec options i s.world c res t.world := by
  cases h with
  | spawn i p hfree hp => exact Or.inl ⟨i, rfl, rfl⟩
  | work i c next w hthread hwork => exact hwork.elim
  | run i c next res w hthread hexec =>
    exact Or.inr (Or.inr ⟨i, c, res, rfl, (hfollows i _ hthread).1, hexec⟩)
  | crash i p hthread =>
    refine Or.inr (Or.inl ⟨i, rfl, ?_⟩)
    cases p with
    | ret u => exact Or.inl rfl
    | call c next => exact Or.inr rfl

/-- An invariant of the steps so far and the world, in every run of the system. -/
theorem system_invariant {options : GovernorOptions} (guard : World → SystemLabel → Prop)
    (I : List SystemLabel → World → Prop)
    (hspawn : ∀ ls w i, I ls w → I (ls ++ [.spawn i]) w)
    (hends : ∀ ls w i, I ls w → I (ls ++ [.crash i]) w)
    (hcrash : ∀ ls w i, I ls w → I (ls ++ [.crash i]) (w.land i))
    (hrun : ∀ ls w i c res w', I ls w → okCall (rolesAfter ls i) c → Exec options i w c res w' →
      guard w (.run i c res) → I (ls ++ [.run i c res]) w')
    {w : World} {ls : List SystemLabel} {pool : SystemPool}
    (h : Run (Guarded (PoolStep (machine options) (Startable options))
      (fun pool l => guard pool.world l)) (idle w) ls pool) (h0 : I [] w) :
    I ls pool.world ∧ Follows protocol pool (rolesAfter ls) := by
  have hI : HistoryInvariant (machine options) protocol start guard I := {
    spawn := hspawn
    work := fun ls w i c w' hinv hok hwork => hwork.elim
    run := hrun
    ends := hends
    crash := fun ls w i c hinv => hcrash ls w i hinv }
  exact history_invariant hI (fun p hp => startable_conforms hp) h (fun _ => rfl) h0

end tiktok_outreach.read_system
