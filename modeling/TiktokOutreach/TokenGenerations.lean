-- The generations of the tokens of a connection only go up: a pair of tokens
-- is stored as a new version, and a refresh ends under its own lease at the
-- version it started with, or it writes nothing.
import TiktokOutreach.TiktokPlays

open runs executions tables tiktok_outreach.tiktok_connection tiktok_outreach.tiktok_service
  tiktok_outreach.tiktok_system

namespace tiktok_outreach.token_generations

/-! ## What a call does to a connection -/

/-- How a call writes the connection of a shop, and what is noted of it. -/
inductive Written (shopId : Nat) : Option Connection → Call → Connection → Event → Prop
  | authorized (old : Option Connection) (data : Authorization) :
      Written shopId old (.authorizeConnection shopId data) (Connection.authorized old data)
        (.stored shopId (Connection.authorized old data).tokenVersion)
  | claimed (c : Connection) (tokenVersion leaseId : Nat) (trigger : Trigger)
      (leaseExpiresAt now : Int) (h : claimable tokenVersion c = true) :
      Written shopId (some c) (.claimRefresh shopId tokenVersion leaseId trigger leaseExpiresAt now)
        (c.claimed leaseId leaseExpiresAt now) (.started shopId tokenVersion leaseId trigger)
  | unprepared (c : Connection) (tokenVersion : Nat) (refreshState : TokenRefreshState)
      (ciphertext : Option String) (reason : Reason) (now : Int)
      (h : unchanged tokenVersion refreshState ciphertext c = true) :
      Written shopId (some c)
        (.failPreparation shopId tokenVersion refreshState ciphertext reason now)
        (c.unprepared reason now) (.failed shopId tokenVersion)
  | uncertain (c : Connection) (leaseId : Option Nat) (tokenVersion : Nat) (reason : Reason)
      (now : Int) (h : c.underLease leaseId tokenVersion = true) :
      Written shopId (some c) (.markUncertain shopId leaseId tokenVersion reason now)
        (c.uncertain reason now) (.uncertain shopId tokenVersion)
  | failed (c : Connection) (leaseId tokenVersion : Nat) (code : String) (now : Int)
      (h : c.underLease (some leaseId) tokenVersion = true) :
      Written shopId (some c) (.failRefresh shopId leaseId tokenVersion code now)
        (c.refreshFailed code now) (.failed shopId tokenVersion)
  | rotated (c : Connection) (leaseId tokenVersion : Nat) (data : Rotation)
      (h : c.underLease (some leaseId) tokenVersion = true) :
      Written shopId (some c) (.persistRotation shopId leaseId tokenVersion data)
        (c.rotated data) (.stored shopId (tokenVersion + 1))

/-- The connections and the log stay as they are, or one connection is written and noted. -/
def Changed (w w' : World) (c : Call) : Prop :=
  (w'.connections = w.connections ∧ w'.events = w.events) ∨
    ∃ shopId new event, w'.connections = w.connections.set shopId new ∧
      w'.events = w.events ++ [event] ∧ Written shopId (w.connections.get shopId) c new event

/-- A conditional write: it is what `Written` says when its condition holds. -/
theorem changed_compareAndSet (w : World) (shopId : Nat) {condition : Connection → Bool}
    {update : Connection → Connection} {event : Event} {call : Call}
    (h : ∀ c, condition c = true → Written shopId (some c) call (update c) event) :
    Changed w (w.compareAndSet shopId condition update event) call := by
  unfold World.compareAndSet
  cases hget : w.connections.get shopId with
  | none => exact Or.inl ⟨rfl, rfl⟩
  | some c =>
    by_cases hc : condition c = true
    · refine Or.inr ⟨shopId, update c, event, ?_, ?_, ?_⟩
      · simp [hc, World.note]
      · simp [hc, World.note]
      · rw [hget]
        exact h c hc
    · simp only [hc]
      exact Or.inl ⟨rfl, rfl⟩

theorem changed_of_performs {w w' : World} {c : Call} {a : c.Result} (h : Performs w c a w') :
    Changed w w' c := by
  cases h with
  | authorizeConnection shopId data =>
    exact Or.inr ⟨shopId, _, _, rfl, rfl, .authorized _ data⟩
  | failPreparation shopId tokenVersion refreshState ciphertext reason now =>
    exact changed_compareAndSet w shopId (fun c hc => .unprepared c _ _ _ _ _ hc)
  | claimRefresh shopId tokenVersion leaseId trigger leaseExpiresAt now =>
    exact changed_compareAndSet w shopId (fun c hc => .claimed c _ _ _ _ _ hc)
  | markUncertain shopId leaseId tokenVersion reason now =>
    exact changed_compareAndSet w shopId (fun c hc => .uncertain c _ _ _ _ hc)
  | failRefresh shopId leaseId tokenVersion code now =>
    exact changed_compareAndSet w shopId (fun c hc => .failed c _ _ _ _ hc)
  | persistRotation shopId leaseId tokenVersion data =>
    exact changed_compareAndSet w shopId (fun c hc => .rotated c _ _ _ hc)
  | _ => exact Or.inl ⟨rfl, rfl⟩

theorem changed_of_exec {i : Nat} {w w' : World} {c : Call} {res : Except Failure c.Result}
    (h : Exec i w c res w') : Changed w w' c := by
  rcases h.effect with ⟨a, w1, clock, hperforms, _, rfl, _⟩ | ⟨clock, _, rfl, _⟩
  · have hchanged : Changed w w1 c := changed_of_performs hperforms
    exact hchanged
  · exact Or.inl ⟨rfl, rfl⟩

/-! ## The log -/

/-- The lease of a refresh that started. -/
def leaseOf : Event → Option Nat
  | .started _ _ leaseId _ => some leaseId
  | _ => none

def leases (events : List Event) : List Nat := events.filterMap leaseOf

def storedVersion (shopId : Nat) : Event → Option Nat
  | .stored shopId' tokenVersion => if shopId' = shopId then some tokenVersion else none
  | _ => none

/-- The versions of the pairs of tokens that were stored for a shop, oldest first. -/
def storedVersions (shopId : Nat) (events : List Event) : List Nat :=
  events.filterMap (storedVersion shopId)

/-- The log has the refresh under way of every connection and the versions that were stored, and
each refresh has a lease of its own. -/
structure Recorded (w : World) : Prop where
  running : ∀ shopId c, w.connections.get shopId = some c → c.refreshState = .IN_PROGRESS →
    ∃ leaseId trigger, c.refreshLeaseId = some leaseId ∧
      .started shopId c.tokenVersion leaseId trigger ∈ w.events
  leases : (leases w.events).Nodup
  drawn : ∀ leaseId ∈ token_generations.leases w.events, leaseId < w.nextLease
  stored : ∀ shopId, ∀ v ∈ storedVersions shopId w.events,
    ∃ c, w.connections.get shopId = some c ∧ v ≤ c.tokenVersion
  increasing : ∀ shopId, (storedVersions shopId w.events).Pairwise (· < ·)

section Written

variable {shopId : Nat} {old : Option Connection} {c : Call} {new : Connection} {event : Event}

theorem not_written_newLease : ¬ Written shopId old .newLease new event := by
  intro h
  cases h

theorem version_of_written (h : Written shopId old c new event) {row : Connection}
    (hold : old = some row) : row.tokenVersion ≤ new.tokenVersion := by
  cases h with
  | authorized old data =>
    subst hold
    simp [Connection.authorized]
  | rotated c' leaseId tokenVersion data h =>
    cases hold
    simp [Connection.rotated]
  | _ =>
    cases hold
    exact le_rfl

/-- What is noted as stored is the new version of the connection. -/
theorem stored_of_written (h : Written shopId old c new event) {s v : Nat}
    (hv : storedVersion s event = some v) :
    s = shopId ∧ v = new.tokenVersion ∧ ∀ row, old = some row → row.tokenVersion < v := by
  cases h with
  | authorized old data =>
    simp only [storedVersion, Option.ite_none_right_eq_some, Option.some.injEq] at hv
    obtain ⟨rfl, rfl⟩ := hv
    refine ⟨rfl, rfl, ?_⟩
    rintro row rfl
    simp [Connection.authorized]
  | rotated c' leaseId tokenVersion data h =>
    simp only [storedVersion, Option.ite_none_right_eq_some, Option.some.injEq] at hv
    obtain ⟨rfl, rfl⟩ := hv
    have hversion : c'.tokenVersion = tokenVersion := by
      simp only [Connection.underLease, Bool.and_eq_true, decide_eq_true_eq] at h
      exact h.2
    refine ⟨rfl, by simp [Connection.rotated, hversion], ?_⟩
    rintro row hrow
    cases hrow
    omega
  | _ => cases hv

/-- A connection is left in progress by a claim alone. -/
theorem running_of_written (h : Written shopId old c new event)
    (hprogress : new.refreshState = .IN_PROGRESS) : ∃ leaseId trigger,
      new.refreshLeaseId = some leaseId ∧
        event = .started shopId new.tokenVersion leaseId trigger := by
  cases h with
  | claimed c' tokenVersion leaseId trigger leaseExpiresAt now h =>
    have hversion : c'.tokenVersion = tokenVersion := by
      simp only [claimable, Bool.and_eq_true, decide_eq_true_eq] at h
      exact h.2
    exact ⟨leaseId, trigger, rfl, by simp [Connection.claimed, hversion]⟩
  | _ => cases hprogress

theorem lease_of_written (h : Written shopId old c new event) {leaseId : Nat}
    (hlease : leaseOf event = some leaseId) : ∃ tokenVersion trigger leaseExpiresAt now,
      c = .claimRefresh shopId tokenVersion leaseId trigger leaseExpiresAt now := by
  cases h with
  | claimed c' tokenVersion leaseId' trigger leaseExpiresAt now h =>
    cases hlease
    exact ⟨tokenVersion, trigger, leaseExpiresAt, now, rfl⟩
  | _ => cases hlease

end Written

/-- A write keeps the log in order, when a claim has a lease that no refresh had. -/
theorem recorded_written {w w' : World} {shopId : Nat} {c : Call} {new : Connection}
    {event : Event} (hrecorded : Recorded w)
    (hconnections : w'.connections = w.connections.set shopId new)
    (hevents : w'.events = w.events ++ [event]) (hlease : w'.nextLease = w.nextLease)
    (hwritten : Written shopId (w.connections.get shopId) c new event)
    (hfresh : ∀ leaseId, leaseOf event = some leaseId →
      leaseId < w.nextLease ∧ leaseId ∉ leases w.events) : Recorded w' where
  running s row hrow hprogress := by
    rw [hconnections] at hrow
    rw [hevents]
    by_cases hs : s = shopId
    · subst hs
      have hnew : row = new := by simpa using hrow.symm
      subst hnew
      obtain ⟨leaseId, trigger, hlease, hevent⟩ := running_of_written hwritten hprogress
      exact ⟨leaseId, trigger, hlease, by simp [hevent]⟩
    · obtain ⟨leaseId, trigger, hlease, hstarted⟩ :=
        hrecorded.running s row (by simpa [hs] using hrow) hprogress
      exact ⟨leaseId, trigger, hlease, List.mem_append_left _ hstarted⟩
  leases := by
    rw [hevents]
    unfold leases
    rw [List.filterMap_append, List.nodup_append]
    refine ⟨hrecorded.leases, ?_, ?_⟩
    · cases hl : leaseOf event <;> simp [hl]
    · intro leaseId hleaseId leaseId' hleaseId'
      have hl : leaseOf event = some leaseId' := by simpa using hleaseId'
      rintro rfl
      exact (hfresh leaseId hl).2 hleaseId
  drawn leaseId hleaseId := by
    rw [hevents] at hleaseId
    rw [hlease]
    unfold leases at hleaseId
    rw [List.filterMap_append, List.mem_append] at hleaseId
    rcases hleaseId with hbefore | hlast
    · exact hrecorded.drawn leaseId hbefore
    · have hl : leaseOf event = some leaseId := by simpa using hlast
      exact (hfresh leaseId hl).1
  stored s v hv := by
    rw [hevents] at hv
    unfold storedVersions at hv
    rw [List.filterMap_append, List.mem_append] at hv
    rw [hconnections]
    rcases hv with hbefore | hlast
    · obtain ⟨row, hrow, hle⟩ := hrecorded.stored s v hbefore
      by_cases hs : s = shopId
      · subst hs
        have hup := version_of_written hwritten hrow
        exact ⟨new, by simp, by omega⟩
      · exact ⟨row, by simpa [hs] using hrow, hle⟩
    · have hv : storedVersion s event = some v := by simpa using hlast
      obtain ⟨rfl, hv, _⟩ := stored_of_written hwritten hv
      exact ⟨new, by simp, by omega⟩
  increasing s := by
    rw [hevents]
    unfold storedVersions
    rw [List.filterMap_append, List.pairwise_append]
    refine ⟨hrecorded.increasing s, ?_, ?_⟩
    · cases hl : storedVersion s event <;> simp [hl]
    · intro v hbefore v' hlast
      have hv' : storedVersion s event = some v' := by simpa using hlast
      obtain ⟨rfl, _, hlt⟩ := stored_of_written hwritten hv'
      obtain ⟨row, hrow, hle⟩ := hrecorded.stored s v hbefore
      have hrowlt := hlt row hrow
      omega

/-- What a world does not write of the connections and the log leaves them in order. -/
theorem recorded_same {w w' : World} (hrecorded : Recorded w)
    (hconnections : w'.connections = w.connections) (hevents : w'.events = w.events)
    (hlease : w.nextLease ≤ w'.nextLease) : Recorded w' where
  running := by
    rw [hconnections, hevents]
    exact hrecorded.running
  leases := by
    rw [hevents]
    exact hrecorded.leases
  drawn leaseId hleaseId := by
    rw [hevents] at hleaseId
    have hlt := hrecorded.drawn leaseId hleaseId
    omega
  stored := by
    rw [hconnections, hevents]
    exact hrecorded.stored
  increasing := by
    rw [hevents]
    exact hrecorded.increasing

/-! ## Leases -/

@[simp] theorem nextLease_note (w : World) (event : Event) :
    (w.note event).nextLease = w.nextLease := rfl

@[simp] theorem nextLease_compareAndSet (w : World) (shopId : Nat) (condition : Connection → Bool)
    (update : Connection → Connection) (event : Event) :
    (w.compareAndSet shopId condition update event).nextLease = w.nextLease := by
  unfold World.compareAndSet
  split
  · rfl
  · split <;> rfl

theorem nextLease_of_performs {w w' : World} {c : Call} {a : c.Result} (h : Performs w c a w') :
    w'.nextLease = w.nextLease ∨ c = .newLease ∧ w'.nextLease = w.nextLease + 1 := by
  cases h with
  | newLease => exact Or.inr ⟨rfl, rfl⟩
  | failPreparation | claimRefresh | markUncertain | failRefresh | persistRotation =>
    refine Or.inl ?_
    simp
  | _ => exact Or.inl rfl

theorem nextLease_of_exec {i : Nat} {w w' : World} {c : Call} {res : Except Failure c.Result}
    (h : Exec i w c res w') :
    w'.nextLease = w.nextLease ∨ c = .newLease ∧ w'.nextLease = w.nextLease + 1 := by
  rcases h.effect with ⟨a, w1, clock, hperforms, _, rfl, _⟩ | ⟨clock, _, rfl, _⟩
  · have hnext : w1.nextLease = w.nextLease ∨ c = .newLease ∧ w1.nextLease = w.nextLease + 1 :=
      nextLease_of_performs hperforms
    exact hnext
  · exact Or.inl rfl

theorem drawn_of_performs {w w' : World} {leaseId : Nat}
    (h : Performs w .newLease leaseId w') : leaseId = w.nextLease ∧ w'.nextLease = leaseId + 1 := by
  cases h with
  | newLease => exact ⟨rfl, rfl⟩
  | other _ _ h => cases h

theorem drawn_of_exec {i : Nat} {w w' : World} {leaseId : Nat}
    (h : Exec i w .newLease (.ok leaseId) w') :
    leaseId = w.nextLease ∧ w'.nextLease = leaseId + 1 := by
  rcases h.effect with ⟨a, w1, clock, hperforms, _, rfl, hres⟩ | ⟨clock, _, _, hres⟩
  · have ha : leaseId = a := hres leaseId rfl
    have hdrawn : a = w.nextLease ∧ w1.nextLease = a + 1 := drawn_of_performs hperforms
    rw [ha]
    exact hdrawn
  · exact absurd rfl (hres leaseId)

theorem claimed_of_performs {w w' : World} {shopId tokenVersion leaseId : Nat} {trigger : Trigger}
    {leaseExpiresAt now : Int} {a : Nat}
    (h : Performs w (.claimRefresh shopId tokenVersion leaseId trigger leaseExpiresAt now) a w') :
    a = w.matching shopId (claimable tokenVersion) ∧
      w' = w.compareAndSet shopId (claimable tokenVersion)
        (fun c => c.claimed leaseId leaseExpiresAt now)
        (.started shopId tokenVersion leaseId trigger) := by
  cases h with
  | claimRefresh => exact ⟨rfl, rfl⟩
  | other _ _ h => cases h

/-- A claim that counts one row noted its refresh. -/
theorem claimed_of_exec {i : Nat} {w w' : World} {shopId tokenVersion leaseId : Nat}
    {trigger : Trigger} {leaseExpiresAt now : Int}
    (h : Exec i w (.claimRefresh shopId tokenVersion leaseId trigger leaseExpiresAt now)
      (.ok (1 : Nat)) w') :
    .started shopId tokenVersion leaseId trigger ∈ w'.events := by
  rcases h.effect with ⟨a, w1, clock, hperforms, _, rfl, hres⟩ | ⟨clock, _, _, hres⟩
  · obtain ⟨ha, rfl⟩ := claimed_of_performs hperforms
    have hcount : (1 : Nat) = a := hres (1 : Nat) rfl
    unfold World.matching at ha
    have hany : (w.connections.get shopId).any (claimable tokenVersion) = true := by
      by_contra hnot
      rw [if_neg hnot] at ha
      omega
    obtain ⟨c, hget, hc⟩ := (Option.any_eq_true _ _).1 hany
    simp [World.compareAndSet, hget, hc, World.note]
  · exact absurd rfl (hres (1 : Nat))

/-! ## The invariant -/

/-- A thread keeps the lease that it drew until it claims with it. -/
theorem phase_of_drawn {r : Role} {c : Call} {res : Except Failure c.Result} {i leaseId : Nat}
    (h : (nextRole r c res).refresh = .drawn leaseId) :
    (r.refresh = .drawn leaseId ∧ ∀ shopId tokenVersion leaseId' trigger leaseExpiresAt now,
        c ≠ .claimRefresh shopId tokenVersion leaseId' trigger leaseExpiresAt now) ∨
      (Label.run i c res : SystemLabel) = .run i .newLease (.ok leaseId) := by
  cases c with
  | newLease =>
    cases res with
    | error e => exact Or.inl ⟨h, by simp⟩
    | ok leaseId' =>
      have hl : leaseId' = leaseId := by simpa [nextRole] using h
      rw [hl]
      exact Or.inr rfl
  | claimRefresh shopId tokenVersion leaseId' trigger leaseExpiresAt now =>
    cases res with
    | error e => cases h
    | ok count => by_cases hcount : count = 1 <;> simp [nextRole, hcount] at h
  | _ =>
    rw [refresh_next rfl] at h
    exact Or.inl ⟨h, by simp⟩

theorem phase_of_claimed {r : Role} {c : Call} {res : Except Failure c.Result}
    {i shopId tokenVersion leaseId : Nat} {trigger : Trigger}
    (h : (nextRole r c res).refresh = .claimed shopId tokenVersion leaseId trigger) :
    r.refresh = .claimed shopId tokenVersion leaseId trigger ∨
      ∃ leaseExpiresAt now, (Label.run i c res : SystemLabel) =
        .run i (.claimRefresh shopId tokenVersion leaseId trigger leaseExpiresAt now)
          (.ok (1 : Nat)) := by
  cases c with
  | newLease =>
    cases res with
    | error e => exact Or.inl h
    | ok leaseId' => cases h
  | claimRefresh shopId' tokenVersion' leaseId' trigger' leaseExpiresAt now =>
    cases res with
    | error e => cases h
    | ok count =>
      by_cases hcount : count = 1
      · simp only [nextRole, hcount, if_true, RefreshPhase.claimed.injEq] at h
        obtain ⟨rfl, rfl, rfl, rfl⟩ := h
        refine Or.inr ⟨leaseExpiresAt, now, ?_⟩
        rw [hcount]
      · simp [nextRole, hcount] at h
  | _ =>
    rw [refresh_next rfl] at h
    exact Or.inl h

section After

variable {env : Environment} {ls : List SystemLabel} {l : SystemLabel} {j : Nat}

theorem drawn_after {leaseId : Nat}
    (h : (rolesAfter env (ls ++ [l]) j).refresh = .drawn leaseId) :
    ((rolesAfter env ls j).refresh = .drawn leaseId ∧
      ∀ shopId tokenVersion leaseId' trigger leaseExpiresAt now res,
        l ≠ .run j (.claimRefresh shopId tokenVersion leaseId' trigger leaseExpiresAt now) res) ∨
      l = .run j .newLease (.ok leaseId) := by
  rcases after_cases env ls l j with ⟨hsame, _, hrun⟩ | ⟨hstart, _⟩ | ⟨c, res, rfl, hnext⟩
  · rw [hsame] at h
    exact Or.inl ⟨h, fun _ _ _ _ _ _ _ => hrun _ _⟩
  · rw [hstart] at h
    cases h
  · rw [hnext] at h
    rcases phase_of_drawn h with ⟨hdrawn, hc⟩ | hnew
    · refine Or.inl ⟨hdrawn, ?_⟩
      intro shopId tokenVersion leaseId' trigger leaseExpiresAt now res' hl
      cases hl
      exact hc _ _ _ _ _ _ rfl
    · exact Or.inr hnew

theorem claimed_after {shopId tokenVersion leaseId : Nat} {trigger : Trigger}
    (h : (rolesAfter env (ls ++ [l]) j).refresh = .claimed shopId tokenVersion leaseId trigger) :
    ((rolesAfter env ls j).refresh = .claimed shopId tokenVersion leaseId trigger ∧ l ≠ .spawn j) ∨
      ∃ leaseExpiresAt now, l =
        .run j (.claimRefresh shopId tokenVersion leaseId trigger leaseExpiresAt now)
          (.ok (1 : Nat)) := by
  rcases after_cases env ls l j with ⟨hsame, hspawn, _⟩ | ⟨hstart, _⟩ | ⟨c, res, rfl, hnext⟩
  · rw [hsame] at h
    exact Or.inl ⟨h, hspawn⟩
  · rw [hstart] at h
    cases h
  · rw [hnext] at h
    rcases phase_of_claimed h with hclaimed | hclaim
    · exact Or.inl ⟨hclaimed, by simp⟩
    · exact Or.inr hclaim

end After

/-- The call claimed this refresh and has been the same call since. -/
def ClaimedBefore (ls : List SystemLabel) (i shopId tokenVersion leaseId : Nat)
    (trigger : Trigger) : Prop :=
  ∃ leaseExpiresAt now, Since ls i
    (.run i (.claimRefresh shopId tokenVersion leaseId trigger leaseExpiresAt now) (.ok (1 : Nat)))

structure Inv (env : Environment) (ls : List SystemLabel) (w : World) : Prop where
  recorded : Recorded w
  /-- A lease that was drawn for a refresh to come is new. -/
  waiting : ∀ i leaseId, (rolesAfter env ls i).refresh = .drawn leaseId →
    leaseId < w.nextLease ∧ leaseId ∉ leases w.events
  apart : ∀ i j leaseId, (rolesAfter env ls i).refresh = .drawn leaseId →
    (rolesAfter env ls j).refresh = .drawn leaseId → i = j
  claimed : ∀ i shopId tokenVersion leaseId trigger,
    (rolesAfter env ls i).refresh = .claimed shopId tokenVersion leaseId trigger →
    .started shopId tokenVersion leaseId trigger ∈ w.events ∧
      ClaimedBefore ls i shopId tokenVersion leaseId trigger

theorem inv_nil {env : Environment} {w : World} (h : Recorded w) : Inv env [] w where
  recorded := h
  waiting := by simp [rolesAfter, staged, start]
  apart := by simp [rolesAfter, staged, start]
  claimed := by simp [rolesAfter, staged, start]

section Step

variable {env : Environment} {ls : List SystemLabel} {w w' : World}

theorem inv_quiet {l : SystemLabel} (hl : quiet l = true) (hinv : Inv env ls w) :
    Inv env (ls ++ [l]) w where
  recorded := hinv.recorded
  waiting i leaseId hi := by
    rcases drawn_after hi with ⟨hi, _⟩ | rfl
    · exact hinv.waiting i leaseId hi
    · cases hl
  apart i j leaseId hi hj := by
    rcases drawn_after hi with ⟨hi, _⟩ | rfl
    · rcases drawn_after hj with ⟨hj, _⟩ | rfl
      · exact hinv.apart i j leaseId hi hj
      · cases hl
    · cases hl
  claimed i shopId tokenVersion leaseId trigger hi := by
    rcases claimed_after hi with ⟨hi, hspawn⟩ | ⟨leaseExpiresAt, now, rfl⟩
    · obtain ⟨hstarted, expiresAt, now, hsince⟩ := hinv.claimed _ _ _ _ _ hi
      exact ⟨hstarted, expiresAt, now, since_snoc hsince hspawn⟩
    · cases hl

variable {i : Nat} {c : Call} {res : Except Failure c.Result}

theorem mem_events_of_changed {event : Event} (h : Changed w w' c) (hevent : event ∈ w.events) :
    event ∈ w'.events := by
  rcases h with ⟨_, hevents⟩ | ⟨_, _, _, _, hevents, _⟩
  · rw [hevents]
    exact hevent
  · rw [hevents]
    exact List.mem_append_left _ hevent

/-- A lease is noted only by the claim with it. -/
theorem mem_leases_of_changed {leaseId : Nat} (h : Changed w w' c)
    (hlease : leaseId ∈ leases w'.events) : leaseId ∈ leases w.events ∨
      ∃ shopId tokenVersion trigger leaseExpiresAt now,
        c = .claimRefresh shopId tokenVersion leaseId trigger leaseExpiresAt now := by
  rcases h with ⟨_, hevents⟩ | ⟨shopId, new, event, _, hevents, hwritten⟩
  · rw [hevents] at hlease
    exact Or.inl hlease
  · rw [hevents] at hlease
    unfold leases at hlease
    rw [List.filterMap_append, List.mem_append] at hlease
    rcases hlease with hbefore | hlast
    · exact Or.inl hbefore
    · have hl : leaseOf event = some leaseId := by simpa using hlast
      exact Or.inr ⟨shopId, lease_of_written hwritten hl⟩

theorem recorded_step (hinv : Inv env ls w) (hok : okCall env (rolesAfter env ls i) c)
    (h : Exec i w c res w') : Recorded w' := by
  rcases changed_of_exec h with ⟨hconnections, hevents⟩ | ⟨shopId, new, event, hconnections, hevents, hwritten⟩
  · apply recorded_same hinv.recorded hconnections hevents
    rcases nextLease_of_exec h with hsame | ⟨_, hnext⟩ <;> omega
  · have hlease : w'.nextLease = w.nextLease := by
      rcases nextLease_of_exec h with hsame | ⟨rfl, _⟩
      · exact hsame
      · exact absurd hwritten not_written_newLease
    apply recorded_written hinv.recorded hconnections hevents hlease hwritten
    intro leaseId hl
    obtain ⟨tokenVersion, trigger, leaseExpiresAt, now, rfl⟩ := lease_of_written hwritten hl
    exact hinv.waiting i leaseId hok

theorem inv_run_step (hinv : Inv env ls w) (hok : okCall env (rolesAfter env ls i) c)
    (h : Exec i w c res w') : Inv env (ls ++ [.run i c res]) w' where
  recorded := recorded_step hinv hok h
  waiting j leaseId hj := by
    rcases drawn_after hj with ⟨hdrawn, hclaim⟩ | hl
    · obtain ⟨hlt, hnew⟩ := hinv.waiting j leaseId hdrawn
      constructor
      · rcases nextLease_of_exec h with hsame | ⟨_, hnext⟩ <;> omega
      · intro hmem
        rcases mem_leases_of_changed (changed_of_exec h) hmem with hbefore | ⟨_, _, _, _, _, rfl⟩
        · exact hnew hbefore
        · -- only the thread that drew the lease claims with it
          have hij : i = j := hinv.apart i j leaseId hok hdrawn
          subst hij
          exact hclaim _ _ _ _ _ _ _ rfl
    · cases hl
      obtain ⟨hlease, hnext⟩ := drawn_of_exec h
      refine ⟨by omega, ?_⟩
      intro hmem
      rcases mem_leases_of_changed (changed_of_exec h) hmem with hbefore | ⟨_, _, _, _, _, hclaim⟩
      · have hlt := hinv.recorded.drawn leaseId hbefore
        omega
      · cases hclaim
  apart j k leaseId hj hk := by
    rcases drawn_after hj with ⟨hdrawn, _⟩ | hl
    · rcases drawn_after hk with ⟨hdrawn', _⟩ | hl'
      · exact hinv.apart j k leaseId hdrawn hdrawn'
      · cases hl'
        obtain ⟨hlease, _⟩ := drawn_of_exec h
        have hlt := (hinv.waiting j leaseId hdrawn).1
        omega
    · rcases drawn_after hk with ⟨hdrawn', _⟩ | hl'
      · cases hl
        obtain ⟨hlease, _⟩ := drawn_of_exec h
        have hlt := (hinv.waiting k leaseId hdrawn').1
        omega
      · rw [hl] at hl'
        cases hl'
        rfl
  claimed j shopId tokenVersion leaseId trigger hj := by
    rcases claimed_after hj with ⟨hclaimed, hspawn⟩ | ⟨leaseExpiresAt, now, hl⟩
    · obtain ⟨hstarted, expiresAt, now, hsince⟩ := hinv.claimed _ _ _ _ _ hclaimed
      exact ⟨mem_events_of_changed (changed_of_exec h) hstarted, expiresAt, now,
        since_snoc hsince hspawn⟩
    · cases hl
      exact ⟨claimed_of_exec h, leaseExpiresAt, now, since_last ls i _⟩

end Step

/-! ## Runs -/

/-- The refresh that a call ends: its shop, its version and its lease. -/
def ends : Call → Option (Nat × Nat × Option Nat)
  | .persistRotation shopId leaseId tokenVersion _ | .failRefresh shopId leaseId tokenVersion _ _ =>
    some (shopId, tokenVersion, some leaseId)
  | .markUncertain shopId leaseId tokenVersion _ _ => some (shopId, tokenVersion, leaseId)
  | _ => none

/-- The calls that end a refresh and that only its own thread makes. -/
def endsOwn : Call → Option (Nat × Nat × Nat)
  | .persistRotation shopId leaseId tokenVersion _ | .failRefresh shopId leaseId tokenVersion _ _ =>
    some (shopId, tokenVersion, leaseId)
  | _ => none

def tokens (c : Connection) : Option String × Option String :=
  (c.accessTokenCiphertext, c.refreshTokenCiphertext)

/-- What a step may make of a connection. -/
structure Succession (w : World) (shopId : Nat) (l : SystemLabel) (c c' : Connection) : Prop where
  version : c.tokenVersion ≤ c'.tokenVersion
  /-- Other tokens are a new version, or no tokens. -/
  tokens : tokens c' ≠ tokens c → c.tokenVersion < c'.tokenVersion ∨ tokens c' = (none, none)
  /-- The end of a refresh is written only under its lease and at its version. -/
  outcome : ∀ i call res v lease, l = .run i call res → ends call = some (shopId, v, lease) →
    c' ≠ c → c.refreshState = .IN_PROGRESS ∧ c.refreshLeaseId = lease ∧ c.tokenVersion = v ∧
      ∃ leaseId trigger, lease = some leaseId ∧ .started shopId v leaseId trigger ∈ w.events
  /-- A refresh under way is only ended so, or by a new authorization. -/
  running : c.refreshState = .IN_PROGRESS → c' ≠ c →
    (∃ i data res, l = .run i (.authorizeConnection shopId data) res) ∨
      ∃ i call res, l = .run i call res ∧
        ends call = some (shopId, c.tokenVersion, c.refreshLeaseId)

theorem succession_same (w : World) (shopId : Nat) (l : SystemLabel) (c : Connection) :
    Succession w shopId l c c where
  version := le_rfl
  tokens h := absurd rfl h
  outcome _ _ _ _ _ _ _ h := absurd rfl h
  running _ h := absurd rfl h

theorem underLease_iff {c : Connection} {leaseId : Option Nat} {tokenVersion : Nat} :
    c.underLease leaseId tokenVersion = true ↔
      c.refreshState = .IN_PROGRESS ∧ c.refreshLeaseId = leaseId ∧ c.tokenVersion = tokenVersion := by
  simp [Connection.underLease, and_assoc]

/-- The write of a connection that is no refresh under way, and that keeps the tokens. -/
theorem succession_quiet {w : World} {shopId i : Nat} {call : Call}
    {res : Except Failure call.Result} {c c' : Connection}
    (hversion : c'.tokenVersion = c.tokenVersion) (htokens : tokens c' = tokens c)
    (hends : ends call = none) (hrunning : c.refreshState ≠ .IN_PROGRESS) :
    Succession w shopId (.run i call res) c c' where
  version := hversion.ge
  tokens h := absurd htokens h
  outcome j call' res' v lease hl hcall := by
    cases hl
    rw [hends] at hcall
    cases hcall
  running h := absurd h hrunning

/-- A write under the lease of the refresh. -/
theorem succession_outcome {w : World} {shopId i v : Nat} {call : Call}
    {res : Except Failure call.Result} {lease : Option Nat} {c c' : Connection}
    (hrecorded : Recorded w) (hc : w.connections.get shopId = some c)
    (hends : ends call = some (shopId, v, lease)) (hlease : c.underLease lease v = true)
    (hversion : c.tokenVersion ≤ c'.tokenVersion)
    (htokens : tokens c' ≠ tokens c → c.tokenVersion < c'.tokenVersion ∨ tokens c' = (none, none)) :
    Succession w shopId (.run i call res) c c' := by
  obtain ⟨hprogress, rfl, rfl⟩ := underLease_iff.1 hlease
  refine ⟨hversion, htokens, ?_, ?_⟩
  · intro j call' res' v' lease' hl hcall _
    cases hl
    rw [hends] at hcall
    cases hcall
    obtain ⟨leaseId, trigger, hleaseId, hstarted⟩ := hrecorded.running shopId c hc hprogress
    exact ⟨hprogress, rfl, rfl, leaseId, trigger, hleaseId, hstarted⟩
  · intro _ _
    exact Or.inr ⟨i, call, res, rfl, hends⟩

theorem succession_of_written {w : World} {shopId i : Nat} {call : Call}
    {res : Except Failure call.Result} {c new : Connection} {event : Event}
    (hrecorded : Recorded w) (hc : w.connections.get shopId = some c)
    (hprepares : ∀ tokenVersion refreshState ciphertext reason now,
      call = .failPreparation shopId tokenVersion refreshState ciphertext reason now →
        refreshState ≠ .IN_PROGRESS)
    (h : Written shopId (some c) call new event) :
    Succession w shopId (.run i call res) c new := by
  cases h with
  | authorized _ data =>
    refine ⟨by simp [Connection.authorized], ?_, ?_, ?_⟩
    · intro _
      left
      simp [Connection.authorized]
    · intro j call' res' v lease hl hcall
      cases hl
      cases hcall
    · intro _ _
      exact Or.inl ⟨i, data, res, rfl⟩
  | claimed _ tokenVersion leaseId trigger leaseExpiresAt now h =>
    simp only [claimable, ne_eq, decide_not, Bool.and_eq_true, Bool.not_eq_true',
      decide_eq_false_iff_not, decide_eq_true_eq] at h
    exact succession_quiet rfl rfl rfl h.1
  | unprepared _ tokenVersion refreshState ciphertext reason now h =>
    simp only [unchanged, Bool.and_eq_true, decide_eq_true_eq] at h
    have hidle : c.refreshState ≠ .IN_PROGRESS := by
      rw [h.1.2]
      exact hprepares _ _ _ _ _ rfl
    exact succession_quiet rfl rfl rfl hidle
  | uncertain _ leaseId tokenVersion reason now h =>
    exact succession_outcome hrecorded hc rfl h le_rfl (fun _ => Or.inr rfl)
  | failed _ leaseId tokenVersion code now h =>
    exact succession_outcome hrecorded hc rfl h le_rfl (fun htokens => absurd rfl htokens)
  | rotated _ leaseId tokenVersion data h =>
    exact succession_outcome hrecorded hc rfl h (Nat.le_succ _) (fun _ => Or.inl (Nat.lt_succ_self _))

section Runs

variable {env : Environment} {w : World} {ls : List SystemLabel} {pool : SystemPool}

theorem inv_run (hw : Recorded w) (h : SystemRun env (idle w) ls pool) :
    Inv env ls pool.world ∧ Follows (protocol env) pool (rolesAfter env ls) := by
  apply system_invariant (fun _ _ => True) (Inv env)
  · intro ls w l hl hinv
    exact inv_quiet hl hinv
  · intro ls w i c res w' hinv hok hexec _
    exact inv_run_step hinv hok hexec
  · exact h.mono (fun _ _ _ hstep => ⟨hstep, trivial⟩)
  · exact inv_nil hw

theorem connection_step (hinv : Inv env ls w) {i : Nat} {call : Call}
    {res : Except Failure call.Result} {w' : World} (hok : okCall env (rolesAfter env ls i) call)
    (h : Exec i w call res w') {shopId : Nat} {c : Connection}
    (hc : w.connections.get shopId = some c) :
    ∃ c', w'.connections.get shopId = some c' ∧ Succession w shopId (.run i call res) c c' := by
  rcases changed_of_exec h with ⟨hconnections, _⟩ | ⟨shopId', new, event, hconnections, _, hwritten⟩
  · rw [hconnections]
    exact ⟨c, hc, succession_same _ _ _ _⟩
  · rw [hconnections]
    by_cases hs : shopId = shopId'
    · subst hs
      rw [hc] at hwritten
      refine ⟨new, by simp, succession_of_written hinv.recorded hc ?_ hwritten⟩
      rintro tokenVersion refreshState ciphertext reason now rfl
      rcases hok with hidle | hfailed
      · simp [hidle]
      · simp [hfailed]
    · exact ⟨c, by simpa [hs] using hc, succession_same _ _ _ _⟩

/-- In every run, from a world whose log has the refresh under way of each connection: the
versions of stored pairs of tokens go up, each refresh has a lease of its own, every step
continues a connection as `Succession` says, so that an outcome of another version changes
nothing, and a thread ends only the refresh that it started. -/
theorem token_generations_never_go_back (hw : Recorded w) (h : SystemRun env (idle w) ls pool) :
    (∀ shopId, (storedVersions shopId pool.world.events).Pairwise (· < ·)) ∧
    (leases pool.world.events).Nodup ∧
    ∀ l t, PoolStep machine (Startable env) pool l t →
      (∀ shopId c, pool.world.connections.get shopId = some c →
        ∃ c', t.world.connections.get shopId = some c' ∧ Succession pool.world shopId l c c') ∧
      ∀ i call res shopId v leaseId, l = .run i call res →
        endsOwn call = some (shopId, v, leaseId) →
        ∃ trigger, .started shopId v leaseId trigger ∈ pool.world.events ∧
          ClaimedBefore ls i shopId v leaseId trigger := by
  obtain ⟨hinv, hfollows⟩ := inv_run hw h
  refine ⟨hinv.recorded.increasing, hinv.recorded.leases, ?_⟩
  intro l t hstep
  rcases step_cases hfollows hstep with ⟨hquiet, hworld⟩ | ⟨i, c, res, rfl, hok, hexec⟩
  · constructor
    · intro shopId c hc
      rw [hworld]
      exact ⟨c, hc, succession_same _ _ _ _⟩
    · rintro i call res shopId v leaseId rfl
      cases hquiet
  · constructor
    · intro shopId c hc
      exact connection_step hinv hok hexec hc
    · intro j call res' shopId v leaseId hl hown
      cases hl
      have hclaimed : ∃ trigger,
          (rolesAfter env ls i).refresh = .claimed shopId v leaseId trigger := by
        cases c with
        | failRefresh shopId' leaseId' tokenVersion code now =>
          cases hown
          exact hok
        | persistRotation shopId' leaseId' tokenVersion data =>
          cases hown
          exact hok
        | _ => cases hown
      obtain ⟨trigger, hrole⟩ := hclaimed
      exact ⟨trigger, hinv.claimed _ _ _ _ _ hrole⟩

end Runs

/-! ## A refresh -/

/-- A connection whose access token ran out. -/
def sampleConnection : Connection where
  status := "HEALTHY"
  accessTokenCiphertext := some "old"
  refreshTokenCiphertext := some "old refresh"
  accessTokenExpiresAt := some 0
  refreshTokenExpiresAt := some 2000000
  tokenVersion := 1

def sampleWorld : World where
  connections := Table.empty.set 1 sampleConnection

theorem recorded_sample : Recorded sampleWorld where
  running := by
    intro shopId c hc hprogress
    by_cases hs : shopId = 1
    · subst hs
      cases hc
      cases hprogress
    · have hnone : sampleWorld.connections.get shopId = none := by simp [sampleWorld, hs]
      rw [hnone] at hc
      cases hc
  leases := List.nodup_nil
  drawn := by simp [leases, sampleWorld]
  stored := by simp [storedVersions, sampleWorld]
  increasing := by simp [storedVersions, sampleWorld]

/-- A refresh, up to its claim. -/
def claimTurns (i : Nat) (trigger : Trigger) (turns : List SystemTurn) : List SystemTurn :=
  spawnJob i (.refreshToken (some 1) trigger) :: .run i (.shop sampleShop) ::
    (performed i 5 ++ turns)

theorem starts_claim {i : Nat} {trigger : Trigger} {turns : List SystemTurn}
    (h : Starts (Startable sampleEnvironment) turns) :
    Starts (Startable sampleEnvironment) (claimTurns i trigger turns) :=
  starts_job (starts_run (starts_runs h))

/-- TikTok answers the refresh, and the new tokens are stored. -/
def rotateTurns (i : Nat) : List SystemTurn :=
  [.run i (.tokens sampleTokens), .run i (.shops [⟨"seller", "ID"⟩]), .run i .performed]

theorem starts_rotate {i : Nat} : Starts (Startable sampleEnvironment) (rotateTurns i) :=
  starts_run (starts_run (starts_run starts_nil))

theorem refreshed_generations_go_up : ∃ ls pool,
    SystemRun sampleEnvironment (idle sampleWorld) ls pool ∧
      storedVersions 1 pool.world.events = [2] ∧
      ∀ shopId, (storedVersions shopId pool.world.events).Pairwise (· < ·) := by
  have hplay : (playJobs (fun _ _ => true) (claimTurns 0 .AUTO (rotateTurns 0))
      (idle sampleWorld)).map (fun r => storedVersions 1 r.2.world.events) = some [2] := by decide
  obtain ⟨ls, pool, hrun, hversions⟩ := exists_run_of_jobs (starts_claim starts_rotate) hplay
  have hsystem : SystemRun sampleEnvironment (idle sampleWorld) ls pool :=
    hrun.mono (fun _ _ _ hstep => hstep.1)
  exact ⟨ls, pool, hsystem, hversions,
    (token_generations_never_go_back recorded_sample hsystem).1⟩

end tiktok_outreach.token_generations
