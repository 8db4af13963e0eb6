-- How often a request of the client goes out, and what becomes of its lease,
-- whatever the governor, TikTok and the clock answer.
import TiktokOutreach.ClientRequests

open executions runs tiktok_outreach.client_requests
open tiktok_outreach.read_boundary (isAllowed assertAllowedTikTokReadRequest)
open tiktok_outreach.read_governor (TikTokReadLease TikTokReadOperation TikTokReadGovernorEvent
  Response Failure)
open tiktok_outreach.read_only_client (retries retryAfterMs errorKind causeMessage operationName)

namespace tiktok_outreach.client_life

/-! ## What a history shows -/

abbrev Answered := (c : Call) × Except Failure c.Result

def isFetch (e : Answered) : Bool :=
  match e.1 with
  | .fetch => true
  | _ => false

/-- The physical requests. -/
def fetches (h : Answers) : Nat := h.countP isFetch

def leaseOf (e : Answered) : Option TikTokReadLease :=
  match e with
  | ⟨.acquire _, .ok lease⟩ => some lease
  | _ => none

/-- The leases that were acquired. -/
def leases (h : Answers) : List TikTokReadLease := h.filterMap leaseOf

/-- The lease that a call finalizes. -/
def finalizes : Call → Option TikTokReadLease
  | .succeeded lease _ | .throttled lease _ | .release lease => some lease
  | _ => none

def finalizedBy (e : Answered) : Option TikTokReadLease :=
  match e.2 with
  | .ok _ => finalizes e.1
  | .error _ => none

/-- The leases that a completed call finalized. -/
def finalized (h : Answers) : List TikTokReadLease := h.filterMap finalizedBy

/-- A call was made that finalizes a lease, completed or not. -/
def Finalizing (h : Answers) : Prop := ∃ e ∈ h, finalizes e.1 ≠ none

/-- The client's flag was claimed. -/
def Claimed (h : Answers) : Prop := (⟨.claimValidationAction, .ok false⟩ : Answered) ∈ h

def ReleaseThrew (lease : TikTokReadLease) (h : Answers) : Prop :=
  ∃ e, (⟨.release lease, .error e⟩ : Answered) ∈ h

section Law

variable (options : RequestOptions) (input : RequestInput)

/-- The path and the method are on the allowlist. -/
def Allowed : Prop := isAllowed input.operation input.method input.path = true

/-- The physical requests that one request may come to. -/
def limit : Nat := if retries options.toClientOptions input.operation then 3 else 1

/-- Which call a request may make next. -/
def law (h : Answers) (c : Call) : Prop :=
  Allowed input ∧ match c with
    | .acquire _ => leases h = [] ∧ fetches h = 0
    | .fetch => fetches h < limit options input ∧ ¬ Finalizing h ∧
        (options.validationMode = true → Claimed h)
    | .succeeded lease _ | .throttled lease _ | .release lease =>
        leases h = [lease] ∧ finalized h = []
    | _ => True

/-- A request in its loop, after `k` physical requests. -/
structure Holding (lease : Option TikTokReadLease) (k : Nat) (isFinalized : Bool) (h : Answers) :
    Prop where
  unfinalized : isFinalized = false
  held : leases h = lease.toList
  sent : fetches h = k
  untouched : ¬ Finalizing h
  claimed : options.validationMode = true → Claimed h

/-- A request at the end of its loop: the flag tells whether its lease is finalized. -/
structure Settled (lease : Option TikTokReadLease) (isFinalized : Bool) (h : Answers) : Prop where
  held : leases h = lease.toList
  settled : finalized h = if isFinalized then lease.toList else []

/-- The flag is not set yet, and a call that was to finalize the lease did or failed. -/
structure Tried (lease : Option TikTokReadLease) (succeeded isFinalized : Bool) (h : Answers) :
    Prop where
  unfinalized : isFinalized = false
  held : leases h = lease.toList
  settled : finalized h = if succeeded then lease.toList else []

/-- Every lease was finalized once, or its release threw. -/
def Released (h : Answers) : Prop :=
  ∀ lease ∈ leases h, finalized h = [lease] ∨ finalized h = [] ∧ ReleaseThrew lease h

end Law

/-! ## One more call -/

section Snoc

variable (h : Answers) (e : Answered)

theorem fetches_snoc : fetches (h ++ [e]) = fetches h + if isFetch e then 1 else 0 := by
  simp [fetches, List.countP_append, List.countP_cons]

theorem leases_snoc : leases (h ++ [e]) = leases h ++ (leaseOf e).toList := by
  cases he : leaseOf e <;> simp [leases, he]

theorem finalized_snoc : finalized (h ++ [e]) = finalized h ++ (finalizedBy e).toList := by
  cases he : finalizedBy e <;> simp [finalized, he]

theorem finalizing_snoc : Finalizing (h ++ [e]) ↔ Finalizing h ∨ finalizes e.1 ≠ none := by
  simp only [Finalizing, List.mem_append, List.mem_singleton]
  constructor
  · rintro ⟨e', he' | rfl, hne⟩
    · exact Or.inl ⟨e', he', hne⟩
    · exact Or.inr hne
  · rintro (⟨e', he', hne⟩ | hne)
    · exact ⟨e', Or.inl he', hne⟩
    · exact ⟨e, Or.inr rfl, hne⟩

theorem claimed_snoc {h : Answers} (hclaimed : Claimed h) : Claimed (h ++ [e]) :=
  List.mem_append_left _ hclaimed

theorem finalized_of_not_finalizing {h : Answers} (hnot : ¬ Finalizing h) : finalized h = [] := by
  simp only [finalized, List.filterMap_eq_nil_iff]
  intro e he
  by_contra hne
  refine hnot ⟨e, he, ?_⟩
  unfold finalizedBy at hne
  split at hne
  · exact hne
  · exact absurd rfl hne

end Snoc

/-- A call that neither goes out nor touches a lease. -/
def Neutral (c : Call) : Prop :=
  match c with
  | .acquire _ | .fetch | .succeeded _ _ | .throttled _ _ | .release _ => False
  | _ => True

section Steps

variable {options : RequestOptions} {input : RequestInput} {lease : Option TikTokReadLease}

theorem settled_of_holding {k : Nat} {isFinalized : Bool} {h : Answers}
    (hh : Holding options lease k isFinalized h) : Settled lease isFinalized h := by
  refine ⟨hh.held, ?_⟩
  rw [hh.unfinalized, finalized_of_not_finalizing hh.untouched]
  simp

theorem tried_none {k : Nat} {succeeded isFinalized : Bool} {h : Answers}
    (hh : Holding options none k isFinalized h) : Tried none succeeded isFinalized h := by
  refine ⟨hh.unfinalized, hh.held, ?_⟩
  rw [finalized_of_not_finalizing hh.untouched]
  simp

theorem settled_of_tried {isFinalized : Bool} {h : Answers}
    (hh : Tried lease false isFinalized h) : Settled lease isFinalized h := by
  refine ⟨hh.held, ?_⟩
  rw [hh.unfinalized]
  exact hh.settled

theorem holding_snoc {k : Nat} {isFinalized : Bool} {h : Answers} {c : Call}
    (hc : Neutral c) (res : Except Failure c.Result) (hh : Holding options lease k isFinalized h) :
    Holding options lease k isFinalized (h ++ [⟨c, res⟩]) := by
  have hfetch : isFetch ⟨c, res⟩ = false := by cases c <;> simp_all [Neutral, isFetch]
  have hlease : leaseOf ⟨c, res⟩ = none := by cases c <;> simp_all [Neutral, leaseOf]
  have hfinal : finalizes c = none := by cases c <;> simp_all [Neutral, finalizes]
  refine ⟨hh.unfinalized, ?_, ?_, ?_, fun hvalidation => claimed_snoc _ (hh.claimed hvalidation)⟩
  · rw [leases_snoc, hlease, hh.held]
    simp
  · rw [fetches_snoc, hfetch, hh.sent]
    simp
  · rw [finalizing_snoc]
    rintro (hbefore | hne)
    · exact hh.untouched hbefore
    · exact hne hfinal

theorem law_of_neutral (hallowed : Allowed input) {h : Answers} {c : Call} (hc : Neutral c) :
    law options input h c := by
  cases c with
  | acquire _ => exact hc.elim
  | fetch => exact hc.elim
  | succeeded _ _ => exact hc.elim
  | throttled _ _ => exact hc.elim
  | release _ => exact hc.elim
  | _ => exact ⟨hallowed, trivial⟩

theorem keeps_neutral (hallowed : Allowed input) {k : Nat} {c : Call} (hc : Neutral c) :
    Js.Keeps (law options input) (Holding options lease k) (query c)
      (fun _ => Holding options lease k) := by
  apply Js.keeps_call
  · intro l h hh
    exact law_of_neutral hallowed hc
  · intro l h res hh
    exact holding_snoc hc res hh

/-- A call that finalizes the lease of the request, whose outcome decides whether it did. -/
theorem keeps_finalizing (hallowed : Allowed input) {held : TikTokReadLease} {k : Nat} {c : Call}
    (hc : c = .release held ∨ ∃ event, c = .succeeded held event ∨ c = .throttled held event) :
    Js.Keeps (law options input) (Holding options (some held) k) (query c)
      fun out => Tried (some held) out.isOk := by
  have hfinal : finalizes c = some held := by
    rcases hc with rfl | ⟨event, rfl | rfl⟩ <;> rfl
  apply Js.keeps_call
  · intro l h hh
    have hheld : leases h = [held] ∧ finalized h = [] :=
      ⟨hh.held, finalized_of_not_finalizing hh.untouched⟩
    rcases hc with rfl | ⟨event, rfl | rfl⟩ <;> exact ⟨hallowed, hheld⟩
  · intro l h res hh
    have hlease : leaseOf ⟨c, res⟩ = none := by
      rcases hc with rfl | ⟨event, rfl | rfl⟩ <;> rfl
    refine ⟨hh.unfinalized, ?_, ?_⟩
    · rw [leases_snoc, hlease, hh.held]
      simp
    · rw [finalized_snoc, finalized_of_not_finalizing hh.untouched]
      cases res with
      | ok a => simp [finalizedBy, hfinal, Except.isOk, Except.toBool]
      | error e => simp [finalizedBy, Except.isOk, Except.toBool]

/-- What the request does while it holds its lease, and then. -/
theorem keeps_then {k k' : Nat} {α β : Type} {m : Request α} {f : α → Request β}
    (hm : Js.Keeps (law options input) (Holding options lease k) m
      (fun _ => Holding options lease k'))
    (hf : ∀ a, Js.Keeps (law options input) (Holding options lease k') (f a)
      (fun _ => Settled lease)) :
    Js.Keeps (law options input) (Holding options lease k) (m >>= f) (fun _ => Settled lease) :=
  Js.keeps_bind hm hf fun _ _ _ hh => settled_of_holding hh

theorem keeps_throw_settled {k : Nat} {α : Type} (e : Failure) :
    Js.Keeps (law options input) (Holding options lease k) (Js.throw e : Request α)
      (fun _ => Settled lease) :=
  Js.keeps_throw fun _ _ hh => settled_of_holding hh

theorem keeps_throttledLease (hallowed : Allowed input) {k : Nat}
    (event : TikTokReadGovernorEvent) :
    Js.Keeps (law options input) (Holding options lease k) (throttledLease lease event)
      fun out => Tried lease out.isOk := by
  cases lease with
  | none => exact Js.keeps_pure fun _ _ hh => tried_none hh
  | some held =>
    apply Js.keeps_bind (keeps_finalizing hallowed (Or.inr ⟨event, Or.inr rfl⟩))
    · intro next
      exact Js.keeps_pure fun _ _ hh => hh
    · intro e l h hh
      exact hh

theorem keeps_succeededLease (hallowed : Allowed input) {k : Nat}
    (event : TikTokReadGovernorEvent) :
    Js.Keeps (law options input) (Holding options lease k) (succeededLease lease event)
      fun out => Tried lease out.isOk := by
  cases lease with
  | none => exact Js.keeps_pure fun _ _ hh => tried_none hh
  | some held => exact keeps_finalizing hallowed (Or.inr ⟨event, Or.inl rfl⟩)

theorem keeps_providerThrottled (hallowed : Allowed input) {k : Nat} (response : Response)
    (code : Option Int) (requestId : Option String) (retryAfter : Option ℚ) :
    Js.Keeps (law options input) (Holding options lease k)
      (providerThrottled input lease response code requestId retryAfter)
      (fun _ => Settled lease) := by
  apply Js.keeps_bind (keeps_throttledLease hallowed _)
  · intro next
    apply Js.keeps_bind (M := fun _ => Settled lease)
    · -- the flag becomes whether there is a lease, which is then finalized
      apply Js.keeps_modifyLocals
      intro l h hh
      refine ⟨hh.held, ?_⟩
      rw [hh.settled]
      cases lease <;> rfl
    · intro _
      exact Js.keeps_throw fun _ _ hh => hh
    · intro e l h hh
      exact hh
  · intro e l h hh
    exact settled_of_tried hh

theorem keeps_reportDiagnostics (hallowed : Allowed input) {k : Nat} (response : Response)
    (code : Option Int) (requestId : Option String) (retryCount : Nat) :
    Js.Keeps (law options input) (Holding options lease k)
      (reportDiagnostics input response code requestId retryCount)
      (fun _ => Holding options lease k) := by
  unfold reportDiagnostics
  exact keeps_neutral hallowed trivial

theorem keeps_malformed (hallowed : Allowed input) {k : Nat} (response : Response)
    (retryAfter : Option ℚ) (retryCount : Nat) (message : String) :
    Js.Keeps (law options input) (Holding options lease k)
      (malformed input lease response retryAfter retryCount message)
      (fun _ => Settled lease) := by
  unfold malformed
  split
  · apply keeps_then (keeps_reportDiagnostics hallowed _ _ _ _)
    intro _
    exact keeps_providerThrottled hallowed _ _ _ _
  · exact keeps_throw_settled _

/-- What is tried again goes on from one more physical request. -/
def KeepsAgain (options : RequestOptions) (input : RequestInput) (lease : Option TikTokReadLease)
    (k : Nat) (retry : Option (Option ℚ → Request Response)) : Prop :=
  ∀ again, retry = some again → ∀ retryAfter,
    Js.Keeps (law options input) (Holding options lease k) (again retryAfter)
      (fun _ => Settled lease)

theorem keeps_rejected (hallowed : Allowed input) {k : Nat} (response : Response)
    (code : Option Int) (requestId message : Option String) (retryAfter : Option ℚ)
    {retry : Option (Option ℚ → Request Response)}
    (hretry : KeepsAgain options input lease k retry) :
    Js.Keeps (law options input) (Holding options lease k)
      (rejected input lease response code requestId message retryAfter retry)
      (fun _ => Settled lease) := by
  unfold rejected
  split
  · exact keeps_providerThrottled hallowed _ _ _ _
  · exact hretry _ rfl _
  · exact keeps_throw_settled _

theorem keeps_handleResponse (hallowed : Allowed input) {k : Nat} (response : Response)
    (retryAfter : Option ℚ) (retryCount : Nat) {retry : Option (Option ℚ → Request Response)}
    (hretry : KeepsAgain options input lease k retry) :
    Js.Keeps (law options input) (Holding options lease k)
      (handleResponse input lease response retryAfter retryCount retry)
      (fun _ => Settled lease) := by
  unfold handleResponse
  split
  · exact keeps_malformed hallowed _ _ _ _
  · exact keeps_malformed hallowed _ _ _ _
  · apply keeps_then (keeps_reportDiagnostics hallowed _ _ _ _)
    intro _
    split
    · apply Js.keeps_bind (keeps_succeededLease hallowed _)
      · intro _
        apply Js.keeps_bind (M := fun _ => Settled lease)
        · apply Js.keeps_modifyLocals
          intro l h hh
          exact ⟨hh.held, hh.settled⟩
        · intro _
          exact Js.keeps_pure fun _ _ hh => hh
        · intro e l h hh
          exact hh
      · intro e l h hh
        exact settled_of_tried hh
    · exact keeps_rejected hallowed _ _ _ _ _ hretry

theorem keeps_requestStartedLease (hallowed : Allowed input) {k : Nat} :
    Js.Keeps (law options input) (Holding options lease k) (requestStartedLease lease)
      (fun _ => Holding options lease k) := by
  cases lease with
  | none => exact Js.keeps_pure fun _ _ hh => hh
  | some held => exact keeps_neutral hallowed trivial

/-- The exchange is one more physical request, which ends with a value. -/
theorem keeps_exchange (hallowed : Allowed input) {k : Nat} (hk : k < limit options input) :
    Js.Keeps (law options input) (Holding options lease k) exchange
      (fun _ => Holding options lease (k + 1)) := by
  have hfetch : Js.Keeps (law options input) (Holding options lease k) (query .fetch)
      (fun _ => Holding options lease (k + 1)) := by
    apply Js.keeps_call
    · intro l h hh
      refine ⟨hallowed, ?_, hh.untouched, hh.claimed⟩
      rw [hh.sent]
      exact hk
    · intro l h res hh
      refine ⟨hh.unfinalized, ?_, ?_, ?_, fun hmode => claimed_snoc _ (hh.claimed hmode)⟩
      · rw [leases_snoc, hh.held]
        simp [leaseOf]
      · rw [fetches_snoc, hh.sent]
        simp [isFetch]
      · rw [finalizing_snoc]
        rintro (hbefore | hne)
        · exact hh.untouched hbefore
        · exact hne rfl
  apply Js.keeps_tryCatch (M := fun _ => Holding options lease (k + 1))
  · apply Js.keeps_bind hfetch
    · intro response
      exact Js.keeps_pure fun _ _ hh => hh
    · intro e l h hh
      exact hh
  · intro e
    exact Js.keeps_pure fun _ _ hh => hh
  · intro a l h hh
    exact hh

theorem keeps_turn (hallowed : Allowed input) {k : Nat} (hk : k < limit options input)
    (retryCount : Nat) {retry : Option (Option ℚ → Request Response)}
    (hretry : KeepsAgain options input lease (k + 1) retry) :
    Js.Keeps (law options input) (Holding options lease k) (turn input lease retryCount retry)
      (fun _ => Settled lease) := by
  apply keeps_then (keeps_requestStartedLease hallowed)
  intro _
  apply keeps_then (keeps_neutral (c := .now) hallowed trivial)
  intro milliseconds
  apply keeps_then (keeps_neutral (c := .signedUrl _ _) hallowed trivial)
  intro _
  apply keeps_then (keeps_exchange hallowed hk)
  intro answer
  cases answer with
  | error cause =>
    cases retry with
    | none => exact keeps_throw_settled _
    | some again => exact hretry again rfl none
  | ok response =>
    apply keeps_then (keeps_neutral (c := .now) hallowed trivial)
    intro now
    exact keeps_handleResponse hallowed _ _ _ hretry

theorem keeps_backoff (hallowed : Allowed input) {k : Nat} (attempt : Nat)
    (retryAfter : Option ℚ) :
    Js.Keeps (law options input) (Holding options lease k) (backoff attempt retryAfter)
      (fun _ => Holding options lease k) := by
  apply Js.keeps_bind (keeps_neutral (c := .random) hallowed trivial)
  · intro random
    exact keeps_neutral hallowed trivial
  · intro e l h hh
    exact hh

/-- The loop, by the retries that are left: with those made they are two. -/
theorem keeps_requestLoop (hallowed : Allowed input) {left k : Nat} (hk : k + left = 2)
    (honce : retries options.toClientOptions input.operation = false → k = 0) :
    Js.Keeps (law options input) (Holding options lease k) (requestLoop options input lease left)
      (fun _ => Settled lease) := by
  have hlimit : k < limit options input := by
    unfold limit
    split
    · omega
    · next hnone =>
      have := honce (by simpa using hnone)
      omega
  induction left generalizing k with
  | zero =>
    apply keeps_turn hallowed hlimit
    intro again hagain
    cases hagain
  | succ left ih =>
    apply keeps_turn hallowed hlimit
    intro again hagain retryAfter
    split at hagain
    · next hretries =>
      obtain rfl := Option.some.inj hagain
      apply keeps_then (keeps_backoff hallowed _ _)
      intro _
      apply ih (by omega)
      · intro hnone
        rw [hretries] at hnone
        cases hnone
      · simp only [limit, hretries, if_true]
        omega
    · cases hagain

/-- `finally` finalizes what the loop left, or the release threw. -/
theorem keeps_releaseUnfinalized (hallowed : Allowed input) :
    Js.Keeps (law options input) (Settled lease) (releaseUnfinalized lease)
      (fun _ _ => Released) := by
  have hdone : ∀ {isFinalized : Bool} {h : Answers}, Settled lease isFinalized h →
      (lease = none ∨ isFinalized = true) → Released h := by
    intro isFinalized h hh hor held hmem
    rw [hh.held] at hmem
    rcases hor with rfl | rfl
    · cases hmem
    · obtain rfl : lease = some held := Option.mem_toList.1 hmem
      exact Or.inl hh.settled
  intro l h hh
  cases lease with
  | none => exact hdone hh (Or.inl rfl)
  | some held =>
    cases l with
    | true => exact hdone hh (Or.inr rfl)
    | false =>
      refine ⟨⟨hallowed, hh.held, hh.settled⟩, ?_⟩
      intro res
      have hleases : leases (h ++ [⟨.release held, res⟩]) = [held] := by
        rw [leases_snoc, hh.held]
        simp [leaseOf]
      have hreleased : Released (h ++ [⟨.release held, res⟩]) := by
        intro held' hmem
        rw [hleases, List.mem_singleton] at hmem
        subst hmem
        rw [finalized_snoc, hh.settled]
        cases res with
        | ok a => exact Or.inl rfl
        | error e => exact Or.inr ⟨rfl, e, by simp⟩
      cases res with
      | ok a => exact hreleased
      | error e => exact hreleased

/-- A request before it asks for a lease. -/
structure Fresh (options : RequestOptions) (isFinalized : Bool) (h : Answers) : Prop where
  unfinalized : isFinalized = false
  none : leases h = []
  unsent : fetches h = 0
  untouched : ¬ Finalizing h
  claimed : options.validationMode = true → Claimed h

theorem released_of_none {h : Answers} (hnone : leases h = []) : Released h := by
  intro held hmem
  rw [hnone] at hmem
  cases hmem

theorem keeps_claimAction (hallowed : Allowed input) :
    Js.Keeps (law options input) (fun l h => l = false ∧ h = []) (claimAction options input)
      fun out l h => match out with
        | .ok _ => Fresh options l h
        | .error _ => leases h = [] := by
  have hempty : ¬ Finalizing [] := by simp [Finalizing]
  rintro l h ⟨rfl, rfl⟩
  unfold claimAction
  split
  · refine ⟨⟨hallowed, trivial⟩, ?_⟩
    intro res
    cases res with
    | error e => exact rfl
    | ok claimed =>
      cases claimed with
      | true => exact rfl
      | false =>
        refine ⟨rfl, rfl, rfl, ?_, ?_⟩
        · simp [Finalizing, finalizes, lawOf]
        · intro _
          simp [Claimed, lawOf]
  · next hmode => exact ⟨rfl, rfl, rfl, hempty, fun h => absurd h hmode⟩

theorem keeps_acquireLease (hallowed : Allowed input) :
    Js.Keeps (law options input) (Fresh options) (acquireLease options input)
      fun out l h => match out with
        | .ok lease => Holding options lease 0 l h
        | .error _ => leases h = [] := by
  intro l h hh
  unfold acquireLease
  split
  · refine ⟨⟨hallowed, hh.none, hh.unsent⟩, ?_⟩
    intro res
    cases res with
    | error e =>
      change leases (h ++ [_]) = []
      rw [leases_snoc, hh.none]
      rfl
    | ok held =>
      change Holding options (some held) 0 l (h ++ [_])
      refine ⟨hh.unfinalized, ?_, ?_, ?_, fun hmode => claimed_snoc _ (hh.claimed hmode)⟩
      · rw [leases_snoc, hh.none]
        rfl
      · rw [fetches_snoc, hh.unsent]
        rfl
      · rw [finalizing_snoc]
        rintro (hbefore | hne)
        · exact hh.untouched hbefore
        · exact hne rfl
  · exact ⟨hh.unfinalized, hh.none, hh.unsent, hh.untouched, hh.claimed⟩

/-- A request keeps the law, and however it ends its lease is released. -/
theorem keeps_requestRaw :
    Js.Keeps (law options input) (fun l h => l = false ∧ h = []) (requestRaw options input)
      (fun _ _ => Released) := by
  unfold requestRaw assertAllowedTikTokReadRequest
  by_cases hallowed : isAllowed input.operation input.method input.path = true
  · rw [if_pos hallowed]
    apply Js.keeps_bind (keeps_claimAction hallowed)
    · intro _
      apply Js.keeps_bind (keeps_acquireLease hallowed)
      · intro lease
        apply Js.keeps_tryFinally
          (keeps_requestLoop hallowed (k := 0) (by omega) (fun _ => rfl))
        intro out
        apply Js.keeps_mono (keeps_releaseUnfinalized hallowed) (fun _ _ hh => hh)
        intro done l h hh
        cases done with
        | ok u => exact hh
        | error e => exact hh
      · intro e l h hh
        exact released_of_none hh
    · intro e l h hh
      exact released_of_none hh
  · rw [if_neg hallowed]
    apply Js.keeps_throw
    rintro l h ⟨-, rfl⟩
    exact released_of_none rfl

end Steps

/-! ## What the law says of a history -/

theorem permitted_snoc {C : Type} {R : C → Type} {ok : History C R → C → Prop} {h : History C R}
    {e : (c : C) × R c} (hperm : Permitted ok (h ++ [e])) : Permitted ok h ∧ ok h e.1 := by
  constructor
  · rintro before e' after rfl
    exact hperm before e' (after ++ [e]) (by simp)
  · exact hperm h e [] rfl

/-- What holds of every request and every script. -/
structure Disciplined (options : RequestOptions) (input : RequestInput) (h : Answers) : Prop where
  physical : fetches h ≤ 3
  single : input.operation = .SEARCH_CREATORS ∨ options.validationMode = true ∨
    options.automaticRetries = false → fetches h ≤ 1
  outside : ¬ Allowed input → h = []
  oneLease : (leases h).length ≤ 1
  own : ∀ lease ∈ finalized h, lease ∈ leases h
  finalizedOnce : (finalized h).length ≤ 1
  afterwards : ∀ before e after, h = before ++ e :: after → finalizes e.1 ≠ none →
    fetches after = 0

section Histories

variable {options : RequestOptions} {input : RequestInput} {h : Answers}

theorem fetches_le (hperm : Permitted (law options input) h) : fetches h ≤ limit options input := by
  induction h using List.reverseRecOn with
  | nil => simp [fetches]
  | append_singleton h e ih =>
    obtain ⟨hbefore, hlaw⟩ := permitted_snoc hperm
    rw [fetches_snoc]
    by_cases hfetch : isFetch e = true
    · obtain ⟨c, res⟩ := e
      cases c <;> simp [isFetch] at hfetch
      have hlt := hlaw.2.1
      simp only [isFetch, if_true]
      omega
    · have := ih hbefore
      simp [hfetch, this]

theorem limit_le : limit options input ≤ 3 := by
  unfold limit
  split <;> omega

theorem limit_single (hsingle : input.operation = .SEARCH_CREATORS ∨
    options.validationMode = true ∨ options.automaticRetries = false) :
    limit options input = 1 := by
  have hretries : retries options.toClientOptions input.operation = false := by
    rcases hsingle with h | h | h <;> simp [retries, h]
  simp [limit, hretries]

theorem length_leases_le (hperm : Permitted (law options input) h) : (leases h).length ≤ 1 := by
  induction h using List.reverseRecOn with
  | nil => simp [leases]
  | append_singleton h e ih =>
    obtain ⟨hbefore, hlaw⟩ := permitted_snoc hperm
    rw [leases_snoc]
    cases hlease : leaseOf e with
    | none => simpa using ih hbefore
    | some lease =>
      obtain ⟨c, res⟩ := e
      cases c <;> simp [leaseOf] at hlease
      rw [hlaw.2.1]
      simp

theorem finalizedBy_eq_some {e : Answered} {lease : TikTokReadLease}
    (hfinal : finalizedBy e = some lease) : finalizes e.1 = some lease := by
  unfold finalizedBy at hfinal
  split at hfinal
  · exact hfinal
  · cases hfinal

theorem law_of_finalizes {c : Call} {lease : TikTokReadLease} (hlaw : law options input h c)
    (hfinal : finalizes c = some lease) : leases h = [lease] ∧ finalized h = [] := by
  cases c <;> simp [finalizes] at hfinal <;> subst hfinal <;> exact hlaw.2

theorem leaseOf_of_finalizes {e : Answered} (hfinal : finalizes e.1 ≠ none) : leaseOf e = none := by
  obtain ⟨c, res⟩ := e
  cases c <;> simp [finalizes, leaseOf] at hfinal ⊢

/-- A completed call finalizes the lease that was acquired, and none was finalized before. -/
theorem finalized_cases (hperm : Permitted (law options input) h) :
    finalized h = [] ∨ ∃ lease, leases h = [lease] ∧ finalized h = [lease] := by
  induction h using List.reverseRecOn with
  | nil => exact Or.inl rfl
  | append_singleton h e ih =>
    obtain ⟨hbefore, hlaw⟩ := permitted_snoc hperm
    rw [finalized_snoc, leases_snoc]
    cases hfinal : finalizedBy e with
    | some lease =>
      have hcall := finalizedBy_eq_some hfinal
      obtain ⟨hheld, hnone⟩ := law_of_finalizes hlaw hcall
      refine Or.inr ⟨lease, ?_, ?_⟩
      · rw [leaseOf_of_finalizes (by simp [hcall]), hheld]
        rfl
      · rw [hnone]
        rfl
    | none =>
      rw [Option.toList_none, List.append_nil]
      rcases ih hbefore with hnone | ⟨lease, hheld, hdone⟩
      · exact Or.inl hnone
      · refine Or.inr ⟨lease, ?_, hdone⟩
        cases hlease : leaseOf e with
        | none => simp [hheld]
        | some lease' =>
          -- no lease is acquired while one is held
          obtain ⟨c, res⟩ := e
          cases c <;> simp [leaseOf] at hlease
          rw [hlaw.2.1] at hheld
          cases hheld

theorem fetches_eq_zero_of_finalizing {before after : Answers}
    (hperm : Permitted (law options input) (before ++ after)) (hfinal : Finalizing before) :
    fetches after = 0 := by
  induction after using List.reverseRecOn with
  | nil => rfl
  | append_singleton after e ih =>
    rw [← List.append_assoc] at hperm
    obtain ⟨hbefore, hlaw⟩ := permitted_snoc hperm
    rw [fetches_snoc, ih hbefore]
    by_cases hfetch : isFetch e = true
    · obtain ⟨c, res⟩ := e
      cases c <;> simp [isFetch] at hfetch
      obtain ⟨e', he', hne⟩ := hfinal
      exact absurd ⟨e', List.mem_append_left _ he', hne⟩ hlaw.2.2.1
    · simp [hfetch]

theorem disciplined_of_permitted (hperm : Permitted (law options input) h) :
    Disciplined options input h where
  physical := (fetches_le hperm).trans limit_le
  single hsingle := by
    rw [← limit_single hsingle]
    exact fetches_le hperm
  outside hnot := by
    by_contra hne
    obtain ⟨e, rest, rfl⟩ := List.exists_cons_of_ne_nil hne
    exact hnot (hperm [] e rest rfl).1
  oneLease := length_leases_le hperm
  own := by
    rcases finalized_cases hperm with hnone | ⟨lease, hheld, hdone⟩
    · simp [hnone]
    · simp [hheld, hdone]
  finalizedOnce := by
    rcases finalized_cases hperm with hnone | ⟨lease, hheld, hdone⟩
    · simp [hnone]
    · simp [hdone]
  afterwards := by
    rintro before e after rfl hne
    rw [List.append_cons] at hperm
    exact fetches_eq_zero_of_finalizing hperm ⟨e, by simp, hne⟩

/-- In validation mode a request goes out only when it claimed the flag. -/
theorem claimed_of_fetches (hperm : Permitted (law options input) h)
    (hmode : options.validationMode = true) (hsent : fetches h ≠ 0) : Claimed h := by
  induction h using List.reverseRecOn with
  | nil => simp [fetches] at hsent
  | append_singleton h e ih =>
    obtain ⟨hbefore, hlaw⟩ := permitted_snoc hperm
    by_cases hfetch : isFetch e = true
    · obtain ⟨c, res⟩ := e
      cases c <;> simp [isFetch] at hfetch
      exact claimed_snoc _ (hlaw.2.2.2 hmode)
    · apply claimed_snoc
      apply ih hbefore
      rw [fetches_snoc] at hsent
      simpa [hfetch] using hsent

end Histories

/-! ## The life of a client -/

def isRequest (l : ClientLabel) : Bool :=
  match l with
  | .answer _ .fetch _ => true
  | _ => false

/-- The physical requests of a client. -/
def requests (ls : List ClientLabel) : Nat := ls.countP isRequest

section Life

variable {options : RequestOptions} {ls : List ClientLabel}

theorem historyOf_start (i j : Nat) (input : RequestInput) :
    historyOf i (ls ++ [.start j input]) = historyOf i ls := by
  simp [historyOf]

theorem historyOf_answer_self (i : Nat) (c : Call) (res : Except Failure c.Result) :
    historyOf i (ls ++ [.answer i c res]) = historyOf i ls ++ [⟨c, res⟩] := by
  simp [historyOf]

theorem historyOf_answer_of_ne {i j : Nat} (hij : j ≠ i) (c : Call)
    (res : Except Failure c.Result) :
    historyOf i (ls ++ [.answer j c res]) = historyOf i ls := by
  simp [historyOf, hij]

/-- The requests are where their histories led them, and one of them at most has the flag. -/
structure Lived (options : RequestOptions) (ls : List ClientLabel) (s : ClientState) : Prop where
  progress : ∀ i started, s.started i = some started →
    ((requestRaw options started.input).thread false).After (historyOf i ls)
      started.rest
  absent : ∀ i, s.started i = none → historyOf i ls = []
  unclaimed : s.validationActionClaimed = false → ∀ i, ¬ Claimed (historyOf i ls)
  once : ∀ i j, Claimed (historyOf i ls) → Claimed (historyOf j ls) → i = j

theorem set_self (s : ClientState) (i : Nat) (started : Started) :
    s.set i started i = some started := by
  simp [ClientState.set]

theorem set_of_ne (s : ClientState) {i j : Nat} (started : Started) (hj : j ≠ i) :
    s.set i started j = s.started j := by
  simp [ClientState.set, hj]

theorem lived_start {s : ClientState} {i : Nat} {input : RequestInput} (hlived : Lived options ls s)
    (hfree : s.started i = none) :
    Lived options (ls ++ [.start i input])
      { s with started := s.set i ⟨input, (requestRaw options input).thread false⟩ } := by
  constructor
  · intro j started hj
    dsimp only at hj
    rw [historyOf_start]
    by_cases hji : j = i
    · subst hji
      rw [set_self] at hj
      obtain rfl := Option.some.inj hj
      rw [hlived.absent j hfree]
      exact Prog.after_nil.2 rfl
    · rw [set_of_ne _ _ hji] at hj
      exact hlived.progress j started hj
  · intro j hj
    dsimp only at hj
    rw [historyOf_start]
    by_cases hji : j = i
    · rw [hji, set_self] at hj
      cases hj
    · rw [set_of_ne _ _ hji] at hj
      exact hlived.absent j hj
  · intro hflag j
    rw [historyOf_start]
    exact hlived.unclaimed hflag j
  · intro j k
    rw [historyOf_start, historyOf_start]
    exact hlived.once j k

/-- The flag was claimed before, or this is the call that claims it. -/
theorem claimed_answer {i j : Nat} {c : Call} {res : Except Failure c.Result}
    (hclaimed : Claimed (historyOf j (ls ++ [.answer i c res]))) :
    Claimed (historyOf j ls) ∨
      j = i ∧ (⟨c, res⟩ : Answered) = ⟨.claimValidationAction, .ok false⟩ := by
  by_cases hij : i = j
  · subst hij
    rw [historyOf_answer_self, Claimed, List.mem_append, List.mem_singleton] at hclaimed
    exact hclaimed.imp_right fun heq => ⟨rfl, heq.symm⟩
  · rw [historyOf_answer_of_ne hij] at hclaimed
    exact Or.inl hclaimed

theorem lived_answer {s : ClientState} {i : Nat} {input : RequestInput} {c : Call}
    {next : Except Failure c.Result → Prog Call (fun c => Except Failure c.Result) Unit}
    {res : Except Failure c.Result} (hlived : Lived options ls s)
    (hstarted : s.started i = some ⟨input, .call c next⟩)
    (hres : Answers.Possible s.validationActionClaimed c res) :
    Lived options (ls ++ [.answer i c res])
      { validationActionClaimed := claimedAfter s.validationActionClaimed c
        started := s.set i ⟨input, next res⟩ } := by
  -- what claims the flag finds it unclaimed
  have hflag : (⟨c, res⟩ : Answered) = ⟨.claimValidationAction, .ok false⟩ →
      s.validationActionClaimed = false := by
    intro heq
    obtain ⟨rfl, hheq⟩ := Sigma.mk.inj heq
    have hok : res = .ok s.validationActionClaimed := hres
    rw [eq_of_heq hheq] at hok
    exact (Except.ok.inj hok).symm
  constructor
  · intro j started hj
    dsimp only at hj
    by_cases hji : j = i
    · subst hji
      rw [set_self] at hj
      obtain rfl := Option.some.inj hj
      rw [historyOf_answer_self]
      exact Prog.after_snoc (hlived.progress j _ hstarted) res
    · rw [set_of_ne _ _ hji] at hj
      rw [historyOf_answer_of_ne (Ne.symm hji)]
      exact hlived.progress j started hj
  · intro j hj
    dsimp only at hj
    by_cases hji : j = i
    · rw [hji, set_self] at hj
      cases hj
    · rw [set_of_ne _ _ hji] at hj
      rw [historyOf_answer_of_ne (Ne.symm hji)]
      exact hlived.absent j hj
  · intro hafter j hclaimed
    have hbefore : s.validationActionClaimed = false ∧ c ≠ .claimValidationAction := by
      cases c <;> simp_all [claimedAfter]
    rcases claimed_answer hclaimed with hold | ⟨-, heq⟩
    · exact hlived.unclaimed hbefore.1 j hold
    · exact hbefore.2 (Sigma.mk.inj heq).1
  · intro j k hj hk
    rcases claimed_answer hj with hjold | ⟨hji, heq⟩
    · rcases claimed_answer hk with hkold | ⟨-, heq⟩
      · exact hlived.once j k hjold hkold
      · exact absurd hjold (hlived.unclaimed (hflag heq) j)
    · rcases claimed_answer hk with hkold | ⟨hki, -⟩
      · exact absurd hkold (hlived.unclaimed (hflag heq) k)
      · rw [hji, hki]

theorem lived_of_run {s : ClientState} (hrun : Run (ClientStep options) {} ls s) :
    Lived options ls s := by
  apply hrun.invariant_history (Lived options)
  · intro ls s l t hlived hstep
    cases hstep with
    | start i input hfree => exact lived_start hlived hfree
    | answer i input c next res hstarted hres => exact lived_answer hlived hstarted hres
  · refine ⟨?_, fun _ _ => rfl, ?_, ?_⟩
    · intro i started h
      cases h
    · simp [historyOf, Claimed]
    · simp [historyOf, Claimed]

theorem permitted_of_lived {s : ClientState} {i : Nat} {started : Started}
    (hlived : Lived options ls s) (hi : s.started i = some started) :
    Permitted (law options started.input) (historyOf i ls) ∧
      (started.rest = .ret () → Released (historyOf i ls)) := by
  have hconforms := Js.conforms_of_keeps (l := false) (D := Released)
    (@keeps_requestRaw options started.input) ⟨rfl, rfl⟩
    (fun _ _ _ hreleased => hreleased)
  obtain ⟨hrest, hperm⟩ := Prog.permitted_of_conforms hconforms (hlived.progress i started hi)
  refine ⟨hperm, ?_⟩
  intro hret
  rw [hret] at hrest
  exact hrest

/-- The requests that go out are those of the histories. -/
theorem requests_eq_of_single {i : Nat}
    (hothers : ∀ j, j ≠ i → fetches (historyOf j ls) = 0) :
    requests ls = fetches (historyOf i ls) := by
  induction ls using List.reverseRecOn with
  | nil => rfl
  | append_singleton ls l ih =>
    have hsnoc : requests (ls ++ [l]) = requests ls + if isRequest l then 1 else 0 := by
      simp [requests, List.countP_append, List.countP_cons]
    rw [hsnoc]
    cases l with
    | start j input =>
      simp only [historyOf_start] at hothers ⊢
      simp [isRequest, ih hothers]
    | answer j c res =>
      have hkind : isRequest (.answer j c res) = isFetch ⟨c, res⟩ := by cases c <;> rfl
      by_cases hji : j = i
      · subst hji
        rw [historyOf_answer_self, fetches_snoc, hkind, ih]
        intro k hk
        have := hothers k hk
        rwa [historyOf_answer_of_ne (Ne.symm hk)] at this
      · have hj := hothers j hji
        rw [historyOf_answer_self, fetches_snoc] at hj
        have hnone : isFetch ⟨c, res⟩ = false := by
          by_contra hfetch
          simp only [Bool.not_eq_false] at hfetch
          simp [hfetch] at hj
        rw [historyOf_answer_of_ne hji, hkind, hnone, ih]
        · simp
        · intro k hk
          by_cases hkj : k = j
          · subst hkj
            omega
          · have := hothers k hk
            rwa [historyOf_answer_of_ne (Ne.symm hkj)] at this

/-- In validation mode one physical request goes out in the life of a client. -/
theorem requests_le_one {s : ClientState} (hlived : Lived options ls s)
    (hmode : options.validationMode = true) : requests ls ≤ 1 := by
  have hclaimed : ∀ i, fetches (historyOf i ls) ≠ 0 → Claimed (historyOf i ls) := by
    intro i hsent
    cases hi : s.started i with
    | none =>
      rw [hlived.absent i hi] at hsent
      exact absurd rfl hsent
    | some started => exact claimed_of_fetches (permitted_of_lived hlived hi).1 hmode hsent
  by_cases hany : ∃ i, fetches (historyOf i ls) ≠ 0
  · obtain ⟨i, hi⟩ := hany
    have hothers : ∀ j, j ≠ i → fetches (historyOf j ls) = 0 := by
      intro j hj
      by_contra hsent
      exact hj (hlived.once j i (hclaimed j hsent) (hclaimed i hi))
    rw [requests_eq_of_single hothers]
    cases hs : s.started i with
    | none =>
      rw [hlived.absent i hs]
      simp [fetches]
    | some started =>
      have hperm := (permitted_of_lived hlived hs).1
      exact (disciplined_of_permitted hperm).single (Or.inr (Or.inl hmode))
  · have hall : ∀ j, fetches (historyOf j ls) = 0 := by
      intro j
      by_contra hsent
      exact hany ⟨j, hsent⟩
    rw [requests_eq_of_single (i := 0) fun j _ => hall j, hall 0]
    omega

/-- However the requests of a client are scripted and interleaved: in validation mode one
physical request goes out, each request keeps to its bounds, and a request that is over has
its lease finalized by one completed call, or its release threw. -/
theorem requests_are_bounded_and_leases_finalized {s : ClientState}
    (hrun : Run (ClientStep options) {} ls s) :
    (options.validationMode = true → requests ls ≤ 1) ∧
      ∀ i started, s.started i = some started →
        Disciplined options started.input (historyOf i ls) ∧
          (started.rest = .ret () → Released (historyOf i ls)) := by
  have hlived := lived_of_run hrun
  refine ⟨requests_le_one hlived, ?_⟩
  intro i started hi
  obtain ⟨hperm, hreleased⟩ := permitted_of_lived hlived hi
  exact ⟨disciplined_of_permitted hperm, hreleased⟩

end Life

/-! ## One request -/

def sampleInput : RequestInput where
  operation := .GET_CATEGORIES
  method := .GET
  path := json.units "/product/202309/categories"

def sampleLease : TikTokReadLease := ⟨⟨"TIKTOK_SHOP", "AUTHORIZATION", .GET_CATEGORIES⟩, 7⟩

def sampleResponse : Response := { status := 200, body := .payload (some 0) none none }

/-- A request whose success the governor fails to note. -/
def sampleAnswers : Answers := [
  ⟨.acquire sampleLease.toReadInput, .ok sampleLease⟩,
  ⟨.requestStarted sampleLease, .ok ()⟩,
  ⟨.now, .ok 1700000000000⟩,
  ⟨.signedUrl sampleInput.path 1700000000, .ok ()⟩,
  ⟨.fetch, .ok sampleResponse⟩,
  ⟨.now, .ok 1700000000100⟩,
  ⟨.diagnostics ⟨.GET_CATEGORIES, 200, some 0, none, 0, none⟩, .ok ()⟩,
  ⟨.succeeded sampleLease ⟨none, none, some 0, none⟩, .error (.error "database")⟩,
  ⟨.release sampleLease, .ok ()⟩]

theorem sample_after :
    ((requestRaw {} sampleInput).thread false).After sampleAnswers (.ret ()) :=
  ⟨_, rfl, _, rfl, _, rfl, _, rfl, _, rfl, _, rfl, _, rfl, _, rfl, _, rfl, rfl⟩

/-- Answers that a request may get are those of a run, where the flag is not asked for. -/
theorem run_of_after (options : RequestOptions) {h : Answers} {i : Nat} {input : RequestInput}
    {p q : Prog Call (fun c => Except Failure c.Result) Unit} {s : ClientState}
    (hstarted : s.started i = some ⟨input, p⟩) (hafter : p.After h q)
    (hflag : ∀ e ∈ h, e.1 ≠ .claimValidationAction) :
    ∃ t, Run (ClientStep options) s (h.map fun e => .answer i e.1 e.2) t ∧
      t.started i = some ⟨input, q⟩ := by
  induction h generalizing p s with
  | nil =>
    obtain rfl := Prog.after_nil.1 hafter
    exact ⟨s, Run.nil s, hstarted⟩
  | cons e h ih =>
    cases p with
    | ret a => exact hafter.elim
    | call c next =>
      obtain ⟨r, rfl, hrest⟩ := hafter
      have hpossible : Answers.Possible s.validationActionClaimed c r := by
        have hc := hflag _ List.mem_cons_self
        cases c <;> trivial
      obtain ⟨t, hrun, ht⟩ := ih (s := ⟨claimedAfter s.validationActionClaimed c,
        s.set i ⟨input, next r⟩⟩) (set_self _ _ _) hrest fun e he =>
          hflag e (List.mem_cons_of_mem _ he)
      exact ⟨t, Run.cons (ClientStep.answer s i input c next r hstarted hpossible) hrun, ht⟩

/-- The client with the request that has just begun. -/
def sampleStart : ClientState where
  started := ClientState.set {} 0 ⟨sampleInput, (requestRaw {} sampleInput).thread false⟩

/-- The governor failed to note the success, and the lease is released once. -/
theorem sample_request_is_released : ∃ ls s, Run (ClientStep {}) {} ls s ∧
    Disciplined {} sampleInput (historyOf 0 ls) ∧ Released (historyOf 0 ls) := by
  have hbegun : sampleStart.started 0 =
      some ⟨sampleInput, (requestRaw {} sampleInput).thread false⟩ := set_self {} 0 _
  obtain ⟨t, hrun, ht⟩ := run_of_after {} hbegun sample_after (by simp [sampleAnswers])
  have hall : Run (ClientStep {}) {} _ t := Run.cons (ClientStep.start {} 0 sampleInput rfl) hrun
  obtain ⟨hdisciplined, hreleased⟩ := (requests_are_bounded_and_leases_finalized hall).2 0 _ ht
  exact ⟨_, t, hall, hdisciplined, hreleased rfl⟩

end tiktok_outreach.client_life
