-- Transactions that wait for each other. Each runs statement by statement, keeps its advisory locks
-- and its rows to its end, and waits for those that another one has. When all take their advisory
-- locks in one order, no cycle of waits is one of these locks alone.
import TiktokOutreach.Lib.Runs
import TiktokOutreach.Lib.Transactions

open tables transactions runs

namespace lock_waits

/-! ## Ascending locks -/

section Ascends

variable {σ κ ρ ε α β τ : Type} [Preorder τ]

/-- Behind the locks `held`, each lock is one of them or has a higher rank than all of them, and at
the end of the transaction the locks meet `post`. -/
def Ascends (rank : κ → τ) (post : List κ → Prop) : List κ → Tx σ κ ρ ε α → Prop
  | held, .ret _ => post held
  | _, .throw _ => True
  | held, .lock key next =>
    (key ∈ held ∨ ∀ k ∈ held, rank k < rank key) ∧ Ascends rank post (key :: held) next
  | held, .stmt _ _ next => ∀ v, Ascends rank post held (next v)

/-- The transaction takes no advisory lock. -/
def Lockless : Tx σ κ ρ ε α → Prop
  | .ret _ | .throw _ => True
  | .lock _ _ => False
  | .stmt _ _ next => ∀ v, Lockless (next v)

variable {rank : κ → τ} {post : List κ → Prop} {held : List κ}

section Writes

variable {ω : Type} [DecidableEq ω] (t : TableOf σ ρ ω α)

@[simp] theorem lockless_updateUnique (e clashed : ε) (rows : List ρ) (clash : σ → Bool) (k : ω)
    (f : α → α) : Lockless (Tx.updateUnique t e clashed rows clash k f : Tx σ κ ρ ε Unit) := by
  intro v
  dsimp only
  split
  · split <;> trivial
  · trivial

@[simp] theorem lockless_updateMany (p : σ → ω → α → Bool) (f : α → α) :
    Lockless (Tx.updateMany t p f : Tx σ κ ρ ε Nat) := fun _ => trivial

@[simp] theorem lockless_deleteMany (p : σ → ω → α → Bool) :
    Lockless (Tx.deleteMany t p : Tx σ κ ρ ε Unit) := fun _ => trivial

end Writes

end Ascends

/-! ## Sessions -/

/-- A transaction that runs: what is left of it, what it keeps locked, and what it will write. -/
structure Session (σ κ ρ ε : Type) where
  rest : Tx σ κ ρ ε Unit
  keys : List κ := []
  rows : List ρ := []
  writes : σ → σ := id

section Sessions

variable {σ κ ρ ε : Type}

def Session.lock (s : Session σ κ ρ ε) (key : κ) (next : Tx σ κ ρ ε Unit) : Session σ κ ρ ε :=
  { s with rest := next, keys := key :: s.keys }

/-- A statement sees what is committed and what its own session wrote. -/
def Session.stmt (s : Session σ κ ρ ε) (store : σ) (rows : σ → List ρ) (write : σ → σ → σ)
    (next : σ → Tx σ κ ρ ε Unit) : Session σ κ ρ ε :=
  { s with
    rest := next (s.writes store)
    rows := rows (s.writes store) ++ s.rows
    writes := fun later => write (s.writes store) (s.writes later) }

end Sessions

/-- What is committed, and the sessions. -/
structure Pool (σ κ ρ ε : Type) where
  store : σ
  session : Nat → Option (Session σ κ ρ ε)

section Pools

variable {σ κ ρ ε τ ℓ : Type} [Preorder τ]

def Pool.idle (store : σ) : Pool σ κ ρ ε := ⟨store, fun _ => none⟩

def Pool.set (p : Pool σ κ ρ ε) (i : Nat) (s : Option (Session σ κ ρ ε)) : Pool σ κ ρ ε :=
  { p with session := fun j => if j = i then s else p.session j }

/-- No other session has a lock in the slot of this one. -/
def Pool.KeyFree (slot : κ → ℓ) (p : Pool σ κ ρ ε) (i : Nat) (key : κ) : Prop :=
  ∀ j s, j ≠ i → p.session j = some s → ∀ k ∈ s.keys, slot k ≠ slot key

/-- No other session has the row. -/
def Pool.RowFree (p : Pool σ κ ρ ε) (i : Nat) (r : ρ) : Prop :=
  ∀ j s, j ≠ i → p.session j = some s → r ∉ s.rows

/-- A statement may lock some of its rows before it has all of them. -/
inductive Step (slot : κ → ℓ) (allowed : Tx σ κ ρ ε Unit → Prop) :
    Pool σ κ ρ ε → Nat → Pool σ κ ρ ε → Prop
  | start (p : Pool σ κ ρ ε) (i : Nat) (t : Tx σ κ ρ ε Unit) (hnone : p.session i = none)
      (ht : allowed t) : Step slot allowed p i (p.set i (some { rest := t }))
  | lock (p : Pool σ κ ρ ε) (i : Nat) (s : Session σ κ ρ ε) (key : κ) (next : Tx σ κ ρ ε Unit)
      (hs : p.session i = some s) (hrest : s.rest = .lock key next)
      (hfree : p.KeyFree slot i key) :
      Step slot allowed p i (p.set i (some (s.lock key next)))
  | row (p : Pool σ κ ρ ε) (i : Nat) (s : Session σ κ ρ ε) (rows : σ → List ρ)
      (write : σ → σ → σ) (next : σ → Tx σ κ ρ ε Unit) (r : ρ)
      (hs : p.session i = some s) (hrest : s.rest = .stmt rows write next)
      (hr : r ∈ rows (s.writes p.store)) (hfree : p.RowFree i r) :
      Step slot allowed p i (p.set i (some { s with rows := r :: s.rows }))
  | stmt (p : Pool σ κ ρ ε) (i : Nat) (s : Session σ κ ρ ε) (rows : σ → List ρ)
      (write : σ → σ → σ) (next : σ → Tx σ κ ρ ε Unit)
      (hs : p.session i = some s) (hrest : s.rest = .stmt rows write next)
      (hfree : ∀ r ∈ rows (s.writes p.store), p.RowFree i r) :
      Step slot allowed p i (p.set i (some (s.stmt p.store rows write next)))
  | commit (p : Pool σ κ ρ ε) (i : Nat) (s : Session σ κ ρ ε) (hs : p.session i = some s)
      (hrest : s.rest = .ret ()) :
      Step slot allowed p i { p.set i none with store := s.writes p.store }
  | abort (p : Pool σ κ ρ ε) (i : Nat) (s : Session σ κ ρ ε) (hs : p.session i = some s) :
      Step slot allowed p i (p.set i none)

/-- The session `i` waits for a row that `j` has. -/
def AwaitsRow (p : Pool σ κ ρ ε) (i j : Nat) : Prop :=
  ∃ s rows write next s', i ≠ j ∧ p.session i = some s ∧ s.rest = .stmt rows write next ∧
    p.session j = some s' ∧ ∃ r ∈ rows (s.writes p.store), r ∈ s'.rows

/-- A lock that a session has or waits for. -/
def InUse (p : Pool σ κ ρ ε) (key : κ) : Prop :=
  ∃ i s, p.session i = some s ∧ (key ∈ s.keys ∨ ∃ next, s.rest = .lock key next)

/-- The locks in use have different slots. -/
def Apart (slot : κ → ℓ) (p : Pool σ κ ρ ε) : Prop :=
  ∀ k k', InUse p k → InUse p k' → slot k = slot k' → k = k'

/-! ## Waits along the order -/

/-- Each session goes on in the order, and no two have locks in one slot. -/
structure Orderly (rank : κ → τ) (slot : κ → ℓ) (p : Pool σ κ ρ ε) : Prop where
  ascends : ∀ i s, p.session i = some s → Ascends rank (fun _ => True) s.keys s.rest
  exclusive : ∀ i j s s', i ≠ j → p.session i = some s → p.session j = some s' →
    ∀ k ∈ s.keys, ∀ k' ∈ s'.keys, slot k ≠ slot k'

variable {rank : κ → τ} {slot : κ → ℓ} {allowed : Tx σ κ ρ ε Unit → Prop} {p p' : Pool σ κ ρ ε}

end Pools

/-! ## Statements one after another -/

section Ahead

variable {σ κ ρ ε τ ℓ α β : Type}

theorem bind_assoc (t : Tx σ κ ρ ε α) (f : α → Tx σ κ ρ ε β) {γ : Type} (g : β → Tx σ κ ρ ε γ) :
    (t >>= f) >>= g = t >>= fun a => f a >>= g := by
  change (t.bind f).bind g = t.bind fun a => (f a).bind g
  induction t with
  | ret a => rfl
  | throw e => rfl
  | lock key next ih => exact congrArg (Tx.lock key) ih
  | stmt rows write next ih => exact congrArg (Tx.stmt rows write) (funext ih)

/-- A session after its next locks and statements, when none of them waits. -/
def ahead (store : σ) : Nat → Session σ κ ρ ε → Session σ κ ρ ε
  | 0, s => s
  | n + 1, s => match s.rest with
    | .ret _ | .throw _ => s
    | .lock key next => ahead store n (s.lock key next)
    | .stmt rows write next => ahead store n (s.stmt store rows write next)

theorem keys_subset_ahead (store : σ) (n : Nat) (s : Session σ κ ρ ε) :
    s.keys ⊆ (ahead store n s).keys := by
  induction n generalizing s with
  | zero => exact fun k hk => hk
  | succ n ih =>
    intro k hk
    unfold ahead
    split
    · exact hk
    · exact hk
    · exact ih _ (List.mem_cons_of_mem _ hk)
    · exact ih _ hk

theorem rows_subset_ahead (store : σ) (n : Nat) (s : Session σ κ ρ ε) :
    s.rows ⊆ (ahead store n s).rows := by
  induction n generalizing s with
  | zero => exact fun r hr => hr
  | succ n ih =>
    intro r hr
    unfold ahead
    split
    · exact hr
    · exact hr
    · exact ih _ hr
    · exact ih _ (List.mem_append_right _ hr)

variable {slot : κ → ℓ} {allowed : Tx σ κ ρ ε Unit → Prop}

theorem set_set (p : Pool σ κ ρ ε) (i : Nat) (s t : Option (Session σ κ ρ ε)) :
    (p.set i s).set i t = p.set i t := by
  unfold Pool.set
  congr 1
  funext j
  by_cases hj : j = i
  · simp only [if_pos hj]
  · simp only [if_neg hj]

theorem set_same {p : Pool σ κ ρ ε} {i : Nat} {s : Option (Session σ κ ρ ε)}
    (hs : p.session i = s) : p.set i s = p := by
  obtain ⟨store, session⟩ := p
  unfold Pool.set
  congr 1
  funext j
  by_cases hj : j = i
  · rw [if_pos hj, hj]
    exact hs.symm
  · exact if_neg hj

theorem keyFree_set {p : Pool σ κ ρ ε} {i : Nat} {s : Option (Session σ κ ρ ε)} {k : κ}
    (h : p.KeyFree slot i k) : (p.set i s).KeyFree slot i k := by
  intro j t hj ht
  simp only [Pool.set, if_neg hj] at ht
  exact h j t hj ht

theorem rowFree_set {p : Pool σ κ ρ ε} {i : Nat} {s : Option (Session σ κ ρ ε)} {r : ρ}
    (h : p.RowFree i r) : (p.set i s).RowFree i r := by
  intro j t hj ht
  simp only [Pool.set, if_neg hj] at ht
  exact h j t hj ht

/-- When what a session locks on its way is free of the others, it goes the whole way. -/
theorem run_ahead {p : Pool σ κ ρ ε} {i : Nat} {s : Session σ κ ρ ε} (hs : p.session i = some s)
    (n : Nat) (hkeys : ∀ k ∈ (ahead p.store n s).keys, p.KeyFree slot i k)
    (hrows : ∀ r ∈ (ahead p.store n s).rows, p.RowFree i r) :
    ∃ ls, Run (Step slot allowed) p ls (p.set i (some (ahead p.store n s))) := by
  induction n generalizing p s with
  | zero =>
    refine ⟨[], ?_⟩
    rw [show ahead p.store 0 s = s from rfl, set_same hs]
    exact Run.nil p
  | succ n ih =>
    -- one step leads to the session `t`, and from there the way is shorter
    have hgo : ∀ t, Step slot allowed p i (p.set i (some t)) →
        ahead p.store (n + 1) s = ahead p.store n t →
        ∃ ls, Run (Step slot allowed) p ls (p.set i (some (ahead p.store (n + 1) s))) := by
      intro t hstep hahead
      rw [hahead] at hkeys hrows ⊢
      obtain ⟨ls, hrun⟩ := ih (p := p.set i (some t)) (if_pos rfl)
        (fun k hk => keyFree_set (hkeys k hk)) (fun r hr => rowFree_set (hrows r hr))
      rw [set_set] at hrun
      exact ⟨i :: ls, Run.cons hstep hrun⟩
    cases hrest : s.rest with
    | ret a | throw e =>
      refine ⟨[], ?_⟩
      rw [show ahead p.store (n + 1) s = s by unfold ahead; rw [hrest], set_same hs]
      exact Run.nil p
    | lock key next =>
      have hahead : ahead p.store (n + 1) s = ahead p.store n (s.lock key next) := by
        rw [ahead, hrest]
      refine hgo _ (.lock p i s key next hs hrest (hkeys key ?_)) hahead
      rw [hahead]
      exact keys_subset_ahead _ _ _ List.mem_cons_self
    | stmt rows write next =>
      have hahead : ahead p.store (n + 1) s = ahead p.store n (s.stmt p.store rows write next) := by
        rw [ahead, hrest]
      refine hgo _ (.stmt p i s rows write next hs hrest (fun r hr => hrows r ?_)) hahead
      rw [hahead]
      exact rows_subset_ahead _ _ _ (List.mem_append_left _ hr)

/-- The session comes to `s'` without a wait. -/
def Goes (store : σ) (s s' : Session σ κ ρ ε) : Prop := ∃ n, ahead store n s = s'

theorem ahead_add (store : σ) (m n : Nat) (s : Session σ κ ρ ε) :
    ahead store (m + n) s = ahead store n (ahead store m s) := by
  induction m generalizing s with
  | zero => rw [Nat.zero_add]; rfl
  | succ m ih =>
    rw [Nat.succ_add]
    have hstays : ∀ n (t : Session σ κ ρ ε), (∃ a, t.rest = .ret a) ∨ (∃ e, t.rest = .throw e) →
        ahead store n t = t := by
      intro n t ht
      cases n with
      | zero => rfl
      | succ n =>
        rcases ht with ⟨a, ht⟩ | ⟨e, ht⟩
        · rw [ahead, ht]
        · rw [ahead, ht]
    cases hrest : s.rest with
    | ret a =>
      have hend : ∀ n, ahead store n s = s := fun n => hstays n s (.inl ⟨a, hrest⟩)
      rw [hend, hend, hend]
    | throw e =>
      have hend : ∀ n, ahead store n s = s := fun n => hstays n s (.inr ⟨e, hrest⟩)
      rw [hend, hend, hend]
    | lock key next => simp only [ahead, hrest, ih]
    | stmt rows write next => simp only [ahead, hrest, ih]

variable {store : σ} {s t u : Session σ κ ρ ε} {keys : List κ} {rows : List ρ} {writes : σ → σ}

theorem Goes.trans (h : Goes store s t) (h' : Goes store t u) : Goes store s u := by
  obtain ⟨m, rfl⟩ := h
  obtain ⟨n, rfl⟩ := h'
  exact ⟨m + n, ahead_add store m n s⟩

/-- Without a wait the session comes to one with `P`. -/
def Comes (store : σ) (P : Session σ κ ρ ε → Prop) (s : Session σ κ ρ ε) : Prop :=
  ∃ t, Goes store s t ∧ P t

theorem Goes.comes (h : Goes store s t) {P : Session σ κ ρ ε → Prop} (h' : Comes store P t) :
    Comes store P s := by
  obtain ⟨u, htu, hu⟩ := h'
  exact ⟨u, h.trans htu, hu⟩

theorem comes_here {P : Session σ κ ρ ε → Prop} (h : P s) : Comes store P s := ⟨s, ⟨0, rfl⟩, h⟩

theorem goes_lock (key : κ) (g : Unit → Tx σ κ ρ ε Unit) :
    Goes store ⟨Tx.lock key (Tx.ret ()) >>= g, keys, rows, writes⟩
      ⟨g (), key :: keys, rows, writes⟩ := ⟨1, rfl⟩

theorem goes_write (write : σ → σ) (g : Unit → Tx σ κ ρ ε Unit) :
    Goes store
      ⟨Tx.stmt (fun _ => []) (fun _ => write) (fun _ => Tx.ret ()) >>= g, keys, rows, writes⟩
      ⟨g (), keys, rows, fun later => write (writes later)⟩ := ⟨1, rfl⟩

theorem goes_read (f : σ → β) (g : β → Tx σ κ ρ ε Unit) :
    Goes store ⟨Tx.read f >>= g, keys, rows, writes⟩
      ⟨g (f (writes store)), keys, rows, writes⟩ := ⟨1, rfl⟩

theorem goes_readOrThrow {e : ε} {f : σ → Option β} {b : β} (hb : f (writes store) = some b)
    (g : β → Tx σ κ ρ ε Unit) :
    Goes store ⟨Tx.readOrThrow e f >>= g, keys, rows, writes⟩ ⟨g b, keys, rows, writes⟩ := by
  refine ⟨1, ?_⟩
  simp only [ahead, Tx.readOrThrow, Bind.bind, Tx.bind, Session.stmt, hb]
  rfl

section Writes

variable {ω : Type} [DecidableEq ω] (table : TableOf σ ρ ω α)

theorem goes_update {e : ε} {k : ω} {f : α → α} (hk : ((table.get (writes store)).get k).isSome)
    (g : Unit → Tx σ κ ρ ε Unit) :
    Goes store ⟨Tx.update table e k f >>= g, keys, rows, writes⟩
      ⟨g (), keys, table.row k :: rows, fun later => table.put (writes later)
        ((table.get (writes later)).updateMany (fun k' _ => k' = k) f)⟩ := by
  refine ⟨1, ?_⟩
  change (⟨Tx.bind (if ((table.get (writes store)).get k).isSome then Tx.ret () else Tx.throw e) g,
    keys, table.row k :: rows, _⟩ : Session σ κ ρ ε) = _
  rw [if_pos hk]
  rfl

theorem goes_updateMany (p : σ → ω → α → Bool) (f : α → α) (g : Nat → Tx σ κ ρ ε Unit) :
    Goes store ⟨Tx.updateMany table p f >>= g, keys, rows, writes⟩
      ⟨g ((table.get (writes store)).count (p (writes store))), keys,
        ((table.get (writes store)).findMany (p (writes store))).map (fun r => table.row r.1) ++
          rows,
        fun later => table.put (writes later) ((table.get (writes later)).updateMany
          (fun k _ => Tx.picked table p (writes store) k) f)⟩ := ⟨1, rfl⟩

theorem goes_deleteMany (p : σ → ω → α → Bool) (g : Unit → Tx σ κ ρ ε Unit) :
    Goes store ⟨Tx.deleteMany table p >>= g, keys, rows, writes⟩
      ⟨g (), keys,
        ((table.get (writes store)).findMany (p (writes store))).map (fun r => table.row r.1) ++
          rows,
        fun later => table.put (writes later) ((table.get (writes later)).deleteMany
          (fun k _ => Tx.picked table p (writes store) k))⟩ := ⟨1, rfl⟩

theorem goes_upsert (k : ω) (f : α → α) (a : α) (g : Unit → Tx σ κ ρ ε Unit) :
    ∃ after : σ → Table ω α, Goes store ⟨Tx.upsert table k f a >>= g, keys, rows, writes⟩
      ⟨g (), keys, table.row k :: rows, fun later => table.put (writes later) (after later)⟩ :=
  ⟨_, 1, rfl⟩

end Writes

/-- A session that waits for the one row of its statement goes no further: it can only end. -/
theorem ends_of_awaits {p p' : Pool σ κ ρ ε} {i j : Nat} {s s' : Session σ κ ρ ε} {r : ρ}
    {write : σ → σ → σ} {next : σ → Tx σ κ ρ ε Unit} (hne : i ≠ j) (hs : p.session i = some s)
    (hrest : s.rest = .stmt (fun _ => [r]) write next) (hs' : p.session j = some s')
    (hr : r ∈ s'.rows) (hstep : Step slot allowed p i p') : p'.session i = none := by
  have hheld : ¬ p.RowFree i r := fun hfree => hfree j s' hne.symm hs' hr
  cases hstep with
  | start t hnone ht =>
    rw [hs] at hnone
    cases hnone
  | lock u key next' hu hurest hfree =>
    rw [hs, Option.some.injEq] at hu
    rw [← hu, hrest] at hurest
    cases hurest
  | row u rows' write' next' r' hu hurest hr' hfree =>
    rw [hs, Option.some.injEq] at hu
    rw [← hu, hrest] at hurest
    cases hurest
    rw [List.mem_singleton] at hr'
    exact absurd (hr' ▸ hfree) hheld
  | stmt u rows' write' next' hu hurest hfree =>
    rw [hs, Option.some.injEq] at hu
    rw [← hu, hrest] at hurest
    cases hurest
    exact absurd (hfree r List.mem_cons_self) hheld
  | commit u hu hurest => exact if_pos rfl
  | abort u hu => exact if_pos rfl

end Ahead

end lock_waits
