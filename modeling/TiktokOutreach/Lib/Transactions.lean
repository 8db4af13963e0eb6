-- Interactive transactions over a store. A transaction is a tree: each node
-- takes an advisory lock or runs one statement, and the rest depends on what
-- the statement saw. `run` runs it with nothing in between.
import TiktokOutreach.Lib.Tables

open tables

namespace transactions

/-- A transaction over the store `σ`, with advisory locks `κ`, row locks `ρ` and errors `ε`.
A statement locks the rows that it writes. What it writes depends on the store that it sees,
and is a change that can be made to a later store as well. -/
inductive Tx (σ κ ρ ε α : Type) : Type
  | ret (a : α)
  | throw (e : ε)
  | lock (key : κ) (next : Tx σ κ ρ ε α)
  | stmt (rows : σ → List ρ) (write : σ → σ → σ) (next : σ → Tx σ κ ρ ε α)

namespace Tx

variable {σ κ ρ ε α β : Type}

def bind : Tx σ κ ρ ε α → (α → Tx σ κ ρ ε β) → Tx σ κ ρ ε β
  | ret a, f => f a
  | throw e, _ => throw e
  | lock key next, f => lock key (next.bind f)
  | stmt rows write next, f => stmt rows write (fun v => (next v).bind f)

instance : Monad (Tx σ κ ρ ε) where
  pure := ret
  bind := bind

/-- The transaction as one step: its result and the store after its commit, or its error. -/
def run : Tx σ κ ρ ε α → σ → Except ε (α × σ)
  | ret a, s => .ok (a, s)
  | throw e, _ => .error e
  | lock _ next, s => next.run s
  | stmt _ write next, s => (next s).run (write s s)

@[simp] theorem run_pure (a : α) (s : σ) : (pure a : Tx σ κ ρ ε α).run s = .ok (a, s) := rfl

@[simp] theorem run_ret (a : α) (s : σ) : (ret a : Tx σ κ ρ ε α).run s = .ok (a, s) := rfl

@[simp] theorem run_throw (e : ε) (s : σ) : (throw e : Tx σ κ ρ ε α).run s = .error e := rfl

@[simp] theorem run_lock (key : κ) (next : Tx σ κ ρ ε α) (s : σ) :
    (lock key next).run s = next.run s := rfl

@[simp] theorem run_stmt (rows : σ → List ρ) (write : σ → σ → σ) (next : σ → Tx σ κ ρ ε α)
    (s : σ) : (stmt rows write next).run s = (next s).run (write s s) := rfl

@[simp] theorem run_bind (t : Tx σ κ ρ ε α) (f : α → Tx σ κ ρ ε β) (s : σ) :
    (t >>= f).run s = (t.run s).bind (fun r => (f r.1).run r.2) := by
  change (t.bind f).run s = _
  induction t generalizing s with
  | ret a => rfl
  | throw e => rfl
  | lock key next ih => exact ih s
  | stmt rows write next ih => exact ih s (write s s)

@[simp] theorem bind_eq_ok {x : Except ε α} {f : α → Except ε β} {b : β} :
    x.bind f = .ok b ↔ ∃ a, x = .ok a ∧ f a = .ok b := by
  cases x with
  | error e => simp [Except.bind]
  | ok a => simp [Except.bind]

@[simp] theorem ite_error_eq_ok {p : Prop} [Decidable p] {x : Except ε α} {e : ε} {a : α} :
    (if p then x else .error e) = .ok a ↔ p ∧ x = .ok a := by
  by_cases h : p <;> simp [h]

@[simp] theorem error_ite_eq_ok {p : Prop} [Decidable p] {x : Except ε α} {e : ε} {a : α} :
    (if p then .error e else x) = .ok a ↔ ¬ p ∧ x = .ok a := by
  by_cases h : p <;> simp [h]

/-- No statement changes what `π` shows of the store. -/
def Keeps {τ : Type} (π : σ → τ) : Tx σ κ ρ ε α → Prop
  | ret _ | throw _ => True
  | lock _ next => next.Keeps π
  | stmt _ write next => (∀ s, π (write s s) = π s) ∧ ∀ v, (next v).Keeps π

section Keeps

variable {τ : Type} {π : σ → τ}

@[simp] theorem keeps_pure (a : α) : (pure a : Tx σ κ ρ ε α).Keeps π := trivial

@[simp] theorem keeps_ret (a : α) : (ret a : Tx σ κ ρ ε α).Keeps π := trivial

@[simp] theorem keeps_throw (e : ε) : (throw e : Tx σ κ ρ ε α).Keeps π := trivial

@[simp] theorem keeps_lock (key : κ) (next : Tx σ κ ρ ε α) :
    (lock key next).Keeps π ↔ next.Keeps π := Iff.rfl

theorem keeps_stmt (rows : σ → List ρ) (write : σ → σ → σ) (next : σ → Tx σ κ ρ ε α) :
    (stmt rows write next).Keeps π ↔ (∀ s, π (write s s) = π s) ∧ ∀ v, (next v).Keeps π :=
  Iff.rfl

theorem keeps_bind {x : Tx σ κ ρ ε α} {f : α → Tx σ κ ρ ε β} (hx : x.Keeps π)
    (hf : ∀ a, (f a).Keeps π) : (x >>= f).Keeps π := by
  induction x with
  | ret a => exact hf a
  | throw e => trivial
  | lock key next ih => exact ih hx
  | stmt rows write next ih => exact ⟨hx.1, fun v => ih v (hx.2 v)⟩

theorem run_of_keeps {x : Tx σ κ ρ ε α} (hx : x.Keeps π) {a : α} {s s' : σ}
    (h : x.run s = .ok (a, s')) : π s' = π s := by
  induction x generalizing s with
  | ret b =>
    cases h
    rfl
  | throw e => cases h
  | lock key next ih => exact ih hx h
  | stmt rows write next ih => exact (ih s (hx.2 s) h).trans (hx.1 s)

end Keeps

/-- Every statement takes the store to one that `R` relates to it. -/
def Within (R : σ → σ → Prop) : Tx σ κ ρ ε α → Prop
  | ret _ | throw _ => True
  | lock _ next => next.Within R
  | stmt _ write next => (∀ s, R s (write s s)) ∧ ∀ v, (next v).Within R

section Within

variable {R : σ → σ → Prop}

theorem within_bind {x : Tx σ κ ρ ε α} {f : α → Tx σ κ ρ ε β} (hx : x.Within R)
    (hf : ∀ a, (f a).Within R) : (x >>= f).Within R := by
  induction x with
  | ret a => exact hf a
  | throw e => trivial
  | lock key next ih => exact ih hx
  | stmt rows write next ih => exact ⟨hx.1, fun v => ih v (hx.2 v)⟩

theorem run_of_within (hrefl : ∀ s, R s s) (htrans : ∀ s s' s'', R s s' → R s' s'' → R s s'')
    {x : Tx σ κ ρ ε α} (hx : x.Within R) {a : α} {s s' : σ} (h : x.run s = .ok (a, s')) :
    R s s' := by
  induction x generalizing s with
  | ret b =>
    cases h
    exact hrefl _
  | throw e => cases h
  | lock key next ih => exact ih hx h
  | stmt rows write next ih => exact htrans _ _ _ (hx.1 s) (ih s (hx.2 s) h)

/-- What changes nothing that `R` looks at stays within it. -/
theorem within_of_keeps {τ : Type} {π : σ → τ} (hR : ∀ s s', π s' = π s → R s s')
    {x : Tx σ κ ρ ε α} (hx : x.Keeps π) : x.Within R := by
  induction x with
  | ret a => trivial
  | throw e => trivial
  | lock key next ih => exact ih hx
  | stmt rows write next ih => exact ⟨fun s => hR _ _ (hx.1 s), fun v => ih v (hx.2 v)⟩

end Within

/-- One transaction after another, for each element of a list, with all their results. -/
def traverse (f : α → Tx σ κ ρ ε β) : List α → Tx σ κ ρ ε (List β)
  | [] => ret []
  | a :: as => f a >>= fun b => traverse f as >>= fun bs => ret (b :: bs)

theorem keeps_traverse {τ : Type} {π : σ → τ} {f : α → Tx σ κ ρ ε β} {as : List α}
    (hf : ∀ a ∈ as, (f a).Keeps π) : (traverse f as).Keeps π := by
  induction as with
  | nil => trivial
  | cons a as ih =>
    apply keeps_bind (hf a List.mem_cons_self)
    intro b
    exact keeps_bind (ih (fun a' ha' => hf a' (List.mem_cons_of_mem _ ha'))) (fun _ => trivial)

theorem within_traverse {R : σ → σ → Prop} {f : α → Tx σ κ ρ ε β} {as : List α}
    (hf : ∀ a ∈ as, (f a).Within R) : (traverse f as).Within R := by
  induction as with
  | nil => trivial
  | cons a as ih =>
    apply within_bind (hf a List.mem_cons_self)
    intro b
    exact within_bind (ih (fun a' ha' => hf a' (List.mem_cons_of_mem _ ha'))) (fun _ => trivial)

/-- What every step of the list keeps, the whole list keeps. -/
theorem traverse_invariant {f : α → Tx σ κ ρ ε β} {as : List α} (I : σ → Prop)
    (hf : ∀ a ∈ as, ∀ b s s', (f a).run s = .ok (b, s') → I s → I s') {bs : List β} {s s' : σ}
    (h : (traverse f as).run s = .ok (bs, s')) (hs : I s) : I s' := by
  induction as generalizing s bs with
  | nil =>
    simp only [traverse, run_ret, Except.ok.injEq, Prod.mk.injEq] at h
    exact h.2 ▸ hs
  | cons a as ih =>
    simp only [traverse, run_bind, bind_eq_ok, run_ret, Except.ok.injEq, Prod.mk.injEq] at h
    obtain ⟨⟨b, s1⟩, h1, ⟨bs', s2⟩, h2, _, rfl⟩ := h
    exact ih (fun a' ha' => hf a' (List.mem_cons_of_mem _ ha')) h2
      (hf a List.mem_cons_self b s s1 h1 hs)

end Tx

/-! ## Statements on one table -/

/-- A table of the store, and the row locks of its keys. -/
structure TableOf (σ ρ κ α : Type) where
  get : σ → Table κ α
  put : σ → Table κ α → σ
  row : κ → ρ

namespace Tx

variable {σ ω ρ ε β κ α : Type}

/-- A statement that only reads. -/
def read (f : σ → β) : Tx σ ω ρ ε β := stmt (fun _ => []) (fun _ s => s) (fun v => ret (f v))

@[simp] theorem run_read (f : σ → β) (s : σ) :
    (read f : Tx σ ω ρ ε β).run s = .ok (f s, s) := rfl

/-- A read that throws when it finds nothing. -/
def readOrThrow (e : ε) (f : σ → Option β) : Tx σ ω ρ ε β :=
  stmt (fun _ => []) (fun _ s => s) (fun v => match f v with
    | some b => ret b
    | none => throw e)

@[simp] theorem run_readOrThrow_eq_ok {e : ε} {f : σ → Option β} {s : σ} {r : β × σ} :
    (readOrThrow e f : Tx σ ω ρ ε β).run s = .ok r ↔ f s = some r.1 ∧ r.2 = s := by
  simp only [readOrThrow, run]
  cases f s with
  | none => simp
  | some b =>
    obtain ⟨b', s'⟩ := r
    simp [eq_comm]

section Writes

variable [DecidableEq κ] (t : TableOf σ ρ κ α)

/-- The rows that a condition picks in the store `v`, as a condition on keys. -/
def picked (p : σ → κ → α → Bool) (v : σ) (k : κ) : Bool := ((t.get v).get k).any (p v k)

/-- The update of one row, which must exist. -/
def update (e : ε) (k : κ) (f : α → α) : Tx σ ω ρ ε Unit :=
  stmt (fun _ => [t.row k])
    (fun _ s => t.put s ((t.get s).updateMany (fun k' _ => k' = k) f))
    (fun v => if ((t.get v).get k).isSome then ret () else throw e)

/-- The update of one row that writes a unique column. -/
def updateUnique (e clashed : ε) (rows : List ρ) (clash : σ → Bool) (k : κ) (f : α → α) :
    Tx σ ω ρ ε Unit :=
  stmt (fun _ => t.row k :: rows)
    (fun _ s => t.put s ((t.get s).updateMany (fun k' _ => k' = k) f))
    (fun v => if ((t.get v).get k).isSome then if clash v then throw clashed else ret ()
      else throw e)

/-- The update of every row under a condition. It gives their number. -/
def updateMany (p : σ → κ → α → Bool) (f : α → α) : Tx σ ω ρ ε Nat :=
  stmt (fun v => ((t.get v).findMany (p v)).map (fun r => t.row r.1))
    (fun v s => t.put s ((t.get s).updateMany (fun k _ => picked t p v k) f))
    (fun v => ret ((t.get v).count (p v)))

def deleteMany (p : σ → κ → α → Bool) : Tx σ ω ρ ε Unit :=
  stmt (fun v => ((t.get v).findMany (p v)).map (fun r => t.row r.1))
    (fun v s => t.put s ((t.get s).deleteMany (fun k _ => picked t p v k)))
    (fun _ => ret ())

/-- The insert of a row. It throws when the key or another unique column is taken. -/
def create (e : ε) (rows : List ρ) (clash : σ → Bool) (k : κ) (a : α) : Tx σ ω ρ ε Unit :=
  stmt (fun _ => t.row k :: rows)
    (fun _ s => t.put s ((t.get s).set k a))
    (fun v => if ((t.get v).get k).isSome || clash v then throw e else ret ())

def upsert (k : κ) (f : α → α) (a : α) : Tx σ ω ρ ε Unit :=
  stmt (fun _ => [t.row k])
    (fun v s => t.put s (match (t.get v).get k with
      | some _ => (t.get s).updateMany (fun k' _ => k' = k) f
      | none => (t.get s).set k a))
    (fun _ => ret ())

theorem updateMany_picked (p : σ → κ → α → Bool) (f : α → α) (s : σ) :
    (t.get s).updateMany (fun k _ => picked t p s k) f = (t.get s).updateMany (p s) f := by
  unfold Table.updateMany
  congr 1
  apply List.map_congr_left
  rintro ⟨k, a⟩ hr
  simp [picked, (Table.mem_rows_iff _ k a).1 hr]

theorem deleteMany_picked (p : σ → κ → α → Bool) (s : σ) :
    (t.get s).deleteMany (fun k _ => picked t p s k) = (t.get s).deleteMany (p s) := by
  unfold Table.deleteMany
  congr 1
  apply List.filter_congr
  rintro ⟨k, a⟩ hr
  simp [picked, (Table.mem_rows_iff _ k a).1 hr]

@[simp] theorem run_update (e : ε) (k : κ) (f : α → α) (s : σ) :
    (update t e k f : Tx σ ω ρ ε Unit).run s =
      if ((t.get s).get k).isSome then
        .ok ((), t.put s ((t.get s).updateMany (fun k' _ => k' = k) f))
      else .error e := by
  simp only [update, run]
  split <;> rfl

@[simp] theorem run_updateUnique (e clashed : ε) (rows : List ρ) (clash : σ → Bool) (k : κ)
    (f : α → α) (s : σ) :
    (updateUnique t e clashed rows clash k f : Tx σ ω ρ ε Unit).run s =
      if ((t.get s).get k).isSome then
        if clash s then .error clashed
        else .ok ((), t.put s ((t.get s).updateMany (fun k' _ => k' = k) f))
      else .error e := by
  simp only [updateUnique, run]
  split
  · split <;> rfl
  · rfl

@[simp] theorem run_updateMany (p : σ → κ → α → Bool) (f : α → α) (s : σ) :
    (updateMany t p f : Tx σ ω ρ ε Nat).run s =
      .ok ((t.get s).count (p s), t.put s ((t.get s).updateMany (p s) f)) := by
  simp only [updateMany, run, updateMany_picked]

@[simp] theorem run_deleteMany (p : σ → κ → α → Bool) (s : σ) :
    (deleteMany t p : Tx σ ω ρ ε Unit).run s =
      .ok ((), t.put s ((t.get s).deleteMany (p s))) := by
  simp only [deleteMany, run, deleteMany_picked]

@[simp] theorem run_create (e : ε) (rows : List ρ) (clash : σ → Bool) (k : κ) (a : α) (s : σ) :
    (create t e rows clash k a : Tx σ ω ρ ε Unit).run s =
      if ((t.get s).get k).isSome || clash s then .error e
      else .ok ((), t.put s ((t.get s).set k a)) := by
  simp only [create, run]
  split <;> rfl

/-! ## What the statements keep -/

variable {τ : Type} (π : σ → τ)

@[simp] theorem keeps_read (f : σ → β) : (read f : Tx σ ω ρ ε β).Keeps π := by
  simp [read, Keeps]

@[simp] theorem keeps_readOrThrow (e : ε) (f : σ → Option β) :
    (readOrThrow e f : Tx σ ω ρ ε β).Keeps π := by
  refine ⟨fun _ => rfl, fun v => ?_⟩
  dsimp only
  cases f v <;> trivial

@[simp] theorem keeps_update (e : ε) (k : κ) (f : α → α) :
    (update t e k f : Tx σ ω ρ ε Unit).Keeps π ↔
      ∀ s, π (t.put s ((t.get s).updateMany (fun k' _ => k' = k) f)) = π s := by
  refine ⟨fun h => h.1, fun h => ⟨h, fun v => ?_⟩⟩
  dsimp only
  split <;> trivial

@[simp] theorem keeps_updateUnique (e clashed : ε) (rows : List ρ) (clash : σ → Bool) (k : κ)
    (f : α → α) : (updateUnique t e clashed rows clash k f : Tx σ ω ρ ε Unit).Keeps π ↔
      ∀ s, π (t.put s ((t.get s).updateMany (fun k' _ => k' = k) f)) = π s := by
  refine ⟨fun h => h.1, fun h => ⟨h, fun v => ?_⟩⟩
  dsimp only
  split
  · split <;> trivial
  · trivial

@[simp] theorem keeps_updateMany (p : σ → κ → α → Bool) (f : α → α) :
    (updateMany t p f : Tx σ ω ρ ε Nat).Keeps π ↔
      ∀ s, π (t.put s ((t.get s).updateMany (p s) f)) = π s := by
  refine ⟨fun h s => ?_, fun h => ⟨fun s => ?_, fun _ => trivial⟩⟩
  · rw [← updateMany_picked t p f s]
    exact h.1 s
  · dsimp only
    rw [updateMany_picked]
    exact h s

@[simp] theorem keeps_deleteMany (p : σ → κ → α → Bool) :
    (deleteMany t p : Tx σ ω ρ ε Unit).Keeps π ↔
      ∀ s, π (t.put s ((t.get s).deleteMany (p s))) = π s := by
  refine ⟨fun h s => ?_, fun h => ⟨fun s => ?_, fun _ => trivial⟩⟩
  · rw [← deleteMany_picked t p s]
    exact h.1 s
  · dsimp only
    rw [deleteMany_picked]
    exact h s

theorem within_update {R : σ → σ → Prop} {e : ε} {k : κ} {f : α → α}
    (h : ∀ s, R s (t.put s ((t.get s).updateMany (fun k' _ => k' = k) f))) :
    (update t e k f : Tx σ ω ρ ε Unit).Within R := by
  refine ⟨h, fun v => ?_⟩
  dsimp only
  split <;> trivial

theorem within_updateMany {R : σ → σ → Prop} {p : σ → κ → α → Bool} {f : α → α}
    (h : ∀ s, R s (t.put s ((t.get s).updateMany (p s) f))) :
    (updateMany t p f : Tx σ ω ρ ε Nat).Within R := by
  refine ⟨fun s => ?_, fun _ => trivial⟩
  dsimp only
  rw [updateMany_picked]
  exact h s

@[simp] theorem keeps_create (e : ε) (rows : List ρ) (clash : σ → Bool) (k : κ) (a : α) :
    (create t e rows clash k a : Tx σ ω ρ ε Unit).Keeps π ↔
      ∀ s, π (t.put s ((t.get s).set k a)) = π s := by
  refine ⟨fun h => h.1, fun h => ⟨h, fun v => ?_⟩⟩
  dsimp only
  split <;> trivial

@[simp] theorem keeps_upsert (k : κ) (f : α → α) (a : α) :
    (upsert t k f a : Tx σ ω ρ ε Unit).Keeps π ↔ ∀ s, π (t.put s (match (t.get s).get k with
      | some _ => (t.get s).updateMany (fun k' _ => k' = k) f
      | none => (t.get s).set k a)) = π s :=
  ⟨fun h => h.1, fun h => ⟨h, fun _ => trivial⟩⟩

@[simp] theorem run_upsert (k : κ) (f : α → α) (a : α) (s : σ) :
    (upsert t k f a : Tx σ ω ρ ε Unit).run s =
      .ok ((), t.put s (match (t.get s).get k with
        | some _ => (t.get s).updateMany (fun k' _ => k' = k) f
        | none => (t.get s).set k a)) := rfl

end Writes

end Tx

end transactions
