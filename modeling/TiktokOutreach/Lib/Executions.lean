-- Programs that make calls, and pools of programs that run side by side. A
-- call is one step, and every order of the steps of a pool is a run. A protocol
-- says which calls a program may make next, and an invariant that the calls of
-- the protocol keep holds in every run of programs that follow it.
import TiktokOutreach.Lib.Runs

open runs

namespace executions

/-- A program: it ends, or makes a call and goes on with the answer. -/
inductive Prog (C : Type) (R : C → Type) (α : Type) : Type
  | ret (a : α)
  | call (c : C) (next : R c → Prog C R α)

/-- Which calls a role allows, and the role after a call and its answer. -/
structure Protocol (C : Type) (R : C → Type) (Role : Type) where
  ok : Role → C → Prop
  next : Role → (c : C) → R c → Role

/-- The calls that both protocols allow. The roles go on as in the first one. -/
def Protocol.both {C : Type} {R : C → Type} {Role : Type} (P P' : Protocol C R Role) :
    Protocol C R Role where
  ok r c := P.ok r c ∧ P'.ok r c
  next := P.next

namespace Prog

variable {C : Type} {R : C → Type} {α β Role : Type}

def bind : Prog C R α → (α → Prog C R β) → Prog C R β
  | ret a, f => f a
  | call c next, f => call c (fun r => (next r).bind f)

/-- The program follows the protocol from the role `r`, and ends as `Q` says. -/
def Conforms (P : Protocol C R Role) : Prog C R α → Role → (α → Role → Prop) → Prop
  | ret a, r, Q => Q a r
  | call c next, r, Q => P.ok r c ∧ ∀ res, (next res).Conforms P (P.next r c res) Q

theorem conforms_mono {P : Protocol C R Role} {p : Prog C R α} {r : Role}
    {Q Q' : α → Role → Prop} (h : p.Conforms P r Q) (hQ : ∀ a r', Q a r' → Q' a r') :
    p.Conforms P r Q' := by
  induction p generalizing r with
  | ret a => exact hQ a r h
  | call c next ih => exact ⟨h.1, fun res => ih res (h.2 res)⟩

/-- A program that follows two protocols over the same roles follows both at once. -/
theorem conforms_both {P P' : Protocol C R Role} (hnext : P'.next = P.next) {p : Prog C R α}
    {r : Role} {Q Q' : α → Role → Prop} (h : p.Conforms P r Q) (h' : p.Conforms P' r Q') :
    p.Conforms (P.both P') r Q := by
  induction p generalizing r with
  | ret a => exact h
  | call c next ih =>
    refine ⟨⟨h.1, h'.1⟩, ?_⟩
    intro res
    apply ih res (h.2 res)
    rw [← hnext]
    exact h'.2 res

theorem conforms_bind {P : Protocol C R Role} {p : Prog C R α} {f : α → Prog C R β} {r : Role}
    {Q : β → Role → Prop} (h : p.Conforms P r (fun a r' => (f a).Conforms P r' Q)) :
    (p.bind f).Conforms P r Q := by
  induction p generalizing r with
  | ret a => exact h
  | call c next ih => exact ⟨h.1, fun res => ih res (h.2 res)⟩

end Prog

/-! ## Programs that throw, with local variables -/

/-- A program over the local variables `L` that ends with a value or throws. The answer of a
call is a value or an error too. -/
def Js (C : Type) (R : C → Type) (E L α : Type) : Type :=
  L → Prog C (fun c => Except E (R c)) (Except E α × L)

namespace Js

variable {C : Type} {R : C → Type} {E L α β Role : Type}

instance : Monad (Js C R E L) where
  pure a := fun l => .ret (.ok a, l)
  bind m f := fun l => (m l).bind fun out => match out.1 with
    | .ok a => f a out.2
    | .error e => .ret (.error e, out.2)

def call (c : C) : Js C R E L (R c) := fun l => .call c fun res => .ret (res, l)

def throw (e : E) : Js C R E L α := fun l => .ret (.error e, l)

def tryCatch (m : Js C R E L α) (handler : E → Js C R E L α) : Js C R E L α :=
  fun l => (m l).bind fun out => match out.1 with
    | .ok a => .ret (.ok a, out.2)
    | .error e => handler e out.2

/-- An error of the `finally` block replaces the outcome of the body. -/
def tryFinally (m : Js C R E L α) (fin : Js C R E L Unit) : Js C R E L α :=
  fun l => (m l).bind fun out => (fin out.2).bind fun done => match done.1 with
    | .ok () => .ret (out.1, done.2)
    | .error e => .ret (.error e, done.2)

def getLocals : Js C R E L L := fun l => .ret (.ok l, l)

def modifyLocals (f : L → L) : Js C R E L Unit := fun l => .ret (.ok (), f l)

/-- The program as a thread, whose outcome nobody reads. -/
def thread (m : Js C R E L α) (l : L) : Prog C (fun c => Except E (R c)) Unit :=
  (m l).bind fun _ => .ret ()

/-- From every role with `pre`, the program follows the protocol; when it ends with `a` the
role has `Q a`, and when it throws `e` the role has `X e`. -/
def Triple (P : Protocol C (fun c => Except E (R c)) Role) (pre : Role → Prop)
    (m : Js C R E L α) (Q : α → Role → Prop) (X : E → Role → Prop) : Prop :=
  ∀ l r, pre r → (m l).Conforms P r (fun out r' => match out.1 with
    | .ok a => Q a r'
    | .error e => X e r')

section Rules

variable {P : Protocol C (fun c => Except E (R c)) Role} {pre pre' : Role → Prop}
  {Q Q' : α → Role → Prop} {X X' : E → Role → Prop}

theorem triple_pure {a : α} (h : ∀ r, pre r → Q a r) :
    Triple P pre (pure a : Js C R E L α) Q X := by
  intro l r hr
  exact h r hr

theorem triple_throw {e : E} (h : ∀ r, pre r → X e r) :
    Triple P pre (throw e : Js C R E L α) Q X := by
  intro l r hr
  exact h r hr

theorem triple_conseq {m : Js C R E L α} (h : Triple P pre' m Q' X')
    (hpre : ∀ r, pre r → pre' r) (hQ : ∀ a r, Q' a r → Q a r) (hX : ∀ e r, X' e r → X e r) :
    Triple P pre m Q X := by
  intro l r hr
  apply Prog.conforms_mono (h l r (hpre r hr))
  rintro ⟨out, l'⟩ r' hout
  cases out with
  | ok a => exact hQ a r' hout
  | error e => exact hX e r' hout

theorem triple_bind {Q : β → Role → Prop} {M : α → Role → Prop} {m : Js C R E L α}
    {f : α → Js C R E L β} (hm : Triple P pre m M X) (hf : ∀ a, Triple P (M a) (f a) Q X) :
    Triple P pre (m >>= f) Q X := by
  intro l r hr
  apply Prog.conforms_bind
  apply Prog.conforms_mono (hm l r hr)
  rintro ⟨out, l'⟩ r' hout
  cases out with
  | ok a => exact hf a l' r' hout
  | error e => exact hout

theorem triple_call {c : C} {Q : R c → Role → Prop} (hok : ∀ r, pre r → P.ok r c)
    (hQ : ∀ r a, pre r → Q a (P.next r c (.ok a)))
    (hX : ∀ r e, pre r → X e (P.next r c (.error e))) :
    Triple P pre (call c : Js C R E L (R c)) Q X := by
  intro l r hr
  refine ⟨hok r hr, ?_⟩
  intro res
  cases res with
  | ok a => exact hQ r a hr
  | error e => exact hX r e hr

theorem triple_tryCatch {Y : E → Role → Prop} {m : Js C R E L α} {handler : E → Js C R E L α}
    (hm : Triple P pre m Q Y) (hh : ∀ e, Triple P (Y e) (handler e) Q X) :
    Triple P pre (tryCatch m handler) Q X := by
  intro l r hr
  apply Prog.conforms_bind
  apply Prog.conforms_mono (hm l r hr)
  rintro ⟨out, l'⟩ r' hout
  cases out with
  | ok a => exact hout
  | error e => exact hh e l' r' hout

/-- A `finally` block that keeps every condition on the role. -/
theorem triple_tryFinally {m : Js C R E L α} {fin : Js C R E L Unit}
    (hm : Triple P pre m Q X)
    (hfin : ∀ J : Role → Prop, Triple P J fin (fun _ => J) (fun _ => J))
    (hQX : ∀ a e r, Q a r → X e r) (hXX : ∀ e e' r, X e r → X e' r) :
    Triple P pre (tryFinally m fin) Q X := by
  intro l r hr
  apply Prog.conforms_bind
  apply Prog.conforms_mono (hm l r hr)
  rintro ⟨out, l'⟩ r' hout
  apply Prog.conforms_bind
  cases out with
  | ok a =>
    apply Prog.conforms_mono (hfin (Q a) l' r' hout)
    rintro ⟨done, l''⟩ r'' hdone
    cases done with
    | ok u => exact hdone
    | error e => exact hQX a e r'' hdone
  | error e =>
    apply Prog.conforms_mono (hfin (X e) l' r' hout)
    rintro ⟨done, l''⟩ r'' hdone
    cases done with
    | ok u => exact hdone
    | error e' => exact hXX e e' r'' hdone

theorem triple_getLocals {Q : L → Role → Prop} (h : ∀ l r, pre r → Q l r) :
    Triple P pre (getLocals : Js C R E L L) Q X := by
  intro l r hr
  exact h l r hr

theorem triple_modifyLocals {Q : Unit → Role → Prop} {f : L → L} (h : ∀ r, pre r → Q () r) :
    Triple P pre (modifyLocals f : Js C R E L Unit) Q X := by
  intro l r hr
  exact h r hr

theorem conforms_thread {m : Js C R E L α} {l : L} {r : Role}
    (h : Triple P pre m (fun _ _ => True) (fun _ _ => True)) (hr : pre r) :
    (m.thread l).Conforms P r (fun _ _ => True) := by
  apply Prog.conforms_bind
  apply Prog.conforms_mono (h l r hr)
  intro out r' _
  trivial

end Rules

/-! ## Programs that end in one set of roles -/

/-- From the role `r` the program follows the protocol, and whether it returns or throws it ends
in a role with `D`. -/
def Lawful (P : Protocol C (fun c => Except E (R c)) Role) (D : Role → Prop)
    (m : Js C R E L α) (r : Role) : Prop :=
  ∀ l, (m l).Conforms P r (fun _ r' => D r')

section Lawful

variable {P : Protocol C (fun c => Except E (R c)) Role} {D : Role → Prop} {r : Role}

theorem lawful_mono {D' : Role → Prop} {m : Js C R E L α} (h : Lawful P D' m r)
    (hD : ∀ r', D' r' → D r') : Lawful P D m r :=
  fun l => Prog.conforms_mono (h l) (fun _ r' hr' => hD r' hr')

theorem lawful_pure {a : α} (h : D r) : Lawful P D (pure a : Js C R E L α) r := fun _ => h

theorem lawful_throw {e : E} (h : D r) : Lawful P D (throw e : Js C R E L α) r := fun _ => h

theorem lawful_call {c : C} (hok : P.ok r c) (h : ∀ res, D (P.next r c res)) :
    Lawful P D (call c : Js C R E L (R c)) r :=
  fun _ => ⟨hok, h⟩

/-- A call in the middle of a program. When it throws, the program is over. -/
theorem lawful_call_bind {c : C} {f : R c → Js C R E L β} (hok : P.ok r c)
    (hf : ∀ a, Lawful P D (f a) (P.next r c (.ok a))) (hX : ∀ e, D (P.next r c (.error e))) :
    Lawful P D (call c >>= f) r := by
  intro l
  refine ⟨hok, ?_⟩
  intro res
  cases res with
  | ok a => exact hf a l
  | error e => exact hX e

theorem lawful_bind {m : Js C R E L α} {f : α → Js C R E L β} (hm : Lawful P D m r)
    (hf : ∀ a r', D r' → Lawful P D (f a) r') : Lawful P D (m >>= f) r := by
  intro l
  apply Prog.conforms_bind
  apply Prog.conforms_mono (hm l)
  rintro ⟨out, l'⟩ r' hr'
  cases out with
  | ok a => exact hf a r' hr' l'
  | error e => exact hr'

theorem lawful_tryCatch {m : Js C R E L α} {handler : E → Js C R E L α} (hm : Lawful P D m r)
    (hh : ∀ e r', D r' → Lawful P D (handler e) r') : Lawful P D (tryCatch m handler) r := by
  intro l
  apply Prog.conforms_bind
  apply Prog.conforms_mono (hm l)
  rintro ⟨out, l'⟩ r' hr'
  cases out with
  | ok a => exact hr'
  | error e => exact hh e r' hr' l'

/-- A call whose errors are handled, in the middle of a program. -/
theorem lawful_tryCall_bind {c : C} {handler : E → Js C R E L (R c)} {f : R c → Js C R E L β}
    (hok : P.ok r c) (hf : ∀ a, Lawful P D (f a) (P.next r c (.ok a)))
    (hh : ∀ e, Lawful P D (handler e >>= f) (P.next r c (.error e))) :
    Lawful P D (tryCatch (call c) handler >>= f) r := by
  intro l
  refine ⟨hok, ?_⟩
  intro res
  cases res with
  | ok a => exact hf a l
  | error e => exact hh e l

theorem lawful_tryFinally {m : Js C R E L α} {fin : Js C R E L Unit} (hm : Lawful P D m r)
    (hfin : ∀ r', D r' → Lawful P D fin r') : Lawful P D (tryFinally m fin) r := by
  intro l
  apply Prog.conforms_bind
  apply Prog.conforms_mono (hm l)
  rintro ⟨out, l'⟩ r' hr'
  apply Prog.conforms_bind
  apply Prog.conforms_mono (hfin r' hr' l')
  rintro ⟨done, l''⟩ r'' hr''
  cases done with
  | ok u => exact hr''
  | error e => exact hr''

theorem lawful_ite {p : Prop} [Decidable p] {m m' : Js C R E L α} (hm : p → Lawful P D m r)
    (hm' : ¬ p → Lawful P D m' r) : Lawful P D (if p then m else m') r := by
  by_cases h : p
  · rw [if_pos h]
    exact hm h
  · rw [if_neg h]
    exact hm' h

/-- A program may read and change its local variables at any time. -/
theorem lawful_locals {f : L → L} {g : Unit → Js C R E L β} (hg : Lawful P D (g ()) r) :
    Lawful P D (modifyLocals f >>= g) r :=
  fun l => hg (f l)

theorem lawful_getLocals {g : L → Js C R E L β} (hg : ∀ l, Lawful P D (g l) r) :
    Lawful P D (getLocals >>= g) r :=
  fun l => hg l l

/-- From every role with `K` the program follows the protocol, and it ends in a role with `K`. -/
def Within (P : Protocol C (fun c => Except E (R c)) Role) (K : Role → Prop)
    (m : Js C R E L α) : Prop :=
  ∀ r, K r → Lawful P K m r

theorem within_pure (a : α) : Within P D (pure a : Js C R E L α) := fun _ hr => lawful_pure hr

theorem within_throw (e : E) : Within P D (throw e : Js C R E L α) := fun _ hr => lawful_throw hr

theorem within_call {c : C} (hok : ∀ r, D r → P.ok r c)
    (hnext : ∀ r res, D r → D (P.next r c res)) : Within P D (call c : Js C R E L (R c)) :=
  fun r hr => lawful_call (hok r hr) (fun res => hnext r res hr)

theorem within_bind {m : Js C R E L α} {f : α → Js C R E L β} (hm : Within P D m)
    (hf : ∀ a, Within P D (f a)) : Within P D (m >>= f) :=
  fun r hr => lawful_bind (hm r hr) (fun a r' hr' => hf a r' hr')

theorem within_tryCatch {m : Js C R E L α} {handler : E → Js C R E L α} (hm : Within P D m)
    (hh : ∀ e, Within P D (handler e)) : Within P D (tryCatch m handler) :=
  fun r hr => lawful_tryCatch (hm r hr) (fun e r' hr' => hh e r' hr')

theorem within_ite {p : Prop} [Decidable p] {m m' : Js C R E L α} (hm : Within P D m)
    (hm' : Within P D m') : Within P D (if p then m else m') :=
  fun r hr => lawful_ite (fun _ => hm r hr) (fun _ => hm' r hr)

theorem triple_of_within {m : Js C R E L α} (h : Within P D m) :
    Triple P D m (fun _ => D) (fun _ => D) := by
  intro l r hr
  apply Prog.conforms_mono (h r hr l)
  rintro ⟨out, l'⟩ r' hr'
  cases out with
  | ok a => exact hr'
  | error e => exact hr'

theorem within_of_triple {m : Js C R E L α} (h : Triple P D m (fun _ => D) (fun _ => D)) :
    Within P D m := by
  intro r hr l
  apply Prog.conforms_mono (h l r hr)
  rintro ⟨out, l'⟩ r' hout
  cases out with
  | ok a => exact hout
  | error e => exact hout

theorem conforms_of_lawful {m : Js C R E L α} {l : L} (h : Lawful P D m r) :
    (m.thread l).Conforms P r (fun _ r' => D r') := by
  apply Prog.conforms_bind
  apply Prog.conforms_mono (h l)
  intro out r' hr'
  exact hr'

end Lawful

end Js

/-! ## Pools -/

/-- The shared world and the threads, each with the rest of its program. -/
structure Pool (W C : Type) (R : C → Type) where
  world : W
  thread : Nat → Option (Prog C R Unit)

/-- What a world does for its threads: a thread that waits for a call may have it worked on, and
then gets its answer; a crash of a thread may change the world by the call it waits for. -/
structure Machine (W C : Type) (R : C → Type) where
  work : Nat → W → C → W → Prop
  exec : Nat → W → (c : C) → R c → W → Prop
  onCrash : Nat → C → W → W

inductive Label (C : Type) (R : C → Type)
  | spawn (i : Nat)
  | work (i : Nat) (c : C)
  | run (i : Nat) (c : C) (res : R c)
  | crash (i : Nat)

section Pools

variable {W C Role : Type} {R : C → Type}

def Pool.setThread (pool : Pool W C R) (i : Nat) (p : Option (Prog C R Unit)) :
    Nat → Option (Prog C R Unit) :=
  fun j => if j = i then p else pool.thread j

/-- What the crash of a thread with the program `p` does to the world. -/
def Machine.crashed (M : Machine W C R) (i : Nat) (p : Prog C R Unit) (w : W) : W :=
  match p with
  | .ret () => w
  | .call c _ => M.onCrash i c w

/-- A step of the pool: a new thread, work on a call, the answer of a call, or the end of a
thread at any time. -/
inductive PoolStep (M : Machine W C R) (startable : Prog C R Unit → Prop) :
    Pool W C R → Label C R → Pool W C R → Prop
  | spawn (pool : Pool W C R) (i : Nat) (p : Prog C R Unit) (hfree : pool.thread i = none)
      (hp : startable p) :
      PoolStep M startable pool (.spawn i) ⟨pool.world, pool.setThread i (some p)⟩
  | work (pool : Pool W C R) (i : Nat) (c : C) (next : R c → Prog C R Unit) (w : W)
      (hthread : pool.thread i = some (.call c next)) (hwork : M.work i pool.world c w) :
      PoolStep M startable pool (.work i c) ⟨w, pool.thread⟩
  | run (pool : Pool W C R) (i : Nat) (c : C) (next : R c → Prog C R Unit) (res : R c) (w : W)
      (hthread : pool.thread i = some (.call c next)) (hexec : M.exec i pool.world c res w) :
      PoolStep M startable pool (.run i c res) ⟨w, pool.setThread i (some (next res))⟩
  | crash (pool : Pool W C R) (i : Nat) (p : Prog C R Unit) (hthread : pool.thread i = some p) :
      PoolStep M startable pool (.crash i) ⟨M.crashed i p pool.world, pool.setThread i none⟩

theorem PoolStep.of_spawn {M : Machine W C R} {startable : Prog C R Unit → Prop}
    {pool pool' : Pool W C R} {i : Nat} (h : PoolStep M startable pool (.spawn i) pool') :
    pool.thread i = none ∧ pool'.world = pool.world := by
  cases h with
  | spawn i p hfree hp => exact ⟨hfree, rfl⟩

theorem PoolStep.of_run {M : Machine W C R} {startable : Prog C R Unit → Prop}
    {pool pool' : Pool W C R} {i : Nat} {c : C} {res : R c}
    (h : PoolStep M startable pool (.run i c res) pool') :
    (∃ next, pool.thread i = some (.call c next)) ∧ M.exec i pool.world c res pool'.world := by
  cases h with
  | run i c next res w hthread hexec => exact ⟨⟨next, hthread⟩, hexec⟩

def setRole (roles : Nat → Role) (i : Nat) (r : Role) : Nat → Role :=
  fun j => if j = i then r else roles j

@[simp] theorem setRole_self (roles : Nat → Role) (i : Nat) (r : Role) :
    setRole roles i r i = r := by
  simp [setRole]

theorem setRole_of_ne (roles : Nat → Role) {i j : Nat} (r : Role) (h : j ≠ i) :
    setRole roles i r j = roles j := by
  simp [setRole, h]

/-- The roles after a step, which its label alone decides. -/
def stage (P : Protocol C R Role) (start gone : Role) (roles : Nat → Role) :
    Label C R → Nat → Role
  | .spawn i => setRole roles i start
  | .work _ _ => roles
  | .run i c res => setRole roles i (P.next (roles i) c res)
  | .crash i => setRole roles i gone

/-- The roles fit the rests of the programs, which end in roles with `D`. -/
def FollowsTo (P : Protocol C R Role) (D : Role → Prop) (pool : Pool W C R)
    (roles : Nat → Role) : Prop :=
  ∀ i p, pool.thread i = some p → p.Conforms P (roles i) (fun _ r => D r)

/-- A step keeps the other threads, their programs and their roles. -/
theorem followsTo_step {M : Machine W C R} {P : Protocol C R Role} {start gone : Role}
    {D : Role → Prop} {startable : Prog C R Unit → Prop}
    (hstartable : ∀ p, startable p → p.Conforms P start (fun _ r => D r))
    {pool pool' : Pool W C R} {roles : Nat → Role} {l : Label C R}
    (h : FollowsTo P D pool roles) (hstep : PoolStep M startable pool l pool') :
    FollowsTo P D pool' (stage P start gone roles l) := by
  have hothers : ∀ i r q (w : W), (∀ p, q = some p → p.Conforms P r (fun _ r' => D r')) →
      FollowsTo P D ⟨w, pool.setThread i q⟩ (setRole roles i r) := by
    intro i r q w hq j p hp
    by_cases hj : j = i
    · subst hj
      rw [setRole_self]
      exact hq p (by simpa [Pool.setThread] using hp)
    · rw [setRole_of_ne _ _ hj]
      exact h j p (by simpa [Pool.setThread, hj] using hp)
  cases hstep with
  | spawn i p hfree hp =>
    apply hothers
    rintro p' hp'
    cases hp'
    exact hstartable p hp
  | work i c next w hthread hwork => exact h
  | run i c next res w hthread hexec =>
    apply hothers
    rintro p' hp'
    cases hp'
    exact (h i _ hthread).2 res
  | crash i p hthread =>
    apply hothers
    simp

/-- The thread that a step is about. -/
def Label.thread : Label C R → Nat
  | .spawn i | .work i _ | .run i _ _ | .crash i => i

theorem stage_of_ne {P : Protocol C R Role} {start gone : Role} {roles : Nat → Role}
    {l : Label C R} {j : Nat} (h : j ≠ l.thread) : stage P start gone roles l j = roles j := by
  cases l with
  | work i c => rfl
  | _ => exact setRole_of_ne _ _ h

/-- The threads that are not there have the role `gone`. -/
theorem gone_step {M : Machine W C R} {P : Protocol C R Role} {start gone : Role}
    {startable : Prog C R Unit → Prop} {pool pool' : Pool W C R} {roles : Nat → Role}
    {l : Label C R} (h : ∀ i, pool.thread i = none → roles i = gone)
    (hstep : PoolStep M startable pool l pool') (j : Nat) (hj : pool'.thread j = none) :
    stage P start gone roles l j = gone := by
  cases hstep with
  | spawn i p hfree hp =>
    by_cases hji : j = i
    · simp [Pool.setThread, hji] at hj
    · rw [stage, setRole_of_ne _ _ hji]
      exact h j (by simpa [Pool.setThread, hji] using hj)
  | work i c next w hthread hwork => exact h j hj
  | run i c next res w hthread hexec =>
    by_cases hji : j = i
    · simp [Pool.setThread, hji] at hj
    · rw [stage, setRole_of_ne _ _ hji]
      exact h j (by simpa [Pool.setThread, hji] using hj)
  | crash i p hthread =>
    by_cases hji : j = i
    · rw [stage, hji, setRole_self]
    · rw [stage, setRole_of_ne _ _ hji]
      exact h j (by simpa [Pool.setThread, hji] using hj)

/-- A pool, with what an observer noted of the steps so far. -/
structure Observed (W C : Type) (R : C → Type) (O : Type) where
  pool : Pool W C R
  seen : O

/-- A step of the pool, noted by the observer. -/
def ObservedStep {O : Type} (M : Machine W C R) (startable : Prog C R Unit → Prop)
    (observe : O → Label C R → O) (s : Observed W C R O) (l : Label C R)
    (t : Observed W C R O) : Prop :=
  PoolStep M startable s.pool l t.pool ∧ t.seen = observe s.seen l

/-- Every run of a pool can be observed. -/
theorem exists_observed {O : Type} {M : Machine W C R} {startable : Prog C R Unit → Prop}
    {pool pool' : Pool W C R} {ls : List (Label C R)} (observe : O → Label C R → O)
    (h : Run (PoolStep M startable) pool ls pool') (seen : O) :
    Run (ObservedStep M startable observe) ⟨pool, seen⟩ ls ⟨pool', ls.foldl observe seen⟩ := by
  induction h generalizing seen with
  | nil pool => exact Run.nil _
  | cons hstep _ ih => exact Run.cons ⟨hstep, rfl⟩ (ih (observe seen _))

/-- The roles of the threads fit the rests of their programs. -/
def Follows (P : Protocol C R Role) (pool : Pool W C R) (roles : Nat → Role) : Prop :=
  ∀ i p, pool.thread i = some p → p.Conforms P (roles i) (fun _ _ => True)

/-- An invariant of the world and the roles that every allowed step of a machine keeps. The
steps may be under a guard. -/
structure PoolInvariant (M : Machine W C R) (P : Protocol C R Role) (start gone : Role)
    (guard : W → Label C R → Prop) (Inv : W → (Nat → Role) → Prop) : Prop where
  spawn : ∀ w roles i, Inv w roles → Inv w (setRole roles i start)
  work : ∀ w roles i c w', Inv w roles → P.ok (roles i) c → M.work i w c w' →
    guard w (.work i c) → Inv w' roles
  run : ∀ w roles i c res w', Inv w roles → P.ok (roles i) c → M.exec i w c res w' →
    guard w (.run i c res) → Inv w' (setRole roles i (P.next (roles i) c res))
  ends : ∀ w roles i, Inv w roles → Inv w (setRole roles i gone)
  crash : ∀ w roles i c, Inv w roles → P.ok (roles i) c →
    Inv (M.onCrash i c w) (setRole roles i gone)

/-- The invariant of a protocol holds in every run of a pool whose programs follow it. -/
theorem pool_invariant {M : Machine W C R} {P : Protocol C R Role} {start gone : Role}
    {guard : W → Label C R → Prop} {Inv : W → (Nat → Role) → Prop}
    {startable : Prog C R Unit → Prop} (hInv : PoolInvariant M P start gone guard Inv)
    (hstartable : ∀ p, startable p → p.Conforms P start (fun _ _ => True))
    {pool pool' : Pool W C R} {ls : List (Label C R)}
    (hpool : Run (Guarded (PoolStep M startable) (fun pool l => guard pool.world l)) pool ls pool')
    (h0 : ∃ roles, Inv pool.world roles ∧ Follows P pool roles) :
    ∃ roles, Inv pool'.world roles ∧ Follows P pool' roles := by
  apply hpool.invariant (fun pool => ∃ roles, Inv pool.world roles ∧ Follows P pool roles) _ h0
  rintro s l t _ ⟨hstep, hguard⟩ ⟨roles, hinv, hfollows⟩
  refine ⟨stage P start gone roles l, ?_, followsTo_step hstartable hfollows hstep⟩
  cases hstep with
  | spawn i p hfree hp => exact hInv.spawn _ _ _ hinv
  | work i c next w hthread hwork =>
    exact hInv.work _ _ _ _ _ hinv (hfollows i _ hthread).1 hwork hguard
  | run i c next res w hthread hexec =>
    exact hInv.run _ _ _ _ _ _ hinv (hfollows i _ hthread).1 hexec hguard
  | crash i p hthread =>
    cases p with
    | ret u => exact hInv.ends _ _ _ hinv
    | call c next => exact hInv.crash _ _ _ _ hinv (hfollows i _ hthread).1

end Pools

/-! ## Histories -/

section Histories

variable {W C Role : Type} {R : C → Type} {M : Machine W C R} {P : Protocol C R Role}
  {start : Role}

/-- The roles of the threads after the steps with these labels, which all began in `start`. -/
def staged (P : Protocol C R Role) (start : Role) (ls : List (Label C R)) : Nat → Role :=
  ls.foldl (stage P start start) (fun _ => start)

theorem staged_snoc (P : Protocol C R Role) (start : Role) (ls : List (Label C R))
    (l : Label C R) :
    staged P start (ls ++ [l]) = stage P start start (staged P start ls) l := by
  simp [staged]

/-- A thread has its role from its last call, or it had it before, or it starts or is gone. -/
theorem staged_cases (P : Protocol C R Role) (start : Role) (ls : List (Label C R))
    (l : Label C R) (j : Nat) :
    (staged P start (ls ++ [l]) j = staged P start ls j ∧ l ≠ .spawn j ∧
        ∀ c res, l ≠ .run j c res) ∨
      staged P start (ls ++ [l]) j = start ∧ (∀ c res, l ≠ .run j c res) ∨
      ∃ c res, l = .run j c res ∧
        staged P start (ls ++ [l]) j = P.next (staged P start ls j) c res := by
  rw [staged_snoc]
  by_cases hj : j = l.thread
  · cases l with
    | spawn i =>
      subst hj
      exact Or.inr (Or.inl ⟨setRole_self _ _ _, by simp⟩)
    | work i c => exact Or.inl ⟨rfl, by simp, by simp⟩
    | run i c res =>
      subst hj
      exact Or.inr (Or.inr ⟨c, res, rfl, setRole_self _ _ _⟩)
    | crash i =>
      subst hj
      exact Or.inr (Or.inl ⟨setRole_self _ _ _, by simp⟩)
  · refine Or.inl ⟨stage_of_ne hj, ?_, ?_⟩
    · rintro rfl
      exact hj rfl
    · rintro c res rfl
      exact hj rfl

/-- The thread took this step, and has not been started again since. -/
def Since (ls : List (Label C R)) (i : Nat) (l : Label C R) : Prop :=
  ∃ before after, ls = before ++ l :: after ∧ ∀ l' ∈ after, l' ≠ .spawn i

theorem since_snoc {ls : List (Label C R)} {i : Nat} {l l' : Label C R} (h : Since ls i l)
    (hl' : l' ≠ .spawn i) : Since (ls ++ [l']) i l := by
  obtain ⟨before, after, rfl, hafter⟩ := h
  refine ⟨before, after ++ [l'], by simp, ?_⟩
  intro m hm
  rcases List.mem_append.1 hm with hm | hm
  · exact hafter m hm
  · rw [List.mem_singleton.1 hm]
    exact hl'

theorem since_last (ls : List (Label C R)) (i : Nat) (l : Label C R) : Since (ls ++ [l]) i l :=
  ⟨ls, [], rfl, by simp⟩

/-- An invariant of the labels so far and the world that every allowed step of a machine keeps. The
steps may be under a guard. -/
structure HistoryInvariant (M : Machine W C R) (P : Protocol C R Role) (start : Role)
    (guard : W → Label C R → Prop) (I : List (Label C R) → W → Prop) : Prop where
  spawn : ∀ ls w i, I ls w → I (ls ++ [.spawn i]) w
  work : ∀ ls w i c w', I ls w → P.ok (staged P start ls i) c → M.work i w c w' →
    I (ls ++ [.work i c]) w'
  run : ∀ ls w i c res w', I ls w → P.ok (staged P start ls i) c → M.exec i w c res w' →
    guard w (.run i c res) → I (ls ++ [.run i c res]) w'
  ends : ∀ ls w i, I ls w → I (ls ++ [.crash i]) w
  crash : ∀ ls w i c, I ls w → I (ls ++ [.crash i]) (M.onCrash i c w)

/-- It holds in every run of a pool whose programs follow the protocol, from a pool without
threads. -/
theorem history_invariant {guard : W → Label C R → Prop} {I : List (Label C R) → W → Prop}
    {startable : Prog C R Unit → Prop} (hI : HistoryInvariant M P start guard I)
    (hstartable : ∀ p, startable p → p.Conforms P start (fun _ _ => True))
    {pool pool' : Pool W C R} {ls : List (Label C R)}
    (h : Run (Guarded (PoolStep M startable) (fun pool l => guard pool.world l)) pool ls pool')
    (hnone : ∀ i, pool.thread i = none) (h0 : I [] pool.world) :
    I ls pool'.world ∧ Follows P pool' (staged P start ls) := by
  apply h.invariant_history (fun ls pool => I ls pool.world ∧ Follows P pool (staged P start ls))
  · rintro ls s l t ⟨hinv, hfollows⟩ ⟨hstep, hguard⟩
    constructor
    · cases hstep with
      | spawn i p hfree hp => exact hI.spawn _ _ _ hinv
      | work i c next w hthread hwork => exact hI.work _ _ _ _ _ hinv (hfollows i _ hthread).1 hwork
      | run i c next res w hthread hexec =>
        exact hI.run _ _ _ _ _ _ hinv (hfollows i _ hthread).1 hexec hguard
      | crash i p hthread =>
        cases p with
        | ret u => exact hI.ends _ _ _ hinv
        | call c next => exact hI.crash _ _ _ _ hinv
    · rw [staged_snoc]
      exact followsTo_step hstartable hfollows hstep
  · refine ⟨h0, ?_⟩
    intro i p hp
    rw [hnone i] at hp
    cases hp

end Histories

end executions
