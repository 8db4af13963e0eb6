-- The transcript of a program that ran among others: its calls, each with the
-- world in which it was made and the world it left. What happened between two
-- calls is free.
import TiktokOutreach.Lib.Executions

open runs

namespace executions

/-- A call that was made. -/
structure Made (W C : Type) where
  before : W
  call : C
  after : W

namespace Prog

variable {C : Type} {R : C → Type} {α β W : Type}

/-- The program ends with a value after the calls of a transcript. -/
def Ends (exec : W → (c : C) → R c → W → Prop) : Prog C R α → List (Made W C) → α → Prop
  | ret a, steps, b => steps = [] ∧ b = a
  | call c next, steps, b => ∃ w w' r rest, steps = ⟨w, c, w'⟩ :: rest ∧ exec w c r w' ∧
      (next r).Ends exec rest b

variable {exec : W → (c : C) → R c → W → Prop}

theorem ends_bind {p : Prog C R α} {f : α → Prog C R β} {steps : List (Made W C)} {b : β} :
    (p.bind f).Ends exec steps b ↔
      ∃ first rest a, steps = first ++ rest ∧ p.Ends exec first a ∧ (f a).Ends exec rest b := by
  induction p generalizing steps with
  | ret a =>
    constructor
    · intro h
      exact ⟨[], steps, a, rfl, ⟨rfl, rfl⟩, h⟩
    · rintro ⟨first, rest, a', rfl, ⟨rfl, rfl⟩, h⟩
      exact h
  | call c next ih =>
    constructor
    · rintro ⟨w, w', r, rest, rfl, hexec, h⟩
      obtain ⟨first, rest', a, rfl, hp, hf⟩ := (ih r).1 h
      exact ⟨⟨w, c, w'⟩ :: first, rest', a, rfl, ⟨w, w', r, first, rfl, hexec, hp⟩, hf⟩
    · rintro ⟨first, rest, a, rfl, ⟨w, w', r, first', rfl, hexec, hp⟩, hf⟩
      exact ⟨w, w', r, first' ++ rest, rfl, hexec, (ih r).2 ⟨first', rest, a, rfl, hp, hf⟩⟩

/-- A program can always run when every call has an answer in some world. -/
theorem exists_ends (w : W) (htotal : ∀ c, ∃ r w', exec w c r w') (p : Prog C R α) :
    ∃ steps b, p.Ends exec steps b ∧ ∀ s ∈ steps, s.before = w := by
  induction p with
  | ret a => exact ⟨[], a, ⟨rfl, rfl⟩, by simp⟩
  | call c next ih =>
    obtain ⟨r, w', hexec⟩ := htotal c
    obtain ⟨steps, b, h, hw⟩ := ih r
    refine ⟨⟨w, c, w'⟩ :: steps, b, ⟨w, w', r, steps, rfl, hexec, h⟩, ?_⟩
    intro s hs
    rcases List.mem_cons.1 hs with rfl | hs
    · rfl
    · exact hw s hs

/-- Every call of a transcript is one that the protocol of the program allows in some role. -/
theorem allowed_of_ends {Role : Type} {P : Protocol C R Role} {p : Prog C R α} {role : Role}
    {Q : α → Role → Prop} {steps : List (Made W C)} {b : α} (hp : p.Conforms P role Q)
    (h : p.Ends exec steps b) : ∀ s ∈ steps, ∃ role, P.ok role s.call := by
  induction p generalizing role steps with
  | ret a =>
    intro s hs
    rw [h.1] at hs
    cases hs
  | call c next ih =>
    obtain ⟨w, w', r, rest, rfl, -, hrest⟩ := h
    intro s hs
    rcases List.mem_cons.1 hs with rfl | hs
    · exact ⟨role, hp.1⟩
    · exact ih r (hp.2 r) hrest s hs

end Prog

namespace Js

variable {C : Type} {R : C → Type} {E L α β W : Type}
  {exec : W → (c : C) → Except E (R c) → W → Prop}

/-- The program ends with an outcome, from some local variables, after the calls of a
transcript. -/
def Ends (exec : W → (c : C) → Except E (R c) → W → Prop) (m : Js C R E L α) (l : L)
    (steps : List (Made W C)) (outcome : Except E α) : Prop :=
  ∃ l', (m l).Ends exec steps (outcome, l')

theorem ends_pure {a : α} {l : L} {steps : List (Made W C)} {outcome : Except E α} :
    Ends exec (pure a : Js C R E L α) l steps outcome ↔ steps = [] ∧ outcome = .ok a := by
  constructor
  · rintro ⟨l', rfl, h⟩
    cases h
    exact ⟨rfl, rfl⟩
  · rintro ⟨rfl, rfl⟩
    exact ⟨l, rfl, rfl⟩

theorem ends_throw {e : E} {l : L} {steps : List (Made W C)} {outcome : Except E α} :
    Ends exec (throw e : Js C R E L α) l steps outcome ↔ steps = [] ∧ outcome = .error e := by
  constructor
  · rintro ⟨l', rfl, h⟩
    cases h
    exact ⟨rfl, rfl⟩
  · rintro ⟨rfl, rfl⟩
    exact ⟨l, rfl, rfl⟩

theorem ends_call {c : C} {l : L} {steps : List (Made W C)} {outcome : Except E (R c)} :
    Ends exec (call c : Js C R E L (R c)) l steps outcome ↔
      ∃ w w', steps = [⟨w, c, w'⟩] ∧ exec w c outcome w' := by
  constructor
  · rintro ⟨l', w, w', r, rest, rfl, hexec, rfl, h⟩
    cases h
    exact ⟨w, w', rfl, hexec⟩
  · rintro ⟨w, w', rfl, hexec⟩
    exact ⟨l, w, w', outcome, [], rfl, hexec, rfl, rfl⟩

theorem allowed_of_ends {Role : Type} {P : Protocol C (fun c => Except E (R c)) Role}
    {D : Role → Prop} {m : Js C R E L α} {l : L} {steps : List (Made W C)}
    {outcome : Except E α} (hm : Within P D m) (role : Role) (hrole : D role) (h : Ends exec m l steps outcome) :
    ∀ s ∈ steps, ∃ role, P.ok role s.call := by
  obtain ⟨l', h⟩ := h
  exact Prog.allowed_of_ends (hm role hrole l) h

end Js

/-! ## Programs without local variables -/

namespace Js

variable {C : Type} {R : C → Type} {E α β W : Type}
  {exec : W → (c : C) → Except E (R c) → W → Prop}

theorem ends_bind {m : Js C R E Unit α} {f : α → Js C R E Unit β} {steps : List (Made W C)}
    {outcome : Except E β} :
    Ends exec (m >>= f) () steps outcome ↔
      (∃ e, Ends exec m () steps (.error e) ∧ outcome = .error e) ∨
      ∃ first rest a, steps = first ++ rest ∧ Ends exec m () first (.ok a) ∧
        Ends exec (f a) () rest outcome := by
  constructor
  · rintro ⟨l', h⟩
    obtain ⟨first, rest, ⟨out, l⟩, rfl, hm, hf⟩ := Prog.ends_bind.1 h
    cases out with
    | ok a => exact Or.inr ⟨first, rest, a, rfl, ⟨l, hm⟩, ⟨l', hf⟩⟩
    | error e =>
      obtain ⟨rfl, hout⟩ := hf
      cases hout
      exact Or.inl ⟨e, ⟨l, by simpa using hm⟩, rfl⟩
  · rintro (⟨e, ⟨l, hm⟩, rfl⟩ | ⟨first, rest, a, rfl, ⟨l, hm⟩, ⟨l', hf⟩⟩)
    · exact ⟨l, Prog.ends_bind.2 ⟨steps, [], _, by simp, hm, rfl, rfl⟩⟩
    · exact ⟨l', Prog.ends_bind.2 ⟨first, rest, _, rfl, hm, hf⟩⟩

theorem ends_tryCatch {m : Js C R E Unit α} {handler : E → Js C R E Unit α}
    {steps : List (Made W C)} {outcome : Except E α} :
    Ends exec (tryCatch m handler) () steps outcome ↔
      (∃ a, Ends exec m () steps (.ok a) ∧ outcome = .ok a) ∨
      ∃ first rest e, steps = first ++ rest ∧ Ends exec m () first (.error e) ∧
        Ends exec (handler e) () rest outcome := by
  constructor
  · rintro ⟨l', h⟩
    obtain ⟨first, rest, ⟨out, l⟩, rfl, hm, hf⟩ := Prog.ends_bind.1 h
    cases out with
    | error e => exact Or.inr ⟨first, rest, e, rfl, ⟨l, hm⟩, ⟨l', hf⟩⟩
    | ok a =>
      obtain ⟨rfl, hout⟩ := hf
      cases hout
      exact Or.inl ⟨a, ⟨l, by simpa using hm⟩, rfl⟩
  · rintro (⟨a, ⟨l, hm⟩, rfl⟩ | ⟨first, rest, e, rfl, ⟨l, hm⟩, ⟨l', hf⟩⟩)
    · exact ⟨l, Prog.ends_bind.2 ⟨steps, [], _, by simp, hm, rfl, rfl⟩⟩
    · exact ⟨l', Prog.ends_bind.2 ⟨first, rest, _, rfl, hm, hf⟩⟩

theorem bind_assoc {γ : Type} (m : Js C R E Unit α) (f : α → Js C R E Unit β)
    (g : β → Js C R E Unit γ) : (m >>= f) >>= g = m >>= fun a => f a >>= g := by
  funext l
  change ((m l).bind _).bind _ = (m l).bind _
  induction m l with
  | ret out =>
    cases hout : out.1 with
    | ok a => simp only [Prog.bind, hout]; rfl
    | error e => simp only [Prog.bind, hout]
  | call c next ih =>
    simp only [Prog.bind]
    congr 1
    funext r
    exact ih r

end Js

/-! ## Programs that run alone -/

namespace Prog

variable {C : Type} {R : C → Type} {α β W : Type}

/-- The program leads from one world to another, with nothing else between its calls. -/
def Leads (exec : W → (c : C) → R c → W → Prop) : Prog C R α → W → α → W → Prop
  | ret a, w, b, w' => b = a ∧ w' = w
  | call c next, w, b, w' => ∃ r mid, exec w c r mid ∧ (next r).Leads exec mid b w'

/-- The program over a world that answers each call. -/
def eval (answer : W → (c : C) → R c × W) : Prog C R α → W → α × W
  | ret a, w => (a, w)
  | call c next, w => (next (answer w c).1).eval answer (answer w c).2

theorem leads_bind {exec : W → (c : C) → R c → W → Prop} {p : Prog C R α} {f : α → Prog C R β}
    {w w' : W} {b : β} : (p.bind f).Leads exec w b w' ↔
      ∃ a mid, p.Leads exec w a mid ∧ (f a).Leads exec mid b w' := by
  induction p generalizing w with
  | ret a =>
    constructor
    · intro h
      exact ⟨a, w, ⟨rfl, rfl⟩, h⟩
    · rintro ⟨a', mid, ⟨rfl, rfl⟩, h⟩
      exact h
  | call c next ih =>
    constructor
    · rintro ⟨r, mid, hexec, h⟩
      obtain ⟨a, mid', hp, hf⟩ := (ih r).1 h
      exact ⟨a, mid', ⟨r, mid, hexec, hp⟩, hf⟩
    · rintro ⟨a, mid', ⟨r, mid, hexec, hp⟩, hf⟩
      exact ⟨r, mid, hexec, (ih r).2 ⟨a, mid', hp, hf⟩⟩

theorem eval_bind (answer : W → (c : C) → R c × W) (p : Prog C R α) (f : α → Prog C R β) (w : W) :
    (p.bind f).eval answer w = (f (p.eval answer w).1).eval answer (p.eval answer w).2 := by
  induction p generalizing w with
  | ret a => rfl
  | call c next ih => exact ih _ _

/-- A world that always answers leads where the program evaluates to. -/
theorem leads_eval {exec : W → (c : C) → R c → W → Prop} {answer : W → (c : C) → R c × W}
    (hexec : ∀ w c, exec w c (answer w c).1 (answer w c).2) (p : Prog C R α) (w : W) :
    p.Leads exec w (p.eval answer w).1 (p.eval answer w).2 := by
  induction p generalizing w with
  | ret a => exact ⟨rfl, rfl⟩
  | call c next ih => exact ⟨_, _, hexec w c, ih _ _⟩

/-- The program over a world that answers each call but one, which fails and changes nothing. -/
def evalFailing (answer : W → (c : C) → R c × W) (fail : (c : C) → R c) :
    Prog C R α → Nat → W → α × W
  | ret a, _, w => (a, w)
  | call c next, 0, w => (next (fail c)).eval answer w
  | call c next, k + 1, w => (next (answer w c).1).evalFailing answer fail k (answer w c).2

theorem leads_evalFailing {exec : W → (c : C) → R c → W → Prop} {answer : W → (c : C) → R c × W}
    {fail : (c : C) → R c} (hexec : ∀ w c, exec w c (answer w c).1 (answer w c).2)
    (hfail : ∀ w c, exec w c (fail c) w) (p : Prog C R α) (k : Nat) (w : W) :
    p.Leads exec w (p.evalFailing answer fail k w).1 (p.evalFailing answer fail k w).2 := by
  induction p generalizing k w with
  | ret a => exact ⟨rfl, rfl⟩
  | call c next ih =>
    cases k with
    | zero => exact ⟨_, w, hfail w c, leads_eval hexec _ w⟩
    | succ k => exact ⟨_, _, hexec w c, ih _ k _⟩

end Prog

namespace Js

variable {C : Type} {R : C → Type} {E α β W : Type}

/-- The program leads from one world to another with an outcome. -/
def Leads (exec : W → (c : C) → Except E (R c) → W → Prop) (m : Js C R E Unit α) (w : W)
    (outcome : Except E α) (w' : W) : Prop :=
  (m ()).Leads exec w (outcome, ()) w'

def eval (answer : W → (c : C) → Except E (R c) × W) (m : Js C R E Unit α) (w : W) :
    Except E α × W :=
  (((m ()).eval answer w).1.1, ((m ()).eval answer w).2)

/-- The program over a world where one call fails. -/
def evalFailing (answer : W → (c : C) → Except E (R c) × W) (e : E) (m : Js C R E Unit α) (k : Nat)
    (w : W) : Except E α × W :=
  (((m ()).evalFailing answer (fun _ => .error e) k w).1.1,
    ((m ()).evalFailing answer (fun _ => .error e) k w).2)

section Leads

variable {exec : W → (c : C) → Except E (R c) → W → Prop} {w w' : W}

theorem leads_pure {a : α} {outcome : Except E α} :
    Leads exec (pure a : Js C R E Unit α) w outcome w' ↔ outcome = .ok a ∧ w' = w := by
  constructor
  · rintro ⟨h, hw⟩
    cases h
    exact ⟨rfl, hw⟩
  · rintro ⟨rfl, hw⟩
    exact ⟨rfl, hw⟩

theorem leads_throw {e : E} {outcome : Except E α} :
    Leads exec (throw e : Js C R E Unit α) w outcome w' ↔ outcome = .error e ∧ w' = w := by
  constructor
  · rintro ⟨h, hw⟩
    cases h
    exact ⟨rfl, hw⟩
  · rintro ⟨rfl, hw⟩
    exact ⟨rfl, hw⟩

theorem leads_call {c : C} {outcome : Except E (R c)} :
    Leads exec (call c : Js C R E Unit (R c)) w outcome w' ↔ exec w c outcome w' := by
  constructor
  · rintro ⟨r, mid, hexec, h, rfl⟩
    cases h
    exact hexec
  · intro hexec
    exact ⟨outcome, w', hexec, rfl, rfl⟩

theorem leads_bind {m : Js C R E Unit α} {f : α → Js C R E Unit β} {outcome : Except E β} :
    Leads exec (m >>= f) w outcome w' ↔
      (∃ e, Leads exec m w (.error e) w' ∧ outcome = .error e) ∨
      ∃ a mid, Leads exec m w (.ok a) mid ∧ Leads exec (f a) mid outcome w' := by
  constructor
  · intro h
    obtain ⟨⟨out, l⟩, mid, hm, hf⟩ := Prog.leads_bind.1 h
    cases out with
    | ok a => exact Or.inr ⟨a, mid, hm, hf⟩
    | error e =>
      obtain ⟨hout, rfl⟩ := hf
      cases hout
      exact Or.inl ⟨e, hm, rfl⟩
  · rintro (⟨e, hm, rfl⟩ | ⟨a, mid, hm, hf⟩)
    · exact Prog.leads_bind.2 ⟨_, w', hm, rfl, rfl⟩
    · exact Prog.leads_bind.2 ⟨_, mid, hm, hf⟩

theorem leads_tryCatch {m : Js C R E Unit α} {handler : E → Js C R E Unit α}
    {outcome : Except E α} : Leads exec (tryCatch m handler) w outcome w' ↔
      (∃ a, Leads exec m w (.ok a) w' ∧ outcome = .ok a) ∨
      ∃ e mid, Leads exec m w (.error e) mid ∧ Leads exec (handler e) mid outcome w' := by
  constructor
  · intro h
    obtain ⟨⟨out, l⟩, mid, hm, hf⟩ := Prog.leads_bind.1 h
    cases out with
    | ok a =>
      obtain ⟨hout, rfl⟩ := hf
      cases hout
      exact Or.inl ⟨a, hm, rfl⟩
    | error e => exact Or.inr ⟨e, mid, hm, hf⟩
  · rintro (⟨a, hm, rfl⟩ | ⟨e, mid, hm, hf⟩)
    · exact Prog.leads_bind.2 ⟨_, w', hm, rfl, rfl⟩
    · exact Prog.leads_bind.2 ⟨_, mid, hm, hf⟩

theorem leads_eval {answer : W → (c : C) → Except E (R c) × W}
    (hexec : ∀ w c, exec w c (answer w c).1 (answer w c).2) (m : Js C R E Unit α) (w : W) :
    Leads exec m w (eval answer m w).1 (eval answer m w).2 :=
  Prog.leads_eval hexec (m ()) w

theorem leads_evalFailing {answer : W → (c : C) → Except E (R c) × W} {e : E}
    (hexec : ∀ w c, exec w c (answer w c).1 (answer w c).2) (hfail : ∀ w c, exec w c (.error e) w)
    (m : Js C R E Unit α) (k : Nat) (w : W) :
    Leads exec m w (evalFailing answer e m k w).1 (evalFailing answer e m k w).2 :=
  Prog.leads_evalFailing hexec hfail (m ()) k w

end Leads

/-- The rest of a program is run when its start has a value. -/
def rest (f : α → Js C R E Unit β) (out : Except E α × Unit) :
    Prog C (fun c => Except E (R c)) (Except E β × Unit) :=
  match out.1 with
  | .ok a => f a out.2
  | .error e => .ret (.error e, out.2)

theorem bind_apply (m : Js C R E Unit α) (f : α → Js C R E Unit β) :
    (m >>= f) () = (m ()).bind (rest f) := rfl

section Eval

variable (answer : W → (c : C) → Except E (R c) × W) (w : W)

@[simp] theorem eval_pure (a : α) : eval answer (pure a : Js C R E Unit α) w = (.ok a, w) := rfl

@[simp] theorem eval_throw (e : E) :
    eval answer (throw e : Js C R E Unit α) w = (.error e, w) := rfl

@[simp] theorem eval_call (c : C) :
    eval answer (call c : Js C R E Unit (R c)) w = answer w c := rfl

theorem eval_bind_ok {m : Js C R E Unit α} {f : α → Js C R E Unit β} {a : α} {mid : W}
    (h : eval answer m w = (.ok a, mid)) : eval answer (m >>= f) w = eval answer (f a) mid := by
  obtain ⟨⟨out, l⟩, mid', hp⟩ : ∃ out mid', (m ()).eval answer w = (out, mid') := ⟨_, _, rfl⟩
  rw [eval, hp] at h
  cases h
  rw [eval, bind_apply, Prog.eval_bind, hp]
  rfl

theorem eval_bind_error {m : Js C R E Unit α} {f : α → Js C R E Unit β} {e : E} {mid : W}
    (h : eval answer m w = (.error e, mid)) : eval answer (m >>= f) w = (.error e, mid) := by
  obtain ⟨⟨out, l⟩, mid', hp⟩ : ∃ out mid', (m ()).eval answer w = (out, mid') := ⟨_, _, rfl⟩
  rw [eval, hp] at h
  cases h
  rw [eval, bind_apply, Prog.eval_bind, hp]
  rfl

variable {answer w}

theorem eval_call_ok {c : C} {f : R c → Js C R E Unit β} {a : R c} {mid : W}
    (h : answer w c = (.ok a, mid)) : eval answer (call c >>= f) w = eval answer (f a) mid :=
  eval_bind_ok answer w h

theorem eval_call_error {c : C} {f : R c → Js C R E Unit β} {e : E} {mid : W}
    (h : answer w c = (.error e, mid)) : eval answer (call c >>= f) w = (.error e, mid) :=
  eval_bind_error answer w h

end Eval

/-! ## What every way of a program has in common -/

/-- When the program ends with a value, it ended so with the answers of the world. -/
def Answered (exec : W → (c : C) → Except E (R c) → W → Prop)
    (answer : W → (c : C) → Except E (R c) × W) (m : Js C R E Unit α) : Prop :=
  ∀ w a w', Leads exec m w (.ok a) w' → eval answer m w = (.ok a, w')

section Answered

variable {exec : W → (c : C) → Except E (R c) → W → Prop}
  {answer : W → (c : C) → Except E (R c) × W}

theorem answered_pure (a : α) : Answered exec answer (pure a : Js C R E Unit α) := by
  intro w b w' h
  obtain ⟨hb, rfl⟩ := leads_pure.1 h
  rw [eval_pure, hb]

theorem answered_call {c : C} (hc : ∀ w a w', exec w c (.ok a) w' → answer w c = (.ok a, w')) :
    Answered exec answer (call c : Js C R E Unit (R c)) := by
  intro w a w' h
  exact hc w a w' (leads_call.1 h)

theorem answered_bind {m : Js C R E Unit α} {f : α → Js C R E Unit β}
    (hm : Answered exec answer m) (hf : ∀ a, Answered exec answer (f a)) :
    Answered exec answer (m >>= f) := by
  intro w b w' h
  rcases leads_bind.1 h with ⟨e, _, hb⟩ | ⟨a, mid, hfirst, hrest⟩
  · cases hb
  · rw [eval_bind_ok answer w (hm w a mid hfirst)]
    exact hf a mid b w' hrest

end Answered

/-- However the program ends, `π` shows the same of the world as before. -/
def Leaves {τ : Type} (exec : W → (c : C) → Except E (R c) → W → Prop) (π : W → τ)
    (m : Js C R E Unit α) : Prop :=
  ∀ w outcome w', Leads exec m w outcome w' → π w' = π w

section Leaves

variable {τ : Type} {exec : W → (c : C) → Except E (R c) → W → Prop} {π : W → τ}

theorem leaves_pure (a : α) : Leaves exec π (pure a : Js C R E Unit α) := by
  intro w outcome w' h
  rw [(leads_pure.1 h).2]

theorem leaves_call {c : C} (hc : ∀ w outcome w', exec w c outcome w' → π w' = π w) :
    Leaves exec π (call c : Js C R E Unit (R c)) := by
  intro w outcome w' h
  exact hc w outcome w' (leads_call.1 h)

theorem leaves_bind {m : Js C R E Unit α} {f : α → Js C R E Unit β} (hm : Leaves exec π m)
    (hf : ∀ a, Leaves exec π (f a)) : Leaves exec π (m >>= f) := by
  intro w outcome w' h
  rcases leads_bind.1 h with ⟨e, hfirst, _⟩ | ⟨a, mid, hfirst, hrest⟩
  · exact hm w _ w' hfirst
  · exact (hf a mid _ w' hrest).trans (hm w _ mid hfirst)

end Leaves

end Js

/-! ## Programs that run alone in a pool -/

section Pools

variable {W C α : Type} {R : C → Type} {M : Machine W C R} {startable : Prog C R Unit → Prop}

theorem setThread_setThread (w : W) (threads : Nat → Option (Prog C R Unit)) (i : Nat)
    (p q : Option (Prog C R Unit)) :
    Pool.setThread ⟨w, Pool.setThread ⟨w, threads⟩ i p⟩ i q = Pool.setThread ⟨w, threads⟩ i q := by
  funext j
  unfold Pool.setThread
  by_cases hj : j = i
  · simp [hj]
  · simp [hj]

/-- A thread that nothing disturbs runs to its end. -/
theorem run_of_leads {i : Nat} {p : Prog C R Unit} {w w' : W} (h : p.Leads (M.exec i) w () w')
    (threads : Nat → Option (Prog C R Unit)) :
    ∃ ls, Run (PoolStep M startable) ⟨w, Pool.setThread ⟨w, threads⟩ i (some p)⟩ ls
      ⟨w', Pool.setThread ⟨w, threads⟩ i (some (.ret ()))⟩ := by
  induction p generalizing w threads with
  | ret a =>
    obtain ⟨_, rfl⟩ := h
    exact ⟨[], Run.nil _⟩
  | call c next ih =>
    obtain ⟨r, mid, hexec, hrest⟩ := h
    obtain ⟨ls, hrun⟩ := ih r hrest threads
    have hthread : Pool.setThread ⟨w, threads⟩ i (some (.call c next)) i = some (.call c next) := by
      simp [Pool.setThread]
    have hstep : PoolStep M startable
        ⟨w, Pool.setThread ⟨w, threads⟩ i (some (.call c next))⟩ (.run i c r) _ :=
      PoolStep.run _ i c next r mid hthread hexec
    rw [setThread_setThread] at hstep
    exact ⟨_, Run.cons hstep hrun⟩

end Pools

end executions
