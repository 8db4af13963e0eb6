-- The history of a program: its calls with their answers, whatever these were.
-- A law of histories says which call may follow one; a program that keeps it
-- keeps it with every script of answers.
import TiktokOutreach.Lib.Executions

namespace executions

/-- Calls with their answers, in their order. -/
abbrev History (C : Type) (R : C → Type) := List ((c : C) × R c)

/-- The protocol whose roles are the histories. -/
def lawOf {C : Type} {R : C → Type} (ok : History C R → C → Prop) :
    Protocol C R (History C R) where
  ok := ok
  next h c r := h ++ [⟨c, r⟩]

/-- Every call was one that might follow those before it. -/
def Permitted {C : Type} {R : C → Type} (ok : History C R → C → Prop) (h : History C R) : Prop :=
  ∀ before e after, h = before ++ e :: after → ok before e.1

namespace Prog

variable {C : Type} {R : C → Type} {α : Type}

/-- After these answers the program has the rest `q`. -/
def After : Prog C R α → History C R → Prog C R α → Prop
  | p, [], q => q = p
  | ret _, _ :: _, _ => False
  | call c next, e :: h, q => ∃ r, e = ⟨c, r⟩ ∧ (next r).After h q

theorem after_nil {p q : Prog C R α} : p.After [] q ↔ q = p := by
  cases p <;> exact Iff.rfl

theorem after_snoc {p : Prog C R α} {h : History C R} {c : C} {next : R c → Prog C R α}
    (hp : p.After h (call c next)) (r : R c) : p.After (h ++ [⟨c, r⟩]) (next r) := by
  induction h generalizing p with
  | nil =>
    obtain rfl := after_nil.1 hp
    exact ⟨r, rfl, after_nil.2 rfl⟩
  | cons e h ih =>
    cases p with
    | ret a => exact hp.elim
    | call c' next' =>
      obtain ⟨r', rfl, hrest⟩ := hp
      exact ⟨r', rfl, ih hrest⟩

/-- A program that keeps a law has kept it after any answers, and its rest goes on so. -/
theorem conforms_after {ok : History C R → C → Prop} {Q : α → History C R → Prop}
    {p q : Prog C R α} {before h : History C R} (hp : p.Conforms (lawOf ok) before Q)
    (hafter : p.After h q) : q.Conforms (lawOf ok) (before ++ h) Q ∧
      ∀ first e rest, h = first ++ e :: rest → ok (before ++ first) e.1 := by
  induction h generalizing p before with
  | nil =>
    obtain rfl := after_nil.1 hafter
    rw [List.append_nil]
    refine ⟨hp, ?_⟩
    intro first e rest hnil
    simp at hnil
  | cons e h ih =>
    cases p with
    | ret a => exact hafter.elim
    | call c next =>
      obtain ⟨r, rfl, hrest⟩ := hafter
      obtain ⟨hq, hok⟩ := ih (hp.2 r) hrest
      simp only [lawOf, List.append_assoc, List.singleton_append] at hq hok
      refine ⟨hq, ?_⟩
      intro first e rest heq
      cases first with
      | nil =>
        obtain ⟨rfl, rfl⟩ := List.cons.inj heq
        rw [List.append_nil]
        exact hp.1
      | cons e' first =>
        obtain ⟨rfl, hh⟩ := List.cons.inj heq
        simpa using hok first e rest hh

theorem permitted_of_conforms {ok : History C R → C → Prop} {Q : α → History C R → Prop}
    {p q : Prog C R α} {h : History C R} (hp : p.Conforms (lawOf ok) [] Q)
    (hafter : p.After h q) : q.Conforms (lawOf ok) h Q ∧ Permitted ok h := by
  obtain ⟨hq, hok⟩ := conforms_after hp hafter
  rw [List.nil_append] at hq
  exact ⟨hq, fun before e after heq => by simpa using hok before e after heq⟩

end Prog

/-! ## Programs that throw, with local variables -/

namespace Js

variable {C : Type} {R : C → Type} {E L α β : Type}
  {ok : History C (fun c => Except E (R c)) → C → Prop}

/-- Where the local variables and the history meet `pre`, the program keeps the law, and its
outcome, its variables and its history meet `Q`. -/
def Keeps (ok : History C (fun c => Except E (R c)) → C → Prop)
    (pre : L → History C (fun c => Except E (R c)) → Prop) (m : Js C R E L α)
    (Q : Except E α → L → History C (fun c => Except E (R c)) → Prop) : Prop :=
  ∀ l h, pre l h → (m l).Conforms (lawOf ok) h fun out h' => Q out.1 out.2 h'

variable {pre pre' : L → History C (fun c => Except E (R c)) → Prop}
  {Q Q' : Except E α → L → History C (fun c => Except E (R c)) → Prop}

theorem keeps_pure {a : α} (hQ : ∀ l h, pre l h → Q (.ok a) l h) :
    Keeps ok pre (pure a : Js C R E L α) Q :=
  hQ

theorem keeps_throw {e : E} (hQ : ∀ l h, pre l h → Q (.error e) l h) :
    Keeps ok pre (throw e : Js C R E L α) Q :=
  hQ

theorem keeps_mono {m : Js C R E L α} (hm : Keeps ok pre' m Q')
    (hpre : ∀ l h, pre l h → pre' l h) (hQ : ∀ out l h, Q' out l h → Q out l h) :
    Keeps ok pre m Q := by
  intro l h hlh
  exact Prog.conforms_mono (hm l h (hpre l h hlh)) fun out h' hout => hQ out.1 out.2 h' hout

theorem keeps_call {c : C} {Q : Except E (R c) → L → History C (fun c => Except E (R c)) → Prop}
    (hok : ∀ l h, pre l h → ok h c) (hQ : ∀ l h r, pre l h → Q r l (h ++ [⟨c, r⟩])) :
    Keeps ok pre (call c : Js C R E L (R c)) Q := by
  intro l h hlh
  exact ⟨hok l h hlh, fun r => hQ l h r hlh⟩

theorem keeps_bind {Q : Except E β → L → History C (fun c => Except E (R c)) → Prop}
    {M : Except E α → L → History C (fun c => Except E (R c)) → Prop} {m : Js C R E L α}
    {f : α → Js C R E L β} (hm : Keeps ok pre m M)
    (hf : ∀ a, Keeps ok (fun l h => M (.ok a) l h) (f a) Q)
    (hX : ∀ e l h, M (.error e) l h → Q (.error e) l h) : Keeps ok pre (m >>= f) Q := by
  intro l h hlh
  apply Prog.conforms_bind
  apply Prog.conforms_mono (hm l h hlh)
  rintro ⟨out, l'⟩ h' hout
  cases out with
  | ok a => exact hf a l' h' hout
  | error e => exact hX e l' h' hout

theorem keeps_tryCatch {M : Except E α → L → History C (fun c => Except E (R c)) → Prop}
    {m : Js C R E L α} {handler : E → Js C R E L α} (hm : Keeps ok pre m M)
    (hh : ∀ e, Keeps ok (fun l h => M (.error e) l h) (handler e) Q)
    (hQ : ∀ a l h, M (.ok a) l h → Q (.ok a) l h) : Keeps ok pre (tryCatch m handler) Q := by
  intro l h hlh
  apply Prog.conforms_bind
  apply Prog.conforms_mono (hm l h hlh)
  rintro ⟨out, l'⟩ h' hout
  cases out with
  | ok a => exact hQ a l' h' hout
  | error e => exact hh e l' h' hout

/-- The `finally` block runs after every outcome. -/
theorem keeps_tryFinally {M : Except E α → L → History C (fun c => Except E (R c)) → Prop}
    {m : Js C R E L α} {fin : Js C R E L Unit} (hm : Keeps ok pre m M)
    (hfin : ∀ out, Keeps ok (fun l h => M out l h) fin fun done l h => match done with
      | .ok () => Q out l h
      | .error e => Q (.error e) l h) : Keeps ok pre (tryFinally m fin) Q := by
  intro l h hlh
  apply Prog.conforms_bind
  apply Prog.conforms_mono (hm l h hlh)
  rintro ⟨out, l'⟩ h' hout
  apply Prog.conforms_bind
  apply Prog.conforms_mono (hfin out l' h' hout)
  rintro ⟨done, l''⟩ h'' hdone
  cases done with
  | ok u => exact hdone
  | error e => exact hdone

theorem keeps_modifyLocals {f : L → L}
    {Q : Except E Unit → L → History C (fun c => Except E (R c)) → Prop}
    (hQ : ∀ l h, pre l h → Q (.ok ()) (f l) h) :
    Keeps ok pre (modifyLocals f : Js C R E L Unit) Q :=
  hQ

theorem conforms_of_keeps {m : Js C R E L α} {l : L} (hm : Keeps ok pre m Q) (hl : pre l [])
    {D : History C (fun c => Except E (R c)) → Prop} (hD : ∀ out l h, Q out l h → D h) :
    (m.thread l).Conforms (lawOf ok) [] fun _ h => D h := by
  apply Prog.conforms_bind
  apply Prog.conforms_mono (hm l [] hl)
  intro out h hout
  exact hD out.1 out.2 h hout

end Js

end executions
