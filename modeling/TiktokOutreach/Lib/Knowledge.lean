-- Threads that remember the answers of their calls. Each call stands on the
-- answers before it, and what an answer says of the world stays true as long as
-- no call of any thread makes it false. What the calls then keep of the world
-- holds in every run.
import TiktokOutreach.Lib.Executions

open runs executions

namespace knowledge

variable {W C E L : Type} {A : C → Type}

/-- A call with its answer. -/
abbrev Known (A : C → Type) : Type := (c : C) × A c

/-- The call was answered so. -/
def Answered (known : Set (Known A)) (c : C) (a : A c) : Prop := (⟨c, a⟩ : Known A) ∈ known

/-- A thread remembers what it was answered. -/
def remember (known : Set (Known A)) (c : C) : Except E (A c) → Set (Known A)
  | .ok a => insert ⟨c, a⟩ known
  | .error _ => known

/-- The calls that stand on what the thread knows. -/
def groundedIn (E : Type) (G : Set (Known A) → C → Prop) :
    Protocol C (fun c => Except E (A c)) (Set (Known A)) := ⟨G, remember⟩

/-! ## Programs -/

section Programs

variable {α β : Type} {G : Set (Known A) → C → Prop} {known : Set (Known A)}

/-- What a call stands on is known for good. -/
def Lasting (G : Set (Known A) → C → Prop) : Prop :=
  ∀ known known' c, known ⊆ known' → G known c → G known' c

/-- The calls of the program stand on these answers and those of its own calls. -/
def Grounded (G : Set (Known A) → C → Prop) (known : Set (Known A)) (m : Js C A E L α) : Prop :=
  Js.Triple (groundedIn E G) (fun r => known ⊆ r) m (fun _ r => known ⊆ r) (fun _ r => known ⊆ r)

theorem grounded_pure (a : α) : Grounded G known (pure a : Js C A E L α) :=
  Js.triple_pure (fun _ h => h)

theorem grounded_throw (e : E) : Grounded G known (Js.throw e : Js C A E L α) :=
  Js.triple_throw (fun _ h => h)

/-- The answer of a call is known to the rest of the program. -/
theorem grounded_call_bind {c : C} {f : A c → Js C A E L β} (hlasting : Lasting G)
    (hc : G known c) (hf : ∀ a, Grounded G (insert ⟨c, a⟩ known) (f a)) :
    Grounded G known (Js.call c >>= f) := by
  refine Js.triple_bind (M := fun a r => insert ⟨c, a⟩ known ⊆ r) (Js.triple_call ?_ ?_ ?_) ?_
  · exact fun r hr => hlasting known r c hr hc
  · exact fun r a hr => Set.insert_subset_insert hr
  · exact fun r e hr => hr
  · intro a
    refine Js.triple_conseq (hf a) (fun _ hr => hr) ?_ ?_
    · exact fun _ r hr => (Set.subset_insert _ _).trans hr
    · exact fun _ r hr => (Set.subset_insert _ _).trans hr

theorem grounded_call {c : C} (hlasting : Lasting G) (hc : G known c) :
    Grounded G known (Js.call c : Js C A E L (A c)) := by
  refine Js.triple_call ?_ ?_ ?_
  · exact fun r hr => hlasting known r c hr hc
  · exact fun r a hr => hr.trans (Set.subset_insert _ _)
  · exact fun r e hr => hr

theorem grounded_bind {m : Js C A E L α} {f : α → Js C A E L β} (hm : Grounded G known m)
    (hf : ∀ a, Grounded G known (f a)) : Grounded G known (m >>= f) :=
  Js.triple_bind hm hf

theorem grounded_tryCatch {m : Js C A E L α} {handler : E → Js C A E L α}
    (hm : Grounded G known m) (hh : ∀ e, Grounded G known (handler e)) :
    Grounded G known (Js.tryCatch m handler) :=
  Js.triple_tryCatch hm hh

theorem grounded_ite {p : Prop} [Decidable p] {m m' : Js C A E L α}
    (hm : p → Grounded G known m) (hm' : ¬ p → Grounded G known m') :
    Grounded G known (if p then m else m') := by
  by_cases h : p
  · rw [if_pos h]
    exact hm h
  · rw [if_neg h]
    exact hm' h

theorem conforms_of_grounded {m : Js C A E L α} {l : L} (h : Grounded G ∅ m) :
    (m.thread l).Conforms (groundedIn E G) ∅ (fun _ _ => True) :=
  Js.conforms_thread (Js.triple_conseq h (fun _ hr => hr) (fun _ _ _ => trivial)
    (fun _ _ _ => trivial)) (Set.empty_subset _)

end Programs

/-! ## What stays true -/

section Stable

variable (M : Machine W C (fun c => Except E (A c))) (G : Set (Known A) → C → Prop)
  (J : W → Prop) (Holds : W → (c : C) → A c → Prop)

/-- All that a thread knows holds in the world. -/
def Sound (Holds : W → (c : C) → A c → Prop) (w : W) (known : Set (Known A)) : Prop :=
  ∀ c a, Answered known c a → Holds w c a

/-- A thread that knows so much has made a call, in a world with `J`. -/
structure Act (known : Set (Known A)) (w : W) (c : C) (answer : Except E (A c)) (w' : W) : Prop
    where
  inv : J w
  sound : Sound Holds w known
  ground : G known c
  exec : ∃ i, M.exec i w c answer w'

/-- The calls keep the invariant `J` of the world, and what the answers say. -/
structure Stable : Prop where
  inv : ∀ known w c answer w', Act M G J Holds known w c answer w' → J w'
  learn : ∀ known w c a w', Act M G J Holds known w c (.ok a) w' → Holds w' c a
  retain : ∀ known w c answer w' c' a', Act M G J Holds known w c answer w' → Holds w c' a' →
    Holds w' c' a'

/-- The world changes by the answers of calls only. -/
structure Quiet : Prop where
  work : ∀ i w c w', ¬ M.work i w c w'
  crash : ∀ i w c, M.onCrash i c w = w

variable {M G J Holds}

theorem sound_empty (w : W) : Sound Holds w (∅ : Set (Known A)) :=
  fun _ _ h => absurd h (Set.notMem_empty _)

theorem sound_setRole {w : W} {roles : Nat → Set (Known A)} {i : Nat} {known : Set (Known A)}
    (h : ∀ j, Sound Holds w (roles j)) (hknown : Sound Holds w known) (j : Nat) :
    Sound Holds w (setRole roles i known j) := by
  by_cases hj : j = i
  · rw [hj, setRole_self]
    exact hknown
  · rw [setRole_of_ne _ _ hj]
    exact h j

theorem stable_poolInvariant (hM : Quiet M) (hS : Stable M G J Holds) :
    PoolInvariant M (groundedIn E G) ∅ ∅ (fun _ _ => True)
      (fun w roles => J w ∧ ∀ i, Sound Holds w (roles i)) where
  spawn w roles i h := ⟨h.1, sound_setRole h.2 (sound_empty w)⟩
  work w roles i c w' _ _ hwork _ := absurd hwork (hM.work i w c w')
  run w roles i c answer w' h hok hexec _ := by
    have hact : Act M G J Holds (roles i) w c answer w' := ⟨h.1, h.2 i, hok, i, hexec⟩
    have hretain : ∀ j, Sound Holds w' (roles j) :=
      fun j c' a' ha => hS.retain _ _ _ _ _ _ _ hact (h.2 j c' a' ha)
    refine ⟨hS.inv _ _ _ _ _ hact, sound_setRole hretain ?_⟩
    cases answer with
    | error e => exact hretain i
    | ok a =>
      intro c' a' ha
      rcases Set.mem_insert_iff.1 ha with hnew | hold
      · cases hnew
        exact hS.learn _ _ _ _ _ hact
      · exact hretain i c' a' hold
  ends w roles i h := ⟨h.1, sound_setRole h.2 (sound_empty w)⟩
  crash w roles i c h _ := by
    rw [hM.crash]
    exact ⟨h.1, sound_setRole h.2 (sound_empty w)⟩

/-- The threads of the pool know what holds, and go on with grounded programs. -/
def Informed (G : Set (Known A) → C → Prop) (J : W → Prop) (Holds : W → (c : C) → A c → Prop)
    (pool : Pool W C (fun c => Except E (A c))) : Prop :=
  ∃ roles, (J pool.world ∧ ∀ i, Sound Holds pool.world (roles i)) ∧
    Follows (groundedIn E G) pool roles

variable {startable : Prog C (fun c => Except E (A c)) Unit → Prop}
  {pool pool' : Pool W C (fun c => Except E (A c))} {ls : List (Label C (fun c => Except E (A c)))}

theorem run_informed (hM : Quiet M) (hS : Stable M G J Holds)
    (hstartable : ∀ p, startable p → p.Conforms (groundedIn E G) ∅ (fun _ _ => True))
    (hrun : Run (PoolStep M startable) pool ls pool') (h0 : Informed G J Holds pool) :
    Informed G J Holds pool' := by
  have hguarded : Run (Guarded (PoolStep M startable) (fun _ _ => True)) pool ls pool' :=
    hrun.mono (fun _ _ _ hstep => ⟨hstep, trivial⟩)
  exact pool_invariant (stable_poolInvariant hM hS) hstartable hguarded h0

theorem informed_of_none (hnone : ∀ i, pool.thread i = none) (h0 : J pool.world) :
    Informed G J Holds pool :=
  ⟨fun _ => ∅, ⟨h0, fun _ => sound_empty _⟩, fun i p hp => by rw [hnone i] at hp; cases hp⟩

/-- What the calls of grounded programs keep of the world holds in every run from a pool without
threads. -/
theorem run_stable (hM : Quiet M) (hS : Stable M G J Holds)
    (hstartable : ∀ p, startable p → p.Conforms (groundedIn E G) ∅ (fun _ _ => True))
    (hrun : Run (PoolStep M startable) pool ls pool') (hnone : ∀ i, pool.thread i = none)
    (h0 : J pool.world) : J pool'.world := by
  obtain ⟨_, ⟨hJ, _⟩, _⟩ := run_informed hM hS hstartable hrun (informed_of_none hnone h0)
  exact hJ

end Stable

/-! ## One invariant on another -/

section Further

variable (M : Machine W C (fun c => Except E (A c))) (G : Set (Known A) → C → Prop)
  (J J' : W → Prop) (Holds Holds' : W → (c : C) → A c → Prop)

/-- Both invariants, and all that both say of the answers. -/
abbrev ActBoth (known : Set (Known A)) (w : W) (c : C) (answer : Except E (A c)) (w' : W) : Prop :=
  Act M G (fun w => J w ∧ J' w) (fun w c a => Holds w c a ∧ Holds' w c a) known w c answer w'

/-- The calls keep a further invariant beside the first one. -/
structure Further : Prop where
  inv : ∀ known w c answer w', ActBoth M G J J' Holds Holds' known w c answer w' → J' w'
  learn : ∀ known w c a w', ActBoth M G J J' Holds Holds' known w c (.ok a) w' → Holds' w' c a
  retain : ∀ known w c answer w' c' a', ActBoth M G J J' Holds Holds' known w c answer w' →
    Holds' w c' a' → Holds' w' c' a'

variable {M G J J' Holds Holds'}

theorem act_first {known : Set (Known A)} {w w' : W} {c : C} {answer : Except E (A c)}
    (h : ActBoth M G J J' Holds Holds' known w c answer w') : Act M G J Holds known w c answer w' :=
  ⟨h.inv.1, fun c a ha => (h.sound c a ha).1, h.ground, h.exec⟩

theorem Stable.further (hS : Stable M G J Holds) (hF : Further M G J J' Holds Holds') :
    Stable M G (fun w => J w ∧ J' w) (fun w c a => Holds w c a ∧ Holds' w c a) where
  inv _ _ _ _ _ hact := ⟨hS.inv _ _ _ _ _ (act_first hact), hF.inv _ _ _ _ _ hact⟩
  learn _ _ _ _ _ hact := ⟨hS.learn _ _ _ _ _ (act_first hact), hF.learn _ _ _ _ _ hact⟩
  retain _ _ _ _ _ _ _ hact h :=
    ⟨hS.retain _ _ _ _ _ _ _ (act_first hact) h.1, hF.retain _ _ _ _ _ _ _ hact h.2⟩

variable {startable : Prog C (fun c => Except E (A c)) Unit → Prop}
  {pool pool' : Pool W C (fun c => Except E (A c))} {ls : List (Label C (fun c => Except E (A c)))}

/-- What each call does to the world, a run of calls does. -/
theorem run_moves (hM : Quiet M) (hS : Stable M G J Holds)
    (hstartable : ∀ p, startable p → p.Conforms (groundedIn E G) ∅ (fun _ _ => True))
    {R : W → W → Prop} (hrefl : ∀ w, R w w) (htrans : ∀ {a b c}, R a b → R b c → R a c)
    (hact : ∀ known w c answer w', Act M G J Holds known w c answer w' → R w w')
    (hrun : Run (PoolStep M startable) pool ls pool') (h0 : Informed G J Holds pool) :
    R pool.world pool'.world := by
  have hfurther : Further M G J (R pool.world) Holds (fun _ _ _ => True) :=
    ⟨fun _ _ _ _ _ h => htrans h.inv.2 (hact _ _ _ _ _ (act_first h)), fun _ _ _ _ _ _ => trivial,
      fun _ _ _ _ _ _ _ _ _ => trivial⟩
  obtain ⟨roles, ⟨hJ, hsound⟩, hfollows⟩ := h0
  obtain ⟨_, ⟨⟨_, hR⟩, _⟩, _⟩ := run_informed hM (hS.further hfurther) hstartable hrun
    ⟨roles, ⟨⟨hJ, hrefl _⟩, fun i c a ha => ⟨hsound i c a ha, trivial⟩⟩, hfollows⟩
  exact hR

end Further

end knowledge
