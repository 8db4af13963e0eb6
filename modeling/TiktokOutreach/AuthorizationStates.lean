-- A state of an authorization is used once at most, and only by a call that
-- shows it in time: the call found the row, read the clock after that, and its
-- write consumed the row, so that no other write can.
import TiktokOutreach.TiktokPlays

open runs executions tables json tiktok_outreach.tiktok_connection tiktok_outreach.oauth_handoff
  tiktok_outreach.tiktok_service tiktok_outreach.tiktok_system

namespace tiktok_outreach.authorization_states

/-! ## What a call does to the states -/

/-- The row is the one that was there, perhaps registered or consumed since. -/
structure Later (row row' : AuthorizationState) : Prop where
  stateHash : row'.stateHash = row.stateHash
  expiresAt : row'.expiresAt = row.expiresAt
  browserHash : row'.browserHash = row.browserHash
  operationId : row'.operationId = row.operationId
  routerRegistered : row.routerRegistered = true → row'.routerRegistered = true
  consumedAt : row.consumedAt ≠ none → row'.consumedAt ≠ none

theorem later_refl (row : AuthorizationState) : Later row row :=
  ⟨rfl, rfl, rfl, rfl, id, id⟩

theorem later_trans {row row' row'' : AuthorizationState} (h : Later row row')
    (h' : Later row' row'') : Later row row'' where
  stateHash := h'.stateHash.trans h.stateHash
  expiresAt := h'.expiresAt.trans h.expiresAt
  browserHash := h'.browserHash.trans h.browserHash
  operationId := h'.operationId.trans h.operationId
  routerRegistered := fun hrow => h'.routerRegistered (h.routerRegistered hrow)
  consumedAt := fun hrow => h'.consumedAt (h.consumedAt hrow)

theorem later_consumed (row : AuthorizationState) (now : Int) :
    Later row { row with consumedAt := some now } :=
  ⟨rfl, rfl, rfl, rfl, id, by simp⟩

theorem later_registered (row : AuthorizationState) :
    Later row { row with routerRegistered := true } :=
  ⟨rfl, rfl, rfl, rfl, by simp, id⟩

/-- What belonged to a browser still does. -/
theorem belongs_later {row row' : AuthorizationState} {binding : Binding} (h : Later row row')
    (hrow : belongs row binding = true) : belongs row' binding = true := by
  unfold belongs at hrow ⊢
  rw [h.browserHash, h.operationId]
  have hregistered := h.routerRegistered
  simp only [Bool.and_eq_true, Bool.or_eq_true] at hrow ⊢
  refine ⟨hrow.1, ?_⟩
  rcases hrow.2 with hprivate | hregister
  · exact Or.inl hprivate
  · exact Or.inr ⟨hregistered hregister.1, hregister.2⟩

theorem shows_later {env : Environment} {request : Request} {stateHash : Text}
    {row row' : AuthorizationState} (h : Later row row')
    (hrow : Shows env request stateHash row) : Shows env request stateHash row' :=
  ⟨hrow.1, belongs_later h hrow.2⟩

/-- The calls of a start of an authorization that write states. -/
def initiates : Call → Bool
  | .createState _ | .markRegistered _ | .withdrawState _ _ => true
  | _ => false

@[simp] theorem states_note (w : World) (event : Event) : (w.note event).states = w.states := rfl

@[simp] theorem states_compareAndSet (w : World) (shopId : Nat) (condition : Connection → Bool)
    (update : Connection → Connection) (event : Event) :
    (w.compareAndSet shopId condition update event).states = w.states := by
  unfold World.compareAndSet
  split
  · rfl
  · split <;> rfl

/-- Besides the calls of a start, only a consumption changes a state, and only a usable one. -/
theorem state_of_performs {w w' : World} {c : Call} {a : c.Result} (h : Performs w c a w')
    {id : Nat} {row : AuthorizationState} (hrow : w.states.get id = some row) :
    w'.states.get id = some row ∨
      ∃ row', w'.states.get id = some row' ∧ Later row row' ∧ (initiates c = true ∨
        ∃ request now, c = .consumeState id request now ∧ World.usable now row = true) := by
  cases h with
  | createState row' id' hid hunique =>
    refine Or.inl ?_
    have hne : id ≠ id' := by
      rintro rfl
      rw [hid] at hrow
      cases hrow
    simpa [hne] using hrow
  | markRegistered id' =>
    by_cases hid : id = id'
    · subst hid
      refine Or.inr ⟨{ row with routerRegistered := true }, ?_, later_registered row, Or.inl rfl⟩
      simp [hrow]
    · refine Or.inl ?_
      simp [hrow, hid]
  | withdrawState id' now =>
    by_cases hid : id = id' ∧ row.consumedAt = none
    · obtain ⟨rfl, hnone⟩ := hid
      refine Or.inr ⟨{ row with consumedAt := some now }, ?_, later_consumed row now, Or.inl rfl⟩
      simp [World.withdrawState, hrow, hnone]
    · refine Or.inl ?_
      simp only [World.withdrawState, Table.get_updateMany, hrow, Option.map_some]
      rw [if_neg (by simpa using hid)]
  | consumeState id' request now =>
    by_cases hid : id = id' ∧ World.usable now row = true
    · obtain ⟨rfl, husable⟩ := hid
      refine Or.inr ⟨{ row with consumedAt := some now }, ?_, later_consumed row now,
        Or.inr ⟨request, now, rfl, husable⟩⟩
      simp [World.consumeState, hrow, husable]
    · refine Or.inl ?_
      simp only [World.consumeState, Table.get_updateMany, hrow, Option.map_some]
      rw [if_neg (by simpa using hid)]
  | authorizeConnection shopId data => exact Or.inl hrow
  | failPreparation | claimRefresh | markUncertain | failRefresh | persistRotation =>
    refine Or.inl ?_
    simpa using hrow
  | _ => exact Or.inl hrow

theorem state_of_exec {i : Nat} {w w' : World} {c : Call} {res : Except Failure c.Result}
    (h : Exec i w c res w') {id : Nat} {row : AuthorizationState}
    (hrow : w.states.get id = some row) :
    w'.states.get id = some row ∨
      ∃ row', w'.states.get id = some row' ∧ Later row row' ∧ (initiates c = true ∨
        ∃ request now, c = .consumeState id request now ∧ World.usable now row = true) := by
  rcases h.effect with ⟨a, w1, clock, hperforms, _, rfl, _⟩ | ⟨clock, _, rfl, _⟩
  · exact state_of_performs hperforms hrow
  · exact Or.inl hrow

theorem later_of_exec {i : Nat} {w w' : World} {c : Call} {res : Except Failure c.Result}
    (h : Exec i w c res w') {id : Nat} {row : AuthorizationState}
    (hrow : w.states.get id = some row) : ∃ row', w'.states.get id = some row' ∧ Later row row' := by
  rcases state_of_exec h hrow with hsame | ⟨row', hrow', hlater, _⟩
  · exact ⟨row, hsame, later_refl row⟩
  · exact ⟨row', hrow', hlater⟩

theorem consumed_of_performs {w w' : World} {id : Nat} {request : Request} {now : Int} {a : Nat}
    (h : Performs w (.consumeState id request now) a w') :
    w' = w.consumeState id now ∧
      a = if (w.states.get id).any (World.usable now) then 1 else 0 := by
  cases h with
  | consumeState => exact ⟨rfl, rfl⟩
  | other _ _ h => cases h

/-- The write that consumed a state found it usable. -/
theorem consumed_of_exec {i : Nat} {w w' : World} {id : Nat} {request : Request} {now : Int}
    (h : Exec i w (.consumeState id request now) (.ok (1 : Nat)) w') :
    ∃ row row', w.states.get id = some row ∧ World.usable now row = true ∧
      w'.states.get id = some row' ∧ row'.consumedAt ≠ none := by
  rcases h.effect with ⟨a, w1, clock, hperforms, _, hw', hres⟩ | ⟨clock, _, _, hres⟩
  · obtain ⟨hw1, ha⟩ := consumed_of_performs hperforms
    have hcount : (1 : Nat) = a := hres 1 rfl
    have hany : (w.states.get id).any (World.usable now) = true := by
      by_contra hnot
      rw [if_neg hnot] at ha
      omega
    obtain ⟨row, hrow, husable⟩ := (Option.any_eq_true _ _).1 hany
    refine ⟨row, { row with consumedAt := some now }, hrow, husable, ?_, by simp⟩
    rw [hw', hw1]
    simp [World.consumeState, hrow, husable]
  · exact absurd rfl (hres (1 : Nat))

theorem found_of_performs {w w' : World} {stateHash : Text} {a : Option (Nat × AuthorizationState)}
    (h : Performs w (.findState stateHash) a w') : w' = w ∧ a = w.findState stateHash := by
  cases h with
  | findState => exact ⟨rfl, rfl⟩
  | other _ _ h => cases h

theorem found_of_exec {i : Nat} {w w' : World} {stateHash : Text} {id : Nat}
    {stored : AuthorizationState}
    (h : Exec i w (.findState stateHash) (.ok (some (id, stored))) w') :
    w'.states.get id = some stored ∧ stored.stateHash = stateHash := by
  rcases h.effect with ⟨a, w1, clock, hperforms, _, hw', hres⟩ | ⟨clock, _, _, hres⟩
  · obtain ⟨hw1, ha⟩ := found_of_performs hperforms
    have hhead : w.findState stateHash = some (id, stored) := by
      rw [← ha]
      exact (hres _ rfl).symm
    rw [hw', hw1]
    simpa [Table.mem_findMany] using List.mem_of_mem_head? hhead
  · exact absurd rfl (hres (some (id, stored)))

/-! ## How a thread got to a phase -/

theorem phase_of_found {r : Role} {c : Call} {res : Except Failure c.Result} {i : Nat}
    {stateHash : Text} {id : Nat} {stored : AuthorizationState}
    (h : (nextRole r c res).state = .found stateHash id stored) :
    r.state = .found stateHash id stored ∨
      (Label.run i c res : SystemLabel) = .run i (.findState stateHash) (.ok (some (id, stored))) := by
  cases c with
  | now =>
    cases res with
    | error e => exact Or.inl h
    | ok now => cases hr : r.state <;> simp [nextRole, afterNow, hr] at h
  | findState stateHash' =>
    rcases res with e | _ | ⟨id', stored'⟩
    · exact Or.inl h
    · exact Or.inl h
    · simp only [nextRole, StatePhase.found.injEq] at h
      obtain ⟨rfl, rfl, rfl⟩ := h
      exact Or.inr rfl
  | consumeState id' request now =>
    cases res with
    | error e => cases h
    | ok count => by_cases hcount : count = 1 <;> simp [nextRole, hcount] at h
  | exchange id' request code => cases res <;> cases h
  | _ => cases res <;> exact Or.inl h

theorem phase_of_read {r : Role} {c : Call} {res : Except Failure c.Result} {i : Nat}
    {stateHash : Text} {id : Nat} {stored : AuthorizationState} {now : Int}
    (h : (nextRole r c res).state = .read stateHash id stored now) :
    r.state = .read stateHash id stored now ∨
      (Label.run i c res : SystemLabel) = .run i .now (.ok now) ∧
        (r.state = .found stateHash id stored ∨ ∃ n, r.state = .read stateHash id stored n) := by
  cases c with
  | now =>
    cases res with
    | error e => exact Or.inl h
    | ok now' =>
      cases hr : r.state <;> simp [nextRole, afterNow, hr] at h ⊢ <;> simp [h]
  | findState stateHash' =>
    rcases res with e | _ | ⟨id', stored'⟩
    · exact Or.inl h
    · exact Or.inl h
    · cases h
  | consumeState id' request now' =>
    cases res with
    | error e => cases h
    | ok count => by_cases hcount : count = 1 <;> simp [nextRole, hcount] at h
  | exchange id' request code => cases res <;> cases h
  | _ => cases res <;> exact Or.inl h

theorem phase_of_consumed {r : Role} {c : Call} {res : Except Failure c.Result} {i : Nat}
    {id : Nat} {request : Request} (h : (nextRole r c res).state = .consumed id request) :
    (r.state = .consumed id request ∧ ∀ id' request' code, c ≠ .exchange id' request' code) ∨
      ∃ now, (Label.run i c res : SystemLabel) =
        .run i (.consumeState id request now) (.ok (1 : Nat)) := by
  cases c with
  | now =>
    cases res with
    | error e => exact Or.inl ⟨h, by simp⟩
    | ok now' =>
      refine Or.inl ⟨?_, by simp⟩
      cases hr : r.state <;> simp_all [nextRole, afterNow]
  | findState stateHash' =>
    rcases res with e | _ | ⟨id', stored'⟩
    · exact Or.inl ⟨h, by simp⟩
    · exact Or.inl ⟨h, by simp⟩
    · cases h
  | consumeState id' request' now' =>
    cases res with
    | error e => cases h
    | ok count =>
      by_cases hcount : count = 1
      · simp only [nextRole, hcount, if_true, StatePhase.consumed.injEq] at h
        obtain ⟨rfl, rfl⟩ := h
        refine Or.inr ⟨now', ?_⟩
        rw [hcount]
      · simp [nextRole, hcount] at h
  | exchange id' request' code => cases res <;> cases h
  | _ => cases res <;> exact Or.inl ⟨h, by simp⟩

section After

variable {env : Environment} {ls : List SystemLabel} {l : SystemLabel} {j : Nat}

theorem found_after {stateHash : Text} {id : Nat} {stored : AuthorizationState}
    (h : (rolesAfter env (ls ++ [l]) j).state = .found stateHash id stored) :
    (rolesAfter env ls j).state = .found stateHash id stored ∨
      l = .run j (.findState stateHash) (.ok (some (id, stored))) := by
  rcases after_cases env ls l j with ⟨hsame, _, _⟩ | ⟨hstart, _⟩ | ⟨c, res, rfl, hnext⟩
  · rw [hsame] at h
    exact Or.inl h
  · rw [hstart] at h
    cases h
  · rw [hnext] at h
    exact phase_of_found h

theorem read_after {stateHash : Text} {id : Nat} {stored : AuthorizationState} {now : Int}
    (h : (rolesAfter env (ls ++ [l]) j).state = .read stateHash id stored now) :
    ((rolesAfter env ls j).state = .read stateHash id stored now ∧ l ≠ .spawn j) ∨
      l = .run j .now (.ok now) ∧ ((rolesAfter env ls j).state = .found stateHash id stored ∨
        ∃ n, (rolesAfter env ls j).state = .read stateHash id stored n) := by
  rcases after_cases env ls l j with ⟨hsame, hspawn, _⟩ | ⟨hstart, _⟩ | ⟨c, res, rfl, hnext⟩
  · rw [hsame] at h
    exact Or.inl ⟨h, hspawn⟩
  · rw [hstart] at h
    cases h
  · rw [hnext] at h
    rcases phase_of_read h with hread | hnow
    · exact Or.inl ⟨hread, by simp⟩
    · exact Or.inr hnow

theorem consumed_after {id : Nat} {request : Request}
    (h : (rolesAfter env (ls ++ [l]) j).state = .consumed id request) :
    ((rolesAfter env ls j).state = .consumed id request ∧ l ≠ .spawn j ∧
      ∀ id' request' code res, l ≠ .run j (.exchange id' request' code) res) ∨
      ∃ now, l = .run j (.consumeState id request now) (.ok (1 : Nat)) := by
  rcases after_cases env ls l j with ⟨hsame, hspawn, hrun⟩ | ⟨hstart, _⟩ | ⟨c, res, rfl, hnext⟩
  · rw [hsame] at h
    exact Or.inl ⟨h, hspawn, fun _ _ _ _ => hrun _ _⟩
  · rw [hstart] at h
    cases h
  · rw [hnext] at h
    rcases phase_of_consumed h with ⟨hconsumed, hc⟩ | hnow
    · refine Or.inl ⟨hconsumed, by simp, ?_⟩
      intro id' request' code res' hl
      cases hl
      exact hc _ _ _ rfl
    · exact Or.inr hnow

end After

/-! ## The invariant -/

/-- The thread read this clock, and has been the same call since. -/
abbrev ReadBefore (ls : List SystemLabel) (i : Nat) (now : Int) : Prop :=
  Since ls i (.run i .now (.ok now))

def exchangeOf (id : Nat) : SystemLabel → Bool
  | .run _ (.exchange id' _ _) _ => id' = id
  | _ => false

/-- How often a code was exchanged for a state. -/
def exchanges (id : Nat) (ls : List SystemLabel) : Nat := ls.countP (exchangeOf id)

/-- The row is stored under the hash, with what was read of it. -/
def Stored (w : World) (stateHash : Text) (id : Nat) (stored : AuthorizationState) : Prop :=
  ∃ row, w.states.get id = some row ∧ row.stateHash = stateHash ∧ Later stored row

/-- A call that shows the state, and read the clock before the state expired. -/
def Entitled (env : Environment) (ls : List SystemLabel) (i : Nat) (request : Request)
    (row : AuthorizationState) : Prop :=
  Shows env request row.stateHash row ∧ ∃ now, ReadBefore ls i now ∧ now < row.expiresAt

structure Inv (env : Environment) (ls : List SystemLabel) (w : World) : Prop where
  found : ∀ i stateHash id stored, (rolesAfter env ls i).state = .found stateHash id stored →
    Stored w stateHash id stored
  read : ∀ i stateHash id stored now,
    (rolesAfter env ls i).state = .read stateHash id stored now →
    Stored w stateHash id stored ∧ ReadBefore ls i now
  consumed : ∀ i id request, (rolesAfter env ls i).state = .consumed id request →
    ∃ row, w.states.get id = some row ∧ row.consumedAt ≠ none ∧ Entitled env ls i request row
  /-- A state is consumed by one call. -/
  single : ∀ i j id request request', (rolesAfter env ls i).state = .consumed id request →
    (rolesAfter env ls j).state = .consumed id request' → i = j
  fresh : ∀ i id request, (rolesAfter env ls i).state = .consumed id request → exchanges id ls = 0
  once : ∀ id, exchanges id ls ≤ 1
  spent : ∀ id, exchanges id ls ≠ 0 → ∃ row, w.states.get id = some row ∧ row.consumedAt ≠ none

theorem inv_nil (env : Environment) (w : World) : Inv env [] w where
  found := by simp [rolesAfter, staged, start]
  read := by simp [rolesAfter, staged, start]
  consumed := by simp [rolesAfter, staged, start]
  single := by simp [rolesAfter, staged, start]
  fresh := by simp [rolesAfter, staged, start]
  once := by simp [exchanges]
  spent := by simp [exchanges]

theorem stored_later {w w' : World}
    (hlater : ∀ id row, w.states.get id = some row →
      ∃ row', w'.states.get id = some row' ∧ Later row row')
    {stateHash : Text} {id : Nat} {stored : AuthorizationState}
    (h : Stored w stateHash id stored) : Stored w' stateHash id stored := by
  obtain ⟨row, hrow, hhash, hrowLater⟩ := h
  obtain ⟨row', hrow', hlater'⟩ := hlater id row hrow
  exact ⟨row', hrow', hlater'.stateHash.trans hhash, later_trans hrowLater hlater'⟩

theorem entitled_later {env : Environment} {ls : List SystemLabel} {l : SystemLabel} {i : Nat}
    {request : Request} {row row' : AuthorizationState} (h : Entitled env ls i request row)
    (hlater : Later row row') (hl : l ≠ .spawn i) : Entitled env (ls ++ [l]) i request row' := by
  obtain ⟨hshows, now, hread, hnow⟩ := h
  refine ⟨?_, now, since_snoc hread hl, ?_⟩
  · rw [hlater.stateHash]
    exact shows_later hlater hshows
  · rw [hlater.expiresAt]
    exact hnow

theorem exchanges_snoc (id : Nat) (ls : List SystemLabel) (l : SystemLabel) :
    exchanges id (ls ++ [l]) = exchanges id ls + if exchangeOf id l then 1 else 0 := by
  simp [exchanges, List.countP_append, List.countP_cons]

/-- What a step does that the invariant is about. -/
structure Moves (env : Environment) (roles : Nat → Role) (w : World) (l : SystemLabel)
    (w' : World) : Prop where
  later : ∀ id row, w.states.get id = some row →
    ∃ row', w'.states.get id = some row' ∧ Later row row'
  finds : ∀ j stateHash id stored, l = .run j (.findState stateHash) (.ok (some (id, stored))) →
    Stored w' stateHash id stored
  consumes : ∀ j id request now, l = .run j (.consumeState id request now) (.ok (1 : Nat)) →
    (∃ stateHash stored, (roles j).state = .read stateHash id stored now ∧
      Shows env request stateHash stored) ∧
    ∃ row row', w.states.get id = some row ∧ World.usable now row = true ∧
      w'.states.get id = some row' ∧ row'.consumedAt ≠ none
  exchanges : ∀ j id request code res, l = .run j (.exchange id request code) res →
    (roles j).state = .consumed id request

theorem moves_of_quiet (env : Environment) (roles : Nat → Role) (w : World) {l : SystemLabel}
    (h : quiet l = true) : Moves env roles w l w where
  later id row hrow := ⟨row, hrow, later_refl row⟩
  finds := by
    rintro j stateHash id stored rfl
    cases h
  consumes := by
    rintro j id request now rfl
    cases h
  exchanges := by
    rintro j id request code res rfl
    cases h

theorem moves_of_exec {env : Environment} {roles : Nat → Role} {w w' : World} {i : Nat} {c : Call}
    {res : Except Failure c.Result} (hok : okCall env (roles i) c) (h : Exec i w c res w') :
    Moves env roles w (.run i c res) w' where
  later id row hrow := later_of_exec h hrow
  finds := by
    intro j stateHash id stored hl
    cases hl
    obtain ⟨hrow, hhash⟩ := found_of_exec h
    exact ⟨stored, hrow, hhash, later_refl stored⟩
  consumes := by
    intro j id request now hl
    cases hl
    exact ⟨hok, consumed_of_exec h⟩
  exchanges := by
    intro j id request code res hl
    cases hl
    exact hok

section Step

variable {env : Environment} {ls : List SystemLabel} {w w' : World} {l : SystemLabel}

/-- The call that consumes a state is entitled to it, and nobody consumed it before. -/
theorem consumes_entitled (hinv : Inv env ls w) (h : Moves env (rolesAfter env ls) w l w')
    {j id : Nat} {request : Request} {now : Int}
    (hl : l = .run j (.consumeState id request now) (.ok (1 : Nat))) :
    (∃ row', w'.states.get id = some row' ∧ row'.consumedAt ≠ none ∧
      Entitled env (ls ++ [l]) j request row') ∧
    ∃ row, w.states.get id = some row ∧ row.consumedAt = none := by
  obtain ⟨⟨stateHash, stored, hrole, hshows⟩, row, row', hrow, husable, hrow', hconsumed⟩ :=
    h.consumes j id request now hl
  obtain ⟨⟨row1, hrow1, hhash, hlater⟩, hread⟩ := hinv.read _ _ _ _ _ hrole
  obtain ⟨row2, hrow2, hlater'⟩ := h.later id row hrow
  have heq : row1 = row := by
    rw [hrow] at hrow1
    exact (Option.some.inj hrow1).symm
  have heq' : row2 = row' := by
    rw [hrow'] at hrow2
    exact (Option.some.inj hrow2).symm
  subst heq heq'
  simp only [World.usable, Bool.and_eq_true, Option.isNone_iff_eq_none, decide_eq_true_eq]
    at husable
  have hentitled : Entitled env ls j request row1 := by
    refine ⟨?_, now, hread, husable.2⟩
    rw [hhash]
    exact shows_later hlater hshows
  have hspawn : l ≠ .spawn j := by
    rw [hl]
    simp
  exact ⟨⟨row2, hrow', hconsumed, entitled_later hentitled hlater' hspawn⟩, row1, hrow, husable.1⟩

/-- A consumed state is nobody else's. -/
theorem not_spent (hinv : Inv env ls w) {id : Nat}
    (h : ∃ row, w.states.get id = some row ∧ row.consumedAt = none) :
    exchanges id ls = 0 ∧ ∀ i request, (rolesAfter env ls i).state ≠ .consumed id request := by
  obtain ⟨row, hrow, hnone⟩ := h
  constructor
  · by_contra hne
    obtain ⟨row', hrow', hconsumed⟩ := hinv.spent id hne
    rw [hrow] at hrow'
    cases hrow'
    exact hconsumed hnone
  · intro i request hrole
    obtain ⟨row', hrow', hconsumed, _⟩ := hinv.consumed i id request hrole
    rw [hrow] at hrow'
    cases hrow'
    exact hconsumed hnone

theorem exchangeOf_iff (id : Nat) : exchangeOf id l = true ↔
    ∃ j request code res, l = .run j (.exchange id request code) res := by
  constructor
  · intro h
    cases l with
    | run j c res =>
      cases c with
      | exchange id' request code =>
        have hid : id' = id := by simpa [exchangeOf] using h
        subst hid
        exact ⟨j, request, code, res, rfl⟩
      | _ => cases h
    | _ => cases h
  · rintro ⟨j, request, code, res, rfl⟩
    simp [exchangeOf]

theorem inv_step (hinv : Inv env ls w) (h : Moves env (rolesAfter env ls) w l w') :
    Inv env (ls ++ [l]) w' where
  found j stateHash id stored hrole := by
    rcases found_after hrole with hrole | hl
    · exact stored_later h.later (hinv.found _ _ _ _ hrole)
    · exact h.finds j stateHash id stored hl
  read j stateHash id stored now hrole := by
    rcases read_after hrole with ⟨hrole, hspawn⟩ | ⟨hl, hbefore⟩
    · obtain ⟨hstored, hread⟩ := hinv.read _ _ _ _ _ hrole
      exact ⟨stored_later h.later hstored, since_snoc hread hspawn⟩
    · have hstored : Stored w stateHash id stored := by
        rcases hbefore with hfound | ⟨n, hread⟩
        · exact hinv.found _ _ _ _ hfound
        · exact (hinv.read _ _ _ _ _ hread).1
      refine ⟨stored_later h.later hstored, ?_⟩
      rw [hl]
      exact since_last ls j _
  consumed j id request hrole := by
    rcases consumed_after hrole with ⟨hrole, hspawn, _⟩ | ⟨now, hl⟩
    · obtain ⟨row, hrow, hconsumed, hentitled⟩ := hinv.consumed _ _ _ hrole
      obtain ⟨row', hrow', hlater⟩ := h.later id row hrow
      exact ⟨row', hrow', hlater.consumedAt hconsumed, entitled_later hentitled hlater hspawn⟩
    · exact (consumes_entitled hinv h hl).1
  single i j id request request' hi hj := by
    rcases consumed_after hi with ⟨hi, _⟩ | ⟨now, hl⟩
    · rcases consumed_after hj with ⟨hj, _⟩ | ⟨now, hl⟩
      · exact hinv.single _ _ _ _ _ hi hj
      · exact absurd hi ((not_spent hinv (consumes_entitled hinv h hl).2).2 i request)
    · rcases consumed_after hj with ⟨hj, _⟩ | ⟨now', hl'⟩
      · exact absurd hj ((not_spent hinv (consumes_entitled hinv h hl).2).2 j request')
      · rw [hl] at hl'
        cases hl'
        rfl
  fresh j id request hrole := by
    rw [exchanges_snoc]
    rcases consumed_after hrole with ⟨hrole, _, hother⟩ | ⟨now, hl⟩
    · have hnot : ¬ exchangeOf id l = true := by
        rw [exchangeOf_iff]
        rintro ⟨i, request', code, res, hl⟩
        have hi := h.exchanges i id request' code res hl
        have hij := hinv.single _ _ _ _ _ hi hrole
        subst hij
        exact hother id request' code res hl
      simp [hinv.fresh _ _ _ hrole, hnot]
    · have hfresh := (not_spent hinv (consumes_entitled hinv h hl).2).1
      simp [hfresh, hl, exchangeOf]
  once id := by
    rw [exchanges_snoc]
    split
    · next hexchange =>
      obtain ⟨j, request, code, res, hl⟩ := (exchangeOf_iff id).1 hexchange
      have hfresh := hinv.fresh _ _ _ (h.exchanges j id request code res hl)
      omega
    · exact hinv.once id
  spent id hne := by
    rw [exchanges_snoc] at hne
    have hbefore : ∃ row, w.states.get id = some row ∧ row.consumedAt ≠ none := by
      by_cases hexchange : exchangeOf id l = true
      · obtain ⟨j, request, code, res, hl⟩ := (exchangeOf_iff id).1 hexchange
        obtain ⟨row, hrow, hconsumed, _⟩ :=
          hinv.consumed _ _ _ (h.exchanges j id request code res hl)
        exact ⟨row, hrow, hconsumed⟩
      · apply hinv.spent id
        simpa [hexchange] using hne
    obtain ⟨row, hrow, hconsumed⟩ := hbefore
    obtain ⟨row', hrow', hlater⟩ := h.later id row hrow
    exact ⟨row', hrow', hlater.consumedAt hconsumed⟩

end Step

/-! ## Runs -/

section Runs

variable {env : Environment} {w : World} {ls : List SystemLabel} {pool : SystemPool}

theorem inv_run (h : SystemRun env (idle w) ls pool) :
    Inv env ls pool.world ∧ Follows (protocol env) pool (rolesAfter env ls) := by
  apply system_invariant (fun _ _ => True) (Inv env)
  · intro ls w l hl hinv
    exact inv_step hinv (moves_of_quiet env _ w hl)
  · intro ls w i c res w' hinv hok hexec _
    exact inv_step hinv (moves_of_exec hok hexec)
  · exact h.mono (fun _ _ _ hstep => ⟨hstep, trivial⟩)
  · exact inv_nil env w

/-- The call of the thread was under way before this time. -/
def MadeBefore (env : Environment) (w : World) (ls : List SystemLabel) (i : Nat)
    (deadline : Int) : Prop :=
  ∃ before after s, ls = before ++ after ∧ SystemRun env (idle w) before s ∧
    s.world.clock < deadline ∧ s.thread i ≠ none ∧ ∀ l ∈ after, l ≠ .spawn i

/-- The request passes every check of the state: it has its code, its browser, and for a private
handoff its operation at the router. -/
structure Passes (env : Environment) (request : Request) (row : AuthorizationState) : Prop where
  code : ∃ state code, validateTikTokCallbackInput request.input = .ok (state, code) ∧
    row.stateHash = env.crypto.digest state
  browser : row.browserHash = some request.binding.browserHash
  handoff : request.binding.privateHandoff = true →
    row.routerRegistered = true ∧ row.operationId = request.binding.operationId

theorem passes_of_shows {request : Request} {row : AuthorizationState}
    (h : Shows env request row.stateHash row) : Passes env request row := by
  obtain ⟨hcode, hbelongs⟩ := h
  unfold belongs at hbelongs
  simp only [Bool.and_eq_true, Bool.or_eq_true, decide_eq_true_eq, Bool.not_eq_true'] at hbelongs
  refine ⟨hcode, hbelongs.1.2, ?_⟩
  intro hprivate
  rcases hbelongs.2 with hnot | hregistered
  · rw [hprivate] at hnot
    cases hnot
  · exact hregistered

theorem clock_of_performs {w' : World} {now : Int} (h : Performs w .now now w') : now = w.clock := by
  cases h with
  | now => rfl
  | other _ _ h => cases h

theorem clock_of_exec {i : Nat} {w' : World} {now : Int} (h : Exec i w .now (.ok now) w') :
    now = w.clock := by
  rcases h.effect with ⟨a, w1, clock, hperforms, _, _, hres⟩ | ⟨clock, _, _, hres⟩
  · rw [← clock_of_performs hperforms]
    exact hres now rfl
  · exact absurd rfl (hres now)

/-- A reading before the deadline shows that the call was made before it. -/
theorem madeBefore_of_read (h : SystemRun env (idle w) ls pool) {i : Nat} {now deadline : Int}
    (hread : ReadBefore ls i now) (hnow : now < deadline) : MadeBefore env w ls i deadline := by
  obtain ⟨before, after, rfl, hafter⟩ := hread
  obtain ⟨s, hbefore, hrest⟩ := h.split
  cases hrest with
  | cons hstep hlast =>
    obtain ⟨⟨next, hthread⟩, hexec⟩ := hstep.of_run
    have hclock : now = s.world.clock := clock_of_exec hexec
    refine ⟨before, _, s, rfl, hbefore, by omega, by simp [hthread], ?_⟩
    intro l hl
    rcases List.mem_cons.1 hl with rfl | hl
    · simp
    · exact hafter l hl

theorem made_of_entitled (h : SystemRun env (idle w) ls pool) {i : Nat} {request : Request}
    {row : AuthorizationState} (hentitled : Entitled env ls i request row) :
    Passes env request row ∧ MadeBefore env w ls i row.expiresAt := by
  obtain ⟨hshows, now, hread, hnow⟩ := hentitled
  exact ⟨passes_of_shows hshows, madeBefore_of_read h hread hnow⟩

/-- In a run of any callbacks and handoffs, beside anything else: a code is exchanged once at most
for a state; whoever exchanges one passes every check of the state and was called before it
expired; and besides the writes of the start of an authorization, a state changes only when such
a call consumes it. -/
theorem authorization_state_is_used_once (h : SystemRun env (idle w) ls pool) :
    (∀ id, exchanges id ls ≤ 1) ∧
    (∀ i id request code res t,
      PoolStep machine (Startable env) pool (.run i (.exchange id request code) res) t →
      exchanges id ls = 0 ∧ ∃ row, pool.world.states.get id = some row ∧
        Passes env request row ∧ MadeBefore env w ls i row.expiresAt) ∧
    ∀ l t, PoolStep machine (Startable env) pool l t →
      ∀ id row, pool.world.states.get id = some row → t.world.states.get id = some row ∨
        (∃ i c res, l = .run i c res ∧ initiates c = true) ∨
        ∃ i request now res, l = .run i (.consumeState id request now) res ∧
          row.consumedAt = none ∧ Passes env request row ∧
          MadeBefore env w ls i row.expiresAt := by
  obtain ⟨hinv, hfollows⟩ := inv_run h
  refine ⟨hinv.once, ?_, ?_⟩
  · intro i id request code res t hstep
    rcases step_cases hfollows hstep with ⟨hquiet, _⟩ | ⟨i', c, res', hl, hok, _⟩
    · cases hquiet
    · cases hl
      obtain ⟨row, hrow, _, hentitled⟩ := hinv.consumed i id request hok
      exact ⟨hinv.fresh i id request hok, row, hrow, made_of_entitled h hentitled⟩
  · intro l t hstep id row hrow
    rcases step_cases hfollows hstep with ⟨_, hworld⟩ | ⟨i, c, res, rfl, hok, hexec⟩
    · rw [hworld]
      exact Or.inl hrow
    · rcases state_of_exec hexec hrow with hsame | ⟨row', _, _, hinitiates | ⟨request, now, rfl, husable⟩⟩
      · exact Or.inl hsame
      · exact Or.inr (Or.inl ⟨i, c, res, rfl, hinitiates⟩)
      · obtain ⟨stateHash, stored, hrole, hshows⟩ := hok
        obtain ⟨⟨row1, hrow1, hhash, hlater⟩, hread⟩ := hinv.read _ _ _ _ _ hrole
        rw [hrow] at hrow1
        cases hrow1
        simp only [World.usable, Bool.and_eq_true, Option.isNone_iff_eq_none, decide_eq_true_eq]
          at husable
        have hentitled : Entitled env ls i request row := by
          refine ⟨?_, now, hread, husable.2⟩
          rw [hhash]
          exact shows_later hlater hshows
        exact Or.inr (Or.inr ⟨i, request, now, res, rfl, husable.1, made_of_entitled h hentitled⟩)

end Runs

/-! ## A replayed callback -/

def sampleState : Text := List.replicate 43 0x61

def sampleRequest : Request where
  input := { state := some sampleState, code := some [0x63] }
  binding := { browserHash := [0x62] }

def sampleWorld : World where
  states := Table.empty.set 1 {
    stateHash := sampleState
    expiresAt := 600000
    browserHash := some [0x62]
    operationId := some [0x6F] }

/-- Two calls with the same state: both find it, and the second one comes too late. -/
def replayTurns : List SystemTurn :=
  spawnJob 0 (.callback sampleRequest) :: spawnJob 1 (.callback sampleRequest) ::
    (performed 0 3 ++ (performed 1 3 ++ (performed 0 1 ++ (performed 1 1 ++
      [.run 0 (.tokens sampleTokens)]))))

theorem starts_replay : Starts (Startable sampleEnvironment) replayTurns :=
  starts_job (starts_job (starts_runs (starts_runs (starts_runs
    (starts_runs (starts_run starts_nil))))))

theorem replayed_state_is_used_once : ∃ ls pool,
    SystemRun sampleEnvironment (idle sampleWorld) ls pool ∧ exchanges 1 ls = 1 ∧
      ∀ id, exchanges id ls ≤ 1 := by
  have hplay : (playJobs (fun _ _ => true) replayTurns (idle sampleWorld)).map
      (fun r => exchanges 1 r.1) = some 1 := by decide
  obtain ⟨ls, pool, hrun, hexchanges⟩ := exists_run_of_jobs starts_replay hplay
  have hsystem : SystemRun sampleEnvironment (idle sampleWorld) ls pool :=
    hrun.mono (fun _ _ _ hstep => hstep.1)
  exact ⟨ls, pool, hsystem, hexchanges, (authorization_state_is_used_once hsystem).1⟩

end tiktok_outreach.authorization_states
