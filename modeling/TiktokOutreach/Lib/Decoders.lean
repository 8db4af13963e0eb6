-- Decoders that may refuse, and the encoders that they invert: what comes out of a decoder is
-- well-formed, and every well-formed value is read back from what is written for it.
import Mathlib.Tactic

namespace decoders

variable {ε α β : Type}

structure Inverts (decode : α → Except ε β) (encode : β → α) (WellFormed : β → Prop) : Prop where
  sound : ∀ {a b}, decode a = .ok b → WellFormed b
  complete : ∀ {b}, WellFormed b → decode (encode b) = .ok b

namespace Inverts

variable {decode : α → Except ε β} {encode : β → α} {WellFormed : β → Prop}

/-- The values that can come out are the well-formed ones. -/
theorem accepted (h : Inverts decode encode WellFormed) (b : β) :
    (∃ a, decode a = .ok b) ↔ WellFormed b :=
  ⟨fun ⟨_, ha⟩ => h.sound ha, fun hb => ⟨encode b, h.complete hb⟩⟩

/-- What was read is read again from what is written for it. -/
theorem again (h : Inverts decode encode WellFormed) {a : α} {b : β} (ha : decode a = .ok b) :
    decode (encode b) = .ok b :=
  h.complete (h.sound ha)

end Inverts

/-! ## Lists -/

theorem mapM_cons_eq_ok {decode : α → Except ε β} {a : α} {as : List α} {bs : List β} :
    (a :: as).mapM decode = .ok bs ↔
      ∃ b rest, decode a = .ok b ∧ as.mapM decode = .ok rest ∧ bs = b :: rest := by
  rw [List.mapM_cons]
  cases ha : decode a with
  | error e => simp [bind, Except.bind]
  | ok b =>
    cases has : as.mapM decode with
    | error e => simp [bind, Except.bind]
    | ok rest => simp [bind, Except.bind, pure, Except.pure, eq_comm]

/-- A list is read by its positions: the decoder of an element knows where it stands. -/
def mapIdxFrom (decode : Nat → α → Except ε β) (n : Nat) (as : List α) : Except ε (List β) :=
  (as.zipIdx n).mapM (fun a => decode a.2 a.1)

theorem mapIdxFrom_cons_eq_ok {decode : Nat → α → Except ε β} {n : Nat} {a : α} {as : List α}
    {bs : List β} : mapIdxFrom decode n (a :: as) = .ok bs ↔
      ∃ b rest, decode n a = .ok b ∧ mapIdxFrom decode (n + 1) as = .ok rest ∧ bs = b :: rest := by
  unfold mapIdxFrom
  rw [List.zipIdx_cons]
  exact mapM_cons_eq_ok

theorem inverts_mapIdxFrom {decode : Nat → α → Except ε β} {encode : β → α}
    {WellFormed : Nat → β → Prop} (h : ∀ n, Inverts (decode n) encode (WellFormed n)) (n : Nat) :
    Inverts (mapIdxFrom decode n) (List.map encode)
      (fun bs => ∀ b ∈ bs.zipIdx n, WellFormed b.2 b.1) where
  sound {as bs} hok := by
    induction as generalizing n bs with
    | nil =>
      obtain rfl : [] = bs := Except.ok.inj hok
      simp
    | cons a as ih =>
      obtain ⟨b, rest, hb, hrest, rfl⟩ := mapIdxFrom_cons_eq_ok.1 hok
      rw [List.zipIdx_cons, List.forall_mem_cons]
      exact ⟨(h n).sound hb, ih (n + 1) hrest⟩
  complete {bs} hbs := by
    induction bs generalizing n with
    | nil => rfl
    | cons b bs ih =>
      rw [List.zipIdx_cons, List.forall_mem_cons] at hbs
      rw [List.map_cons, mapIdxFrom_cons_eq_ok]
      exact ⟨b, bs, (h n).complete hbs.1, ih (n + 1) hbs.2, rfl⟩

theorem mapIdxFrom_const (decode : α → Except ε β) (n : Nat) (as : List α) :
    mapIdxFrom (fun _ => decode) n as = as.mapM decode := by
  induction as generalizing n with
  | nil => rfl
  | cons a as ih =>
    have htail := ih (n + 1)
    unfold mapIdxFrom at htail ⊢
    rw [List.zipIdx_cons, List.mapM_cons, List.mapM_cons, htail]

theorem inverts_mapM {decode : α → Except ε β} {encode : β → α} {WellFormed : β → Prop}
    (h : Inverts decode encode WellFormed) :
    Inverts (List.mapM decode) (List.map encode) (fun bs => ∀ b ∈ bs, WellFormed b) where
  sound {as bs} hok := by
    rw [← mapIdxFrom_const decode 0] at hok
    have hall := (inverts_mapIdxFrom (fun _ => h) 0).sound hok
    intro b hb
    obtain ⟨i, hi, rfl⟩ := List.mem_iff_getElem.1 hb
    exact hall (bs[i], i) (List.mem_zipIdx_iff_getElem?.2 (by simp [hi]))
  complete {bs} hbs := by
    rw [← mapIdxFrom_const decode 0]
    refine (inverts_mapIdxFrom (fun _ => h) 0).complete (fun b hb => hbs b.1 ?_)
    exact List.fst_mem_of_mem_zipIdx hb

/-- Where a decoder of lists refuses, the decoder of an element does. -/
theorem error_of_mapM {decode : α → Except ε β} {as : List α} {e : ε}
    (h : as.mapM decode = .error e) : ∃ a ∈ as, decode a = .error e := by
  induction as with
  | nil => cases h
  | cons a as ih =>
    rw [List.mapM_cons] at h
    cases ha : decode a with
    | error e' =>
      rw [ha] at h
      cases h
      exact ⟨a, List.mem_cons_self, ha⟩
    | ok b =>
      cases has : as.mapM decode with
      | error e' =>
        rw [ha, has] at h
        cases h
        obtain ⟨a', hmem, ha'⟩ := ih has
        exact ⟨a', List.mem_cons_of_mem _ hmem, ha'⟩
      | ok rest =>
        rw [ha, has] at h
        cases h

end decoders
