-- The canonical texts of `canonicalBody`: two values have one exactly when they
-- are the same up to the order of their members.
import TiktokOutreach.OauthHandoff
import TiktokOutreach.Lib.JsonValues

open json tiktok_outreach.oauth_handoff

namespace tiktok_outreach.canonical_bodies

/-! ## The parts of a text -/

/-- The texts of the elements behind the first, each with its comma. -/
def tailElements (elements : List Json) : Text :=
  elements.flatMap (fun x => comma :: canonicalBody x)

theorem canonicalElements_cons (x : Json) (rest : List Json) :
    canonicalElements (x :: rest) = canonicalBody x ++ tailElements rest := by
  induction rest generalizing x with
  | nil => simp [canonicalElements, tailElements]
  | cons y rest ih => simp [canonicalElements, ih, tailElements]

/-- The written members behind the first, each with its comma. -/
def tailMembers (members : List (Text × Text)) : Text :=
  members.flatMap (fun m => comma :: (quote m.1 ++ colon :: m.2))

theorem canonicalMembers_cons (m : Text × Text) (rest : List (Text × Text)) :
    canonicalMembers (m :: rest) = quote m.1 ++ colon :: (m.2 ++ tailMembers rest) := by
  induction rest generalizing m with
  | nil => simp [canonicalMembers, tailMembers, stringify]
  | cons n rest ih => simp [canonicalMembers, ih, tailMembers, stringify]

theorem canonicalPairs_eq (members : List (Text × Json)) :
    canonicalPairs members = members.map (fun m => (m.1, canonicalBody m.2)) := by
  induction members with
  | nil => simp [canonicalPairs]
  | cons m rest ih => simp [canonicalPairs, ih]

/-- The written members of an object, in the order of their keys. -/
def sortedPairs (members : List (Text × Json)) : List (Text × Text) :=
  (canonicalPairs members).insertionSort (fun a b => before a.1 b.1)

theorem mem_sortedPairs {members : List (Text × Json)} {p : Text × Text} :
    p ∈ sortedPairs members ↔ ∃ m ∈ members, (m.1, canonicalBody m.2) = p := by
  unfold sortedPairs
  rw [List.mem_insertionSort, canonicalPairs_eq, List.mem_map]

theorem length_sortedPairs (members : List (Text × Json)) :
    (sortedPairs members).length = members.length := by
  unfold sortedPairs
  rw [List.length_insertionSort, canonicalPairs_eq, List.length_map]

/-- The kind of a value. -/
def kind : Json → Nat
  | .null => 0
  | .bool true => 1
  | .bool false => 2
  | .str _ => 3
  | .arr _ => 4
  | .obj _ => 5
  | .number _ => 6

/-- The kind of the value that starts with a character. -/
def kindOf (c : UInt16) : Nat :=
  if c = 0x6E then 0
  else if c = 0x74 then 1
  else if c = 0x66 then 2
  else if c = quotationMark then 3
  else if c = openBracket then 4
  else if c = openBrace then 5
  else if isNumeral c then 6
  else 7

theorem kindOf_numeral {c : UInt16} (h : isNumeral c = true) : kindOf c = 6 := by
  unfold kindOf
  have hne : ∀ d : UInt16, isNumeral d = false → c ≠ d := by
    rintro d hd rfl
    rw [h] at hd
    cases hd
  rw [if_neg (hne _ (by decide)), if_neg (hne _ (by decide)), if_neg (hne _ (by decide)),
    if_neg (hne _ (by decide)), if_neg (hne _ (by decide)), if_neg (hne _ (by decide)), if_pos h]

/-- The first character of a text tells the kind of the value. -/
theorem canonicalBody_head {a : Json} (ha : WellFormed a) :
    ∃ c t, canonicalBody a = c :: t ∧ kindOf c = kind a := by
  cases a with
  | null => exact ⟨0x6E, _, by simp [canonicalBody, stringify, units]; rfl, by decide⟩
  | bool b =>
    cases b with
    | true => exact ⟨0x74, _, by simp [canonicalBody, stringify, units]; rfl, by decide⟩
    | false => exact ⟨0x66, _, by simp [canonicalBody, stringify, units]; rfl, by decide⟩
  | number literal =>
    simp only [WellFormed] at ha
    obtain ⟨hne, hall⟩ := ha
    obtain ⟨c, t, rfl⟩ := List.exists_cons_of_ne_nil hne
    refine ⟨c, t, by simp [canonicalBody, stringify], ?_⟩
    exact kindOf_numeral (hall c List.mem_cons_self)
  | str s => exact ⟨quotationMark, _, by simp [canonicalBody, stringify, quote]; rfl, rfl⟩
  | arr elements => exact ⟨openBracket, _, by simp [canonicalBody]; rfl, rfl⟩
  | obj members => exact ⟨openBrace, _, by simp [canonicalBody]; rfl, rfl⟩

/-- Values whose texts start alike are of one kind. -/
theorem kind_eq {a b : Json} (ha : WellFormed a) (hb : WellFormed b) {rest rest' : Text}
    (h : canonicalBody a ++ rest = canonicalBody b ++ rest') : kind a = kind b := by
  obtain ⟨c, t, hc, hkind⟩ := canonicalBody_head ha
  obtain ⟨c', t', hc', hkind'⟩ := canonicalBody_head hb
  rw [hc, hc', List.cons_append, List.cons_append, List.cons.injEq] at h
  rw [← hkind, ← hkind', h.1]

/-- No value starts with a character of the seventh kind. -/
theorem canonicalBody_ne {a : Json} (ha : WellFormed a) {c : UInt16} (hc : kindOf c = 7)
    {rest rest' : Text} : canonicalBody a ++ rest ≠ c :: rest' := by
  obtain ⟨d, t, hd, hkind⟩ := canonicalBody_head ha
  intro h
  rw [hd, List.cons_append, List.cons.injEq] at h
  rw [h.1, hc] at hkind
  cases a <;> try (cases hkind)
  next b => cases b <;> cases hkind

/-! ## The same values have one text -/

theorem nodup_canonicalPairs {members : List (Text × Json)}
    (h : (members.map Prod.fst).Nodup) : (canonicalPairs members).Nodup := by
  rw [canonicalPairs_eq]
  apply List.Nodup.of_map Prod.fst
  rw [List.map_map]
  exact h

/-- Two lists of pairs that are the same in some order are sorted to one. -/
theorem sortedPairs_eq {members members' : List (Text × Json)}
    (hkeys : (members.map Prod.fst).Nodup)
    (h : (canonicalPairs members).Perm (canonicalPairs members')) :
    sortedPairs members = sortedPairs members' := by
  have hperm : (sortedPairs members).Perm (sortedPairs members') :=
    ((List.perm_insertionSort _ _).trans h).trans (List.perm_insertionSort _ _).symm
  have htotal : Std.Total (fun a b : Text × Text => before a.1 b.1 = true) := by
    constructor
    intro a b
    unfold before
    simp only [decide_eq_true_eq]
    exact List.le_total a.1 b.1
  have htrans : IsTrans (Text × Text) (fun a b => before a.1 b.1 = true) := by
    constructor
    intro a b c hab hbc
    unfold before at *
    simp only [decide_eq_true_eq] at *
    exact List.le_trans hab hbc
  refine List.Perm.eq_of_pairwise ?_ (List.pairwise_insertionSort _ _)
    (List.pairwise_insertionSort _ _) hperm
  intro a b ha hb hab hba
  unfold before at hab hba
  rw [decide_eq_true_eq] at hab hba
  -- the pairs of one key are one pair
  obtain ⟨m, hm, rfl⟩ := mem_sortedPairs.1 ha
  obtain ⟨m', hm', rfl⟩ := mem_sortedPairs.1 (hperm.mem_iff.2 hb)
  have hsame : m = m' := List.inj_on_of_nodup_map hkeys hm hm' (List.le_antisymm hab hba)
  rw [hsame]

theorem canonicalElements_of_same {elements elements' : List Json}
    (ih : ∀ x ∈ elements, ∀ y ∈ elements', Same x y → canonicalBody x = canonicalBody y)
    (h : SameElements elements elements') :
    canonicalElements elements = canonicalElements elements' ∧
      tailElements elements = tailElements elements' := by
  induction elements generalizing elements' with
  | nil =>
    cases elements' with
    | nil => exact ⟨rfl, rfl⟩
    | cons y rest' => simp [SameElements] at h
  | cons x rest ih' =>
    cases elements' with
    | nil => simp [SameElements] at h
    | cons y rest' =>
      simp only [SameElements] at h
      have hfirst := ih x List.mem_cons_self y List.mem_cons_self h.1
      obtain ⟨-, htail⟩ := ih' (fun x hx y hy => ih x (List.mem_cons_of_mem _ hx) y
        (List.mem_cons_of_mem _ hy)) h.2
      rw [canonicalElements_cons, canonicalElements_cons, hfirst, htail]
      refine ⟨rfl, ?_⟩
      unfold tailElements at htail ⊢
      rw [List.flatMap_cons, List.flatMap_cons, hfirst, htail]

/-- The same values have one text. -/
theorem canonicalBody_of_same : ∀ a, WellFormed a → ∀ b, WellFormed b → Same a b →
    canonicalBody a = canonicalBody b := by
  apply of_parts
  · intro _ b _ h
    cases b <;> simp [Same] at h
    rfl
  · intro x _ b _ h
    cases b <;> simp [Same] at h
    rw [h]
  · intro literal _ b _ h
    cases b <;> simp [Same] at h
    rw [h]
  · intro s _ b _ h
    cases b <;> simp [Same] at h
    rw [h]
  · intro elements ih ha b hb h
    cases b with
    | arr elements' =>
      simp only [Same, WellFormed, wellFormedElements_iff] at ha hb h
      have hall := canonicalElements_of_same
        (fun x hx y hy => ih x hx (ha x hx) y (hb y hy)) h
      rw [canonicalBody, canonicalBody, hall.1]
    | _ => simp [Same] at h
  · intro members ih ha b hb h
    cases b with
    | obj members' =>
      simp only [Same, WellFormed, wellFormedMembers_iff, sameMembers_iff] at ha hb h
      have hsub : canonicalPairs members ⊆ canonicalPairs members' := by
        intro p hp
        rw [canonicalPairs_eq, List.mem_map] at hp ⊢
        obtain ⟨m, hm, rfl⟩ := hp
        obtain ⟨y, hy, hsame⟩ := h.2 m hm
        exact ⟨(m.1, y), hy, by rw [ih m hm (ha.2 m hm) y (hb.2 _ hy) hsame]⟩
      have hperm : (canonicalPairs members).Perm (canonicalPairs members') := by
        apply ((nodup_canonicalPairs ha.1).subperm hsub).perm_of_length_le
        rw [canonicalPairs_eq, canonicalPairs_eq, List.length_map, List.length_map, h.1]
      have hsorted := sortedPairs_eq ha.1 hperm
      unfold sortedPairs at hsorted
      rw [canonicalBody, canonicalBody, hsorted]
    | _ => simp [Same] at h

/-! ## One text has the same values -/

/-- The text of a value is told from what stands behind it. -/
def Cuts (a : Json) : Prop :=
  ∀ b, WellFormed b → ∀ rest rest', Ended rest → Ended rest' →
    canonicalBody a ++ rest = canonicalBody b ++ rest' → Same a b ∧ rest = rest'

theorem ended_cons {c : UInt16} (h : isNumeral c = false) (t : Text) : Ended (c :: t) := by
  intro d hd
  rw [List.head?_cons, Option.mem_some_iff] at hd
  rwa [← hd]

theorem ended_nil : Ended [] := by
  intro c hc
  cases hc

/-- Behind an element there is a comma or the end. -/
theorem ended_tailElements (elements : List Json) (rest : Text) :
    Ended (tailElements elements ++ closeBracket :: rest) := by
  cases elements with
  | nil => exact ended_cons (by decide) _
  | cons x others => exact ended_cons (by decide) _

theorem ended_tailMembers (members : List (Text × Text)) (rest : Text) :
    Ended (tailMembers members ++ closeBrace :: rest) := by
  cases members with
  | nil => exact ended_cons (by decide) _
  | cons m others => exact ended_cons (by decide) _

theorem tailElements_cut {elements elements' : List Json} (hcuts : ∀ x ∈ elements, Cuts x)
    (helements' : ∀ x ∈ elements', WellFormed x) {rest rest' : Text}
    (h : tailElements elements ++ closeBracket :: rest =
      tailElements elements' ++ closeBracket :: rest') :
    SameElements elements elements' ∧ rest = rest' := by
  induction elements generalizing elements' with
  | nil =>
    cases elements' with
    | nil => simpa [tailElements, SameElements] using h
    | cons y others' =>
      simp [tailElements] at h
      exact absurd h.1 (by decide)
  | cons x others ih =>
    cases elements' with
    | nil =>
      simp [tailElements] at h
      exact absurd h.1 (by decide)
    | cons y others' =>
      simp only [tailElements, List.flatMap_cons, List.cons_append, List.append_assoc,
        List.cons.injEq, true_and] at h
      obtain ⟨hsame, hrest⟩ := hcuts x List.mem_cons_self y (helements' y List.mem_cons_self) _ _
        (ended_tailElements others rest) (ended_tailElements others' rest') h
      obtain ⟨hothers, hend⟩ := ih (fun x hx => hcuts x (List.mem_cons_of_mem _ hx))
        (fun x hx => helements' x (List.mem_cons_of_mem _ hx)) hrest
      exact ⟨⟨hsame, hothers⟩, hend⟩

theorem elements_cut {elements elements' : List Json} (hcuts : ∀ x ∈ elements, Cuts x)
    (helements : ∀ x ∈ elements, WellFormed x) (helements' : ∀ x ∈ elements', WellFormed x)
    {rest rest' : Text} (h : canonicalElements elements ++ closeBracket :: rest =
      canonicalElements elements' ++ closeBracket :: rest') :
    SameElements elements elements' ∧ rest = rest' := by
  cases elements with
  | nil =>
    cases elements' with
    | nil => simpa [canonicalElements, SameElements] using h
    | cons y others' =>
      rw [canonicalElements_cons, List.append_assoc] at h
      exact absurd h.symm (canonicalBody_ne (helements' y List.mem_cons_self) (by decide))
  | cons x others =>
    cases elements' with
    | nil =>
      rw [canonicalElements_cons, List.append_assoc] at h
      exact absurd h (canonicalBody_ne (helements x List.mem_cons_self) (by decide))
    | cons y others' =>
      rw [canonicalElements_cons, canonicalElements_cons, List.append_assoc,
        List.append_assoc] at h
      obtain ⟨hsame, hrest⟩ := hcuts x List.mem_cons_self y (helements' y List.mem_cons_self) _ _
        (ended_tailElements others rest) (ended_tailElements others' rest') h
      obtain ⟨hothers, hend⟩ := tailElements_cut (fun x hx => hcuts x (List.mem_cons_of_mem _ hx))
        (fun x hx => helements' x (List.mem_cons_of_mem _ hx)) hrest
      exact ⟨⟨hsame, hothers⟩, hend⟩

/-- Written members whose values are told from what stands behind them are, too. -/
def PairCuts (members members' : List (Text × Text)) : Prop :=
  ∀ m ∈ members, ∀ m' ∈ members', ∀ rest rest', Ended rest → Ended rest' →
    m.2 ++ rest = m'.2 ++ rest' → m.2 = m'.2 ∧ rest = rest'

theorem tailMembers_cut {members members' : List (Text × Text)} (hcuts : PairCuts members members')
    {rest rest' : Text} (h : tailMembers members ++ closeBrace :: rest =
      tailMembers members' ++ closeBrace :: rest') : members = members' ∧ rest = rest' := by
  induction members generalizing members' with
  | nil =>
    cases members' with
    | nil => simpa [tailMembers] using h
    | cons m' others' =>
      simp [tailMembers] at h
      exact absurd h.1 (by decide)
  | cons m others ih =>
    cases members' with
    | nil =>
      simp [tailMembers] at h
      exact absurd h.1 (by decide)
    | cons m' others' =>
      simp only [tailMembers, List.flatMap_cons, List.cons_append, List.append_assoc,
        List.cons.injEq, true_and] at h
      obtain ⟨hkey, hvalue⟩ := quote_cut h
      rw [List.cons.injEq] at hvalue
      obtain ⟨htext, hrest⟩ := hcuts m List.mem_cons_self m' List.mem_cons_self _ _
        (ended_tailMembers others rest) (ended_tailMembers others' rest') hvalue.2
      obtain ⟨hothers, hend⟩ := ih (fun m hm m' hm' => hcuts m (List.mem_cons_of_mem _ hm) m'
        (List.mem_cons_of_mem _ hm')) hrest
      rw [hothers, Prod.ext hkey htext]
      exact ⟨rfl, hend⟩

theorem members_cut {members members' : List (Text × Text)} (hcuts : PairCuts members members')
    {rest rest' : Text} (h : canonicalMembers members ++ closeBrace :: rest =
      canonicalMembers members' ++ closeBrace :: rest') : members = members' ∧ rest = rest' := by
  cases members with
  | nil =>
    cases members' with
    | nil => simpa [canonicalMembers] using h
    | cons m' others' =>
      simp [canonicalMembers_cons, canonicalMembers, quote] at h
      exact absurd h.1 (by decide)
  | cons m others =>
    cases members' with
    | nil =>
      simp [canonicalMembers_cons, canonicalMembers, quote] at h
      exact absurd h.1 (by decide)
    | cons m' others' =>
      rw [canonicalMembers_cons, canonicalMembers_cons] at h
      simp only [List.append_assoc, List.cons_append] at h
      obtain ⟨hkey, hvalue⟩ := quote_cut h
      rw [List.cons.injEq] at hvalue
      obtain ⟨htext, hrest⟩ := hcuts m List.mem_cons_self m' List.mem_cons_self _ _
        (ended_tailMembers others rest) (ended_tailMembers others' rest') hvalue.2
      obtain ⟨hothers, hend⟩ := tailMembers_cut (fun m hm m' hm' =>
        hcuts m (List.mem_cons_of_mem _ hm) m' (List.mem_cons_of_mem _ hm')) hrest
      rw [hothers, Prod.ext hkey htext]
      exact ⟨rfl, hend⟩

/-- Each text is told from what stands behind it: by its first character the values are of one kind,
and by their ends of the same parts. -/
theorem cuts : ∀ a, WellFormed a → Cuts a := by
  apply of_parts
  · intro ha b hb rest rest' _ _ h
    have hkind := kind_eq ha hb h
    cases b with
    | null => exact ⟨trivial, List.append_cancel_left h⟩
    | bool y => cases y <;> cases hkind
    | _ => cases hkind
  · intro x ha b hb rest rest' _ _ h
    have hkind := kind_eq ha hb h
    cases b with
    | bool y =>
      have hsame : x = y := by cases x <;> cases y <;> first | rfl | cases hkind
      rw [hsame] at h
      exact ⟨hsame, List.append_cancel_left h⟩
    | _ => cases x <;> cases hkind
  · intro literal ha b hb rest rest' hrest hrest' h
    have hkind := kind_eq ha hb h
    cases b with
    | number literal' =>
      simp only [canonicalBody, stringify, WellFormed] at ha hb h
      exact numeral_cut ha hb hrest hrest' h
    | bool y => cases y <;> cases hkind
    | _ => cases hkind
  · intro s ha b hb rest rest' _ _ h
    have hkind := kind_eq ha hb h
    cases b with
    | str s' =>
      simp only [canonicalBody, stringify] at h
      exact quote_cut h
    | bool y => cases y <;> cases hkind
    | _ => cases hkind
  · intro elements ih ha b hb rest rest' _ _ h
    have hkind := kind_eq ha hb h
    cases b with
    | arr elements' =>
      simp only [WellFormed, wellFormedElements_iff] at ha hb
      simp only [canonicalBody, List.cons_append, List.append_assoc, List.nil_append,
        List.cons.injEq, true_and] at h
      exact elements_cut (fun x hx => ih x hx (ha x hx)) ha hb h
    | bool y => cases y <;> cases hkind
    | _ => cases hkind
  · intro members ih ha b hb rest rest' _ _ h
    have hkind := kind_eq ha hb h
    cases b with
    | obj members' =>
      simp only [WellFormed, wellFormedMembers_iff] at ha hb
      simp only [canonicalBody, List.cons_append, List.append_assoc, List.nil_append,
        List.cons.injEq, true_and] at h
      have hcuts : PairCuts (sortedPairs members) (sortedPairs members') := by
        intro p hp p' hp' t t' ht ht' htext
        obtain ⟨m, hm, rfl⟩ := mem_sortedPairs.1 hp
        obtain ⟨m', hm', rfl⟩ := mem_sortedPairs.1 hp'
        obtain ⟨hsame, hend⟩ := ih m hm (ha.2 m hm) m'.2 (hb.2 m' hm') t t' ht ht' htext
        exact ⟨canonicalBody_of_same m.2 (ha.2 m hm) m'.2 (hb.2 m' hm') hsame, hend⟩
      obtain ⟨hpairs, hend⟩ := members_cut hcuts h
      refine ⟨⟨?_, ?_⟩, hend⟩
      · rw [← length_sortedPairs members, hpairs, length_sortedPairs]
      · rw [sameMembers_iff]
        intro m hm
        have hp : (m.1, canonicalBody m.2) ∈ sortedPairs members := mem_sortedPairs.2 ⟨m, hm, rfl⟩
        rw [hpairs] at hp
        obtain ⟨m', hm', heq⟩ := mem_sortedPairs.1 hp
        rw [Prod.mk.injEq] at heq
        have htext : canonicalBody m.2 ++ [] = canonicalBody m'.2 ++ [] := by rw [heq.2]
        refine ⟨m'.2, ?_, (ih m hm (ha.2 m hm) m'.2 (hb.2 m' hm') [] [] ended_nil ended_nil
          htext).1⟩
        rw [← heq.1]
        exact hm'
    | bool y => cases y <;> cases hkind
    | _ => cases hkind

/-- Two values have one canonical text exactly when they are the same up to the order of their
members. -/
theorem canonicalBody_eq_iff {a b : Json} (ha : WellFormed a) (hb : WellFormed b) :
    canonicalBody a = canonicalBody b ↔ Same a b := by
  constructor
  · intro h
    have htext : canonicalBody a ++ [] = canonicalBody b ++ [] := by rw [h]
    exact (cuts a ha b hb [] [] ended_nil ended_nil htext).1
  · intro h
    exact canonicalBody_of_same a ha b hb h

end tiktok_outreach.canonical_bodies
