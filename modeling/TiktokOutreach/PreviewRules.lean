-- What a preview promises: the selected creators are the first ones of those
-- that may be written to, every occurrence is counted once, and stricter facts
-- never make a creator eligible.
import Mathlib.Data.String.Basic
import TiktokOutreach.Preview

open tables tiktok_outreach.schema tiktok_outreach.preview

namespace tiktok_outreach.preview_rules

/-! ## One creator -/

section Creator

variable {lang : Language} {input : PreviewInput}

/-- The creator has an open id, matches the filters, and nothing forbids to write to it. -/
structure Safe (lang : Language) (input : PreviewInput) (creator : CreatorCandidate) : Prop where
  id : creator.creatorOpenId ≠ ""
  filters : matchesFilters lang creator input.filters = true
  contact : ∀ contact, input.contacts.get creator.creatorOpenId = some contact →
    contact.doNotContact = false ∧ contact.unresolvedDelivery = false ∧
      ∀ lastContactedAt, contact.lastContactedAt = some lastContactedAt →
        lastContactedAt ≤ cutoff input
  reservation : creator.creatorOpenId ∉ input.activeReservations

/-- The contact of a creator, and its lack, as the preview reads it. -/
theorem contact_getD (o : Option ContactState) (p : ContactState → Prop) (hp : p {}) :
    p (o.getD {}) ↔ ∀ contact, o = some contact → p contact := by
  cases o with
  | none => simp [hp]
  | some contact => simp

theorem skip_eq_none_iff (seen : List String) (creator : CreatorCandidate) :
    (skip lang input seen creator).1 = none ↔
      Safe lang input creator ∧ creator.creatorOpenId ∉ seen := by
  have hcontact := contact_getD (input.contacts.get creator.creatorOpenId) (fun contact =>
    contact.doNotContact = false ∧ contact.unresolvedDelivery = false ∧
      ∀ lastContactedAt, contact.lastContactedAt = some lastContactedAt →
        lastContactedAt ≤ cutoff input) (by simp)
  have hsafe : Safe lang input creator ↔ creator.creatorOpenId ≠ "" ∧
      matchesFilters lang creator input.filters = true ∧
      (((input.contacts.get creator.creatorOpenId).getD {}).doNotContact = false ∧
        ((input.contacts.get creator.creatorOpenId).getD {}).unresolvedDelivery = false ∧
        ∀ lastContactedAt,
          ((input.contacts.get creator.creatorOpenId).getD {}).lastContactedAt =
            some lastContactedAt → lastContactedAt ≤ cutoff input) ∧
      creator.creatorOpenId ∉ input.activeReservations := by
    rw [hcontact]
    constructor
    · rintro ⟨hid, hfilters, hsafe, hfree⟩
      exact ⟨hid, hfilters, hsafe, hfree⟩
    · rintro ⟨hid, hfilters, hsafe, hfree⟩
      exact ⟨hid, hfilters, hsafe, hfree⟩
  rw [hsafe]
  unfold skip
  generalize (input.contacts.get creator.creatorOpenId).getD {} = contact
  by_cases hid : creator.creatorOpenId = ""
  · simp [hid]
  by_cases hfilters : matchesFilters lang creator input.filters = true
  swap
  · simp [hid, hfilters]
  by_cases hseen : creator.creatorOpenId ∈ seen
  · simp [hid, hfilters, hseen]
  by_cases hnot : contact.doNotContact = true
  · simp [hid, hfilters, hseen, hnot]
  by_cases hunresolved : contact.unresolvedDelivery = true
  · simp [hid, hfilters, hseen, hnot, hunresolved]
  have hlate : contact.lastContactedAt.filter (fun time => cutoff input < time) = none ↔
      ∀ lastContactedAt, contact.lastContactedAt = some lastContactedAt →
        lastContactedAt ≤ cutoff input := by
    rw [Option.filter_eq_none_iff]
    simp
  cases hfilter : contact.lastContactedAt.filter (fun time => cutoff input < time) with
  | some lastContactedAt =>
    have hcool : ¬ ∀ time, contact.lastContactedAt = some time → time ≤ cutoff input := by
      rw [← hlate, hfilter]
      simp
    by_cases hhistorical : contact.historical = true <;>
      simp [hid, hfilters, hseen, hnot, hunresolved, hfilter, hhistorical, hcool]
  | none =>
    have hcool := hlate.1 hfilter
    by_cases hreserved : creator.creatorOpenId ∈ input.activeReservations
    · simp [hid, hfilters, hseen, hnot, hunresolved, hfilter, hreserved]
    · simp [hid, hfilters, hseen, hnot, hunresolved, hfilter, hreserved]
      exact hcool

theorem eligible_evaluate (seen : List String) (creator : CreatorCandidate) :
    (evaluate lang input seen creator).eligibility = .ELIGIBLE ↔
      Safe lang input creator ∧ creator.creatorOpenId ∉ seen := by
  rw [← skip_eq_none_iff]
  unfold evaluate
  cases hskip : (skip lang input seen creator).1 <;> simp [hskip]

end Creator

/-! ## The list -/

section List

variable {lang : Language} {input : PreviewInput}

/-- The open ids that were seen before the position `i`. -/
def seenBefore (seen : List String) (creators : List CreatorCandidate) (i : Nat) : List String :=
  (creators.take i).foldl addSeen seen

theorem getElem?_evaluateFrom (seen : List String) (creators : List CreatorCandidate) (i : Nat) :
    (evaluateFrom lang input seen creators)[i]? =
      creators[i]?.map (evaluate lang input (seenBefore seen creators i)) := by
  induction creators generalizing seen i with
  | nil => simp [evaluateFrom]
  | cons creator rest ih =>
    cases i with
    | zero => simp [evaluateFrom, seenBefore]
    | succ i =>
      simp only [evaluateFrom, List.getElem?_cons_succ]
      rw [ih]
      rfl

theorem mem_seenBefore {id : String} (hid : id ≠ "") (seen : List String)
    (creators : List CreatorCandidate) (i : Nat) :
    id ∈ seenBefore seen creators i ↔
      id ∈ seen ∨ ∃ creator ∈ creators.take i, creator.creatorOpenId = id := by
  unfold seenBefore
  induction creators.take i generalizing seen with
  | nil => simp
  | cons creator rest ih =>
    rw [List.foldl_cons, ih]
    unfold addSeen
    by_cases hempty : creator.creatorOpenId = ""
    · have hne : creator.creatorOpenId ≠ id := by
        rw [hempty]
        exact fun h => hid h.symm
      simp [hempty, List.mem_cons, hid.symm]
    · simp only [hempty, if_false, List.mem_cons, exists_eq_or_imp]
      constructor
      · rintro ((h | h) | h)
        · exact Or.inr (Or.inl h.symm)
        · exact Or.inl h
        · exact Or.inr (Or.inr h)
      · rintro (h | h | h)
        · exact Or.inl (Or.inr h)
        · exact Or.inl (Or.inl h.symm)
        · exact Or.inr h

/-- A creator is eligible when it is safe and its open id is there for the first time. -/
theorem eligible_iff (creators : List CreatorCandidate) (i : Nat) (creator : CreatorCandidate) :
    (evaluate lang input (seenBefore [] creators i) creator).eligibility = .ELIGIBLE ↔
      Safe lang input creator ∧
        ∀ earlier ∈ creators.take i, earlier.creatorOpenId ≠ creator.creatorOpenId := by
  rw [eligible_evaluate]
  constructor
  · rintro ⟨hsafe, hseen⟩
    refine ⟨hsafe, ?_⟩
    intro earlier hearlier hsame
    exact hseen ((mem_seenBefore hsafe.id _ _ _).2 (Or.inr ⟨earlier, hearlier, hsame⟩))
  · rintro ⟨hsafe, hfirst⟩
    refine ⟨hsafe, ?_⟩
    intro hseen
    rcases (mem_seenBefore hsafe.id _ _ _).1 hseen with hnone | ⟨earlier, hearlier, hsame⟩
    · cases hnone
    · exact hfirst earlier hearlier hsame

/-- The creators and their evaluations, position by position. -/
theorem getElem?_evaluated {creators : List CreatorCandidate} {i : Nat} {c : EvaluatedCreator}
    (h : (evaluateFrom lang input [] creators)[i]? = some c) :
    ∃ creator, creators[i]? = some creator ∧
      c = evaluate lang input (seenBefore [] creators i) creator := by
  rw [getElem?_evaluateFrom, Option.map_eq_some_iff] at h
  obtain ⟨creator, hi, hc⟩ := h
  exact ⟨creator, hi, hc.symm⟩

theorem mem_take_of_getElem? {creators : List CreatorCandidate} {i j : Nat}
    {creator : CreatorCandidate} (h : creators[i]? = some creator) (hij : i < j) :
    creator ∈ creators.take j := by
  apply List.mem_of_getElem? (i := i)
  rw [List.getElem?_take, if_pos hij]
  exact h

/-- No open id is eligible twice. -/
theorem eligible_once {creators : List CreatorCandidate} {i j : Nat} {a b : EvaluatedCreator}
    (hi : (evaluateFrom lang input [] creators)[i]? = some a)
    (hj : (evaluateFrom lang input [] creators)[j]? = some b) (ha : a.eligibility = .ELIGIBLE)
    (hb : b.eligibility = .ELIGIBLE) (hid : a.creatorOpenId = b.creatorOpenId) : i = j := by
  obtain ⟨creator, hgeti, rfl⟩ := getElem?_evaluated hi
  obtain ⟨creator', hgetj, rfl⟩ := getElem?_evaluated hj
  have hfirst := ((eligible_iff creators i creator).1 ha).2
  have hfirst' := ((eligible_iff creators j creator').1 hb).2
  have hsame : creator.creatorOpenId = creator'.creatorOpenId := hid
  -- the later one of two positions has the open id of an earlier one
  rcases Nat.lt_trichotomy i j with hlt | heq | hgt
  · have hmem : creator ∈ creators.take j := mem_take_of_getElem? hgeti hlt
    exact absurd hsame (hfirst' creator hmem)
  · exact heq
  · have hmem : creator' ∈ creators.take i := mem_take_of_getElem? hgetj hgt
    exact absurd hsame.symm (hfirst creator' hmem)

end List

/-! ## The order -/

section Order

variable {lang : Language} {input : PreviewInput}

/-- A creator ranks before another one: by the metric in the chosen direction, and then by the
open id. -/
def Precedes (lang : Language) (input : PreviewInput) (a b : EvaluatedCreator) : Prop :=
  (if input.rankingDirection = some .ASC then a.rankingValue < b.rankingValue
    else b.rankingValue < a.rankingValue) ∨
    a.rankingValue = b.rankingValue ∧ lang.localeCompare.lt a.creatorOpenId b.creatorOpenId

theorem multiplier_ne_zero (direction : Option RankingDirection) : multiplier direction ≠ 0 := by
  unfold multiplier
  split <;> norm_num

theorem byMetric_eq_zero (direction : Option RankingDirection) (x y : ℚ) :
    (x - y) * multiplier direction = 0 ↔ x = y := by
  rw [mul_eq_zero, sub_eq_zero]
  simp [multiplier_ne_zero]

theorem byMetric_neg (direction : Option RankingDirection) (x y : ℚ) :
    (x - y) * multiplier direction < 0 ↔ if direction = some .ASC then x < y else y < x := by
  unfold multiplier
  by_cases h : direction = some .ASC
  · simp [h]
  · simp [h]

theorem localeLe_iff (a b : String) : localeLe lang a b = true ↔ lang.localeCompare.le a b := by
  unfold localeLe
  exact @decide_eq_true_iff _ (lang.localeCompare.toDecidableLE a b)

theorem notBehind_iff (a b : EvaluatedCreator) : notBehind lang input a b = true ↔
    (if input.rankingDirection = some .ASC then a.rankingValue < b.rankingValue
      else b.rankingValue < a.rankingValue) ∨
    a.rankingValue = b.rankingValue ∧ lang.localeCompare.le a.creatorOpenId b.creatorOpenId := by
  unfold notBehind
  by_cases heq : a.rankingValue = b.rankingValue
  · have hzero := (byMetric_eq_zero input.rankingDirection _ _).2 heq
    simp only [hzero, if_true, localeLe_iff]
    simp [heq]
  · have hne : ¬ (a.rankingValue - b.rankingValue) * multiplier input.rankingDirection = 0 :=
      fun h => heq ((byMetric_eq_zero input.rankingDirection _ _).1 h)
    simp only [hne, if_false, decide_eq_true_eq, byMetric_neg, heq, false_and, or_false]

instance : Std.Total (fun a b => notBehind lang input a b = true) where
  total a b := by
    rw [notBehind_iff, notBehind_iff]
    rcases lt_trichotomy a.rankingValue b.rankingValue with hlt | heq | hgt
    · by_cases h : input.rankingDirection = some .ASC
      · exact Or.inl (Or.inl (by simpa [h] using hlt))
      · exact Or.inr (Or.inl (by simpa [h] using hlt))
    · rcases lang.localeCompare.le_total a.creatorOpenId b.creatorOpenId with hle | hle
      · exact Or.inl (Or.inr ⟨heq, hle⟩)
      · exact Or.inr (Or.inr ⟨heq.symm, hle⟩)
    · by_cases h : input.rankingDirection = some .ASC
      · exact Or.inr (Or.inl (by simpa [h] using hgt))
      · exact Or.inl (Or.inl (by simpa [h] using hgt))

instance : IsTrans EvaluatedCreator (fun a b => notBehind lang input a b = true) where
  trans a b c := by
    rw [notBehind_iff, notBehind_iff, notBehind_iff]
    rintro (hab | ⟨hab, hle⟩) (hbc | ⟨hbc, hle'⟩)
    · left
      split at hab <;> rename_i h <;> simp only [h, if_true, if_false] at hbc ⊢
      · exact hab.trans hbc
      · exact hbc.trans hab
    · left
      rw [← hbc]
      exact hab
    · left
      rw [hab]
      exact hbc
    · exact Or.inr ⟨hab.trans hbc, lang.localeCompare.le_trans _ _ _ hle hle'⟩

/-- The same order of creators with their positions. -/
instance : Std.Total (fun a b : EvaluatedCreator × Nat => notBehind lang input a.1 b.1 = true) where
  total a b := Std.Total.total (r := fun a b => notBehind lang input a b = true) a.1 b.1

instance : IsTrans (EvaluatedCreator × Nat)
    (fun a b => notBehind lang input a.1 b.1 = true) where
  trans a b c := IsTrans.trans (r := fun a b => notBehind lang input a b = true) a.1 b.1 c.1

/-- Between creators with different open ids there is no tie. -/
theorem precedes_of_notBehind {a b : EvaluatedCreator} (h : notBehind lang input a b = true)
    (hid : a.creatorOpenId ≠ b.creatorOpenId) : Precedes lang input a b := by
  rcases (notBehind_iff a b).1 h with hmetric | ⟨hsame, hle⟩
  · exact Or.inl hmetric
  · refine Or.inr ⟨hsame, ?_⟩
    exact @lt_of_le_of_ne _ lang.localeCompare.toPartialOrder _ _ hle hid

end Order

/-! ## The selection -/

section Selection

variable {lang : Language} {input : PreviewInput}

def mark (positions : List Nat) (c : EvaluatedCreator × Nat) : EvaluatedCreator :=
  { c.1 with selected := positions.contains c.2 }

/-- The creators of the input, evaluated. -/
def evaluated (lang : Language) (input : PreviewInput) : List EvaluatedCreator :=
  evaluateFrom lang input [] input.creators

/-- The eligible creators with their positions, ranked. -/
def order (lang : Language) (input : PreviewInput) : List (EvaluatedCreator × Nat) :=
  ranked lang input (evaluated lang input)

/-- Those that are chosen. -/
def chosen (lang : Language) (input : PreviewInput) : List (EvaluatedCreator × Nat) :=
  (order lang input).take (sliceLength (order lang input).length input.requested)

/-- The creators of the preview. -/
def creators (lang : Language) (input : PreviewInput) : List EvaluatedCreator :=
  (evaluated lang input).zipIdx.map (mark ((chosen lang input).map (·.2)))

theorem mem_order {c : EvaluatedCreator × Nat} : c ∈ order lang input ↔
    (evaluated lang input)[c.2]? = some c.1 ∧ c.1.eligibility = .ELIGIBLE := by
  unfold order ranked
  rw [selection.mem_ranking, List.mem_filter, List.mem_zipIdx_iff_getElem?]
  simp

theorem nodup_zipIdx (l : List EvaluatedCreator) : l.zipIdx.Nodup := by
  apply List.Nodup.of_map (fun c => c.2)
  rw [List.zipIdx_map_snd]
  exact List.nodup_range'

theorem order_perm : (order lang input).Perm
    ((evaluated lang input).zipIdx.filter (fun c => c.1.eligibility = .ELIGIBLE)) :=
  selection.ranking_perm _ _

theorem nodup_order : (order lang input).Nodup := by
  rw [order_perm.nodup_iff]
  exact (nodup_zipIdx _).filter _

theorem nodup_ids : ((order lang input).map (fun c => c.1.creatorOpenId)).Nodup := by
  apply List.Nodup.map_on _ nodup_order
  intro a ha b hb hid
  obtain ⟨hgeta, hela⟩ := mem_order.1 ha
  obtain ⟨hgetb, helb⟩ := mem_order.1 hb
  have hpos : a.2 = b.2 := eligible_once hgeta hgetb hela helb hid
  rw [hpos, hgetb, Option.some.injEq] at hgeta
  exact Prod.ext hgeta.symm hpos

theorem order_precedes : (order lang input).Pairwise (fun a b => Precedes lang input a.1 b.1) := by
  have hsorted : (order lang input).Pairwise (fun a b => notBehind lang input a.1 b.1 = true) := by
    unfold order ranked
    exact selection.ranking_pairwise
      (fun a b : EvaluatedCreator × Nat => notBehind lang input a.1 b.1 = true) _
  have hids : (order lang input).Pairwise (fun a b => a.1.creatorOpenId ≠ b.1.creatorOpenId) :=
    List.pairwise_map.1 nodup_ids
  apply (hsorted.and hids).imp
  rintro a b ⟨hnot, hid⟩
  exact precedes_of_notBehind hnot hid

theorem mem_chosen_order {c : EvaluatedCreator × Nat} (h : c ∈ chosen lang input) :
    c ∈ order lang input :=
  List.mem_of_mem_take h

/-- The position of a creator is marked when the creator is chosen. -/
theorem selected_mark {c : EvaluatedCreator × Nat}
    (hc : (evaluated lang input)[c.2]? = some c.1) :
    (mark ((chosen lang input).map (·.2)) c).selected = true ↔ c ∈ chosen lang input := by
  unfold mark
  rw [List.contains_iff_mem, List.mem_map]
  constructor
  · rintro ⟨c', hc', hpos⟩
    have hget := (mem_order.1 (mem_chosen_order hc')).1
    rw [hpos, hc, Option.some.injEq] at hget
    rw [Prod.ext hget hpos.symm]
    exact hc'
  · intro hmem
    exact ⟨c, hmem, rfl⟩

theorem mem_creators {c : EvaluatedCreator} : c ∈ creators lang input ↔
    ∃ c' : EvaluatedCreator × Nat, (evaluated lang input)[c'.2]? = some c'.1 ∧
      mark ((chosen lang input).map (·.2)) c' = c := by
  unfold creators
  rw [List.mem_map]
  constructor
  · rintro ⟨c', hc', rfl⟩
    exact ⟨c', List.mem_zipIdx_iff_getElem?.1 hc', rfl⟩
  · rintro ⟨c', hc', rfl⟩
    exact ⟨c', List.mem_zipIdx_iff_getElem?.2 hc', rfl⟩

theorem getElem?_creators (i : Nat) : (creators lang input)[i]? =
    (evaluated lang input)[i]?.map (fun c => mark ((chosen lang input).map (·.2)) (c, i)) := by
  unfold creators
  rw [List.getElem?_map, List.getElem?_zipIdx, Option.map_map]
  simp [Function.comp_def]

/-- The eligible creators of the preview, ranked. -/
def rankedCreators (lang : Language) (input : PreviewInput) : List EvaluatedCreator :=
  (order lang input).map (mark ((chosen lang input).map (·.2)))

theorem rankedCreators_perm : (rankedCreators lang input).Perm
    ((creators lang input).filter (fun c => c.eligibility = .ELIGIBLE)) := by
  unfold rankedCreators creators
  rw [List.filter_map]
  exact order_perm.map _

theorem rankedCreators_precedes :
    (rankedCreators lang input).Pairwise (Precedes lang input) := by
  unfold rankedCreators
  rw [List.pairwise_map]
  exact order_precedes

theorem filter_order_selected : (order lang input).filter
    (fun c => (mark ((chosen lang input).map (·.2)) c).selected) = chosen lang input := by
  have hmem : (order lang input).filter (fun c => c ∈ chosen lang input) = chosen lang input :=
    selection.filter_mem_take nodup_order _
  refine Eq.trans ?_ hmem
  apply List.filter_congr
  intro c hc
  rw [Bool.eq_iff_iff, selected_mark (mem_order.1 hc).1, decide_eq_true_eq]

/-- The selected creators are the first ones. -/
theorem filter_rankedCreators (hrequested : 0 ≤ input.requested) :
    (rankedCreators lang input).filter (·.selected) =
      (rankedCreators lang input).take
        (min input.requested.toNat (rankedCreators lang input).length) := by
  have hlength : sliceLength (order lang input).length input.requested = input.requested.toNat := by
    unfold sliceLength
    rw [if_neg (by omega)]
  have hchosen : chosen lang input = (order lang input).take input.requested.toNat := by
    unfold chosen
    rw [hlength]
  rw [← List.take_eq_take_min]
  unfold rankedCreators
  rw [List.filter_map, ← List.map_take, ← hchosen]
  exact congrArg _ filter_order_selected

theorem eligible_of_selected {c : EvaluatedCreator} (hc : c ∈ creators lang input)
    (hselected : c.selected = true) : c.eligibility = .ELIGIBLE := by
  obtain ⟨c', hget, rfl⟩ := mem_creators.1 hc
  exact (mem_order.1 (mem_chosen_order ((selected_mark hget).1 hselected))).2

theorem eligible_creator_iff {i : Nat} {c : EvaluatedCreator}
    (hi : (creators lang input)[i]? = some c) : c.eligibility = .ELIGIBLE ↔
      Safe lang input c.toCreatorCandidate ∧
        ∀ earlier ∈ input.creators.take i, earlier.creatorOpenId ≠ c.creatorOpenId := by
  rw [getElem?_creators, Option.map_eq_some_iff] at hi
  obtain ⟨c', hget, rfl⟩ := hi
  obtain ⟨creator, _, rfl⟩ := getElem?_evaluated hget
  exact eligible_iff input.creators i creator

theorem creators_candidates :
    (creators lang input).map (·.toCreatorCandidate) = input.creators := by
  apply List.ext_getElem?
  intro i
  rw [List.getElem?_map, getElem?_creators, Option.map_map]
  unfold evaluated
  rw [getElem?_evaluateFrom, Option.map_map]
  cases input.creators[i]? <;> rfl

theorem rankingValue_of_mem {c : EvaluatedCreator} (hc : c ∈ creators lang input) :
    c.rankingValue = rankingValue lang c.toCreatorCandidate input.rankingMetric := by
  obtain ⟨c', hget, rfl⟩ := mem_creators.1 hc
  obtain ⟨creator, _, hc'⟩ := getElem?_evaluated hget
  unfold mark
  rw [hc']
  rfl

theorem of_buildPreview {preview : PreviewResult} (h : buildPreview lang input = .ok preview) :
    0 ≤ input.cooldownDays ∧ input.cooldownDays ≤ MAX_CONTACT_COOLDOWN_DAYS ∧
      preview.creators = creators lang input ∧
      preview.summary = summarize lang input (creators lang input) := by
  unfold buildPreview assertContactCooldownDays at h
  by_cases hdays : input.cooldownDays < 0 ∨ MAX_CONTACT_COOLDOWN_DAYS < input.cooldownDays
  · rw [if_pos hdays] at h
    cases h
  · rw [if_neg hdays] at h
    cases h
    exact ⟨by omega, by omega, rfl, rfl⟩

/-- The creators of a preview, with a ranking of those that are eligible. -/
structure SelectsFirst (lang : Language) (input : PreviewInput) (preview : PreviewResult)
    (ranking : List EvaluatedCreator) : Prop where
  creators : preview.creators.map (·.toCreatorCandidate) = input.creators
  value : ∀ c ∈ preview.creators,
    c.rankingValue = rankingValue lang c.toCreatorCandidate input.rankingMetric
  /-- A creator is eligible when it is safe and its open id is there for the first time. -/
  eligible : ∀ i c, preview.creators[i]? = some c → (c.eligibility = .ELIGIBLE ↔
    Safe lang input c.toCreatorCandidate ∧
      ∀ earlier ∈ input.creators.take i, earlier.creatorOpenId ≠ c.creatorOpenId)
  ranks : ranking.Perm (preview.creators.filter (fun c => c.eligibility = .ELIGIBLE))
  order : ranking.Pairwise (Precedes lang input)
  first : ranking.filter (·.selected) = ranking.take (min input.requested.toNat ranking.length)
  selected : ∀ c ∈ preview.creators, c.selected = true →
    c.eligibility = .ELIGIBLE ∧ Safe lang input c.toCreatorCandidate
  distinct : ((preview.creators.filter (·.selected)).map (·.creatorOpenId)).Nodup
  before : ∀ a ∈ preview.creators, ∀ b ∈ preview.creators, a.selected = true →
    b.eligibility = .ELIGIBLE → b.selected = false → Precedes lang input a b

/-- Of what is selected and what is not, the selected creator comes first. -/
theorem precedes_of_selected (hrequested : 0 ≤ input.requested) {a b : EvaluatedCreator}
    (ha : a ∈ creators lang input) (hb : b ∈ creators lang input) (hselected : a.selected = true)
    (heligible : b.eligibility = .ELIGIBLE) (hnot : b.selected = false) :
    Precedes lang input a b := by
  have hparts : (rankedCreators lang input).take
        (min input.requested.toNat (rankedCreators lang input).length) ++
      (rankedCreators lang input).drop
        (min input.requested.toNat (rankedCreators lang input).length) =
      rankedCreators lang input := List.take_append_drop _ _
  have hmem : ∀ c ∈ creators lang input, c.eligibility = .ELIGIBLE →
      c ∈ rankedCreators lang input := by
    intro c hc hel
    rw [rankedCreators_perm.mem_iff, List.mem_filter]
    exact ⟨hc, by simpa using hel⟩
  have hfirst : a ∈ (rankedCreators lang input).take
      (min input.requested.toNat (rankedCreators lang input).length) := by
    rw [← filter_rankedCreators hrequested, List.mem_filter]
    exact ⟨hmem a ha (eligible_of_selected ha hselected), hselected⟩
  have hrest : b ∈ (rankedCreators lang input).drop
      (min input.requested.toNat (rankedCreators lang input).length) := by
    have hranked := hmem b hb heligible
    rw [← hparts, List.mem_append] at hranked
    rcases hranked with htake | hdrop
    · rw [← filter_rankedCreators hrequested, List.mem_filter] at htake
      rw [hnot] at htake
      cases htake.2
    · exact hdrop
  have hpairwise : (rankedCreators lang input).Pairwise (Precedes lang input) :=
    rankedCreators_precedes
  rw [← hparts] at hpairwise
  exact (List.pairwise_append.1 hpairwise).2.2 a hfirst b hrest

theorem nodup_selected_ids :
    (((creators lang input).filter (·.selected)).map (·.creatorOpenId)).Nodup := by
  have hsub : ((creators lang input).filter (·.selected)).Sublist
      ((creators lang input).filter (fun c => c.eligibility = .ELIGIBLE)) := by
    have hsame : (creators lang input).filter (·.selected) =
        ((creators lang input).filter (fun c => c.eligibility = .ELIGIBLE)).filter
          (·.selected) := by
      rw [List.filter_filter]
      apply List.filter_congr
      intro c hc
      by_cases hselected : c.selected = true
      · simp [hselected, eligible_of_selected hc hselected]
      · simp [hselected]
    rw [hsame]
    exact List.filter_sublist
  have hids : ((rankedCreators lang input).map (·.creatorOpenId)).Nodup := by
    unfold rankedCreators
    rw [List.map_map]
    exact nodup_ids
  rw [(rankedCreators_perm.map _).nodup_iff] at hids
  exact hids.sublist (hsub.map _)

/-- A preview selects the first of the eligible creators, by the metric and then by the open id.
They have different open ids, match the filters, and nothing forbids to write to them. -/
theorem preview_selects_the_first (hrequested : 0 ≤ input.requested) {preview : PreviewResult}
    (h : buildPreview lang input = .ok preview) :
    ∃ ranking, SelectsFirst lang input preview ranking := by
  obtain ⟨_, _, hcreators, _⟩ := of_buildPreview h
  have heligible : ∀ i c, (preview_rules.creators lang input)[i]? = some c →
      (c.eligibility = .ELIGIBLE ↔ Safe lang input c.toCreatorCandidate ∧
        ∀ earlier ∈ input.creators.take i, earlier.creatorOpenId ≠ c.creatorOpenId) :=
    fun i c hi => eligible_creator_iff hi
  refine ⟨rankedCreators lang input, ?_⟩
  constructor
  · rw [hcreators]
    exact creators_candidates
  · rw [hcreators]
    intro c hc
    exact rankingValue_of_mem hc
  · rw [hcreators]
    exact heligible
  · rw [hcreators]
    exact rankedCreators_perm
  · exact rankedCreators_precedes
  · exact filter_rankedCreators hrequested
  · rw [hcreators]
    intro c hc hselected
    have hel := eligible_of_selected hc hselected
    obtain ⟨i, hi⟩ := List.getElem?_of_mem hc
    exact ⟨hel, ((heligible i c hi).1 hel).1⟩
  · rw [hcreators]
    exact nodup_selected_ids
  · rw [hcreators]
    intro a ha b hb hselected hel hnot
    exact precedes_of_selected hrequested ha hb hselected hel hnot

end Selection

/-! ## A sample -/

/-- A language whose texts are all in lower case and without spaces. -/
def plainLanguage : Language where
  toLowerCase := id
  toUpperCase := id
  trim := id
  Number := fun _ => 0
  toISOString := fun _ => ""
  localeCompare := inferInstance

def sampleInput : PreviewInput where
  creators := [⟨"b", none, none, [], some 5, none, none, none, none, none, 0⟩,
    ⟨"a", none, none, [], some 5, none, none, none, none, none, 1⟩,
    ⟨"a", none, none, [], some 9, none, none, none, none, none, 2⟩]
  requested := 1
  cooldownDays := 30
  rankingMetric := .FOLLOWERS
  now := 0

theorem sample_selects_the_first : ∃ preview ranking,
    buildPreview plainLanguage sampleInput = .ok preview ∧
      SelectsFirst plainLanguage sampleInput preview ranking := by
  obtain ⟨ranking, hranking⟩ := @preview_selects_the_first plainLanguage sampleInput
    (by decide) _ rfl
  exact ⟨_, ranking, rfl, hranking⟩

/-! ## The counts -/

section Counts

variable {lang : Language} {input : PreviewInput}

theorem eligible_evaluate_iff (seen : List String) (creator : CreatorCandidate) :
    (evaluate lang input seen creator).eligibility = .ELIGIBLE ↔
      (evaluate lang input seen creator).skipReason = none := by
  unfold evaluate
  cases hskip : (skip lang input seen creator).1 <;> simp [hskip]

theorem skipReason_of_mem {c : EvaluatedCreator} (hc : c ∈ creators lang input) :
    c.eligibility = .ELIGIBLE ↔ c.skipReason = none := by
  obtain ⟨c', hget, rfl⟩ := mem_creators.1 hc
  obtain ⟨creator, _, hc'⟩ := getElem?_evaluated hget
  have hiff := @eligible_evaluate_iff lang input
    (seenBefore [] input.creators c'.2) creator
  rw [← hc'] at hiff
  exact hiff

/-- Every creator is counted for its reason, or as an eligible one. -/
theorem length_eq_counts (l : List EvaluatedCreator)
    (h : ∀ c ∈ l, c.eligibility = .ELIGIBLE ↔ c.skipReason = none) :
    l.length = count l .INVALID_MESSAGING_ID + count l .FILTER_MISMATCH + count l .DUPLICATE +
      count l .DO_NOT_CONTACT + count l .DELIVERY_UNKNOWN + count l .COOLDOWN +
      count l .CONTACTED_BY_APP_WITHIN_COOLDOWN + count l .ACTIVE_RESERVATION +
      l.countP (fun c => c.eligibility = .ELIGIBLE) := by
  unfold count
  induction l with
  | nil => rfl
  | cons c l ih =>
    have hc := h c List.mem_cons_self
    have hl := ih (fun c' hc' => h c' (List.mem_cons_of_mem c hc'))
    simp only [List.length_cons, List.countP_cons, hc]
    rcases hreason : c.skipReason with _ | reason
    · simp
      omega
    · cases reason <;> simp <;> omega

theorem countP_eligible_creators : (creators lang input).countP (fun c => c.eligibility = .ELIGIBLE) =
    (evaluated lang input).countP (fun c => c.eligibility = .ELIGIBLE) := by
  unfold creators
  rw [List.countP_map]
  have hfst : ((evaluated lang input).zipIdx.map Prod.fst) = evaluated lang input :=
    List.zipIdx_map_fst 0 _
  conv_rhs => rw [← hfst, List.countP_map]
  rfl

/-- The creators that are marked are those that are chosen. -/
theorem countP_selected : (creators lang input).countP (·.selected) =
    min (sliceLength ((creators lang input).countP (fun c => c.eligibility = .ELIGIBLE))
        input.requested)
      ((creators lang input).countP (fun c => c.eligibility = .ELIGIBLE)) := by
  have hlength : (creators lang input).countP (fun c => c.eligibility = .ELIGIBLE) =
      (order lang input).length := by
    rw [List.countP_eq_length_filter, ← rankedCreators_perm.length_eq]
    unfold rankedCreators
    rw [List.length_map]
  have hselected : (creators lang input).countP (·.selected) =
      (rankedCreators lang input).countP (·.selected) := by
    rw [rankedCreators_perm.countP_eq, List.countP_filter]
    apply List.countP_congr
    intro c hc
    by_cases h : c.selected = true
    · simp [h, eligible_of_selected hc h]
    · simp [h]
  have hchosen : (rankedCreators lang input).countP (·.selected) = (chosen lang input).length := by
    have hlengths := congrArg List.length (@filter_order_selected lang input)
    unfold rankedCreators
    rw [List.countP_map, List.countP_eq_length_filter]
    exact hlengths
  rw [hselected, hchosen, hlength]
  unfold chosen
  rw [List.length_take]

/-- The equations of a summary. -/
structure Accounts (summary : PreviewSummary) : Prop where
  fetched : summary.fetchedOccurrences = summary.excludedByFilter + summary.skippedDuplicates +
    summary.skippedDoNotContact + summary.skippedUnknownDelivery + summary.skippedCooldown +
    summary.skippedActiveReservation + summary.eligible
  shortfall : summary.selected + summary.shortfall = summary.requested

theorem accounts_summarize : Accounts (summarize lang input (creators lang input)) := by
  constructor
  · have hlength := length_eq_counts (creators lang input) (fun c hc => skipReason_of_mem hc)
    simp only [summarize]
    omega
  · simp only [summarize]
    omega

/-- The count of the selected creators is the number of creators that are marked. -/
theorem selected_summarize (hrequested : 0 ≤ input.requested) :
    (summarize lang input (creators lang input)).selected =
      (creators lang input).countP (·.selected) := by
  have hslice : sliceLength ((creators lang input).countP (fun c => c.eligibility = .ELIGIBLE))
      input.requested = input.requested.toNat := by
    unfold sliceLength
    rw [if_neg (by omega)]
  rw [countP_selected, hslice]
  simp only [summarize]
  omega

end Counts

/-! ## Stricter inputs -/

section Stricter

variable {lang : Language} {a b : PreviewInput}

/-- The second input differs from the first one in stricter facts only: a longer cooldown, more
reservations and flags, later contacts or new ones. -/
structure Stricter (a b : PreviewInput) : Prop where
  creators : b.creators = a.creators
  filters : b.filters = a.filters
  requested : b.requested = a.requested
  now : b.now = a.now
  cooldown : a.cooldownDays ≤ b.cooldownDays
  reservations : ∀ id ∈ a.activeReservations, id ∈ b.activeReservations
  contacts : ∀ id contact, a.contacts.get id = some contact →
    ∃ contact', b.contacts.get id = some contact' ∧
      (contact.doNotContact = true → contact'.doNotContact = true) ∧
      (contact.unresolvedDelivery = true → contact'.unresolvedDelivery = true) ∧
      ∀ time, contact.lastContactedAt = some time →
        ∃ later, contact'.lastContactedAt = some later ∧ time ≤ later

theorem safe_of_stricter (h : Stricter a b) {creator : CreatorCandidate}
    (hsafe : Safe lang b creator) : Safe lang a creator := by
  have hcutoff : cutoff b ≤ cutoff a := by
    have hcooldown := h.cooldown
    unfold cutoff
    rw [h.now]
    omega
  obtain ⟨hid, hfilters, hcontact, hfree⟩ := hsafe
  constructor
  · exact hid
  · rw [← h.filters]
    exact hfilters
  · intro contact hget
    obtain ⟨contact', hget', hnot, hunresolved, hlast⟩ := h.contacts _ contact hget
    obtain ⟨hnot', hunresolved', hlast'⟩ := hcontact contact' hget'
    refine ⟨?_, ?_, ?_⟩
    · rw [← Bool.not_eq_true]
      intro hflag
      rw [hnot hflag] at hnot'
      cases hnot'
    · rw [← Bool.not_eq_true]
      intro hflag
      rw [hunresolved hflag] at hunresolved'
      cases hunresolved'
    · intro time htime
      obtain ⟨later, hlater, hle⟩ := hlast time htime
      have hpast := hlast' later hlater
      omega
  · intro hmem
    exact hfree (h.reservations _ hmem)

theorem countP_evaluateFrom_le (h : Stricter a b) (seen : List String)
    (creators : List CreatorCandidate) :
    (evaluateFrom lang b seen creators).countP (fun c => c.eligibility = .ELIGIBLE) ≤
      (evaluateFrom lang a seen creators).countP (fun c => c.eligibility = .ELIGIBLE) := by
  induction creators generalizing seen with
  | nil => exact Nat.le_refl _
  | cons creator rest ih =>
    have hrest := ih (addSeen seen creator)
    simp only [evaluateFrom, List.countP_cons, decide_eq_true_eq]
    by_cases hb : (evaluate lang b seen creator).eligibility = .ELIGIBLE
    · have ha : (evaluate lang a seen creator).eligibility = .ELIGIBLE := by
        rw [eligible_evaluate] at hb ⊢
        exact ⟨safe_of_stricter h hb.1, hb.2⟩
      rw [if_pos hb, if_pos ha]
      omega
    · rw [if_neg hb]
      omega

theorem sliceLength_mono {m n : Nat} (h : m ≤ n) (stop : Int) :
    sliceLength m stop ≤ sliceLength n stop := by
  unfold sliceLength
  split <;> omega

/-- With stricter facts no position becomes eligible, and the counts do not grow. -/
theorem stricter_facts_exclude_more (h : Stricter a b) {previewA previewB : PreviewResult}
    (ha : buildPreview lang a = .ok previewA) (hb : buildPreview lang b = .ok previewB) :
    (∀ (i : Nat) (c : EvaluatedCreator), previewB.creators[i]? = some c →
      c.eligibility = .ELIGIBLE → ∃ c', previewA.creators[i]? = some c' ∧ c'.eligibility = .ELIGIBLE) ∧
    previewB.summary.eligible ≤ previewA.summary.eligible ∧
    previewB.summary.selected ≤ previewA.summary.selected ∧
    previewB.creators.countP (·.selected) ≤ previewA.creators.countP (·.selected) := by
  obtain ⟨_, _, hcreatorsA, hsummaryA⟩ := of_buildPreview ha
  obtain ⟨_, _, hcreatorsB, hsummaryB⟩ := of_buildPreview hb
  have hcount : (creators lang b).countP (fun c => c.eligibility = .ELIGIBLE) ≤
      (creators lang a).countP (fun c => c.eligibility = .ELIGIBLE) := by
    rw [countP_eligible_creators, countP_eligible_creators]
    unfold evaluated
    rw [h.creators]
    exact countP_evaluateFrom_le h [] a.creators
  refine ⟨?_, ?_, ?_, ?_⟩
  · rw [hcreatorsA, hcreatorsB]
    intro i c hi hel
    obtain ⟨hsafe, hfirst⟩ := (eligible_creator_iff hi).1 hel
    have hcandidate : (creators lang b)[i]?.map (·.toCreatorCandidate) = a.creators[i]? := by
      rw [← h.creators, ← @creators_candidates lang b, List.getElem?_map]
    have hcandidate' : (creators lang a)[i]?.map (·.toCreatorCandidate) = a.creators[i]? := by
      rw [← List.getElem?_map, creators_candidates]
    rw [hi, Option.map_some] at hcandidate
    rw [← hcandidate, Option.map_eq_some_iff] at hcandidate'
    obtain ⟨c', hi', hsame⟩ := hcandidate'
    refine ⟨c', hi', (eligible_creator_iff hi').2 ⟨?_, ?_⟩⟩
    · rw [hsame]
      exact safe_of_stricter h hsafe
    · rw [h.creators] at hfirst
      have hid : c'.creatorOpenId = c.creatorOpenId := by rw [hsame]
      rw [hid]
      exact hfirst
  · rw [hsummaryA, hsummaryB]
    exact hcount
  · rw [hsummaryA, hsummaryB]
    have hrequested := h.requested
    simp only [summarize]
    omega
  · rw [hcreatorsA, hcreatorsB, countP_selected, countP_selected, h.requested]
    have hslice := sliceLength_mono hcount a.requested
    omega

end Stricter

/-- A longer cooldown and a reservation. -/
def stricterInput : PreviewInput :=
  { sampleInput with cooldownDays := 60, activeReservations := ["a"] }

theorem stricter_sampleInput : Stricter sampleInput stricterInput where
  creators := rfl
  filters := rfl
  requested := rfl
  now := rfl
  cooldown := by decide
  reservations := by simp [sampleInput]
  contacts := by simp [sampleInput]

theorem stricter_sample_excludes_more : ∃ preview previewB,
    buildPreview plainLanguage sampleInput = .ok preview ∧
      buildPreview plainLanguage stricterInput = .ok previewB ∧
      previewB.summary.eligible ≤ preview.summary.eligible := by
  have hcounts := (@stricter_facts_exclude_more plainLanguage _ _ stricter_sampleInput _ _ rfl
    rfl).2.1
  exact ⟨_, _, rfl, rfl, hcounts⟩

end tiktok_outreach.preview_rules
