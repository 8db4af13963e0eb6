-- What the keys of partitions tell: with decimal category ids, no two
-- combinations have one key, and the key of a child tells the key of its
-- parent.
import TiktokOutreach.MarketplacePartitions
import TiktokOutreach.Lib.Separated

open separated tiktok_outreach.creator_schema

namespace tiktok_outreach.marketplace_partitions

/-! ## Labels -/

theorem free_maxLabel {c : Char} (hdigit : c.isDigit = false) (hplus : c ∉ ['p', 'l', 'u', 's'])
    (max : Option Nat) : Free c (maxLabel max) := by
  cases max with
  | none => exact hplus
  | some max => exact free_repr hdigit max

theorem maxLabel_inj {max max' : Option Nat} (h : maxLabel max = maxLabel max') : max = max' := by
  -- "plus" is no number
  have hplus : ∀ n : Nat, n.repr ≠ "plus" := by
    intro n hn
    have hfree : Free 'p' n.repr := free_repr (by decide) n
    rw [hn] at hfree
    exact hfree (by decide)
  cases max with
  | none =>
    cases max' with
    | none => rfl
    | some max' => exact absurd h.symm (hplus max')
  | some max =>
    cases max' with
    | none => exact absurd h (hplus max)
    | some max' => rw [Nat.repr_inj.1 h]

theorem free_followersLabel (min : Nat) (max : Option Nat) : Free ':' (followersLabel min max) := by
  unfold followersLabel
  have hmin : Free ':' min.repr := free_repr (by decide) min
  have hmax : Free ':' (maxLabel max) := free_maxLabel (by decide) (by decide) max
  exact free_append (free_append (free_append (by decide) hmin) (by decide)) hmax

theorem followersLabel_inj {min min' : Nat} {max max' : Option Nat}
    (h : followersLabel min max = followersLabel min' max') : min = min' ∧ max = max' := by
  unfold followersLabel at h
  have hlist := congrArg String.toList h
  simp only [String.toList_append, List.append_assoc] at hlist
  have hcut := cut_first (c := '-') (free_repr (by decide) min) (free_repr (by decide) min')
    (List.append_cancel_left hlist)
  exact ⟨Nat.repr_inj.1 (String.toList_inj.1 hcut.1), maxLabel_inj (String.toList_inj.1 hcut.2)⟩

theorem gmvBucketName_inj {g g' : GmvBucketCode}
    (h : (gmvBucketName g).toLower = (gmvBucketName g').toLower) : g = g' := by
  have hlist := congrArg String.toList h
  unfold String.toLower at hlist
  rw [String.toList_map, String.toList_map] at hlist
  revert hlist
  cases g <;> cases g' <;> decide

/-! ## Keys -/

/-- Two keys that start with the decimal ids of a parent and a child have the same ids and the same
rest. -/
theorem cut_pair {p p' c c' : String} {rest rest' : List Char} (hp : Decimal p)
    (hp' : Decimal p') (hc : Decimal c) (hc' : Decimal c')
    (h : p.toList ++ ':' :: (c.toList ++ ':' :: rest) =
      p'.toList ++ ':' :: (c'.toList ++ ':' :: rest')) : p = p' ∧ c = c' ∧ rest = rest' := by
  have hcolon : ':'.isDigit = false := by decide
  obtain ⟨h1, h2⟩ := cut_first (hp.free hcolon) (hp'.free hcolon) h
  obtain ⟨h3, h4⟩ := cut_first (hc.free hcolon) (hc'.free hcolon) h2
  exact ⟨String.toList_inj.1 h1, String.toList_inj.1 h3, h4⟩

theorem combinationKey_eq {p c : String} (hp : Decimal p) (hc : Decimal c) (min : Nat)
    (max : Option Nat) (g : GmvBucketCode) :
    specificGmvCombinationKey (some p) (some c) (some min) max (some g) =
      some (p ++ ":" ++ c ++ ":" ++ min.repr ++ ":" ++ maxLabel max ++ ":" ++
        (gmvBucketName g).toLower) := by
  have hspecific : isSpecificGmvBucket (some g) = true := by cases g <;> rfl
  simp [specificGmvCombinationKey, hp.1, hc.1, hspecific, hp.toLower, hc.toLower]

theorem combinationKey_inj {p p' c c' : String} {min min' : Nat} {max max' : Option Nat}
    {g g' : GmvBucketCode} (hp : Decimal p) (hp' : Decimal p') (hc : Decimal c) (hc' : Decimal c')
    (h : specificGmvCombinationKey (some p) (some c) (some min) max (some g) =
      specificGmvCombinationKey (some p') (some c') (some min') max' (some g')) :
    p = p' ∧ c = c' ∧ min = min' ∧ max = max' ∧ g = g' := by
  rw [combinationKey_eq hp hc, combinationKey_eq hp' hc', Option.some.injEq] at h
  have hlist := congrArg String.toList h
  simp only [String.toList_append, List.append_assoc] at hlist
  obtain ⟨rfl, rfl, hrest⟩ := cut_pair hp hp' hc hc' hlist
  have hcolon : ':'.isDigit = false := by decide
  obtain ⟨hmin, hrest'⟩ := cut_first (c := ':') (free_repr hcolon min) (free_repr hcolon min') hrest
  obtain ⟨hmax, hg⟩ := cut_first (c := ':') (free_maxLabel hcolon (by decide) max)
    (free_maxLabel hcolon (by decide) max') hrest'
  exact ⟨rfl, rfl, Nat.repr_inj.1 (String.toList_inj.1 hmin), maxLabel_inj (String.toList_inj.1 hmax),
    gmvBucketName_inj (String.toList_inj.1 hg)⟩

theorem partitionKeyV2_inj {p p' c c' : String} {min min' : Nat} {max max' : Option Nat}
    {g g' : GmvBucketCode} (hp : Decimal p) (hp' : Decimal p') (hc : Decimal c) (hc' : Decimal c')
    (h : partitionKeyV2 p c min max (some g) = partitionKeyV2 p' c' min' max' (some g')) :
    p = p' ∧ c = c' ∧ min = min' ∧ max = max' ∧ g = g' := by
  unfold partitionKeyV2 at h
  rw [hp.toLower, hp'.toLower, hc.toLower, hc'.toLower] at h
  have hlist := congrArg String.toList h
  simp only [String.toList_append, List.append_assoc] at hlist
  obtain ⟨rfl, rfl, hrest⟩ := cut_pair hp hp' hc hc' (List.append_cancel_left hlist)
  obtain ⟨hlabel, hg⟩ := cut_first (c := ':') (free_followersLabel min max)
    (free_followersLabel min' max') hrest
  obtain ⟨hmin, hmax⟩ := followersLabel_inj (String.toList_inj.1 hlabel)
  exact ⟨rfl, rfl, hmin, hmax, gmvBucketName_inj (String.toList_inj.1 hg)⟩

theorem adaptiveFollowerPartitionKey_inj {key key' : String} {min min' max max' : Nat}
    (h : adaptiveFollowerPartitionKey key min max = adaptiveFollowerPartitionKey key' min' max') :
    key = key' ∧ min = min' ∧ max = max' := by
  unfold adaptiveFollowerPartitionKey at h
  have hlist := congrArg String.toList h
  simp only [String.toList_append, List.append_assoc] at hlist
  obtain ⟨hkey, hlabel⟩ := cut_last (c := ':') (free_followersLabel min (some max))
    (free_followersLabel min' (some max')) (List.append_cancel_left hlist)
  obtain ⟨hmin, hmax⟩ := followersLabel_inj (String.toList_inj.1 hlabel)
  exact ⟨String.toList_inj.1 hkey, hmin, Option.some.inj hmax⟩

/-- The key of a child is not the key of a seed. -/
theorem adaptiveKey_ne_partitionKeyV2 {key p c : String} {min min' max' : Nat} {max : Option Nat}
    {g : Option GmvBucketCode} :
    adaptiveFollowerPartitionKey key min' max' ≠ partitionKeyV2 p c min max g := by
  intro h
  unfold adaptiveFollowerPartitionKey partitionKeyV2 at h
  have hlist := congrArg String.toList h
  simp only [String.toList_append, List.append_assoc] at hlist
  have hhead := congrArg (fun l => l.take 2) hlist
  revert hhead
  simp

end tiktok_outreach.marketplace_partitions
