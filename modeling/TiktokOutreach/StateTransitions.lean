-- The states of campaigns and deliveries, and every transition between them.
import TiktokOutreach.DispatchCore

open tiktok_outreach.schema tiktok_outreach.dispatch_safety tiktok_outreach.commands

namespace tiktok_outreach.dispatch_core

/-! ## Campaigns -/

/-- An action takes the campaign `c` from one state to another. -/
inductive Transition (c : CampaignId) : Action → CampaignState → CampaignState → Prop
  /-- A write by the id of the campaign, which asks nothing of its state. -/
  | write (s s' : CampaignState) : Transition c (.setCampaign c s') s s'
  | claim (id : DeliveryId) (now : Int) (s : CampaignState) (hid : id.campaignId = c)
      (hs : dispatching s = true) : Transition c (.claim id now) s .RUNNING
  | pauseShop (s : CampaignState) (hs : dispatching s = true) :
      Transition c (.pauseShop c.shopId) s .SAFETY_PAUSED
  | acknowledgePause : Transition c (.acknowledgePause c) .PAUSE_REQUESTED .PAUSED
  | expire : Transition c .expire .FROZEN .PREVIEW_EXPIRED
  | freeze (expiresAt deletedAt : Int) :
      Transition c (.freeze c expiresAt deletedAt) .PREVIEW_READY .FROZEN
  | freezeNothing (expiresAt deletedAt : Int) :
      Transition c (.freeze c expiresAt deletedAt) .PREVIEW_READY .PREVIEW_EXPIRED
  | queue : Transition c (.queue c) .FROZEN .QUEUED
  | cancel (s : CampaignState) : Transition c (.cancel c) s .CANCELLED
  | rebuild (s : CampaignState) : Transition c (.rebuild c) s .PREVIEW_READY

theorem setCampaign_get (k : Core) (c c' : CampaignId) (s' : CampaignState) :
    (k.setCampaign c' s').campaign c =
      if c = c' then (k.campaign c).map (fun _ => s') else k.campaign c := rfl

/-- A step leaves the state of a campaign as it is, or takes one of its transitions. -/
theorem campaign_transition {a : Action} {k k' : Core} {c : CampaignId} {s : CampaignState}
    (hstep : a.Step k k') (hs : k.campaign c = some s) :
    k'.campaign c = some s ∨ ∃ s', k'.campaign c = some s' ∧ Transition c a s s' := by
  cases a with
  | nothing =>
    cases hstep
    exact Or.inl hs
  | settle id ds rs releases =>
    obtain ⟨_, rfl⟩ := hstep
    exact Or.inl hs
  | claim id now =>
    obtain ⟨_, _, ⟨s0, hs0, hdispatching⟩, _, rfl⟩ := hstep
    by_cases hid : c = id.campaignId
    · subst hid
      rw [hs] at hs0
      cases hs0
      exact Or.inr ⟨.RUNNING, by simp [Core.setRecipient, Core.setDelivery, Core.setCampaign, hs],
        .claim id now s rfl hdispatching⟩
    · exact Or.inl (by simp [Core.setRecipient, Core.setDelivery, Core.setCampaign, hid, hs])
  | setCampaign c' s' =>
    obtain ⟨_, rfl⟩ := hstep
    by_cases hc : c = c'
    · subst hc
      exact Or.inr ⟨s', by simp [setCampaign_get, hs], .write s s'⟩
    · exact Or.inl (by simp [setCampaign_get, hc, hs])
  | pauseShop shopId =>
    cases hstep
    by_cases hc : c.shopId = shopId ∧ dispatching s = true
    · obtain ⟨rfl, hd⟩ := hc
      exact Or.inr ⟨.SAFETY_PAUSED, by simp [hs, hd], .pauseShop s hd⟩
    · refine Or.inl ?_
      simp only [hs, Option.map_some, Option.some.injEq, ite_eq_right_iff, Bool.and_eq_true,
        decide_eq_true_eq]
      exact fun h => absurd h hc
  | acknowledgePause c' =>
    cases hstep
    by_cases hc : c = c' ∧ s = .PAUSE_REQUESTED
    · obtain ⟨rfl, rfl⟩ := hc
      exact Or.inr ⟨.PAUSED, by simp [hs], .acknowledgePause⟩
    · refine Or.inl ?_
      simp only [hs, Option.map_some, Option.some.injEq, ite_eq_right_iff, Bool.and_eq_true,
        decide_eq_true_eq]
      exact fun h => absurd h hc
  | expire =>
    obtain ⟨gone, h⟩ := hstep
    by_cases hc : gone c = true
    · have hfrozen := h.frozen c hc
      rw [hs] at hfrozen
      cases hfrozen
      exact Or.inr ⟨.PREVIEW_EXPIRED, by rw [h.campaign, if_pos hc], .expire⟩
    · exact Or.inl (by rw [h.campaign, if_neg hc, hs])
  | freeze c' expiresAt deletedAt =>
    obtain ⟨kept, h⟩ := hstep
    obtain ⟨s', hs', hcampaign⟩ := h.campaign
    rw [hcampaign, setCampaign_get]
    by_cases hc : c = c'
    · subst hc
      have hready := h.ready
      rw [hs] at hready
      cases hready
      rcases hs' with rfl | ⟨rfl, _⟩
      · exact Or.inr ⟨_, by simp [hs], .freeze expiresAt deletedAt⟩
      · exact Or.inr ⟨_, by simp [hs], .freezeNothing expiresAt deletedAt⟩
    · exact Or.inl (by simp [hc, hs])
  | queue c' =>
    obtain ⟨hfrozen, rfl⟩ := hstep
    by_cases hc : c = c'
    · subst hc
      rw [hs] at hfrozen
      cases hfrozen
      exact Or.inr ⟨.QUEUED, by simp [setCampaign_get, hs], .queue⟩
    · exact Or.inl (by simp [setCampaign_get, hc, hs])
  | cancel c' =>
    obtain ⟨_, rfl⟩ := hstep
    by_cases hc : c = c'
    · subst hc
      exact Or.inr ⟨.CANCELLED, by simp [setCampaign_get, hs], .cancel s⟩
    · exact Or.inl (by simp [setCampaign_get, hc, hs])
  | rebuild c' =>
    obtain ⟨_, hcampaign, _⟩ := hstep
    rw [hcampaign, setCampaign_get]
    by_cases hc : c = c'
    · subst hc
      exact Or.inr ⟨.PREVIEW_READY, by simp [hs], .rebuild s⟩
    · exact Or.inl (by simp [hc, hs])

/-- No step creates a campaign. -/
theorem campaign_none {a : Action} {k k' : Core} {c : CampaignId} (hstep : a.Step k k')
    (hk : k.campaign c = none) : k'.campaign c = none := by
  cases a with
  | nothing =>
    cases hstep
    exact hk
  | settle id ds rs releases =>
    obtain ⟨_, rfl⟩ := hstep
    exact hk
  | claim id now =>
    obtain ⟨_, _, _, _, rfl⟩ := hstep
    simp [Core.setRecipient, Core.setDelivery, Core.setCampaign, hk]
  | setCampaign c' s' =>
    obtain ⟨_, rfl⟩ := hstep
    simp [setCampaign_get, hk]
  | pauseShop shopId =>
    cases hstep
    simp [hk]
  | acknowledgePause c' =>
    cases hstep
    simp [hk]
  | expire =>
    obtain ⟨gone, h⟩ := hstep
    rw [h.campaign]
    by_cases hc : gone c = true
    · have := h.frozen c hc
      rw [hk] at this
      cases this
    · rw [if_neg hc, hk]
  | freeze c' expiresAt deletedAt =>
    obtain ⟨kept, h⟩ := hstep
    obtain ⟨s', _, hcampaign⟩ := h.campaign
    simp [hcampaign, setCampaign_get, hk]
  | queue c' =>
    obtain ⟨_, rfl⟩ := hstep
    simp [setCampaign_get, hk]
  | cancel c' =>
    obtain ⟨_, rfl⟩ := hstep
    simp [setCampaign_get, hk]
  | rebuild c' =>
    obtain ⟨_, hcampaign, _⟩ := hstep
    simp [hcampaign, setCampaign_get, hk]

section Commands

variable {ambient : Ambient} {command : Command} {r : command.Result} {c : CampaignId}

theorem command_of_cancel (h : actionOf ambient command r = .cancel c) : command = .cancel c := by
  cases command with
  | cancel id =>
    cases h
    rfl
  | reserveDispatchSlot id =>
    cases r with
    | claimed attemptNumber => cases h
    | notClaimed cancelled reason => cases cancelled <;> cases h
  | _ => cases h

theorem command_of_rebuild (h : actionOf ambient command r = .rebuild c) :
    ∃ retained summary, command = .rebuild c retained summary := by
  cases command with
  | rebuild id retained summary =>
    cases h
    exact ⟨retained, summary, rfl⟩
  | reserveDispatchSlot id =>
    cases r with
    | claimed attemptNumber => cases h
    | notClaimed cancelled reason => cases cancelled <;> cases h
  | _ => cases h

theorem command_of_queue (h : actionOf ambient command r = .queue c) :
    ∃ version, command = .queueFrozen c version := by
  cases command with
  | queueFrozen id version =>
    cases h
    exact ⟨version, rfl⟩
  | reserveDispatchSlot id =>
    cases r with
    | claimed attemptNumber => cases h
    | notClaimed cancelled reason => cases cancelled <;> cases h
  | _ => cases h

end Commands

/-- A shop that is paused has no campaign that dispatches. -/
theorem not_dispatching_of_pauseShop {k k' : Core} {c : CampaignId} {s : CampaignState}
    (hstep : (Action.pauseShop c.shopId).Step k k') (hs : k'.campaign c = some s) :
    dispatching s = false := by
  cases hstep
  simp only [Option.map_eq_some_iff] at hs
  obtain ⟨s0, _, rfl⟩ := hs
  split
  · rfl
  · rename_i h
    simpa using h

/-! ## Deliveries -/

/-- An action takes the delivery `d` from one state to another. -/
inductive DeliveryTransition (d : DeliveryId) : Action → DeliveryState → DeliveryState → Prop
  /-- A settlement, which asks nothing of the state. -/
  | settle (s ds : DeliveryState) (rs : RecipientState) (releases : Bool) :
      DeliveryTransition d (.settle d ds rs releases) s ds
  | claim (now : Int) (s : DeliveryState) (hs : claimable s = true) :
      DeliveryTransition d (.claim d now) s .DISPATCHING
  | cancel (s : DeliveryState) (hs : claimable s = true) :
      DeliveryTransition d (.cancel d.campaignId) s .CANCELLED

theorem delivery_transition {a : Action} {k k' : Core} {d : DeliveryId} {s : DeliveryState}
    (hstep : a.Step k k') (hs : k.delivery d = some s) :
    k'.delivery d = some s ∨ (∃ s', k'.delivery d = some s' ∧ DeliveryTransition d a s s') ∨
      a = .rebuild d.campaignId := by
  cases a with
  | nothing =>
    cases hstep
    exact Or.inl hs
  | settle id ds rs releases =>
    obtain ⟨_, rfl⟩ := hstep
    by_cases hid : d = id
    · subst hid
      exact Or.inr (Or.inl ⟨ds, by simp [Core.release, Core.setRecipient, Core.setDelivery, hs],
        .settle s ds rs releases⟩)
    · exact Or.inl (by simp [Core.release, Core.setRecipient, Core.setDelivery, hid, hs])
  | claim id now =>
    obtain ⟨_, ⟨s0, hs0, hclaimable⟩, _, _, rfl⟩ := hstep
    by_cases hid : d = id
    · subst hid
      rw [hs] at hs0
      cases hs0
      exact Or.inr (Or.inl ⟨.DISPATCHING, Core.setDelivery_self (k := k.setCampaign _ _) hs,
        .claim now s hclaimable⟩)
    · exact Or.inl (by simp [Core.setRecipient, Core.setDelivery, Core.setCampaign, hid, hs])
  | setCampaign c s' =>
    obtain ⟨_, rfl⟩ := hstep
    exact Or.inl hs
  | pauseShop shopId =>
    cases hstep
    exact Or.inl hs
  | acknowledgePause c =>
    cases hstep
    exact Or.inl hs
  | expire =>
    obtain ⟨gone, h⟩ := hstep
    exact Or.inl (by rw [h.delivery, hs])
  | freeze c expiresAt deletedAt =>
    obtain ⟨kept, h⟩ := hstep
    exact Or.inl (by rw [h.delivery, hs])
  | queue c =>
    obtain ⟨_, rfl⟩ := hstep
    refine Or.inl ?_
    by_cases hid : queueable k c d = true <;> simp [hid, hs]
  | cancel c =>
    obtain ⟨_, rfl⟩ := hstep
    by_cases hid : unsent k c d = true ∧ claimable s = true
    · have hc : d.campaignId = c := by
        have := hid.1
        simp only [unsent, Bool.and_eq_true, decide_eq_true_eq] at this
        exact this.1
      subst hc
      exact Or.inr (Or.inl ⟨.CANCELLED, by simp [hs, hid.1, hid.2], .cancel s hid.2⟩)
    · refine Or.inl ?_
      simp only [hs, Option.map_some, Option.some.injEq, ite_eq_right_iff, Bool.and_eq_true]
      exact fun h => absurd h hid
  | rebuild c =>
    obtain ⟨_, _, _, hdelivery, _⟩ := hstep
    by_cases hc : d.campaignId = c
    · exact Or.inr (Or.inr (by rw [hc]))
    · exact Or.inl (by rw [hdelivery, if_neg hc, hs])

/-- Only the queueing of its campaign creates a delivery. -/
theorem delivery_none {a : Action} {k k' : Core} {d : DeliveryId} (hstep : a.Step k k')
    (hk : k.delivery d = none) (hqueue : a ≠ .queue d.campaignId) : k'.delivery d = none := by
  cases a with
  | nothing =>
    cases hstep
    exact hk
  | settle id ds rs releases =>
    obtain ⟨_, rfl⟩ := hstep
    simp [Core.release, Core.setRecipient, Core.setDelivery, hk]
  | claim id now =>
    obtain ⟨_, _, _, _, rfl⟩ := hstep
    simp [Core.setRecipient, Core.setDelivery, Core.setCampaign, hk]
  | setCampaign c s =>
    obtain ⟨_, rfl⟩ := hstep
    exact hk
  | pauseShop shopId =>
    cases hstep
    exact hk
  | acknowledgePause c =>
    cases hstep
    exact hk
  | expire =>
    obtain ⟨gone, h⟩ := hstep
    rw [h.delivery, hk]
  | freeze c expiresAt deletedAt =>
    obtain ⟨kept, h⟩ := hstep
    rw [h.delivery, hk]
  | queue c =>
    obtain ⟨_, rfl⟩ := hstep
    have hnot : queueable k c d = false := by
      rw [← Bool.not_eq_true]
      intro h
      simp only [queueable, Bool.and_eq_true, decide_eq_true_eq] at h
      exact hqueue (by rw [h.1])
    simp [hk, hnot]
  | cancel c =>
    obtain ⟨_, rfl⟩ := hstep
    simp [hk]
  | rebuild c =>
    obtain ⟨_, _, _, hdelivery, _⟩ := hstep
    rw [hdelivery, hk, ite_self]

theorem settled_delivery {k k' : Core} {d : DeliveryId} {ds : DeliveryState} {rs : RecipientState}
    {releases : Bool} (hstep : (Action.settle d ds rs releases).Step k k') :
    k'.delivery d = some ds := by
  obtain ⟨⟨hd, _⟩, rfl⟩ := hstep
  obtain ⟨s, hs⟩ := Option.isSome_iff_exists.1 hd
  exact Core.setDelivery_self hs

end tiktok_outreach.dispatch_core
