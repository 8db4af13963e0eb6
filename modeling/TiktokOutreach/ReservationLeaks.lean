-- Reservations do not leak: a campaign that was cancelled or completed holds
-- no reservation once none of its deliveries is in flight or unknown, unless a
-- delivery of a cancelled campaign was made retryable.
import TiktokOutreach.AtomicSystem

open runs tables executions transactions tiktok_outreach.schema tiktok_outreach.dispatch_safety
  tiktok_outreach.settlements tiktok_outreach.outreach_service tiktok_outreach.commands
  tiktok_outreach.dispatch_core tiktok_outreach.send_protocol tiktok_outreach.system

namespace tiktok_outreach.reservation_leaks

def completed : CampaignState → Bool
  | .COMPLETED | .COMPLETED_WITH_ERRORS => true
  | _ => false

def inFlight : DeliveryState → Bool
  | .DISPATCHING | .DELIVERY_UNKNOWN => true
  | _ => false

/-- The states of a reserved recipient and of its delivery, once it is queued. -/
def paired : RecipientState → DeliveryState → Bool
  | .QUEUED, .PENDING | .QUEUED, .FAILED_RETRYABLE | .PROCESSING, .DISPATCHING
  | .DELIVERY_UNKNOWN, .DELIVERY_UNKNOWN => true
  | _, _ => false

theorem inFlight_of_paired {rs : RecipientState} {ds : DeliveryState} (h : paired rs ds = true)
    (hrs : rs ≠ .QUEUED) : inFlight ds = true := by
  revert h hrs
  cases rs <;> cases ds <;> decide

theorem not_terminal_of_paired {rs : RecipientState} {ds : DeliveryState}
    (h : paired rs ds = true) : terminalRecipientState rs = false := by
  revert h
  cases rs <;> cases ds <;> decide

/-! ## The invariant -/

/-- The campaign was queued. -/
def Started (k : Core) (c : CampaignId) : Prop :=
  ∃ s, k.campaign c = some s ∧ started s = true

def NoReservation (k : Core) (c : CampaignId) : Prop :=
  ∀ id, id.campaignId = c → k.reservation id = none

/-- A recipient that holds a reservation: it is frozen, or its delivery is on its way in a
campaign that is not over. -/
def Reserved (k : Core) (id : RecipientId) : Prop :=
  ∃ r, k.recipient id = some r ∧ r.selected = true ∧ r.frozen = true ∧
    (k.campaign id.campaignId = some .FROZEN ∧ r.state = .RESERVED ∨
      ∃ s ds, k.campaign id.campaignId = some s ∧ started s = true ∧ completed s = false ∧
        k.delivery id = some ds ∧ paired r.state ds = true ∧ (s = .CANCELLED → inFlight ds = true))

structure CoreInv (k : Core) : Prop where
  reserved : ∀ id, (k.reservation id).isSome → Reserved k id
  delivered : ∀ id, (k.delivery id).isSome → Started k id.campaignId

/-- What a fact says of the database. -/
def Holds (k : Core) : Fact → Prop
  | .started c => Started k c
  | .finished c => Started k c ∧ NoReservation k c
  | _ => True

/-- What the programs of the system keep to when they write by an id alone. -/
def Safe (k : Core) : Action → Prop
  | .settle id ds rs releases => releases = true ∨ paired rs ds = true ∧
      ((k.reservation id).isSome → k.campaign id.campaignId = some .CANCELLED → inFlight ds = true)
  | .setCampaign c s => Started k c ∧ started s = true ∧ s ≠ .CANCELLED ∧
      (completed s = true → NoReservation k c)
  | .rebuild _ => False
  | _ => True

/-! ## The steps keep it -/

theorem started_of_dispatching {s : CampaignState} (h : dispatching s = true) :
    started s = true := by
  revert h
  cases s <;> decide

theorem started_setCampaign {k : Core} {c c' : CampaignId} {s : CampaignState}
    (hs : started s = true) (h : Started k c') : Started (k.setCampaign c s) c' := by
  obtain ⟨s', hs', hstarted⟩ := h
  by_cases hc : c' = c
  · subst hc
    exact ⟨s, by simp [Core.setCampaign, hs'], hs⟩
  · exact ⟨s', by simp [Core.setCampaign, hc, hs'], hstarted⟩

/-- A campaign that was queued stays so. -/
theorem started_step {a : Action} {k k' : Core} {c : CampaignId} (hstep : a.Step k k')
    (hsafe : Safe k a) (h : Started k c) : Started k' c := by
  cases a with
  | nothing =>
    cases hstep
    exact h
  | settle id ds rs releases =>
    obtain ⟨_, rfl⟩ := hstep
    exact h
  | claim id now =>
    obtain ⟨_, _, _, _, rfl⟩ := hstep
    exact started_setCampaign rfl h
  | setCampaign c' s =>
    obtain ⟨_, rfl⟩ := hstep
    exact started_setCampaign hsafe.2.1 h
  | pauseShop shopId =>
    cases hstep
    obtain ⟨s, hs, hstarted⟩ := h
    refine ⟨_, by simp only [hs, Option.map_some]; rfl, ?_⟩
    split
    · rfl
    · exact hstarted
  | acknowledgePause c' =>
    cases hstep
    obtain ⟨s, hs, hstarted⟩ := h
    refine ⟨_, by simp only [hs, Option.map_some]; rfl, ?_⟩
    split
    · rfl
    · exact hstarted
  | expire =>
    obtain ⟨gone, hexpires⟩ := hstep
    obtain ⟨s, hs, hstarted⟩ := h
    refine ⟨s, ?_, hstarted⟩
    rw [hexpires.campaign, if_neg, hs]
    intro hgone
    rw [hexpires.frozen c hgone] at hs
    cases hs
    cases hstarted
  | freeze c' expiresAt deletedAt =>
    obtain ⟨kept, hfreezes⟩ := hstep
    obtain ⟨s, hs, hstarted⟩ := h
    obtain ⟨s', _, hcampaign⟩ := hfreezes.campaign
    refine ⟨s, ?_, hstarted⟩
    rw [hcampaign]
    by_cases hc : c = c'
    · rw [hc, hfreezes.ready] at hs
      cases hs
      cases hstarted
    · simp [Core.setCampaign, hc, hs]
  | queue c' =>
    obtain ⟨_, rfl⟩ := hstep
    exact started_setCampaign rfl h
  | cancel c' =>
    obtain ⟨_, rfl⟩ := hstep
    exact started_setCampaign rfl h
  | rebuild c' => exact hsafe.elim

/-- No reservation is made for a campaign that was queued. -/
theorem noReservation_step {a : Action} {k k' : Core} {c : CampaignId} (hstep : a.Step k k')
    (hsafe : Safe k a) (hstarted : Started k c) (h : NoReservation k c) : NoReservation k' c := by
  intro id hid
  have hnone := h id hid
  cases a with
  | nothing =>
    cases hstep
    exact hnone
  | settle id' ds rs releases =>
    obtain ⟨_, rfl⟩ := hstep
    simp [Core.release, Core.setRecipient, Core.setDelivery, hnone]
  | claim id' now =>
    obtain ⟨_, _, _, _, rfl⟩ := hstep
    exact hnone
  | setCampaign c' s =>
    obtain ⟨_, rfl⟩ := hstep
    exact hnone
  | pauseShop shopId =>
    cases hstep
    exact hnone
  | acknowledgePause c' =>
    cases hstep
    exact hnone
  | expire =>
    obtain ⟨gone, hexpires⟩ := hstep
    rw [hexpires.reservation, hnone, ite_self]
  | freeze c' expiresAt deletedAt =>
    obtain ⟨kept, hfreezes⟩ := hstep
    cases hkept : kept id with
    | true =>
      -- the campaign of a kept recipient is only ready
      have hselected := hfreezes.selected id hkept
      simp only [selectedFor, Bool.and_eq_true, decide_eq_true_eq] at hselected
      obtain ⟨s, hs, hs'⟩ := hstarted
      rw [← hid, hselected.1, hfreezes.ready] at hs
      cases hs
      cases hs'
    | false =>
      cases hr : k'.reservation id with
      | none => rfl
      | some r =>
        rw [(hfreezes.others id r hkept hr).1] at hnone
        cases hnone
  | queue c' =>
    obtain ⟨_, rfl⟩ := hstep
    simp [hnone]
  | cancel c' =>
    obtain ⟨_, rfl⟩ := hstep
    simp [hnone]
  | rebuild c' => exact hsafe.elim

theorem holds_step {a : Action} {k k' : Core} {f : Fact} (hstep : a.Step k k') (hsafe : Safe k a)
    (h : Holds k f) : Holds k' f := by
  cases f with
  | started c => exact started_step hstep hsafe h
  | finished c =>
    exact ⟨started_step hstep hsafe h.1, noReservation_step hstep hsafe h.1 h.2⟩
  | _ => trivial

/-- A recipient keeps what makes it reserved while its campaign stays, or goes on to a state in
which it is not over. -/
theorem reserved_campaign {k k' : Core} {id : RecipientId} (h : Reserved k id)
    (hrecipient : k'.recipient id = k.recipient id) (hdelivery : k'.delivery id = k.delivery id)
    (hcampaign : k'.campaign id.campaignId = k.campaign id.campaignId ∨ Started k id.campaignId ∧
      ∃ s, k'.campaign id.campaignId = some s ∧ started s = true ∧ completed s = false ∧
        s ≠ .CANCELLED) : Reserved k' id := by
  obtain ⟨r, hr, hselected, hfrozen, hstate⟩ := h
  refine ⟨r, by rw [hrecipient, hr], hselected, hfrozen, ?_⟩
  rw [hdelivery]
  rcases hcampaign with heq | ⟨⟨s0, hs0, hstarted0⟩, s, hs, hstarted, hcompleted, hcancelled⟩
  · rw [heq]
    exact hstate
  · rcases hstate with ⟨hfroz, _⟩ | ⟨s', ds, hs', _, _, hds, hpaired, _⟩
    · rw [hfroz] at hs0
      cases hs0
      cases hstarted0
    · exact Or.inr ⟨s, ds, hs, hstarted, hcompleted, hds, hpaired, fun h => absurd h hcancelled⟩

/-- The reservation of a recipient of a campaign that was queued belongs to a delivery on its
way. -/
theorem onItsWay {k : Core} {id : RecipientId} (h : Reserved k id)
    (hstarted : Started k id.campaignId) :
    ∃ r s ds, k.recipient id = some r ∧ r.selected = true ∧ r.frozen = true ∧
      k.campaign id.campaignId = some s ∧ started s = true ∧ completed s = false ∧
      k.delivery id = some ds ∧ paired r.state ds = true ∧ (s = .CANCELLED → inFlight ds = true) := by
  obtain ⟨r, hr, hselected, hfrozen, hstate⟩ := h
  rcases hstate with ⟨hfroz, _⟩ | ⟨s, ds, hs⟩
  · obtain ⟨s, hs, hstarted⟩ := hstarted
    rw [hfroz] at hs
    cases hs
    cases hstarted
  · exact ⟨r, s, ds, hr, hselected, hfrozen, hs⟩

theorem reserved_settle {k k' : Core} {id id' : RecipientId} {ds : DeliveryState}
    {rs : RecipientState} {releases : Bool} (h : CoreInv k)
    (hstep : (Action.settle id ds rs releases).Step k k')
    (hsafe : Safe k (.settle id ds rs releases)) (hres : (k'.reservation id').isSome) :
    Reserved k' id' := by
  obtain ⟨hstored, rfl⟩ := hstep
  by_cases hid : id' = id
  · subst hid
    cases hreleases : releases with
    | true => simp [Core.release, hreleases] at hres
    | false =>
      have hres' : (k.reservation id').isSome := by
        simpa [Core.release, Core.setRecipient, Core.setDelivery, hreleases] using hres
      obtain ⟨hpaired, hcancelled⟩ := hsafe.resolve_left (by simp [hreleases])
      obtain ⟨r, s, ds', hr, hselected, hfrozen, hs, hstarted, hcompleted, hds, _, _⟩ :=
        onItsWay (h.reserved id' hres') (h.delivered id' hstored.1)
      refine ⟨{ r with state := rs }, by simp [Core.release, Core.setRecipient, Core.setDelivery, hr],
        hselected, hfrozen, Or.inr ⟨s, ds, hs, hstarted, hcompleted, ?_, hpaired, ?_⟩⟩
      · exact Core.setDelivery_self hds
      · rintro rfl
        exact hcancelled hres' hs
  · have hres' : (k.reservation id').isSome := by
      simpa [Core.release, Core.setRecipient, Core.setDelivery, hid] using hres
    refine reserved_campaign (h.reserved id' hres') ?_ ?_ (Or.inl rfl)
    · simp [Core.release, Core.setRecipient, Core.setDelivery, hid]
    · simp [Core.release, Core.setRecipient, Core.setDelivery, hid]

theorem reserved_claim {k k' : Core} {id id' : RecipientId} {now : Int} (h : CoreInv k)
    (hstep : (Action.claim id now).Step k k') (hres : (k'.reservation id').isSome) :
    Reserved k' id' := by
  obtain ⟨⟨hdelivery, hrecipient⟩, _, ⟨s, hs, hdispatching⟩, _, rfl⟩ := hstep
  have hres' : (k.reservation id').isSome := hres
  by_cases hid : id' = id
  · subst hid
    obtain ⟨r, _, ds, hr, hselected, hfrozen, _, _, _, hds, _, _⟩ :=
      onItsWay (h.reserved id' hres') (h.delivered id' hdelivery)
    refine ⟨{ r with state := .PROCESSING }, ?_, hselected, hfrozen,
      Or.inr ⟨.RUNNING, .DISPATCHING, ?_, rfl, rfl, ?_, rfl, fun h => by cases h⟩⟩
    · simp [Core.setRecipient, Core.setDelivery, Core.setCampaign, hr]
    · simp [Core.setRecipient, Core.setDelivery, Core.setCampaign, hs]
    · exact Core.setDelivery_self (k := k.setCampaign _ _) hds
  · apply reserved_campaign (h.reserved id' hres')
    · simp [Core.setRecipient, Core.setDelivery, Core.setCampaign, hid]
    · simp [Core.setRecipient, Core.setDelivery, Core.setCampaign, hid]
    · by_cases hc : id'.campaignId = id.campaignId
      · refine Or.inr ⟨?_, .RUNNING, ?_, rfl, rfl, fun h => by cases h⟩
        · rw [hc]
          exact h.delivered id hdelivery
        · simp [Core.setRecipient, Core.setDelivery, Core.setCampaign, hc, hs]
      · exact Or.inl (by simp [Core.setRecipient, Core.setDelivery, Core.setCampaign, hc])

theorem reserved_freeze {k k' : Core} {c : CampaignId} {expiresAt deletedAt : Int}
    {id : RecipientId} (h : CoreInv k) (hstep : (Action.freeze c expiresAt deletedAt).Step k k')
    (hres : (k'.reservation id).isSome) : Reserved k' id := by
  obtain ⟨kept, hfreezes⟩ := hstep
  obtain ⟨s, hs, hcampaign⟩ := hfreezes.campaign
  obtain ⟨res, hres⟩ := Option.isSome_iff_exists.1 hres
  cases hkept : kept id with
  | true =>
    have hselected := hfreezes.selected id hkept
    simp only [selectedFor, Bool.and_eq_true, decide_eq_true_eq] at hselected
    refine ⟨_, hfreezes.frozen id hkept, rfl, rfl, Or.inl ⟨?_, rfl⟩⟩
    rcases hs with rfl | ⟨_, hnone⟩
    · simp [hcampaign, Core.setCampaign, hselected.1, hfreezes.ready]
    · rw [hnone id] at hkept
      cases hkept
  | false =>
    have hold := h.reserved id (by rw [(hfreezes.others id res hkept hres).1]; rfl)
    -- a reservation that was there belongs to another campaign
    have hc : id.campaignId ≠ c := by
      intro hc
      obtain ⟨r, _, _, _, hstate⟩ := hold
      rw [hc, hfreezes.ready] at hstate
      rcases hstate with ⟨hfroz, _⟩ | ⟨s, _, hs, hstarted, _⟩
      · cases hfroz
      · cases hs
        cases hstarted
    refine reserved_campaign hold ?_ (by rw [hfreezes.delivery]) (Or.inl ?_)
    · rcases hfreezes.skipped id hkept with heq | ⟨hselected, _⟩
      · exact heq
      · simp [selectedFor, hc] at hselected
    · simp [hcampaign, Core.setCampaign, hc]

theorem reserved_queue {k k' : Core} {c : CampaignId} {id : RecipientId} (h : CoreInv k)
    (hstep : (Action.queue c).Step k k') (hres : (k'.reservation id).isSome) : Reserved k' id := by
  obtain ⟨hfroz, rfl⟩ := hstep
  have hold := h.reserved id (by simpa using hres)
  by_cases hc : id.campaignId = c
  · obtain ⟨r, hr, hselected, hfrozen, hstate⟩ := hold
    rw [hc, hfroz] at hstate
    rcases hstate with ⟨_, hreserved⟩ | ⟨s, _, hs, hstarted, _⟩
    · have hqueueable : queueable k c id = true := by
        simp [queueable, hc, hr, hselected, hreserved]
      -- nothing was delivered before the campaign was queued
      have hnone : k.delivery id = none := by
        rw [← Option.not_isSome_iff_eq_none]
        intro hsome
        obtain ⟨s, hs, hstarted⟩ := h.delivered id hsome
        rw [hc, hfroz] at hs
        cases hs
        cases hstarted
      refine ⟨{ r with state := .QUEUED }, by simp [hqueueable, hr], hselected, hfrozen,
        Or.inr ⟨.QUEUED, .PENDING, ?_, rfl, rfl, by simp [hqueueable, hnone], rfl,
          fun h => by cases h⟩⟩
      simp [Core.setCampaign, hc, hfroz]
    · cases hs
      cases hstarted
  · have hqueueable : queueable k c id = false := by simp [queueable, hc]
    exact reserved_campaign hold (by simp [hqueueable]) (by simp [hqueueable])
      (Or.inl (by simp [Core.setCampaign, hc]))

theorem reserved_cancel {k k' : Core} {c : CampaignId} {id : RecipientId} (h : CoreInv k)
    (hstep : (Action.cancel c).Step k k') (hres : (k'.reservation id).isSome) : Reserved k' id := by
  obtain ⟨_, rfl⟩ := hstep
  cases hunsent : unsent k c id with
  | true => simp [hunsent] at hres
  | false =>
    have hold := h.reserved id (by simpa [hunsent] using hres)
    by_cases hc : id.campaignId = c
    · obtain ⟨r, hr, hselected, hfrozen, hstate⟩ := hold
      have hnot : r.state ≠ .RESERVED ∧ r.state ≠ .QUEUED := by
        simpa [unsent, hc, hr] using hunsent
      rcases hstate with ⟨_, hreserved⟩ | ⟨s, ds, hs, _, _, hds, hpaired, _⟩
      · exact absurd hreserved hnot.1
      · refine ⟨r, by simp [hunsent, hr], hselected, hfrozen, Or.inr ⟨.CANCELLED, ds, ?_, rfl, rfl,
          by simp [hunsent, hds], hpaired, fun _ => inFlight_of_paired hpaired hnot.2⟩⟩
        rw [hc] at hs ⊢
        simp [Core.setCampaign, hs]
    · exact reserved_campaign hold (by simp [hunsent]) (by simp [hunsent])
        (Or.inl (by simp [Core.setCampaign, hc]))

/-- A campaign that is paused where `p` holds was queued, and is not over. -/
theorem pauses_campaign (k : Core) (c : CampaignId) (p : CampaignState → Bool)
    {s' : CampaignState} (hp : ∀ s, p s = true → started s = true)
    (hs' : (started s' && !completed s' && decide (s' ≠ .CANCELLED)) = true) :
    (k.campaign c).map (fun s => if p s then s' else s) = k.campaign c ∨ Started k c ∧
      ∃ s, (k.campaign c).map (fun s => if p s then s' else s) = some s ∧ started s = true ∧
        completed s = false ∧ s ≠ .CANCELLED := by
  cases hs : k.campaign c with
  | none => exact Or.inl rfl
  | some s =>
    simp only [Option.map_some]
    split
    · rename_i hps
      simp only [Bool.and_eq_true, Bool.not_eq_true', decide_eq_true_eq] at hs'
      exact Or.inr ⟨⟨s, hs, hp s hps⟩, s', rfl, hs'.1.1, hs'.1.2, hs'.2⟩
    · exact Or.inl rfl

theorem reserved_step {a : Action} {k k' : Core} (h : CoreInv k) (hstep : a.Step k k')
    (hsafe : Safe k a) {id : RecipientId} (hres : (k'.reservation id).isSome) : Reserved k' id := by
  cases a with
  | nothing =>
    cases hstep
    exact h.reserved id hres
  | settle id' ds rs releases => exact reserved_settle h hstep hsafe hres
  | claim id' now => exact reserved_claim h hstep hres
  | setCampaign c s =>
    obtain ⟨hsome, rfl⟩ := hstep
    obtain ⟨hstarted, hs, hcancelled, hcompleted⟩ := hsafe
    refine reserved_campaign (h.reserved id hres) rfl rfl ?_
    by_cases hc : id.campaignId = c
    · obtain ⟨s0, hs0⟩ := Option.isSome_iff_exists.1 hsome
      refine Or.inr ⟨hc ▸ hstarted, s, by simp [Core.setCampaign, hc, hs0], hs, ?_, hcancelled⟩
      rw [← Bool.not_eq_true]
      intro hover
      have hnone : k.reservation id = none := hcompleted hover id hc
      have hres' : (k.reservation id).isSome := hres
      rw [hnone] at hres'
      cases hres'
    · exact Or.inl (by simp [Core.setCampaign, hc])
  | pauseShop shopId =>
    cases hstep
    refine reserved_campaign (h.reserved id hres) rfl rfl (pauses_campaign k _ _ ?_ rfl)
    intro s hs
    simp only [Bool.and_eq_true] at hs
    exact started_of_dispatching hs.2
  | acknowledgePause c =>
    cases hstep
    refine reserved_campaign (h.reserved id hres) rfl rfl (pauses_campaign k _ _ ?_ rfl)
    intro s hs
    simp only [Bool.and_eq_true, decide_eq_true_eq] at hs
    rw [hs.2]
    rfl
  | expire =>
    obtain ⟨gone, hexpires⟩ := hstep
    rw [hexpires.reservation] at hres
    cases hgone : gone id.campaignId with
    | true => simp [hgone] at hres
    | false =>
      refine reserved_campaign (h.reserved id (by simpa [hgone] using hres)) ?_
        (by rw [hexpires.delivery]) (Or.inl ?_)
      · simp [hexpires.recipient, hgone]
      · rw [hexpires.campaign, if_neg (by simp [hgone])]
  | freeze c expiresAt deletedAt => exact reserved_freeze h hstep hres
  | queue c => exact reserved_queue h hstep hres
  | cancel c => exact reserved_cancel h hstep hres
  | rebuild c => exact hsafe.elim

/-- Deliveries are only made for a campaign that is queued. -/
theorem delivered_step {a : Action} {k k' : Core} (h : CoreInv k) (hstep : a.Step k k')
    (hsafe : Safe k a) {id : DeliveryId} (hdelivery : (k'.delivery id).isSome) :
    Started k' id.campaignId := by
  have hold : (k.delivery id).isSome → Started k' id.campaignId :=
    fun hd => started_step hstep hsafe (h.delivered id hd)
  cases a with
  | nothing =>
    cases hstep
    exact hold hdelivery
  | settle id' ds rs releases =>
    obtain ⟨hstored, rfl⟩ := hstep
    apply hold
    by_cases hid : id = id'
    · rw [hid]
      exact hstored.1
    · simpa [Core.release, Core.setRecipient, Core.setDelivery, hid] using hdelivery
  | claim id' now =>
    obtain ⟨hstored, _, _, _, rfl⟩ := hstep
    apply hold
    by_cases hid : id = id'
    · rw [hid]
      exact hstored.1
    · simpa [Core.setRecipient, Core.setDelivery, Core.setCampaign, hid] using hdelivery
  | setCampaign c s =>
    obtain ⟨_, rfl⟩ := hstep
    exact hold hdelivery
  | pauseShop shopId =>
    cases hstep
    exact hold hdelivery
  | acknowledgePause c =>
    cases hstep
    exact hold hdelivery
  | expire =>
    obtain ⟨gone, hexpires⟩ := hstep
    exact hold (hexpires.delivery ▸ hdelivery)
  | freeze c expiresAt deletedAt =>
    obtain ⟨kept, hfreezes⟩ := hstep
    exact hold (hfreezes.delivery ▸ hdelivery)
  | queue c =>
    obtain ⟨hfroz, rfl⟩ := hstep
    by_cases hqueueable : queueable k c id = true
    · have hc : id.campaignId = c := by
        simp only [queueable, Bool.and_eq_true, decide_eq_true_eq] at hqueueable
        exact hqueueable.1
      exact ⟨.QUEUED, by simp [Core.setCampaign, hc, hfroz], rfl⟩
    · exact hold (by simpa [hqueueable] using hdelivery)
  | cancel c =>
    obtain ⟨_, rfl⟩ := hstep
    exact hold (by simpa using hdelivery)
  | rebuild c => exact hsafe.elim

theorem coreInv_step {a : Action} {k k' : Core} (h : CoreInv k) (hstep : a.Step k k')
    (hsafe : Safe k a) : CoreInv k' :=
  ⟨fun _ => reserved_step h hstep hsafe, fun _ => delivered_step h hstep hsafe⟩

/-! ## The runs -/

section Runs

variable {env : Environment} {options : outbound_throttle.Options}

/-- What the threads learned holds. -/
def Knows (k : Core) (roles : Nat → Role) : Prop := ∀ i f, f ∈ (roles i).facts → Holds k f

/-- The condition on a run: no delivery of a cancelled campaign is made retryable while its
recipient holds a reservation. -/
def retriesNoCancelled (w : World) : Label Call Call.Answer → Bool
  | .run _ (.db (.makeDeliveryRetryable id)) _ =>
    !(w.db.campaigns.get id.campaignId).any (·.state = .CANCELLED) ||
      (w.db.reservations.get id).isNone
  | _ => true

theorem safe_of_ok {ambient : Ambient} {db : Db} {role : Role} {c : Command} {r : c.Result}
    (hok : okCommand role c) (hfacts : ∀ f ∈ role.facts, Holds (coreOf db) f)
    (hretry : ∀ id, c = .makeDeliveryRetryable id → ((coreOf db).reservation id).isSome →
      (coreOf db).campaign id.campaignId ≠ some .CANCELLED) :
    Safe (coreOf db) (actionOf ambient c r) := by
  cases c with
  | makeDeliveryRetryable id => exact Or.inr ⟨rfl, fun h h' => absurd h' (hretry id rfl h)⟩
  | recoverDispatchingDelivery id => exact Or.inr ⟨rfl, fun _ _ => rfl⟩
  | markDeliveryUnknown id attemptNumber => exact Or.inr ⟨rfl, fun _ _ => rfl⟩
  | markSent id creatorOpenId conversationId messageId => exact Or.inl rfl
  | markTerminalFailure id errorCode => exact Or.inl rfl
  | markRestricted id errorCode => exact Or.inl rfl
  | giveUpReconciliation id attemptNumber => exact Or.inl rfl
  | reserveDispatchSlot id =>
    cases r with
    | claimed attemptNumber => trivial
    | notClaimed cancelled reason =>
      cases cancelled with
      | true => exact Or.inl rfl
      | false => trivial
  | pauseCampaign id => exact ⟨hfacts _ hok, rfl, by decide, by simp [completed]⟩
  | requestPause id => exact ⟨hfacts _ hok, rfl, by decide, by simp [completed]⟩
  | resume id quotaRecovery => exact ⟨hfacts _ hok, rfl, by decide, by simp [completed]⟩
  | completeCampaign id completion =>
    obtain ⟨hstarted, hnone⟩ := hfacts _ hok
    refine ⟨hstarted, ?_, ?_, fun _ => hnone⟩ <;> cases completion.completedSuccessfully <;> decide
  | rebuild id retained summary => exact hok.elim
  | _ => trivial

/-- The frozen recipients of a campaign are terminal only when none of them is reserved. -/
theorem noReservation_of_terminal {db : Db} {c : CampaignId} (h : CoreInv (coreOf db))
    (hstarted : Started (coreOf db) c)
    (hterminal : allFrozenRecipientsTerminal ((db.recipients.findMany (fun id r =>
      id.campaignId = c && r.selected && r.frozenMessage.isSome)).map (·.2.state)) = true) :
    NoReservation (coreOf db) c := by
  rintro id rfl
  rw [← Option.not_isSome_iff_eq_none]
  intro hres
  obtain ⟨r, _, _, hr, hselected, hfrozen, _, _, _, _, hpaired, _⟩ :=
    onItsWay (h.reserved id hres) hstarted
  obtain ⟨recipient, hrecipient, rfl⟩ := Option.map_eq_some_iff.1 hr
  simp only [allFrozenRecipientsTerminal, Bool.and_eq_true, List.all_eq_true, List.mem_map] at hterminal
  have hmem : (id, recipient) ∈ db.recipients.findMany (fun id' r =>
      id'.campaignId = id.campaignId && r.selected && r.frozenMessage.isSome) := by
    rw [Table.mem_findMany]
    refine ⟨hrecipient, ?_⟩
    rw [Bool.and_eq_true, Bool.and_eq_true]
    exact ⟨⟨by simp, hselected⟩, hfrozen⟩
  have := hterminal.2 _ ⟨_, hmem, rfl⟩
  have hnot := not_terminal_of_paired hpaired
  rw [show (recipientCore recipient).state = recipient.state from rfl, this] at hnot
  cases hnot

theorem learned_holds {ambient : Ambient} {db db' : Db} {role : Role} {c : Command} {r : c.Result}
    (h : CoreInv (coreOf db)) (hfacts : ∀ f ∈ role.facts, Holds (coreOf db) f)
    (hrun : (c.body env options ambient).run db = .ok (r, db')) :
    ∀ f ∈ learned role.facts c r, Holds (coreOf db') f := by
  intro f hf
  cases c with
  | findSendRecipient id =>
    cases hrun
    obtain ⟨recipient, delivery, hfound, hdelivery, hf⟩ := hf
    rcases hf with rfl | ⟨rfl, _⟩ | ⟨rfl, _⟩
    · obtain ⟨_, _, hfound⟩ := Option.bind_eq_some_iff.1 hfound
      obtain ⟨_, _, hfound⟩ := Option.bind_eq_some_iff.1 hfound
      obtain ⟨_, _, hfound⟩ := Option.bind_eq_some_iff.1 hfound
      cases hfound
      apply h.delivered id
      obtain ⟨d, hd, _⟩ := Option.map_eq_some_iff.1 hdelivery
      simp [hd]
    · trivial
    · trivial
  | findUnknownDelivery id =>
    cases hrun
    obtain ⟨delivery, hfound, hf⟩ := hf
    rcases hf with rfl | ⟨rfl, _⟩
    · apply h.delivered id
      obtain ⟨d, hd, _⟩ := Option.map_eq_some_iff.1 hfound
      simp [hd]
    · trivial
  | requiredCampaign id =>
    obtain ⟨hcampaign, rfl⟩ := Tx.run_readOrThrow_eq_ok.1 hrun
    obtain ⟨rfl, hstarted⟩ := hf
    refine ⟨Campaign.state r, ?_, hstarted⟩
    rw [coreOf_campaign, hcampaign]
    rfl
  | frozenRecipientStates id =>
    cases hrun
    obtain ⟨rfl, hstarted, hterminal⟩ := hf
    have hs : Started (coreOf db) id := hfacts _ hstarted
    exact ⟨hs, noReservation_of_terminal h hs hterminal⟩
  | _ => exact hf.elim

/-- A transaction of a thread keeps the invariant, and what all threads know. -/
theorem inv_transaction {ambient : Ambient} {db db' : Db} {roles : Nat → Role} {i : Nat}
    {c : Command} {r : c.Result} (h : CoreInv (coreOf db)) (hknows : Knows (coreOf db) roles)
    (hok : okCommand (roles i) c) (hrun : (c.body env options ambient).run db = .ok (r, db'))
    (hretry : ∀ id, c = .makeDeliveryRetryable id → ((coreOf db).reservation id).isSome →
      (coreOf db).campaign id.campaignId ≠ some .CANCELLED) :
    CoreInv (coreOf db') ∧ Knows (coreOf db') roles ∧
      ∀ f ∈ learned (roles i).facts c r, Holds (coreOf db') f := by
  have hstep := refines hrun
  have hsafe : Safe (coreOf db) (actionOf ambient c r) := safe_of_ok hok (hknows i) hretry
  exact ⟨coreInv_step h hstep hsafe, fun j f hf => holds_step hstep hsafe (hknows j f hf),
    learned_holds h (hknows i) hrun⟩

theorem knows_setRole {k : Core} {roles : Nat → Role} {i : Nat} {role : Role}
    (h : Knows k roles) (hrole : ∀ f ∈ role.facts, Holds k f) : Knows k (setRole roles i role) := by
  intro j f hf
  by_cases hj : j = i
  · rw [hj, setRole_self] at hf
    exact hrole f hf
  · rw [setRole_of_ne _ _ hj] at hf
    exact h j f hf

theorem facts_error (role : Role) (c : Command) (e : Failure) :
    (nextRole role (.db c) (.error e)).facts = role.facts := by
  change (if (settles c).isSome then { role with phase := .free } else role).facts = role.facts
  split <;> rfl

/-- Only a transaction teaches a thread something. -/
theorem facts_call (role : Role) (c : Call) (answer : c.Answer) (hc : ∀ c', c ≠ .db c') :
    (nextRole role c answer).facts = role.facts := by
  cases c with
  | db c => exact absurd rfl (hc c)
  | sendMessage id conversationId creatorOpenId content => cases answer <;> rfl
  | awaitSend id =>
    cases h : sendOutcome answer <;> simp [nextRole, h]
  | _ => rfl

def Inv (w : World) (roles : Nat → Role) : Prop := CoreInv (coreOf w.db) ∧ Knows (coreOf w.db) roles

theorem inv_free {w : World} {roles : Nat → Role} (i : Nat) (h : Inv w roles) :
    Inv w (setRole roles i start) :=
  ⟨h.1, knows_setRole h.2 (fun _ hf => hf.elim)⟩

theorem retry_of_guard {w : World} {i : Nat} {c : Command} {answer : (Call.db c).Answer}
    (hguard : retriesNoCancelled w (.run i (.db c) answer) = true) (id : DeliveryId)
    (hc : c = .makeDeliveryRetryable id) (hres : ((coreOf w.db).reservation id).isSome) :
    (coreOf w.db).campaign id.campaignId ≠ some .CANCELLED := by
  subst hc
  intro hcancelled
  obtain ⟨campaign, hcampaign, hstate⟩ := Option.map_eq_some_iff.1 hcancelled
  obtain ⟨r, hr⟩ := Option.isSome_iff_exists.1 hres
  rw [coreOf_reservation] at hr
  simp [retriesNoCancelled, hcampaign, hstate, hr] at hguard

theorem inv_exec {w w' : World} {roles : Nat → Role} {i : Nat} {c : Call} {answer : c.Answer}
    (h : Inv w roles) (hok : sendProtocol.ok (roles i) c) (hexec : Exec env options i w c answer w')
    (hguard : retriesNoCancelled w (.run i c answer) = true) :
    Inv w' (setRole roles i (nextRole (roles i) c answer)) := by
  cases hexec with
  | commit c ambient r db hrun =>
    obtain ⟨hcore, hknows, hlearned⟩ := inv_transaction h.1 h.2 hok hrun (retry_of_guard hguard)
    refine ⟨hcore, knows_setRole hknows ?_⟩
    rintro f (hf | hf)
    · exact hknows i f hf
    · exact hlearned f hf
  | lost c ambient r db e hrun =>
    obtain ⟨hcore, hknows, _⟩ := inv_transaction h.1 h.2 hok hrun (retry_of_guard hguard)
    refine ⟨hcore, knows_setRole hknows ?_⟩
    rw [facts_error]
    exact hknows i
  | failed c e =>
    refine ⟨h.1, knows_setRole h.2 ?_⟩
    rw [facts_error]
    exact h.2 i
  | sendMessage id conversationId creatorOpenId content => exact ⟨h.1, knows_setRole h.2 (h.2 i)⟩
  | awaitSend id answer =>
    refine ⟨h.1, knows_setRole h.2 ?_⟩
    rw [facts_call _ _ _ (by simp)]
    exact h.2 i
  | other c answer hc =>
    refine ⟨h.1, knows_setRole h.2 ?_⟩
    rw [facts_call _ _ _ (by rintro c' rfl; cases hc)]
    exact h.2 i

variable (env options) in
theorem inv_pool : PoolInvariant (machine env options) sendProtocol start start
    (fun w l => retriesNoCancelled w l = true) Inv where
  spawn _ _ i h := inv_free i h
  work _ _ _ _ _ _ _ hwork _ := hwork.elim
  run _ _ _ _ _ _ h hok hexec hguard := inv_exec h hok hexec hguard
  ends _ _ i h := inv_free i h
  crash w roles i c h _ := by
    cases c with
    | awaitSend id => exact ⟨h.1, knows_setRole h.2 (fun _ hf => hf.elim)⟩
    | _ => exact inv_free i h

/-- In every run that makes no delivery of a cancelled campaign retryable, a campaign that is
over holds no reservation once none of its deliveries is in flight or unknown. -/
theorem reservations_do_not_leak {db : Db} {ls : List (Label Call Call.Answer)}
    {pool : Pool World Call Call.Answer}
    (hrun : GuardedRun env options Job.keeps retriesNoCancelled (initial db) ls pool)
    (hdeliveries : db.deliveries = Table.empty) (hreservations : db.reservations = Table.empty)
    {c : CampaignId} {campaign : Campaign} (hcampaign : pool.world.db.campaigns.get c = some campaign)
    (hover : campaign.state = .CANCELLED ∨ completed campaign.state = true)
    (hquiet : ∀ id delivery, id.campaignId = c → pool.world.db.deliveries.get id = some delivery →
      inFlight delivery.state = false) :
    ∀ id, id.campaignId = c → pool.world.db.reservations.get id = none := by
  have hinit : Inv ⟨db, []⟩ (fun _ => start) := by
    refine ⟨⟨?_, ?_⟩, fun _ _ hf => hf.elim⟩
    · intro id hid
      simp [hreservations] at hid
    · intro id hid
      simp [hdeliveries] at hid
  obtain ⟨roles, hinv, _⟩ := pool_invariant (inv_pool env options)
    (fun p hp => startable_conforms hp) hrun ⟨fun _ => start, hinit, fun i p h => by cases h⟩
  intro id hid
  rw [← Option.not_isSome_iff_eq_none]
  intro hres
  have hstate : (coreOf pool.world.db).campaign id.campaignId = some campaign.state := by
    simp [hid, hcampaign]
  have hstarted : started campaign.state = true := by
    rcases hover with hover | hover
    · rw [hover]
      rfl
    · revert hover
      cases campaign.state <;> decide
  obtain ⟨r, s, ds, _, _, _, hs, _, hcompleted, hds, _, hcancelled⟩ :=
    onItsWay (hinv.1.reserved id hres) ⟨_, hstate, hstarted⟩
  rw [hstate] at hs
  cases hs
  rcases hover with hover | hover
  · obtain ⟨delivery, hdelivery, rfl⟩ := Option.map_eq_some_iff.1 hds
    have := hquiet id delivery hid hdelivery
    rw [hcancelled hover] at this
    cases this
  · rw [hover] at hcompleted
    cases hcompleted

end Runs

/-! ## A cancel of a campaign with a message in flight -/

/-- The operator cancels the campaign while the job waits for the answer of `sendMessage`. -/
def cancelInFlight : List Move :=
  sampleSend 0 ++ sampleClaim 1 ++ .call 1 :: .spawn 2 (.cancel sampleCampaign) ::
    transactions 2 2 6

def outcome (pool : Pool World Call Call.Answer) :
    Option CampaignState × List DeliveryState × Option Reservation :=
  ((pool.world.db.campaigns.get sampleCampaign).map (·.state),
    pool.world.db.deliveries.rows.map (·.2.state),
    pool.world.db.reservations.get sampleRecipient)

/-- The only delivery of a campaign, with its state. -/
theorem delivery_of_rows {db : Db} {s : DeliveryState}
    (h : db.deliveries.rows.map (·.2.state) = [s]) {id : DeliveryId} {delivery : Delivery}
    (hid : db.deliveries.get id = some delivery) : delivery.state = s := by
  have hmem := List.mem_map_of_mem (f := fun row : DeliveryId × Delivery => row.2.state)
    ((Table.mem_rows_iff _ _ _).2 hid)
  rw [h] at hmem
  exact List.mem_singleton.1 hmem

/-- The provider refuses the message for now. The job makes the delivery retryable, and the
cancelled campaign keeps its reservation up to the year 9999. -/
theorem a_cancelled_campaign_keeps_a_reservation : ∃ ls pool,
    SystemRun sampleEnvironment sampleOptions Job.keeps (initial sampleDb) ls pool ∧
    (pool.world.db.campaigns.get sampleCampaign).map (·.state) = some .CANCELLED ∧
    (∀ id delivery, id.campaignId = sampleCampaign →
      pool.world.db.deliveries.get id = some delivery → inFlight delivery.state = false) ∧
    sampleRecipient.campaignId = sampleCampaign ∧
    pool.world.db.reservations.get sampleRecipient = some ⟨1, 7, FAR_FUTURE⟩ := by
  obtain ⟨ls, pool, hrun, houtcome⟩ := exists_run_of_play
    (show (play sampleEnvironment sampleOptions Job.keeps (fun _ _ => true) (cancelInFlight ++
      .awaitSend 1 (.ok (.RETRYABLE_ERROR "busy" none none)) :: transactions 1 3 20)
      (initial sampleDb)).map outcome =
        some (some .CANCELLED, [.FAILED_RETRYABLE], some ⟨1, 7, FAR_FUTURE⟩) by decide +kernel)
  simp only [outcome, Prod.mk.injEq] at houtcome
  obtain ⟨hcampaign, hdeliveries, hreservation⟩ := houtcome
  refine ⟨ls, pool, run_of_guarded hrun, hcampaign, ?_, rfl, hreservation⟩
  intro id delivery _ hdelivery
  rw [delivery_of_rows hdeliveries hdelivery]
  rfl

/-- The provider refuses the message for good. -/
theorem a_restricted_message_releases_its_reservation : ∃ ls pool,
    GuardedRun sampleEnvironment sampleOptions Job.keeps retriesNoCancelled (initial sampleDb) ls pool ∧
    (pool.world.db.campaigns.get sampleCampaign).map (·.state) = some .CANCELLED ∧
    pool.world.db.reservations.get sampleRecipient = none := by
  obtain ⟨ls, pool, hrun, houtcome⟩ := exists_run_of_play
    (show (play sampleEnvironment sampleOptions Job.keeps retriesNoCancelled (cancelInFlight ++
      .awaitSend 1 (.ok (.RESTRICTED "blocked" none)) :: transactions 1 3 20)
      (initial sampleDb)).map (fun pool =>
        ((pool.world.db.campaigns.get sampleCampaign).map (·.state),
          pool.world.db.deliveries.rows.map (·.2.state))) =
        some (some .CANCELLED, [.RESTRICTED]) by decide +kernel)
  simp only [Prod.mk.injEq] at houtcome
  refine ⟨ls, pool, hrun, houtcome.1, ?_⟩
  obtain ⟨campaign, hcampaign, hstate⟩ := Option.map_eq_some_iff.1 houtcome.1
  apply reservations_do_not_leak hrun rfl rfl hcampaign (Or.inl hstate) _ sampleRecipient rfl
  intro id delivery _ hdelivery
  rw [delivery_of_rows houtcome.2 hdelivery]
  rfl

end tiktok_outreach.reservation_leaks
