-- The jobs of the worker and the operator's actions follow the protocol, from
-- the first call to the last one and whatever they are answered.
import TiktokOutreach.SendProtocol

open executions executions.Js tiktok_outreach.schema tiktok_outreach.dispatch_safety
  tiktok_outreach.settlements tiktok_outreach.outreach_service tiktok_outreach.outbound_throttle
  tiktok_outreach.commands tiktok_outreach.worker

namespace tiktok_outreach.send_protocol

/-- The phase of the role meets `S`, and it knows at least the facts `F`. -/
def At (S : Phase → Prop) (F : Set Fact) (role : Role) : Prop := S role.phase ∧ F ⊆ role.facts

/-- The program follows the protocol from the roles with `pre`. -/
abbrev Follow {L α : Type} (pre : Role → Prop) (m : Program L α) : Prop :=
  Triple sendProtocol pre m (fun _ _ => True) (fun _ _ => True)

section Rules

variable {L α β : Type} {S S' : Phase → Prop} {F : Set Fact}

/-- A call that does not end or start a phase. -/
theorem triple_same {c : Call} (hok : ∀ r, At S F r → sendProtocol.ok r c)
    (hphase : ∀ r answer, (nextRole r c answer).phase = r.phase) :
    Triple sendProtocol (At S F) (Js.call c : Program L c.Result) (fun _ => At S F)
      (fun _ => At S F) := by
  have hnext : ∀ r answer, At S F r → At S F (nextRole r c answer) := by
    intro r answer hr
    refine ⟨?_, hr.2.trans (facts_subset r c answer)⟩
    rw [hphase]
    exact hr.1
  exact triple_call hok (fun r a => hnext r (.ok a)) (fun r e => hnext r (.error e))

/-- The commands that any thread may run, whatever its phase. -/
def neutral : Command → Bool
  | .reserveDispatchSlot _ | .recoverDispatchingDelivery _ | .markSent _ _ _ _
  | .markTerminalFailure _ _ | .markRestricted _ _ | .markDeliveryUnknown _ _
  | .makeDeliveryRetryable _ | .giveUpReconciliation _ _ | .pauseCampaign _ | .requestPause _
  | .resume _ _ | .completeCampaign _ _ | .rebuild _ _ _ => false
  | _ => true

theorem triple_neutral {c : Command} (h : neutral c = true) :
    Triple sendProtocol (At S F) (query c : Program L c.Result) (fun _ => At S F)
      (fun _ => At S F) := by
  apply triple_same
  · intro r _
    cases c <;> trivial
  · intro r answer
    cases answer with
    | ok a => cases c <;> first | rfl | cases h
    | error e => cases c <;> first | rfl | cases h

theorem triple_settles {c : Command} {id : DeliveryId} (hc : settles c = some id)
    (hok : ∀ r, At S F r → okCommand r c) :
    Triple sendProtocol (At S F) (query c : Program L c.Result) (fun _ => At (· = .free) F)
      (fun _ => At (· = .free) F) := by
  apply triple_call hok
  · intro r a hr
    refine ⟨?_, hr.2.trans (facts_subset r (.db c) (.ok a))⟩
    cases c <;> first | rfl | cases hc
  · intro r e hr
    refine ⟨?_, hr.2.trans (facts_subset r (.db c) (.error e))⟩
    simp [sendProtocol, nextRole, hc]

theorem follow_of {pre : Role → Prop} {m : Program L α} {Q : α → Role → Prop}
    {X : Failure → Role → Prop} (h : Triple sendProtocol pre m Q X) : Follow pre m :=
  triple_conseq h (fun _ hr => hr) (fun _ _ _ => trivial) (fun _ _ _ => trivial)

theorem follow_bind {pre : Role → Prop} {m : Program L α} {f : α → Program L β}
    {Q : α → Role → Prop} {X : Failure → Role → Prop} (hm : Triple sendProtocol pre m Q X)
    (hf : ∀ a, Follow (Q a) (f a)) : Follow pre (m >>= f) :=
  triple_bind (triple_conseq hm (fun _ hr => hr) (fun _ _ hr => hr) (fun _ _ _ => trivial)) hf

theorem follow_neutral {c : Command} {f : c.Result → Program L β} (h : neutral c = true)
    (hf : ∀ a, Follow (At S F) (f a)) : Follow (At S F) (query c >>= f) :=
  follow_bind (triple_neutral h) hf

theorem follow_settles {c : Command} {id : DeliveryId} {f : c.Result → Program L β}
    (hc : settles c = some id) (hok : ∀ r, At S F r → okCommand r c)
    (hf : ∀ a, Follow (At (· = .free) F) (f a)) : Follow (At S F) (query c >>= f) :=
  follow_bind (triple_settles hc hok) hf

theorem triple_locals {f : L → L} {g : Unit → Program L β} {pre : Role → Prop}
    {Q : β → Role → Prop} {X : Failure → Role → Prop}
    (hg : ∀ a, Triple sendProtocol pre (g a) Q X) :
    Triple sendProtocol pre (Js.modifyLocals f >>= g) Q X :=
  triple_bind (triple_modifyLocals (Q := fun _ => pre) (fun _ hr => hr)) hg

/-- A settlement of a permit, noted in the locals. -/
theorem follow_settled {c : Command} {f : L → L} {rest : c.Result → Program L β}
    (h : neutral c = true) (hrest : ∀ a, Follow (At S F) (rest a)) :
    Follow (At S F) (query c >>= fun a => Js.modifyLocals f >>= fun _ => rest a) := by
  apply follow_neutral h
  intro a
  apply triple_locals
  intro _
  exact hrest a

theorem triple_ite {p : Prop} [Decidable p] {pre : Role → Prop} {m m' : Program L α}
    {Q : α → Role → Prop} {X : Failure → Role → Prop}
    (hm : p → Triple sendProtocol pre m Q X) (hm' : ¬ p → Triple sendProtocol pre m' Q X) :
    Triple sendProtocol pre (if p then m else m') Q X := by
  by_cases h : p
  · rw [if_pos h]
    exact hm h
  · rw [if_neg h]
    exact hm' h

theorem follow_pure {pre : Role → Prop} {a : α} : Follow pre (pure a : Program L α) :=
  triple_pure (fun _ _ => trivial)

theorem follow_throw {pre : Role → Prop} {e : Failure} : Follow pre (Js.throw e : Program L α) :=
  triple_throw (fun _ _ => trivial)

end Rules

/-! ## Helpers of the jobs -/

section Helpers

variable {L : Type} {S : Phase → Prop} {F : Set Fact}

theorem delayJob_follow {α : Type} (job : SendJob) (delayMs : Int) :
    Follow (At S F) (delayJob job delayMs : Program L α) := by
  unfold delayJob
  split
  · exact follow_throw
  · apply follow_bind
    · exact triple_same (fun _ _ => trivial) (fun _ _ => rfl)
    · intro _
      exact follow_throw

theorem scheduleReconciliation_triple (config : WorkerConfig) (id : DeliveryId)
    (attemptNumber : Int) :
    Triple sendProtocol (At S F) (scheduleReconciliation config id attemptNumber : Program L Unit)
      (fun _ => At S F) (fun _ => At S F) := by
  unfold scheduleReconciliation
  apply triple_bind
  · exact triple_same (fun _ _ => trivial) (fun _ _ => rfl)
  intro now
  apply triple_bind (triple_neutral rfl)
  intro _
  exact triple_same (fun _ _ => trivial) (fun _ _ => rfl)

theorem frozenRecipientStates_triple {c : CampaignId} (hF : Fact.started c ∈ F) :
    Triple sendProtocol (At S F) (query (.frozenRecipientStates c) : Program L _)
      (fun states r => At S F r ∧ (allFrozenRecipientsTerminal states = true →
        Fact.finished c ∈ r.facts)) (fun _ => At S F) := by
  apply triple_call
  · intro r _
    trivial
  · intro r states hr
    refine ⟨⟨hr.1, hr.2.trans (facts_subset r _ _)⟩, ?_⟩
    intro hterminal
    exact Or.inr ⟨rfl, hr.2 hF, hterminal⟩
  · intro r e hr
    exact hr

theorem completeCampaignIfDone_follow {c : CampaignId} (hF : Fact.started c ∈ F) :
    Follow (At S F) (completeCampaignIfDone c : Program L Unit) := by
  unfold completeCampaignIfDone
  apply follow_bind (frozenRecipientStates_triple hF)
  intro states
  split
  · exact follow_pure
  · rename_i hterminal
    have hpre : ∀ r, At S F r ∧ (allFrozenRecipientsTerminal states = true →
        Fact.finished c ∈ r.facts) → At S (insert (.finished c) F) r := by
      intro r hr
      exact ⟨hr.1.1, Set.insert_subset (hr.2 (by simpa using hterminal)) hr.1.2⟩
    refine triple_conseq (follow_bind (triple_neutral rfl) ?_) hpre (fun _ _ h => h)
      (fun _ _ h => h)
    intro state
    apply triple_ite
    · intro _
      exact follow_pure
    · intro _
      apply follow_of
      apply triple_same
      · intro r hr
        exact hr.2 (Set.mem_insert _ _)
      · intro r answer
        cases answer <;> rfl

theorem waitForSendPermit_triple (id : RecipientId) (owner : String) (rounds : Nat) :
    Triple sendProtocol (At S F)
      (waitForSendPermitWhileCampaignActive id owner rounds : Program L _)
      (fun _ => At S F) (fun _ => At S F) := by
  induction rounds with
  | zero =>
    unfold waitForSendPermitWhileCampaignActive
    apply triple_bind
    · exact triple_same (fun _ _ => trivial) (fun _ _ => rfl)
    intro never
    cases never
  | succ rounds ih =>
    unfold waitForSendPermitWhileCampaignActive
    apply triple_bind (triple_neutral rfl)
    intro result
    cases result with
    | acquired permit nextPermittedAt => exact triple_pure (fun _ hr => hr)
    | refused delayMs =>
      apply triple_bind (triple_neutral rfl)
      intro state
      apply triple_ite
      · intro _
        exact triple_pure (fun _ hr => hr)
      · intro _
        apply triple_bind
        · exact triple_same (fun _ _ => trivial) (fun _ _ => rfl)
        intro _
        exact ih

end Helpers

/-! ## `processSend` -/

/-- The thread holds the claim of a delivery whose campaign it knows to be queued. -/
abbrev Holding (id : DeliveryId) : Role → Prop := At (· = .holder id) {.started id.campaignId}

section Send

variable (job : SendJob) (recipient : SendRecipient) (attemptNumber : Int)

/-- The end of a path that gives the delivery back. -/
theorem giveBack_follow {α : Type} {outcome : AttemptOutcome} {rest : Unit → Program SendLocals α}
    (hrest : ∀ a, Follow (At (· = .free) {.started recipient.id.campaignId}) (rest a)) :
    Follow (Holding recipient.id) (do
      query (.updateAttempt recipient.id attemptNumber outcome)
      query (.makeDeliveryRetryable recipient.id) >>= rest) := by
  apply follow_neutral rfl
  intro _
  exact follow_settles rfl (fun r hr => hr.1) hrest

/-- The end of a path that settles the delivery by the command `c`, and then looks whether the
campaign is done. -/
theorem settleAndComplete_follow {S : Phase → Prop} {outcome : AttemptOutcome} {c : Command}
    (hc : settles c = some recipient.id)
    (hok : ∀ r, At S {.started recipient.id.campaignId} r → okCommand r c) :
    Follow (At S {.started recipient.id.campaignId}) (do
      query (.updateAttempt recipient.id attemptNumber outcome)
      query c >>= fun _ => completeCampaignIfDone recipient.id.campaignId : Program SendLocals Unit) := by
  apply follow_neutral rfl
  intro _
  apply follow_settles hc hok
  intro _
  exact completeCampaignIfDone_follow (Set.mem_singleton _)

/-- The end of a path that gives the delivery back unless this was the last attempt. -/
theorem retry_follow (isThrottled : Bool) (errorCode : String) (delayMs : Int) (error : Failure) :
    Follow (Holding recipient.id) (do
      query (.updateAttempt recipient.id attemptNumber
        (if isThrottled || !finalAttempt job then .FAILED_RETRYABLE else .FAILED_TERMINAL))
      if !isThrottled && finalAttempt job then do
        query (.markTerminalFailure recipient.id errorCode)
        completeCampaignIfDone recipient.id.campaignId
      else do
        query (.makeDeliveryRetryable recipient.id)
        if isThrottled then delayJob job delayMs
        else Js.throw error : Program SendLocals Unit) := by
  apply follow_neutral rfl
  intro _
  apply triple_ite
  · intro _
    apply follow_settles rfl
    · exact fun r hr => Or.inl (Or.inl hr.1)
    intro _
    exact completeCampaignIfDone_follow (Set.mem_singleton _)
  · intro _
    apply follow_settles rfl
    · exact fun r hr => hr.1
    intro _
    apply triple_ite
    · intro _
      exact delayJob_follow job _
    · intro _
      exact follow_throw

theorem conversationRetry_follow (isThrottled : Bool) (providerDelayMs : Option Int)
    (error : Failure) :
    Follow (Holding recipient.id)
      (conversationRetry job recipient attemptNumber isThrottled providerDelayMs error) :=
  retry_follow job recipient attemptNumber isThrottled _ _ error

theorem conversationFailed_follow (createPermit : Permit) (error : Failure) :
    Follow (Holding recipient.id)
      (conversationFailed job recipient attemptNumber createPermit error) := by
  unfold conversationFailed
  split
  · dsimp only
    split
    · apply follow_settled rfl
      intro _
      apply giveBack_follow
      intro _
      exact follow_of (triple_neutral rfl)
    · apply follow_settled rfl
      intro _
      apply giveBack_follow
      intro _
      exact follow_of (triple_neutral rfl)
    · apply follow_settled rfl
      intro _
      apply giveBack_follow
      intro _
      exact follow_of (triple_neutral rfl)
    · apply follow_settled rfl
      intro _
      exact settleAndComplete_follow recipient attemptNumber rfl (fun r hr => Or.inl hr.1)
    · apply triple_ite
      · intro _
        apply follow_settled rfl
        intro _
        exact conversationRetry_follow job recipient attemptNumber _ _ _
      · intro _
        apply follow_settled rfl
        intro _
        exact conversationRetry_follow job recipient attemptNumber _ _ _
    · apply follow_settled rfl
      intro _
      exact conversationRetry_follow job recipient attemptNumber _ _ _
    · apply follow_settled rfl
      intro _
      exact conversationRetry_follow job recipient attemptNumber _ _ _
  · apply follow_settled rfl
    intro _
    exact conversationRetry_follow job recipient attemptNumber _ _ _

/-- Without a conversation the job is over. -/
theorem openConversation_triple (createPermit : Permit) (creatorOpenId : String) :
    Triple sendProtocol (Holding recipient.id)
      (openConversation job recipient attemptNumber createPermit creatorOpenId)
      (fun conversation r => conversation.isSome → Holding recipient.id r) (fun _ _ => True) := by
  unfold openConversation
  apply triple_tryCatch (Y := fun _ => Holding recipient.id)
  · apply triple_bind
    · exact triple_same (fun _ _ => trivial) (fun _ _ => rfl)
    intro conversationId
    apply triple_bind (triple_neutral rfl)
    intro _
    apply triple_locals
    intro _
    exact triple_pure (fun _ hr _ => hr)
  · intro error
    apply triple_bind (conversationFailed_follow job recipient attemptNumber createPermit error)
    intro _
    exact triple_pure (fun _ _ h => by cases h)

theorem persistConversation_triple (conversationId : String) :
    Triple sendProtocol (Holding recipient.id)
      (persistConversation recipient attemptNumber conversationId)
      (fun _ => Holding recipient.id) (fun _ _ => True) := by
  unfold persistConversation
  apply triple_tryCatch (Y := fun _ => Holding recipient.id)
  · apply triple_bind (triple_neutral rfl)
    intro _
    exact triple_neutral rfl
  · intro error
    apply triple_bind (triple_conseq (triple_neutral rfl) (fun _ hr => hr) (fun _ _ hr => hr)
      (fun _ _ _ => trivial))
    intro _
    apply triple_bind (triple_conseq (triple_settles rfl (fun r hr => hr.1)) (fun _ hr => hr)
      (fun _ _ hr => hr) (fun _ _ _ => trivial))
    intro _
    exact triple_throw (fun _ _ => trivial)

theorem pausedBeforeSend_follow :
    Follow (Holding recipient.id) (pausedBeforeSend recipient attemptNumber) := by
  unfold pausedBeforeSend
  apply giveBack_follow
  intro _
  exact follow_of (triple_neutral rfl)

/-- The role after the answer of the provider. -/
def Answered (id : DeliveryId) (answer : Except Failure SendMessageResult) : Role → Prop :=
  At (fun phase => phase = .holder id ∨ phase = .burned id ∧ sendOutcome answer ≠ .rejected)
    {.started id.campaignId}

theorem holds_of_answered {id : DeliveryId} {answer : Except Failure SendMessageResult} {r : Role}
    (h : Answered id answer r) : r.phase.holds id := by
  rcases h.1 with h | ⟨h, _⟩
  · exact Or.inl h
  · exact Or.inr h

theorem holding_of_answered {id : DeliveryId} {answer : Except Failure SendMessageResult} {r : Role}
    (hrejected : sendOutcome answer = .rejected) (h : Answered id answer r) : Holding id r := by
  rcases h.1 with hholder | ⟨_, hnot⟩
  · exact ⟨hholder, h.2⟩
  · exact absurd hrejected hnot

/-- The answer of `sendMessage` decides the phase. -/
theorem answered_awaitSend {id : DeliveryId} {answer : (Call.awaitSend id).Answer} {r : Role}
    (hr : At (· = .calling id) {.started id.campaignId} r) :
    Answered id answer (nextRole r (.awaitSend id) answer) := by
  refine ⟨?_, hr.2.trans (facts_subset r (.awaitSend id) answer)⟩
  cases h : sendOutcome answer <;> simp [nextRole, h]

theorem sendFailed_follow (config : WorkerConfig) (sendPermit : Permit) (error : Failure) :
    Follow (Answered recipient.id (.error error))
      (sendFailed config recipient attemptNumber sendPermit error) := by
  unfold sendFailed
  split
  · rename_i e
    dsimp only
    split
    · rename_i hkind
      refine triple_conseq ?_ (fun r hr => holding_of_answered (by simp [sendOutcome, hkind]) hr)
        (fun _ _ h => h) (fun _ _ h => h)
      apply follow_settled rfl
      intro _
      apply giveBack_follow
      intro _
      exact follow_of (triple_neutral rfl)
    · rename_i hkind
      refine triple_conseq ?_ (fun r hr => holding_of_answered (by simp [sendOutcome, hkind]) hr)
        (fun _ _ h => h) (fun _ _ h => h)
      apply follow_settled rfl
      intro _
      apply giveBack_follow
      intro _
      exact follow_of (triple_neutral rfl)
    · rename_i hkind
      refine triple_conseq ?_ (fun r hr => holding_of_answered (by simp [sendOutcome, hkind]) hr)
        (fun _ _ h => h) (fun _ _ h => h)
      apply follow_settled rfl
      intro _
      apply giveBack_follow
      intro _
      exact follow_of (triple_neutral rfl)
    all_goals
      apply follow_settled rfl
      intro _
      exact settleAndComplete_follow recipient attemptNumber rfl
        (fun r hr => Or.inl (holds_of_answered hr))
  · apply follow_settled rfl
    intro _
    apply follow_settles rfl
    · exact fun r hr => holds_of_answered hr
    intro _
    apply follow_bind (scheduleReconciliation_triple config recipient.id 1)
    intro _
    exact completeCampaignIfDone_follow (Set.mem_singleton _)

theorem settleResult_follow (config : WorkerConfig) (sendPermit : Permit)
    (creatorOpenId conversationId : String) (result : SendMessageResult) :
    Follow (Answered recipient.id (.ok result))
      (settleResult config job recipient attemptNumber sendPermit creatorOpenId conversationId
        result) := by
  cases result with
  | SENT messageId httpStatus =>
    unfold settleResult
    apply follow_settled rfl
    intro _
    exact settleAndComplete_follow recipient attemptNumber rfl
      (fun r hr => Or.inl (holds_of_answered hr))
  | DELIVERY_UNKNOWN httpStatus =>
    unfold settleResult
    apply follow_settled rfl
    intro _
    apply follow_settles rfl
    · exact fun r hr => holds_of_answered hr
    intro _
    apply follow_bind (scheduleReconciliation_triple config recipient.id 1)
    intro _
    have hcomplete : Follow (At (· = .free) {.started recipient.id.campaignId})
        (completeCampaignIfDone recipient.id.campaignId : Program SendLocals Unit) :=
      completeCampaignIfDone_follow (Set.mem_singleton _)
    apply triple_ite
    · intro _
      apply follow_neutral rfl
      intro _
      exact hcomplete
    · intro _
      exact hcomplete
  | RESTRICTED errorCode httpStatus =>
    unfold settleResult
    apply follow_settled rfl
    intro _
    exact settleAndComplete_follow recipient attemptNumber rfl
      (fun r hr => holds_of_answered hr)
  | QUOTA_LIMITED errorCode httpStatus =>
    unfold settleResult
    refine triple_conseq ?_ (fun r hr => holding_of_answered rfl hr) (fun _ _ h => h)
      (fun _ _ h => h)
    apply follow_settled rfl
    intro _
    apply giveBack_follow
    intro _
    exact follow_of (triple_neutral rfl)
  | RETRYABLE_ERROR errorCode retryAfterMs httpStatus =>
    unfold settleResult
    refine triple_conseq ?_ (fun r hr => holding_of_answered rfl hr) (fun _ _ h => h)
      (fun _ _ h => h)
    dsimp only
    have hretry : ∀ delayMs, Follow (Holding recipient.id) (do
        sendPermitIsSettled
        query (.updateAttempt recipient.id attemptNumber
          (if isProviderThrottle httpStatus (some errorCode) || !finalAttempt job then
            .FAILED_RETRYABLE else .FAILED_TERMINAL))
        if !isProviderThrottle httpStatus (some errorCode) && finalAttempt job then do
          query (.markTerminalFailure recipient.id errorCode)
          completeCampaignIfDone recipient.id.campaignId
        else do
          query (.makeDeliveryRetryable recipient.id)
          if isProviderThrottle httpStatus (some errorCode) then delayJob job delayMs
          else Js.throw (.other errorCode)) := by
      intro delayMs
      apply triple_locals
      intro _
      exact retry_follow job recipient attemptNumber _ _ _ _
    apply triple_ite
    · intro _
      apply follow_neutral rfl
      intro result
      exact hretry result.delayMs
    · intro _
      apply follow_neutral rfl
      intro result
      exact hretry result.delayMs

theorem sendWithPermit_follow (config : WorkerConfig) (sendPermit : Permit)
    (creatorOpenId conversationId : String) :
    Follow (Holding recipient.id)
      (sendWithPermit config job recipient attemptNumber sendPermit creatorOpenId
        conversationId) := by
  unfold sendWithPermit
  apply triple_locals
  intro _
  apply follow_bind (Q := fun result r => ∀ result', result = some result' →
    Answered recipient.id (.ok result') r) (X := fun _ _ => True)
  · apply triple_tryCatch (Y := fun error r => Answered recipient.id (.error error) r)
    · apply triple_bind (M := fun _ => At (· = .calling recipient.id)
        {.started recipient.id.campaignId})
      · apply triple_call
        · exact fun r hr => hr.1
        · exact fun r _ hr => ⟨rfl, hr.2⟩
        · exact fun r _ hr => ⟨Or.inl hr.1, hr.2⟩
      · intro _
        apply triple_bind (M := fun result => Answered recipient.id (.ok result))
        · apply triple_call
          · exact fun r hr => hr.1
          · exact fun r result hr => answered_awaitSend hr
          · exact fun r error hr => answered_awaitSend hr
        · intro result
          apply triple_pure
          rintro r hr result' h
          cases h
          exact hr
    · intro error
      apply triple_bind (sendFailed_follow recipient attemptNumber config sendPermit error)
      intro _
      apply triple_pure
      rintro r _ result' h
      cases h
  · intro result
    cases result with
    | none => exact follow_pure
    | some result =>
      exact triple_conseq (settleResult_follow job recipient attemptNumber config sendPermit
        creatorOpenId conversationId result) (fun r hr => hr result rfl) (fun _ _ h => h)
        (fun _ _ h => h)

theorem dispatch_follow (config : WorkerConfig) (rounds : Nat) (createPermit : Permit)
    (creatorOpenId : String) :
    Follow (Holding recipient.id)
      (dispatch config job rounds recipient attemptNumber createPermit creatorOpenId) := by
  unfold dispatch
  apply follow_neutral rfl
  intro _
  apply follow_bind (openConversation_triple job recipient attemptNumber createPermit creatorOpenId)
  intro conversation
  cases conversation with
  | none => exact follow_pure
  | some conversationId =>
    refine triple_conseq (follow_bind
      (persistConversation_triple recipient attemptNumber conversationId) ?_)
      (fun r hr => hr rfl) (fun _ _ h => h) (fun _ _ h => h)
    intro _
    apply follow_bind (waitForSendPermit_triple recipient.id _ rounds)
    intro sendPermit
    cases sendPermit with
    | none => exact pausedBeforeSend_follow recipient attemptNumber
    | some sendPermit =>
      exact sendWithPermit_follow job recipient attemptNumber config sendPermit creatorOpenId
        conversationId

theorem release_triple (permit : Permit) (J : Role → Prop) :
    Triple sendProtocol J (Js.tryCatch (query (.release permit "LOCAL_FAILURE" {}))
      (fun _ => pure ()) : Program SendLocals Unit) (fun _ => J) (fun _ => J) := by
  apply triple_tryCatch (Y := fun _ => J)
  · apply triple_call
    · intro r _
      trivial
    · intro r a hr
      have : sendProtocol.next r (.db (.release permit "LOCAL_FAILURE" {})) (.ok a) = r := by
        simp [sendProtocol, nextRole, nextPhase, learned, settles]
      rwa [this]
    · intro r e hr
      exact hr
  · intro _
    exact triple_pure (fun _ hr => hr)

theorem releasePermits_triple (createPermit : Permit) (J : Role → Prop) :
    Triple sendProtocol J (releasePermits createPermit) (fun _ => J) (fun _ => J) := by
  unfold releasePermits
  apply triple_bind (triple_getLocals (Q := fun _ => J) (fun _ _ hr => hr))
  intro locals
  obtain ⟨createSettled, sendPermit, sendSettled⟩ := locals
  cases sendPermit with
  | none =>
    have hrest : Triple sendProtocol J (pure () : Program SendLocals Unit) (fun _ => J) (fun _ => J) :=
      triple_pure (fun _ hr => hr)
    apply triple_ite
    · intro _
      exact triple_bind (release_triple createPermit J) (fun _ => hrest)
    · intro _
      exact hrest
  | some sendPermit =>
    have hrest : Triple sendProtocol J (if !sendSettled then
        Js.tryCatch (query (.release sendPermit "LOCAL_FAILURE" {})) (fun _ => pure ())
      else pure () : Program SendLocals Unit) (fun _ => J) (fun _ => J) := by
      apply triple_ite
      · intro _
        exact release_triple sendPermit J
      · intro _
        exact triple_pure (fun _ hr => hr)
    apply triple_ite
    · intro _
      exact triple_bind (release_triple createPermit J) (fun _ => hrest)
    · intro _
      exact hrest

/-- A claim starts the phase of a holder. -/
theorem reserveDispatchSlot_triple (id : RecipientId) :
    Triple sendProtocol (At (· = .free) {.started id.campaignId})
      (query (.reserveDispatchSlot id) : Program SendLocals DispatchClaim)
      (fun claim => match claim with
        | .claimed _ => Holding id
        | .notClaimed _ _ => At (· = .free) {.started id.campaignId})
      (fun _ => At (· = .free) {.started id.campaignId}) := by
  apply triple_call
  · exact fun r hr => hr.1
  · intro r claim hr
    have hfacts := hr.2.trans (facts_subset r (.db (.reserveDispatchSlot id)) (.ok claim))
    cases claim with
    | claimed attemptNumber => exact ⟨rfl, hfacts⟩
    | notClaimed cancelled reason => exact ⟨hr.1, hfacts⟩
  · intro r error hr
    exact hr

theorem claimAndDispatch_follow (config : WorkerConfig) (rounds : Nat) (createPermit : Permit)
    (creatorOpenId : String) :
    Follow (At (· = .free) {.started recipient.id.campaignId})
      (claimAndDispatch config job rounds recipient createPermit creatorOpenId) := by
  unfold claimAndDispatch
  apply follow_bind
  · apply triple_tryCatch (reserveDispatchSlot_triple recipient.id)
    intro error
    apply triple_bind
    · exact triple_conseq (triple_neutral rfl) (fun _ hr => hr) (fun _ _ hr => hr)
        (fun _ _ _ => trivial)
    intro _
    apply triple_locals
    intro _
    exact triple_throw (fun _ _ => trivial)
  intro claim
  cases claim with
  | notClaimed cancelled reason =>
    apply follow_settled rfl
    intro _
    apply triple_ite
    · intro _
      exact completeCampaignIfDone_follow (Set.mem_singleton _)
    · intro _
      exact follow_pure
  | claimed attemptNumber =>
    apply triple_tryFinally
    · exact dispatch_follow job recipient attemptNumber config rounds createPermit creatorOpenId
    · exact releasePermits_triple createPermit
    · exact fun _ _ _ _ => trivial
    · exact fun _ _ _ _ => trivial

theorem startDispatch_follow {F : Set Fact} (config : WorkerConfig) (rounds : Nat)
    (delivery : DeliverySnapshot) (hF : Fact.started recipient.id.campaignId ∈ F)
    (hunmessageable : recipient.creatorOpenIdSnapshot.getD "" = "" →
      Fact.unmessageable recipient.id ∈ F) :
    Follow (At (· = .free) F) (startDispatch config job rounds recipient delivery) := by
  have hclaim : ∀ r, At (· = .free) F r →
      At (· = .free) {Fact.started recipient.id.campaignId} r := by
    intro r hr
    exact ⟨hr.1, Set.singleton_subset_iff.2 (hr.2 hF)⟩
  unfold startDispatch
  split
  · apply follow_bind
    · apply triple_same
      · exact fun r hr => hr.2 hF
      · intro r answer
        cases answer <;> rfl
    intro _
    exact delayJob_follow job _
  · exact delayJob_follow job _
  · exact follow_pure
  · apply triple_ite
    · intro hopenId
      apply follow_settles rfl
      · exact fun r hr => Or.inr ⟨hr.1, hr.2 (hunmessageable hopenId)⟩
      intro _
      exact completeCampaignIfDone_follow hF
    · intro _
      apply follow_neutral rfl
      intro result
      cases result with
      | refused delayMs => exact delayJob_follow job _
      | acquired createPermit nextPermittedAt =>
        exact triple_conseq (claimAndDispatch_follow job recipient config rounds createPermit _)
          hclaim (fun _ _ h => h) (fun _ _ h => h)

end Send

/-- What the first read of `processSend` teaches. -/
theorem findSendRecipient_triple (id : RecipientId) :
    Triple sendProtocol (At (· = .free) ∅)
      (query (.findSendRecipient id) : Program SendLocals (Option SendRecipient))
      (fun found => At (· = .free) { f | ∃ recipient delivery, found = some recipient ∧
        recipient.delivery = some delivery ∧ (f = .started recipient.id.campaignId ∨
          f = .interrupted recipient.id ∧ delivery.state = .DISPATCHING ∨
          f = .unmessageable recipient.id ∧ recipient.frozenMessage.isSome ∧
            recipient.creatorOpenIdSnapshot.getD "" = "") }) (fun _ _ => True) := by
  apply triple_call
  · exact fun _ _ => trivial
  · exact fun r found hr => ⟨hr.1, Set.subset_union_right⟩
  · exact fun _ _ _ => trivial

theorem processSend_follow (config : WorkerConfig) (job : SendJob) (rounds : Nat) :
    Follow (At (· = .free) ∅) (processSend config job rounds) := by
  unfold processSend
  apply triple_ite
  · intro _
    exact follow_throw
  intro _
  apply follow_bind (findSendRecipient_triple job.recipientId)
  intro found
  cases found with
  | none => exact follow_pure
  | some recipient =>
    cases hdelivery : recipient.delivery with
    | none =>
      simp only [hdelivery]
      exact follow_pure
    | some delivery =>
      simp only [hdelivery]
      apply triple_ite
      · intro _
        exact follow_pure
      intro hfrozen
      cases haction : deliveryAction delivery.state with
      | SKIP => exact follow_pure
      | RECOVER_AS_UNKNOWN =>
        have hstate : delivery.state = .DISPATCHING := by
          cases hs : delivery.state <;> simp [hs, deliveryAction] at haction
          rfl
        apply follow_bind
        · apply triple_same
          · exact fun r hr => hr.2 ⟨recipient, delivery, rfl, hdelivery, Or.inr (Or.inl ⟨rfl, hstate⟩)⟩
          · intro r answer
            cases answer <;> rfl
        intro _
        exact follow_of (scheduleReconciliation_triple config recipient.id 1)
      | DISPATCH =>
        apply startDispatch_follow job recipient config rounds delivery
        · exact ⟨recipient, delivery, rfl, hdelivery, Or.inl rfl⟩
        · intro hopenId
          refine ⟨recipient, delivery, rfl, hdelivery, Or.inr (Or.inr ⟨rfl, ?_, hopenId⟩)⟩
          cases h : recipient.frozenMessage with
          | none => simp [h] at hfrozen
          | some message => rfl

/-! ## `processReconciliation` -/

theorem findUnknownDelivery_triple (id : DeliveryId) :
    Triple sendProtocol (At (· = .free) ∅)
      (query (.findUnknownDelivery id) : Program Unit (Option UnknownDelivery))
      (fun found => At (· = .free) { f | ∃ delivery, found = some delivery ∧
        (f = .started id.campaignId ∨ f = .unknown id ∧ delivery.state = .DELIVERY_UNKNOWN) })
      (fun _ _ => True) := by
  apply triple_call
  · exact fun _ _ => trivial
  · exact fun r found hr => ⟨hr.1, Set.subset_union_right⟩
  · exact fun _ _ _ => trivial

theorem processReconciliation_follow (config : WorkerConfig) (job : ReconciliationJob) :
    Follow (At (· = .free) ∅) (processReconciliation config job) := by
  unfold processReconciliation
  apply follow_bind (findUnknownDelivery_triple job.deliveryId)
  intro found
  cases found with
  | none => exact follow_pure
  | some delivery =>
    apply triple_ite
    · intro _
      exact follow_pure
    intro hstate
    have hstarted : Fact.started job.deliveryId.campaignId ∈ { f | ∃ delivery',
        some delivery = some delivery' ∧ (f = .started job.deliveryId.campaignId ∨
          f = Fact.unknown job.deliveryId ∧ delivery'.state = .DELIVERY_UNKNOWN) } :=
      ⟨delivery, rfl, Or.inl rfl⟩
    have hunknown : Fact.unknown job.deliveryId ∈ { f | ∃ delivery',
        some delivery = some delivery' ∧ (f = .started job.deliveryId.campaignId ∨
          f = Fact.unknown job.deliveryId ∧ delivery'.state = .DELIVERY_UNKNOWN) } :=
      ⟨delivery, rfl, Or.inr ⟨rfl, not_not.1 hstate⟩⟩
    split
    · apply follow_neutral rfl
      intro linked
      split
      · apply follow_neutral rfl
        intro _
        apply follow_settles rfl
        · exact fun r hr => Or.inr ⟨hr.1, hr.2 hunknown⟩
        intro _
        exact completeCampaignIfDone_follow hstarted
      · apply triple_ite
        · intro _
          apply follow_neutral rfl
          intro _
          apply follow_bind (scheduleReconciliation_triple config job.deliveryId _)
          intro _
          exact completeCampaignIfDone_follow hstarted
        · intro _
          apply follow_bind
          · apply triple_same
            · exact fun r hr => ⟨hr.1, hr.2 hunknown⟩
            · intro r answer
              cases answer <;> rfl
          intro _
          exact completeCampaignIfDone_follow hstarted
    · exact follow_pure

/-! ## The operator's actions -/

section Operator

variable {F : Set Fact}

theorem requiredCampaign_triple {S : Phase → Prop} (c : CampaignId) :
    Triple sendProtocol (At S F) (requiredCampaign c) (fun campaign r => At S F r ∧
      (started campaign.state = true → Fact.started c ∈ r.facts)) (fun _ => At S F) := by
  apply triple_call
  · exact fun _ _ => trivial
  · intro r campaign hr
    exact ⟨⟨hr.1, hr.2.trans (facts_subset r _ _)⟩, fun h => Or.inr ⟨rfl, h⟩⟩
  · exact fun r _ hr => hr

/-- A read of a campaign by an action that does not need to know that it was queued. -/
theorem requiredCampaign_neutral {S : Phase → Prop} (c : CampaignId) :
    Triple sendProtocol (At S F) (requiredCampaign c) (fun _ => At S F) (fun _ => At S F) :=
  triple_neutral rfl

theorem requireOutboundAvailable_triple {S : Phase → Prop} :
    Triple sendProtocol (At S F) requireOutboundAvailable (fun _ => At S F) (fun _ => At S F) := by
  unfold requireOutboundAvailable
  apply triple_bind
  · exact triple_same (fun _ _ => trivial) (fun _ _ => rfl)
  intro available
  apply triple_ite
  · intro _
    exact triple_pure (fun _ hr => hr)
  · intro _
    exact triple_throw (fun _ hr => hr)

theorem freezeCampaign_triple (c : CampaignId) (version : Int) :
    Triple sendProtocol (At (· = .free) F) (freezeCampaign c version)
      (fun _ => At (· = .free) F) (fun _ => At (· = .free) F) := by
  unfold freezeCampaign
  apply triple_bind requireOutboundAvailable_triple
  intro _
  apply triple_bind (triple_neutral rfl)
  intro _
  apply triple_bind (requiredCampaign_neutral c)
  intro campaign
  apply triple_ite
  · intro _
    exact triple_throw (fun _ hr => hr)
  · intro _
    apply triple_bind
    · exact triple_same (fun _ _ => trivial) (fun _ _ => rfl)
    intro now
    exact triple_neutral rfl

theorem queueFrozenCampaign_triple (c : CampaignId) (version : Int) :
    Triple sendProtocol (At (· = .free) F) (queueFrozenCampaign c version)
      (fun _ => At (· = .free) F) (fun _ => At (· = .free) F) := by
  unfold queueFrozenCampaign
  apply triple_bind (triple_neutral rfl)
  intro _
  apply triple_bind (requiredCampaign_neutral c)
  intro campaign
  apply triple_bind
  · exact triple_same (fun _ _ => trivial) (fun _ _ => rfl)
  intro now
  apply triple_ite
  · intro _
    exact triple_throw (fun _ hr => hr)
  · intro _
    apply triple_bind (triple_neutral rfl)
    intro _
    exact triple_same (fun _ _ => trivial) (fun _ _ => rfl)

theorem materialize_follow (c : CampaignId) (version : Int) :
    Follow (At (· = .free) F) (materialize c version) := by
  unfold materialize
  apply triple_tryCatch
  · exact triple_conseq (queueFrozenCampaign_triple c version) (fun _ hr => hr)
      (fun _ _ _ => trivial) (fun _ _ hr => hr)
  · intro error
    apply follow_bind (requiredCampaign_neutral c)
    intro current
    apply triple_ite
    · intro _
      exact follow_pure
    · intro _
      exact follow_throw

theorem send_follow (c : CampaignId) (version : Int) :
    Follow (At (· = .free) F) (send c version) := by
  unfold send
  apply follow_neutral rfl
  intro _
  apply follow_bind (requiredCampaign_neutral c)
  intro campaign
  apply triple_ite
  · intro _
    exact follow_pure
  intro _
  apply follow_bind requireOutboundAvailable_triple
  intro _
  split
  · apply follow_bind
    · apply triple_tryCatch (freezeCampaign_triple c version)
      intro error
      apply triple_bind (requiredCampaign_neutral c)
      intro current
      apply triple_ite
      · intro _
        exact triple_throw (fun _ hr => hr)
      · intro _
        exact triple_pure (fun _ hr => hr)
    intro _
    apply follow_bind (requiredCampaign_neutral c)
    intro frozen
    apply triple_ite
    · intro _
      exact follow_pure
    · intro _
      exact materialize_follow c frozen.version
  · exact materialize_follow c version
  · exact follow_throw

theorem pauseCampaign_follow (c : CampaignId) :
    Follow (At (· = .free) F) (outreach_service.pauseCampaign c) := by
  unfold outreach_service.pauseCampaign
  apply follow_bind (requiredCampaign_triple c)
  intro campaign
  apply triple_ite
  · intro hstate
    apply triple_call
    · intro r hr
      apply hr.2
      rcases hstate with h | h <;> rw [h] <;> rfl
    · exact fun _ _ _ => trivial
    · exact fun _ _ _ => trivial
  · intro _
    exact follow_throw

theorem resumeCampaign_follow (c : CampaignId) :
    Follow (At (· = .free) F) (resumeCampaign c) := by
  unfold resumeCampaign
  apply follow_bind (requiredCampaign_triple c)
  intro campaign
  apply triple_ite
  · intro hstate
    apply triple_ite
    · intro _
      exact follow_throw
    · intro _
      apply follow_bind
      · apply triple_call (Q := fun _ => At (· = .free) F) (X := fun _ _ => True)
        · intro r hr
          apply hr.2
          rcases hstate with h | h | h <;> rw [h] <;> rfl
        · exact fun r a hr => ⟨hr.1.1, hr.1.2.trans (facts_subset r _ (.ok a))⟩
        · exact fun _ _ _ => trivial
      intro _
      exact follow_of (triple_same (fun _ _ => trivial) (fun _ _ => rfl))
  · intro _
    exact follow_throw

theorem cancelCampaign_follow (c : CampaignId) :
    Follow (At (· = .free) F) (cancelCampaign c) := by
  unfold cancelCampaign
  apply follow_bind (requiredCampaign_neutral c)
  intro campaign
  apply triple_ite
  · intro _
    exact follow_of (triple_neutral rfl)
  · intro _
    apply triple_ite
    · intro _
      exact follow_pure
    · intro _
      exact follow_throw

theorem expirySweep_follow : Follow (At (· = .free) F) expirySweep := by
  unfold expirySweep
  apply follow_neutral rfl
  intro _
  exact follow_pure

end Operator

/-! ## The sweeps of the outbox -/

section Sweeps

open outbox_sweeps

variable {F : Set Fact}

theorem enqueueEntry_triple (id : RecipientId) {known : Program Unit Unit} (backoffMs : Option Int)
    (hknown : Triple sendProtocol (At (· = .free) F) known (fun _ => At (· = .free) F)
      (fun _ => At (· = .free) F)) :
    Triple sendProtocol (At (· = .free) F) (enqueueEntry id known backoffMs)
      (fun _ => At (· = .free) F) (fun _ => At (· = .free) F) := by
  have hadd : Triple sendProtocol (At (· = .free) F) (do
      Js.call (Call.addSendJob id)
      query (.markEnqueued id) : Program Unit Unit) (fun _ => At (· = .free) F)
      (fun _ => At (· = .free) F) := by
    apply triple_bind
    · exact triple_same (fun _ _ => trivial) (fun _ _ => rfl)
    intro _
    exact triple_neutral rfl
  unfold enqueueEntry
  apply triple_tryCatch (Y := fun _ => At (· = .free) F)
  · apply triple_bind
    · exact triple_same (fun _ _ => trivial) (fun _ _ => rfl)
    intro existing
    apply triple_ite
    · intro _
      apply triple_bind
      · exact triple_same (fun _ _ => trivial) (fun _ _ => rfl)
      intro state
      apply triple_ite
      · intro _
        apply triple_bind
        · exact triple_same (fun _ _ => trivial) (fun _ _ => rfl)
        intro _
        exact hadd
      · intro _
        exact hknown
    · intro _
      exact hadd
  · intro error
    exact triple_neutral rfl

theorem sweepRecipients_triple (ids : List RecipientId) :
    Triple sendProtocol (At (· = .free) F) (sweepRecipients ids) (fun _ => At (· = .free) F)
      (fun _ => At (· = .free) F) := by
  induction ids with
  | nil => exact triple_pure (fun _ hr => hr)
  | cons id rest ih =>
    unfold sweepRecipients
    apply triple_bind (triple_neutral rfl)
    intro entry
    apply triple_ite
    · intro _
      apply triple_bind (enqueueEntry_triple id none (triple_pure (fun _ hr => hr)))
      intro _
      exact ih
    · intro _
      exact ih

theorem maintenanceSweep_follow (limit : Nat) :
    Follow (At (· = .free) F) (maintenanceSweep limit) := by
  unfold maintenanceSweep
  apply follow_neutral rfl
  intro _
  apply follow_neutral rfl
  intro _
  apply follow_neutral rfl
  intro recipients
  exact follow_of (sweepRecipients_triple recipients)

theorem upsertMissing_triple (ids : List RecipientId) :
    Triple sendProtocol (At (· = .free) F) (upsertMissing ids) (fun _ => At (· = .free) F)
      (fun _ => At (· = .free) F) := by
  induction ids with
  | nil => exact triple_pure (fun _ hr => hr)
  | cons id rest ih =>
    unfold upsertMissing
    apply triple_bind (triple_neutral rfl)
    intro _
    exact ih

theorem enqueueEntries_triple (ids : List RecipientId) :
    Triple sendProtocol (At (· = .free) F) (enqueueEntries ids) (fun _ => At (· = .free) F)
      (fun _ => At (· = .free) F) := by
  induction ids with
  | nil => exact triple_pure (fun _ hr => hr)
  | cons id rest ih =>
    unfold enqueueEntries
    apply triple_bind (enqueueEntry_triple id (some 5000) (triple_neutral rfl))
    intro _
    exact ih

theorem reconcileOutbox_follow (readOnly : Bool) (limit : Nat) :
    Follow (At (· = .free) F) (reconcileOutbox readOnly limit) := by
  unfold reconcileOutbox
  apply triple_ite
  · intro _
    exact follow_pure
  intro _
  apply follow_neutral rfl
  intro missing
  apply follow_bind (upsertMissing_triple missing)
  intro _
  apply follow_neutral rfl
  intro entries
  exact follow_of (enqueueEntries_triple entries)

end Sweeps

/-! ## All programs -/

/-- The programs of the system, with their arguments. -/
inductive Job
  | processSend (config : WorkerConfig) (job : SendJob) (rounds : Nat)
  | processReconciliation (config : WorkerConfig) (job : ReconciliationJob)
  | send (c : CampaignId) (version : Int)
  | freeze (c : CampaignId) (version : Int)
  | queueFrozen (c : CampaignId) (version : Int)
  | pause (c : CampaignId)
  | resume (c : CampaignId)
  | cancel (c : CampaignId)
  | expirySweep
  | discover (c : CampaignId)
  | maintenanceSweep (limit : Nat)
  | reconcileOutbox (readOnly : Bool) (limit : Nat)
  /-- A reconciliation job that the worker takes from the queue. -/
  | takenReconciliation (config : WorkerConfig) (job : ReconciliationJob)

/-- The worker takes the job, and then runs it. -/
def takenReconciliation (config : WorkerConfig) (job : ReconciliationJob) : Program Unit Unit := do
  Js.call (Call.takeJob job)
  worker.processReconciliation config job

def Job.program : Job → Prog Call Call.Answer Unit
  | processSend config job rounds => (worker.processSend config job rounds).thread {}
  | processReconciliation config job => (worker.processReconciliation config job).thread ()
  | send c version => (outreach_service.send c version).thread ()
  | freeze c version => (freezeCampaign c version).thread ()
  | queueFrozen c version => (queueFrozenCampaign c version).thread ()
  | pause c => (outreach_service.pauseCampaign c).thread ()
  | resume c => (resumeCampaign c).thread ()
  | cancel c => (cancelCampaign c).thread ()
  | expirySweep => outreach_service.expirySweep.thread ()
  | discover c => (outreach_service.discover c).thread ()
  | maintenanceSweep limit => (outbox_sweeps.maintenanceSweep limit).thread ()
  | reconcileOutbox readOnly limit => (outbox_sweeps.reconcileOutbox readOnly limit).thread ()
  | takenReconciliation config job => (send_protocol.takenReconciliation config job).thread ()

/-- The jobs that never destroy a campaign. -/
def Job.keeps : Job → Bool
  | discover _ => false
  | _ => true

/-- The programs of the jobs under a condition. -/
def Startable (allowed : Job → Bool) (p : Prog Call Call.Answer Unit) : Prop :=
  ∃ job, allowed job = true ∧ p = job.program

theorem startable_conforms {p : Prog Call Call.Answer Unit} (hp : Startable Job.keeps p) :
    p.Conforms sendProtocol start (fun _ _ => True) := by
  have hstart : At (· = .free) ∅ start := ⟨rfl, Set.empty_subset _⟩
  obtain ⟨job, hkeeps, rfl⟩ := hp
  cases job with
  | processSend config job rounds =>
    exact conforms_thread (processSend_follow config job rounds) hstart
  | processReconciliation config job =>
    exact conforms_thread (processReconciliation_follow config job) hstart
  | send c version => exact conforms_thread (send_follow c version) hstart
  | freeze c version => exact conforms_thread (follow_of (freezeCampaign_triple c version)) hstart
  | queueFrozen c version =>
    exact conforms_thread (follow_of (queueFrozenCampaign_triple c version)) hstart
  | pause c => exact conforms_thread (pauseCampaign_follow c) hstart
  | resume c => exact conforms_thread (resumeCampaign_follow c) hstart
  | cancel c => exact conforms_thread (cancelCampaign_follow c) hstart
  | expirySweep => exact conforms_thread expirySweep_follow hstart
  | discover c => cases hkeeps
  | maintenanceSweep limit => exact conforms_thread (maintenanceSweep_follow limit) hstart
  | reconcileOutbox readOnly limit =>
    exact conforms_thread (reconcileOutbox_follow readOnly limit) hstart
  | takenReconciliation config job =>
    refine conforms_thread (follow_bind (Q := fun _ => At (· = .free) ∅)
      (X := fun _ => At (· = .free) ∅) ?_ ?_) hstart
    · exact triple_same (fun _ _ => trivial) (fun _ _ => rfl)
    · intro _
      exact processReconciliation_follow config job

end tiktok_outreach.send_protocol
