-- The reconciliation of an unknown delivery: it looks for the message of the
-- attempt in a window that begins with the first dispatch of the delivery.
import TiktokOutreach.Lib.Transcripts
import TiktokOutreach.AtomicSystem

open executions tables transactions tiktok_outreach.schema tiktok_outreach.settlements
  tiktok_outreach.outreach_service tiktok_outreach.commands tiktok_outreach.worker
  tiktok_outreach.system

namespace tiktok_outreach.reconciliations

/-! ## The messages that an attempt can have sent -/

/-- The message is written from half a minute before a dispatch to two hours after it. -/
def InWindow (dispatchedAt : Int) (message : ConversationMessage) : Prop :=
  dispatchedAt - 30000 ≤ message.providerCreatedAt ∧
    message.providerCreatedAt ≤ dispatchedAt + 2 * 60 * 60 * 1000

/-- The message of a conversation has the content of a delivery, and no other delivery is linked
to it. -/
structure Fits (linked : Db) (id : DeliveryId) (delivery : Delivery) (messageId : String)
    (message : ConversationMessage) : Prop where
  conversation : some message.conversationId = delivery.conversationId
  outbound : message.direction = .OUTBOUND
  content : message.contentHash = delivery.contentHash
  free : ∀ id' d, linked.deliveries.get id' = some d → d.externalMessageId = some messageId →
    id' = id

/-- An attempt of the delivery was dispatched at `t` and has an unknown outcome, and one message
fits it: no other one that fits was written around that dispatch or around the first one. -/
structure LoneMessage (read linked : Db) (id : DeliveryId) (delivery : Delivery) (t : Int)
    (messageId : String) (message : ConversationMessage) : Prop where
  stored : read.deliveries.get id = some delivery
  unknown : delivery.state = .DELIVERY_UNKNOWN
  attempted : delivery.lastAttemptedAt = some t
  found : read.messages.get messageId = some message
  fits : Fits linked id delivery messageId message
  inWindow : InWindow t message
  alone : ∀ messageId' message', read.messages.get messageId' = some message' →
    Fits linked id delivery messageId' message' →
    (InWindow t message' ∨
      ∃ first, delivery.firstDispatchedAt = some first ∧ InWindow first message') →
    messageId' = messageId

/-- What the reconciliation looks for: a message in the window of the first dispatch that the
delivery itself is not linked to. -/
def Findable (linked : Db) (id : DeliveryId) (delivery : Delivery) (messageId : String)
    (message : ConversationMessage) : Prop :=
  (∃ first, delivery.firstDispatchedAt = some first ∧ InWindow first message) ∧
    ∀ d, linked.deliveries.get id = some d → d.externalMessageId ≠ some messageId

/-! ## The search -/

/-- The messages that are a match in the search. -/
def matching (contentHash : String) (dispatchedAt : Int) (alreadyLinked : List String)
    (m : String × ConversationMessage) : Bool :=
  m.2.direction = .OUTBOUND && m.2.contentHash = contentHash &&
    decide (dispatchedAt - 30000 ≤ m.2.providerCreatedAt) &&
    decide (m.2.providerCreatedAt ≤ dispatchedAt + 2 * 60 * 60 * 1000) &&
    !alreadyLinked.contains m.1

theorem filter_eq_singleton {α : Type} {l : List α} (hl : l.Nodup) {p : α → Bool} {a : α} :
    l.filter p = [a] ↔ (a ∈ l ∧ p a = true) ∧ ∀ b ∈ l, p b = true → b = a := by
  constructor
  · intro h
    have hmem : ∀ b, b ∈ l ∧ p b = true ↔ b = a := by
      intro b
      rw [← List.mem_filter, h, List.mem_singleton]
    exact ⟨(hmem a).2 rfl, fun b hb hp => (hmem b).1 ⟨hb, hp⟩⟩
  · rintro ⟨⟨ha, hpa⟩, halone⟩
    by_contra hne
    rcases ((hl.filter p).ne_singleton_iff a).1 hne with hnil | ⟨b, hb, hba⟩
    · have hmem := List.mem_filter.2 ⟨ha, hpa⟩
      rw [hnil] at hmem
      cases hmem
    · exact hba (halone b (List.mem_filter.1 hb).1 (List.mem_filter.1 hb).2)

/-- A search matches a message exactly when it is the only match. -/
theorem reconcile_eq_matched {contentHash : String} {dispatchedAt : Int}
    {messages : List (String × ConversationMessage)} {alreadyLinked : List String}
    {messageId : String} :
    reconcileUnknownDelivery contentHash dispatchedAt messages alreadyLinked =
        .MATCHED messageId ↔
      ∃ message, messages.filter (matching contentHash dispatchedAt alreadyLinked) =
        [(messageId, message)] := by
  unfold reconcileUnknownDelivery
  extract_lets windowStart windowEnd found
  have hfound : messages.filter (matching contentHash dispatchedAt alreadyLinked) = found := rfl
  rw [hfound]
  clear_value found
  rcases found with _ | ⟨⟨id, message⟩, _ | ⟨m, rest⟩⟩
  · simp
  · simp
  · simp

theorem matching_iff {contentHash messageId : String} {dispatchedAt : Int}
    {alreadyLinked : List String} {message : ConversationMessage} :
    matching contentHash dispatchedAt alreadyLinked (messageId, message) = true ↔
      message.direction = .OUTBOUND ∧ message.contentHash = contentHash ∧
        InWindow dispatchedAt message ∧ messageId ∉ alreadyLinked := by
  simp only [matching, InWindow, Bool.and_eq_true, decide_eq_true_eq, Bool.not_eq_true',
    ← Bool.not_eq_true, List.contains_iff_mem]
  tauto

/-- The ids of all messages that a delivery is linked to. -/
def links (linked : Db) : List String :=
  linked.deliveries.rows.filterMap (·.2.externalMessageId)

theorem mem_links {linked : Db} {messageId : String} :
    messageId ∈ links linked ↔
      ∃ id d, linked.deliveries.get id = some d ∧ d.externalMessageId = some messageId := by
  unfold links
  rw [List.mem_filterMap]
  constructor
  · rintro ⟨⟨id, d⟩, hd, hmessage⟩
    exact ⟨id, d, (linked.deliveries.mem_rows_iff id d).1 hd, hmessage⟩
  · rintro ⟨id, d, hd, hmessage⟩
    exact ⟨(id, d), (linked.deliveries.mem_rows_iff id d).2 hd, hmessage⟩

/-- The messages of a delivery's conversation. -/
def conversationMessages (read : Db) (delivery : Delivery) : List (String × ConversationMessage) :=
  read.messages.findMany (fun _ m => some m.conversationId = delivery.conversationId)

theorem nodup_conversationMessages (read : Db) (delivery : Delivery) :
    (conversationMessages read delivery).Nodup :=
  (List.Nodup.of_map Prod.fst read.messages.nodup).filter _

section Search

variable {read linked : Db} {id : DeliveryId} {delivery : Delivery} {t first : Int}
  {messageId : String} {message : ConversationMessage}

/-- A message of the conversation is free for the search when no delivery is linked to it. -/
theorem not_mem_links (hfits : Fits linked id delivery messageId message) :
    messageId ∉ links linked ↔
      ∀ d, linked.deliveries.get id = some d → d.externalMessageId ≠ some messageId := by
  rw [mem_links]
  constructor
  · intro h d hd hmessage
    exact h ⟨id, d, hd, hmessage⟩
  · rintro h ⟨id', d, hd, hmessage⟩
    have hid := hfits.free id' d hd hmessage
    subst hid
    exact h d hd hmessage

/-- The search from the first dispatch finds the lone message of an attempt exactly when it is
findable. -/
theorem search_finds (h : LoneMessage read linked id delivery t messageId message)
    (hfirst : delivery.firstDispatchedAt = some first) (messageId' : String) :
    reconcileUnknownDelivery delivery.contentHash first (conversationMessages read delivery)
        (links linked) = .MATCHED messageId' ↔
      messageId' = messageId ∧ Findable linked id delivery messageId message := by
  have hmember : ∀ {k m}, (k, m) ∈ conversationMessages read delivery ↔
      read.messages.get k = some m ∧ some m.conversationId = delivery.conversationId := by
    intro k m
    unfold conversationMessages
    rw [Table.mem_findMany, decide_eq_true_iff]
  have hlone : ∀ {k m}, (k, m) ∈ conversationMessages read delivery →
      matching delivery.contentHash first (links linked) (k, m) = true → k = messageId := by
    intro k m hk hmatching
    obtain ⟨hget, hconversation⟩ := hmember.1 hk
    obtain ⟨hout, hcontent, hwindow, hfree⟩ := matching_iff.1 hmatching
    refine h.alone k m hget ⟨hconversation, hout, hcontent, ?_⟩ (Or.inr ⟨first, hfirst, hwindow⟩)
    intro id' d hd hmessage
    exact absurd (mem_links.2 ⟨id', d, hd, hmessage⟩) hfree
  rw [reconcile_eq_matched]
  simp only [filter_eq_singleton (nodup_conversationMessages read delivery)]
  constructor
  · rintro ⟨message', ⟨hmem, hmatching⟩, -⟩
    have hid := hlone hmem hmatching
    subst hid
    have hsame : message' = message := by
      have hget := (hmember.1 hmem).1
      rw [h.found] at hget
      exact (Option.some.inj hget).symm
    subst hsame
    obtain ⟨-, -, hwindow, hfree⟩ := matching_iff.1 hmatching
    exact ⟨rfl, ⟨first, hfirst, hwindow⟩, (not_mem_links h.fits).1 hfree⟩
  · rintro ⟨rfl, ⟨first', hfirst', hwindow⟩, hfree⟩
    rw [hfirst] at hfirst'
    cases hfirst'
    refine ⟨message, ⟨hmember.2 ⟨h.found, h.fits.conversation⟩, matching_iff.2 ⟨h.fits.outbound,
      h.fits.content, hwindow, (not_mem_links h.fits).2 hfree⟩⟩, ?_⟩
    rintro ⟨k, m⟩ hk hmatching
    have hid := hlone hk hmatching
    subst hid
    have hget := (hmember.1 hk).1
    rw [h.found] at hget
    cases hget
    rfl

end Search

/-! ## The job -/

section Job

variable (env : Environment) (options : outbound_throttle.Options)

/-- The database is available: a transaction commits, or refuses by itself. -/
inductive Answers : World → (c : Call) → c.Answer → World → Prop
  | commit (w : World) (c : Command) (ambient : Ambient) (r : c.Result) (db : Db)
      (hrun : (c.body env options ambient).run w.db = .ok (r, db)) :
      Answers w (.db c) (.ok r) { w with db }
  | refused (w : World) (c : Command) (ambient : Ambient) (e : Failure)
      (hrun : (c.body env options ambient).run w.db = .error e) :
      Answers w (.db c) (.error e) w
  | elsewhere (w w' : World) (c : Call) (answer : c.Answer) (hdb : ∀ command, c ≠ .db command)
      (hexec : Exec env options 0 w c answer w') : Answers w c answer w'

abbrev EndsWith {α : Type} (m : Program Unit α) (steps : List (Made World Call))
    (outcome : Except Failure α) : Prop :=
  Js.Ends (Answers env options) m () steps outcome

variable {env options}

/-- A read that cannot fail. -/
theorem ends_read {α : Type} {c : Command} {g : Db → c.Result} {f : c.Result → Program Unit α}
    {steps : List (Made World Call)} {outcome : Except Failure α}
    (hbody : ∀ ambient, c.body env options ambient = Tx.read g)
    (h : EndsWith env options (query c >>= f) steps outcome) :
    ∃ w w' rest, steps = ⟨w, .db c, w'⟩ :: rest ∧
      EndsWith env options (f (g w.db)) rest outcome := by
  rcases Js.ends_bind.1 h with ⟨e, hcall, -⟩ | ⟨first, rest, r, rfl, hcall, hrest⟩
  · obtain ⟨w, w', -, hanswers⟩ := Js.ends_call.1 hcall
    cases hanswers with
    | refused _ _ ambient hrun =>
      rw [hbody, Tx.run_read] at hrun
      cases hrun
    | elsewhere _ _ _ hdb => exact absurd rfl (hdb c)
  · obtain ⟨w, w', rfl, hanswers⟩ := Js.ends_call.1 hcall
    refine ⟨w, w', rest, rfl, ?_⟩
    cases hanswers with
    | commit _ ambient _ db hrun =>
      rw [hbody, Tx.run_read] at hrun
      cases hrun
      exact hrest
    | elsewhere _ _ _ hdb => exact absurd rfl (hdb c)

/-- The call that a program begins with is made. -/
theorem ends_query_bind {α : Type} {c : Command} {f : c.Result → Program Unit α}
    {steps : List (Made World Call)} {outcome : Except Failure α}
    (h : EndsWith env options (query c >>= f) steps outcome) :
    ∃ made rest, steps = made :: rest ∧ made.call = .db c ∧
      (rest = [] ∨ ∃ r, EndsWith env options (f r) rest outcome) := by
  rcases Js.ends_bind.1 h with ⟨e, hcall, -⟩ | ⟨first, rest, r, rfl, hcall, hrest⟩
  · obtain ⟨w, w', rfl, -⟩ := Js.ends_call.1 hcall
    exact ⟨_, [], rfl, rfl, Or.inl rfl⟩
  · obtain ⟨w, w', rfl, -⟩ := Js.ends_call.1 hcall
    exact ⟨_, rest, rfl, rfl, Or.inr ⟨r, hrest⟩⟩

/-- The call records no match. -/
def Unmatched (c : Call) : Prop :=
  ∀ id n messageId, c ≠ .db (.updateReconciliationRun id n .MATCHED (some messageId))

/-- The programs that record no match. -/
def searches : Protocol Call Call.Answer Unit := ⟨fun _ c => Unmatched c, fun _ _ _ => ()⟩

abbrev NoMatch {α : Type} (m : Program Unit α) : Prop := Js.Within searches (fun _ => True) m

theorem noMatch_call {c : Call} (h : Unmatched c) :
    NoMatch (Js.call c : Program Unit c.Result) :=
  Js.within_call (fun _ _ => h) (fun _ _ _ => trivial)

theorem completeCampaignIfDone_noMatch (campaignId : CampaignId) :
    NoMatch (completeCampaignIfDone campaignId) := by
  unfold completeCampaignIfDone
  apply Js.within_bind (noMatch_call (by simp [Unmatched]))
  intro states
  apply Js.within_ite (Js.within_pure ())
  apply Js.within_bind (noMatch_call (by simp [Unmatched]))
  intro (state : CampaignState)
  exact Js.within_ite (Js.within_pure ()) (noMatch_call (by simp [Unmatched]))

theorem scheduleReconciliation_noMatch (config : WorkerConfig) (id : DeliveryId)
    (attemptNumber : Int) : NoMatch (scheduleReconciliation config id attemptNumber) := by
  unfold scheduleReconciliation
  extract_lets index delay
  apply Js.within_bind (noMatch_call (by simp [Unmatched]))
  intro now
  apply Js.within_bind (noMatch_call (by simp [Unmatched]))
  intro done
  exact noMatch_call (by simp [Unmatched])

theorem unmatched_of_ends {α : Type} {m : Program Unit α} {steps : List (Made World Call)}
    {outcome : Except Failure α} (hm : NoMatch m) (h : EndsWith env options m steps outcome) :
    ∀ s ∈ steps, Unmatched s.call := by
  intro s hs
  obtain ⟨role, hunmatched⟩ := Js.allowed_of_ends hm () trivial h s hs
  exact hunmatched

/-- The job records a match with the message. -/
def MatchedOn (job : ReconciliationJob) (steps : List (Made World Call)) (messageId : String) :
    Prop :=
  ∃ s ∈ steps, s.call =
    .db (.updateReconciliationRun job.deliveryId job.attemptNumber .MATCHED (some messageId))

theorem not_matchedOn {job : ReconciliationJob} {steps : List (Made World Call)}
    {messageId : String} (h : ∀ s ∈ steps, Unmatched s.call) : ¬ MatchedOn job steps messageId := by
  rintro ⟨s, hs, hcall⟩
  exact h s hs _ _ _ hcall

/-- A job records the match that its search finds, among the messages and the links that it
reads. -/
theorem matchedOn_iff_search {config : WorkerConfig} {job : ReconciliationJob}
    {steps : List (Made World Call)} {outcome : Except Failure Unit} {read linked : Db}
    {delivery : Delivery} {conversationId messageId : String}
    (h : EndsWith env options (processReconciliation config job) steps outcome)
    (hread : ∀ s ∈ steps, s.call = .db (.findUnknownDelivery job.deliveryId) → s.before.db = read)
    (hlinked : ∀ s ∈ steps, s.call = .db .linkedMessageIds → s.before.db = linked)
    (hstored : read.deliveries.get job.deliveryId = some delivery)
    (hunknown : delivery.state = .DELIVERY_UNKNOWN)
    (hconversation : delivery.conversationId = some conversationId) :
    MatchedOn job steps messageId ↔ ∃ first, delivery.firstDispatchedAt = some first ∧
      reconcileUnknownDelivery delivery.contentHash first (conversationMessages read delivery)
        (links linked) = .MATCHED messageId := by
  unfold processReconciliation at h
  obtain ⟨w1, w1', rest, rfl, hrest⟩ := ends_read (fun _ => rfl) h
  have hdb : w1.db = read := hread _ List.mem_cons_self rfl
  rw [hdb] at hrest
  simp only [hstored, Option.map_some, hunknown, hconversation, ne_eq, not_true_eq_false,
    if_false] at hrest
  have hfirstRead : ∀ {tail : List (Made World Call)},
      MatchedOn job (⟨w1, .db (.findUnknownDelivery job.deliveryId), w1'⟩ :: tail) messageId ↔
        MatchedOn job tail messageId := by
    intro tail
    simp [MatchedOn]
  rw [hfirstRead]
  cases hfirst : delivery.firstDispatchedAt with
  | none =>
    rw [hfirst] at hrest
    obtain ⟨rfl, -⟩ := Js.ends_pure.1 hrest
    refine iff_of_false (not_matchedOn (by simp)) ?_
    rintro ⟨first, hsome, -⟩
    cases hsome
  | some first =>
    rw [hfirst] at hrest
    obtain ⟨w2, w2', tail, rfl, htail⟩ := ends_read (fun _ => rfl) hrest
    have hdb2 : w2.db = linked :=
      hlinked _ (List.mem_cons_of_mem _ List.mem_cons_self) rfl
    have hsecondRead : MatchedOn job (⟨w2, .db .linkedMessageIds, w2'⟩ :: tail) messageId ↔
        MatchedOn job tail messageId := by
      simp [MatchedOn]
    rw [hsecondRead]
    rw [hdb2] at htail
    simp only [Option.some.injEq, exists_eq_left']
    unfold conversationMessages links
    rw [hconversation]
    cases hresult : reconcileUnknownDelivery delivery.contentHash first
        (read.messages.findMany (fun _ m => some m.conversationId = some conversationId))
        (linked.deliveries.rows.filterMap (·.2.externalMessageId)) with
    | MATCHED messageId' =>
      simp only [hresult] at htail
      obtain ⟨made, after, rfl, hcall, hafter⟩ := ends_query_bind htail
      have hunmatched : ∀ s ∈ after, Unmatched s.call := by
        rcases hafter with rfl | ⟨r, hafter⟩
        · simp
        · refine unmatched_of_ends (Js.within_bind (noMatch_call (by simp [Unmatched])) ?_) hafter
          exact fun _ => completeCampaignIfDone_noMatch _
      rw [Reconciliation.MATCHED.injEq]
      constructor
      · rintro ⟨s, hs, hs'⟩
        rcases List.mem_cons.1 hs with rfl | hs
        · rw [hcall] at hs'
          simpa using hs'
        · exact absurd hs' (hunmatched s hs _ _ _)
      · rintro rfl
        exact ⟨made, List.mem_cons_self, hcall⟩
    | UNRESOLVED =>
      simp only [hresult] at htail
      refine iff_of_false (not_matchedOn (unmatched_of_ends ?_ htail)) (by simp)
      apply Js.within_ite
      · apply Js.within_bind (noMatch_call (by simp [Unmatched]))
        intro _
        exact Js.within_bind (scheduleReconciliation_noMatch _ _ _)
          (fun _ => completeCampaignIfDone_noMatch _)
      · exact Js.within_bind (noMatch_call (by simp [Unmatched]))
          (fun _ => completeCampaignIfDone_noMatch _)

/-- The job matches the lone message of an unknown attempt exactly when the message lies in the
window of the delivery's first dispatch and is not linked to the delivery already. -/
theorem reconciliation_finds_the_message {config : WorkerConfig} {job : ReconciliationJob}
    {steps : List (Made World Call)} {outcome : Except Failure Unit} {read linked : Db}
    {delivery : Delivery} {t : Int} {messageId : String} {message : ConversationMessage}
    (h : EndsWith env options (processReconciliation config job) steps outcome)
    (hread : ∀ s ∈ steps, s.call = .db (.findUnknownDelivery job.deliveryId) → s.before.db = read)
    (hlinked : ∀ s ∈ steps, s.call = .db .linkedMessageIds → s.before.db = linked)
    (hlone : LoneMessage read linked job.deliveryId delivery t messageId message) :
    MatchedOn job steps messageId ↔
      Findable linked job.deliveryId delivery messageId message := by
  rw [matchedOn_iff_search h hread hlinked hlone.stored hlone.unknown
    hlone.fits.conversation.symm]
  constructor
  · rintro ⟨first, hfirst, hmatched⟩
    exact ((search_finds hlone hfirst messageId).1 hmatched).2
  · intro hfindable
    obtain ⟨first, hfirst, -⟩ := hfindable.1
    exact ⟨first, hfirst, (search_finds hlone hfirst messageId).2 ⟨rfl, hfindable⟩⟩

/-- Every call has an answer. -/
theorem answers_total (env : Environment) (options : outbound_throttle.Options) (w : World)
    (c : Call) : ∃ answer w', Answers env options w c answer w' := by
  cases c with
  | db command =>
    cases hrun : (command.body env options ⟨fun _ => 0, 0⟩).run w.db with
    | ok r => exact ⟨_, _, .commit w command _ r.1 r.2 hrun⟩
    | error e => exact ⟨_, _, .refused w command _ e hrun⟩
  | sendMessage id conversationId creatorOpenId content =>
    exact ⟨_, _, .elsewhere _ _ _ _ (by simp)
      (.sendMessage 0 w id conversationId creatorOpenId content)⟩
  | awaitSend id =>
    exact ⟨_, _, .elsewhere _ _ _ _ (by simp) (.awaitSend 0 w id (.error .notFound))⟩
  | _ =>
    exact ⟨.error .notFound, w, .elsewhere _ _ _ _ (by simp) (.other 0 w _ _ rfl)⟩

end Job

/-! ## Two deliveries -/

/-- The claim of a dispatch, with its attempt. -/
def sampleAttempt (n now : Int) : Transaction Unit := do
  let _ ← dispatch_safety.reserveDispatchSlot sampleEnvironment.shopDate sampleRecipient now
  createAttempt sampleRecipient n now
  upsertConversation sampleRecipient "conversation"
  setConversation sampleRecipient "conversation"

/-- The first attempt is throttled, and the second one, `pause` later, has an unknown outcome. -/
def sampleAttempts (pause : Int) : Transaction Unit := do
  sampleAttempt 1 0
  updateAttempt sampleRecipient 1 .FAILED_RETRYABLE 0
  makeDeliveryRetryable sampleRecipient
  sampleAttempt 2 pause
  markDeliveryUnknown sampleRecipient 2 (pause + 500)
  scheduleReconciliationRun sampleRecipient 1 (pause + 300000)

/-- The message that the second attempt sent. -/
def sampleMessage (pause : Int) : ConversationMessage where
  conversationId := "conversation"
  direction := .OUTBOUND
  contentHash := "hello"
  providerCreatedAt := pause + 1000

def unknownDb (pause : Int) : Db :=
  match (sampleAttempts pause).run readyDb with
  | .ok r => { r.2 with messages := Table.empty.set "message" (sampleMessage pause) }
  | .error _ => readyDb

def unknownDelivery (pause : Int) : Delivery where
  conversationId := some "conversation"
  contentHash := "hello"
  state := .DELIVERY_UNKNOWN
  attemptCount := 2
  lastAttemptedAt := some pause
  firstDispatchedAt := some 0

/-- The tables that the reconciliation reads. -/
def Sampled (pause : Int) : Prop :=
  (unknownDb pause).deliveries.rows = [(sampleRecipient, unknownDelivery pause)] ∧
    (unknownDb pause).messages.rows = [("message", sampleMessage pause)]

instance (pause : Int) : Decidable (Sampled pause) := by
  unfold Sampled
  infer_instance

theorem lone_sample {pause : Int} (h : Sampled pause) :
    LoneMessage (unknownDb pause) (unknownDb pause) sampleRecipient (unknownDelivery pause) pause
      "message" (sampleMessage pause) where
  stored := by
    rw [← Table.mem_rows_iff, h.1]
    exact List.mem_singleton_self _
  unknown := rfl
  attempted := rfl
  found := by
    rw [← Table.mem_rows_iff, h.2]
    exact List.mem_singleton_self _
  fits := {
    conversation := rfl
    outbound := rfl
    content := rfl
    free := by
      intro id' d hd _
      rw [← Table.mem_rows_iff, h.1, List.mem_singleton] at hd
      exact congrArg Prod.fst hd }
  inWindow := by
    simp only [InWindow, sampleMessage]
    omega
  alone := by
    intro messageId' message' hmessage _ _
    rw [← Table.mem_rows_iff, h.2, List.mem_singleton] at hmessage
    exact congrArg Prod.fst hmessage

/-- The reconciliation of a sample, alone with the database. -/
theorem ends_sample (pause : Int) : ∃ steps outcome,
    EndsWith sampleEnvironment sampleOptions
      (processReconciliation sampleConfig ⟨sampleRecipient, 1⟩) steps outcome ∧
    ∀ s ∈ steps, s.before.db = unknownDb pause := by
  obtain ⟨steps, ⟨outcome, l⟩, hends, hbefore⟩ := Prog.exists_ends (⟨unknownDb pause, []⟩ : World)
    (answers_total sampleEnvironment sampleOptions ⟨unknownDb pause, []⟩)
    (processReconciliation sampleConfig ⟨sampleRecipient, 1⟩ ())
  exact ⟨steps, outcome, ⟨l, hends⟩, fun s hs => by rw [hbefore s hs]⟩

/-- A retry ten minutes later is found. -/
theorem an_early_retry_is_matched : ∃ steps outcome,
    EndsWith sampleEnvironment sampleOptions
      (processReconciliation sampleConfig ⟨sampleRecipient, 1⟩) steps outcome ∧
    MatchedOn ⟨sampleRecipient, 1⟩ steps "message" := by
  obtain ⟨steps, outcome, hends, hbefore⟩ := ends_sample 600000
  have hsampled : Sampled 600000 := by decide +kernel
  refine ⟨steps, outcome, hends, ?_⟩
  apply (reconciliation_finds_the_message hends (fun s hs _ => hbefore s hs)
    (fun s hs _ => hbefore s hs) (lone_sample hsampled)).2
  refine ⟨⟨0, rfl, by decide, by decide⟩, ?_⟩
  intro d hd
  rw [← Table.mem_rows_iff, hsampled.1, List.mem_singleton] at hd
  have hdelivery : d = unknownDelivery 600000 := congrArg Prod.snd hd
  rw [hdelivery]
  decide

/-- The message of a retry three hours later is not found. -/
theorem a_late_retry_is_not_matched : ∃ steps outcome,
    EndsWith sampleEnvironment sampleOptions
      (processReconciliation sampleConfig ⟨sampleRecipient, 1⟩) steps outcome ∧
    (∀ s ∈ steps, s.before.db = unknownDb 10800000) ∧
    LoneMessage (unknownDb 10800000) (unknownDb 10800000) sampleRecipient
      (unknownDelivery 10800000) 10800000 "message" (sampleMessage 10800000) ∧
    ¬ MatchedOn ⟨sampleRecipient, 1⟩ steps "message" := by
  obtain ⟨steps, outcome, hends, hbefore⟩ := ends_sample 10800000
  have hsampled : Sampled 10800000 := by decide +kernel
  have hlone := lone_sample hsampled
  refine ⟨steps, outcome, hends, hbefore, hlone, ?_⟩
  rw [matchedOn_iff_search hends (fun s hs _ => hbefore s hs) (fun s hs _ => hbefore s hs)
    hlone.stored hlone.unknown hlone.fits.conversation.symm]
  rintro ⟨first, hfirst, hmatched⟩
  obtain ⟨-, ⟨first', hfirst', -, hlate⟩, -⟩ := (search_finds hlone hfirst "message").1 hmatched
  cases hfirst'
  exact absurd hlate (by decide)

end tiktok_outreach.reconciliations
