-- A sent delivery stays sent and is counted once, unless an execution settles
-- it after another one has changed its state.
import TiktokOutreach.AtomicSystem
import TiktokOutreach.StateTransitions

open runs executions transactions tiktok_outreach.schema tiktok_outreach.dispatch_safety
  tiktok_outreach.settlements tiktok_outreach.outreach_service tiktok_outreach.commands
  tiktok_outreach.dispatch_core tiktok_outreach.send_protocol tiktok_outreach.system

namespace tiktok_outreach.sent_is_final

/-- A pool, with the roles that its threads have by their calls so far. -/
abbrev Threads : Type := Observed World Call Call.Answer (Nat → Role)

def deliveryState (w : World) (id : DeliveryId) : Option DeliveryState :=
  (w.db.deliveries.get id).map (·.state)

/-- The contacts of a creator with a shop that are counted. -/
def contactCount (w : World) (key : Nat × Nat) : Int :=
  ((w.db.contacts.get key).map (·.contactCount)).getD 0

/-! ## Settlements of what an execution saw -/

/-- The thread claimed the delivery, and has not settled it since. -/
def claimedBy (role : Role) (id : DeliveryId) : Bool :=
  match role.phase with
  | .holder id' | .burned id' => id' = id
  | .free | .calling _ => false

/-- The delivery that a command settles, by its id alone. -/
def settledBy : Command → Option DeliveryId
  | .recoverDispatchingDelivery id => some id
  | .giveUpReconciliation id _ => some id
  | c => settles c

/-- The execution saw its delivery in this state: a holder when it claimed it, the others when
they read it. -/
def saw (role : Role) (c : Command) (s : DeliveryState) : Bool :=
  match c with
  | .markSent id _ _ _ =>
    if claimedBy role id then s = .DISPATCHING else s = .DELIVERY_UNKNOWN
  | .markTerminalFailure id _ => if claimedBy role id then s = .DISPATCHING else claimable s
  | .markRestricted _ _ | .markDeliveryUnknown _ _ | .makeDeliveryRetryable _
  | .recoverDispatchingDelivery _ => s = .DISPATCHING
  | .giveUpReconciliation _ _ => s = .DELIVERY_UNKNOWN
  | _ => true

/-- A settlement finds its delivery in the state in which its execution saw it. -/
def fresh (s : Threads) : Label Call Call.Answer → Bool
  | .run i (.db c) _ => match settledBy c with
    | some id => (deliveryState s.pool.world id).all (saw (s.seen i) c)
    | none => true
  | _ => true

theorem not_sent_of_saw {role : Role} {c : Command} {id : DeliveryId}
    (hc : settledBy c = some id) : saw role c .SENT = false := by
  cases c with
  | markSent id' => simp [saw]
  | markTerminalFailure id' => simp [saw, claimable]
  | _ => first | rfl | cases hc

/-! ## The steps -/

section Steps

variable {env : Environment} {options : outbound_throttle.Options} {ambient : Ambient}
  {command : Command} {r : command.Result} {db db' : Db} {d : DeliveryId}

theorem settledBy_of_settle {ds : DeliveryState} {rs : RecipientState} {releases : Bool}
    (h : actionOf ambient command r = .settle d ds rs releases) :
    settledBy command = some d ∨ command = .reserveDispatchSlot d ∧ releases = true := by
  cases command with
  | reserveDispatchSlot id =>
    cases r with
    | claimed attemptNumber => cases h
    | notClaimed cancelled reason =>
      cases cancelled with
      | true =>
        cases h
        exact Or.inr ⟨rfl, rfl⟩
      | false => cases h
  | _ => first | (cases h; done) | (cases h; exact Or.inl rfl)

/-- A sent delivery leaves its state by a settlement, or with its row. -/
theorem sent_step (hrun : (command.body env options ambient).run db = .ok (r, db'))
    (hs : (coreOf db).delivery d = some .SENT) (hsettled : settledBy command ≠ some d)
    (hrebuild : ∀ c retained summary, command ≠ .rebuild c retained summary) :
    (coreOf db').delivery d = some .SENT := by
  rcases delivery_transition (refines hrun) hs with h | ⟨s', h, htransition⟩ | h
  · exact h
  · generalize ha : actionOf ambient command r = a at htransition
    cases htransition with
    | settle _ ds rs releases =>
      rcases settledBy_of_settle ha with hc | ⟨rfl, _⟩
      · exact absurd hc hsettled
      · -- the claim finds the delivery sent, and changes nothing
        obtain ⟨campaign, delivery, _, hdelivery, ⟨_, rfl⟩ | ⟨hclaimable, _⟩⟩ :=
          reserveDispatchSlot_cases hrun
        · exact hs
        · simp only [coreOf_delivery, hdelivery, Option.map_some, Option.some.injEq] at hs
          rw [hs] at hclaimable
          cases hclaimable
    | claim _ _ hs => cases hs
    | cancel _ hs => cases hs
  · obtain ⟨retained, summary, hcommand⟩ := command_of_rebuild h
    exact absurd hcommand (hrebuild _ retained summary)

end Steps

/-! ## The runs -/

section Runs

variable (env : Environment) (options : outbound_throttle.Options)

/-- The steps of the worker, the operator and the sweeps, with the roles of the threads. -/
abbrev SystemStep : Threads → Label Call Call.Answer → Threads → Prop :=
  ObservedStep (machine env options) (Startable Job.keeps) (stage sendProtocol start start)

/-- The runs in which every settlement is fresh. -/
abbrev FreshRun := Run (Guarded (SystemStep env options) (fun s l => fresh s l = true))

/-- The system before its first job. -/
def initialThreads (db : Db) : Threads := ⟨initial db, fun _ => start⟩

variable {env options}

/-- The threads follow the protocol, so none of them rebuilds a campaign. -/
theorem follows_run {db : Db} {ls : List (Label Call Call.Answer)} {s : Threads}
    (hrun : FreshRun env options (initialThreads db) ls s) :
    FollowsTo sendProtocol (fun _ => True) s.pool s.seen := by
  apply hrun.invariant (fun s => FollowsTo sendProtocol (fun _ => True) s.pool s.seen)
  · rintro s l t _ ⟨⟨hstep, hseen⟩, _⟩ hs
    rw [hseen]
    exact followsTo_step (fun p hp => startable_conforms hp) hs hstep
  · intro i p hp
    cases hp

/-- A fresh step keeps a sent delivery sent. -/
theorem fresh_step {s t : Threads} {l : Label Call Call.Answer} {d : DeliveryId}
    (hfollows : FollowsTo sendProtocol (fun _ => True) s.pool s.seen)
    (hstep : PoolStep (machine env options) (Startable Job.keeps) s.pool l t.pool)
    (hfresh : fresh s l = true) (hs : deliveryState s.pool.world d = some .SENT) :
    deliveryState t.pool.world d = some .SENT ∧
      ∀ i c res, l = .run i (.db c) res → settledBy c ≠ some d := by
  have hsettled : ∀ i c res, l = .run i (.db c) res → settledBy c ≠ some d := by
    rintro i c res rfl hc
    simp [fresh, hc, hs, not_sent_of_saw hc] at hfresh
  refine ⟨?_, hsettled⟩
  rcases db_step hstep with hdb | ⟨i, c, res, next, ambient, r, rfl, hthread, hrun, _⟩
  · rwa [deliveryState, hdb]
  · apply sent_step hrun hs (hsettled i c res rfl)
    rintro c' retained summary rfl
    exact (hfollows i _ hthread).1

/-- What the transaction of `markSent` does. -/
theorem markSent_commit {id : RecipientId} {creatorOpenId : Option String}
    {conversationId messageId : String} {now : Int} {db db' : Db}
    (h : (markSent id creatorOpenId conversationId messageId now).run db = .ok ((), db')) :
    (db'.deliveries.get id).map (·.state) = some .SENT ∧
      ((db'.contacts.get (id.shopId, id.creatorId)).map (·.contactCount)).getD 0 =
        ((db.contacts.get (id.shopId, id.creatorId)).map (·.contactCount)).getD 0 + 1 := by
  simp [markSent, completeOutbox] at h
  obtain ⟨⟨hd, _⟩, _, _, _, rfl⟩ := h
  obtain ⟨delivery, hdelivery⟩ := Option.isSome_iff_exists.1 hd
  constructor
  · simp [hdelivery]
  · cases hcontact : db.contacts.get (id.shopId, id.creatorId) <;> simp [hcontact]

/-- A run of fresh steps keeps a sent delivery sent, and settles it no more. -/
theorem sent_run {s t : Threads} {ls : List (Label Call Call.Answer)} {d : DeliveryId}
    (hrun : FreshRun env options s ls t)
    (hfollows : FollowsTo sendProtocol (fun _ => True) s.pool s.seen)
    (hs : deliveryState s.pool.world d = some .SENT) :
    deliveryState t.pool.world d = some .SENT ∧
      ∀ i c res, .run i (.db c) res ∈ ls → settledBy c ≠ some d := by
  induction hrun with
  | nil => exact ⟨hs, by simp⟩
  | @cons s u t l ls hstep _ ih =>
    obtain ⟨⟨hpool, hseen⟩, hfresh⟩ := hstep
    obtain ⟨hu, hl⟩ := fresh_step hfollows hpool hfresh hs
    obtain ⟨ht, hls⟩ := ih
      (hseen ▸ followsTo_step (fun p hp => startable_conforms hp) hfollows hpool) hu
    refine ⟨ht, ?_⟩
    intro i c res hmem
    rcases List.mem_cons.1 hmem with rfl | hmem
    · exact hl i c res rfl
    · exact hls i c res hmem

/-- Once a `markSent` of a delivery has committed, the delivery stays sent. It counted the
contact once, and no other `markSent` of the delivery runs. This holds in the runs in which each
settlement finds its delivery in the state in which its execution saw it. -/
theorem sent_is_final_and_counted_once {db : Db} {before after : List (Label Call Call.Answer)}
    {s t u : Threads} {i : Nat} {d : DeliveryId} {creatorOpenId : Option String}
    {conversationId messageId : String}
    {res : (Call.db (.markSent d creatorOpenId conversationId messageId)).Answer}
    (hbefore : FreshRun env options (initialThreads db) before s)
    (hsent : Guarded (SystemStep env options) (fun s l => fresh s l = true) s
      (.run i (.db (.markSent d creatorOpenId conversationId messageId)) res) t)
    (hcommit : t.pool.world.db ≠ s.pool.world.db) (hafter : FreshRun env options t after u) :
    deliveryState u.pool.world d = some .SENT ∧
      contactCount t.pool.world (d.shopId, d.creatorId) =
        contactCount s.pool.world (d.shopId, d.creatorId) + 1 ∧
      ∀ j o c m res', .run j (.db (.markSent d o c m)) res' ∉ after := by
  have hfollows : FollowsTo sendProtocol (fun _ => True) t.pool t.seen :=
    follows_run (hbefore.snoc hsent)
  obtain ⟨hstate, hcount⟩ : deliveryState t.pool.world d = some .SENT ∧
      contactCount t.pool.world (d.shopId, d.creatorId) =
        contactCount s.pool.world (d.shopId, d.creatorId) + 1 := by
    rcases db_step hsent.1.1 with hdb | ⟨i', c, res', next, ambient, r, hl, _, hrun, _⟩
    · exact absurd hdb hcommit
    · cases hl
      exact markSent_commit hrun
  obtain ⟨hu, hls⟩ := sent_run hafter hfollows hstate
  refine ⟨hu, hcount, ?_⟩
  intro j o c m res' hmem
  exact hls j _ res' hmem rfl

end Runs

/-- The moves of a job whose message is accepted, up to the last call before `markSent`. -/
def acceptedMoves : List Move :=
  sampleSend 0 ++ sampleClaim 1 ++ [.call 1, .awaitSend 1 (.ok (.SENT "message" none))] ++
    transactions 1 2 20

/-- The next transaction of the thread is a `markSent` of the delivery. -/
def sendsNext (d : DeliveryId) : Option (Prog Call Call.Answer Unit) → Bool
  | some (.call (.db (.markSent id _ _ _)) _) => id = d
  | _ => false

theorem sent_of_sendsNext {d : DeliveryId} {p : Option (Prog Call Call.Answer Unit)}
    (h : sendsNext d p = true) :
    ∃ o c m next, p = some (.call (.db (.markSent d o c m)) next) := by
  unfold sendsNext at h
  split at h
  · rename_i id o c m next
    obtain rfl : id = d := by simpa using h
    exact ⟨o, c, m, next, rfl⟩
  · cases h

/-- One job alone sends its message, and counts it once. -/
theorem an_accepted_message_is_counted_once : ∃ ls s l t,
    FreshRun sampleEnvironment sampleOptions (initialThreads sampleDb) ls s ∧
    Guarded (SystemStep sampleEnvironment sampleOptions) (fun s l => fresh s l = true) s l t ∧
    deliveryState t.pool.world sampleRecipient = some .SENT ∧
    contactCount t.pool.world (1, 7) = contactCount s.pool.world (1, 7) + 1 := by
  have hplay : (playObserved sampleEnvironment sampleOptions Job.keeps
      (stage sendProtocol start start) fresh acceptedMoves (initialThreads sampleDb)).map (fun s =>
        (sendsNext sampleRecipient (s.pool.thread 1), contactCount s.pool.world (1, 7),
          (move sampleEnvironment sampleOptions Job.keeps s.pool (.transact 1 ⟨fun _ => 20, 0⟩)).map
            (fun r => (fresh s r.1, contactCount r.2.world (1, 7))))) =
        some (true, 0, some (true, 1)) := by decide +kernel
  obtain ⟨s, hs, hnext⟩ := Option.map_eq_some_iff.1 hplay
  simp only [Prod.mk.injEq] at hnext
  obtain ⟨hnext, hzero, hmove⟩ := hnext
  obtain ⟨⟨l, pool⟩, hmove, hone⟩ := Option.map_eq_some_iff.1 hmove
  simp only [Prod.mk.injEq] at hone
  obtain ⟨ls, hrun⟩ := playObserved_run hs
  obtain ⟨o, c, m, next, hthread⟩ := sent_of_sendsNext hnext
  have hsent : Guarded (SystemStep sampleEnvironment sampleOptions) (fun s l => fresh s l = true) s
      l ⟨pool, stage sendProtocol start start s.seen l⟩ := ⟨⟨move_step hmove, rfl⟩, hone.1⟩
  obtain ⟨res, rfl⟩ : ∃ res, l = .run 1 (.db (.markSent sampleRecipient o c m)) res := by
    simp only [move, hthread] at hmove
    split at hmove <;> cases hmove <;> exact ⟨_, rfl⟩
  have hcommit : pool.world.db ≠ s.pool.world.db := by
    intro heq
    have : contactCount pool.world (1, 7) = contactCount s.pool.world (1, 7) := by
      unfold contactCount
      rw [heq]
    rw [hone.2, hzero] at this
    cases this
  obtain ⟨hstate, hcount, _⟩ := sent_is_final_and_counted_once hrun hsent hcommit (Run.nil _)
  exact ⟨ls, s, _, _, hrun, hsent, hstate, hcount⟩

/-- The moves of a job whose message is accepted after a duplicate of the job saw the delivery in
flight. -/
def duplicateMoves : List Move :=
  sampleSend 0 ++ sampleClaim 1 ++ [.call 1] ++ .spawn 2 sampleJob :: transactions 2 1 10 ++
    [.awaitSend 1 (.ok (.SENT "message" none))] ++ transactions 1 3 20

/-- A duplicate of the job saw the delivery in flight, and recovers it after it was sent. -/
theorem a_recovery_takes_a_sent_delivery_back : ∃ ls mid ls' pool,
    SystemRun sampleEnvironment sampleOptions Job.keeps (initial sampleDb) ls mid ∧
    deliveryState mid.world sampleRecipient = some .SENT ∧ contactCount mid.world (1, 7) = 1 ∧
    SystemRun sampleEnvironment sampleOptions Job.keeps mid ls' pool ∧
    deliveryState pool.world sampleRecipient = some .DELIVERY_UNKNOWN := by
  obtain ⟨ls, mid, ls', pool, hrun, hmid, hrun', hpool⟩ := exists_runs_of_play
    (show (play sampleEnvironment sampleOptions Job.keeps (fun _ _ => true) duplicateMoves
      (initial sampleDb)).map
      (fun pool => (deliveryState pool.world sampleRecipient, contactCount pool.world (1, 7))) =
        some (some .SENT, 1) by decide +kernel)
    (show (play sampleEnvironment sampleOptions Job.keeps (fun _ _ => true)
      (duplicateMoves ++ transactions 2 1 30) (initial sampleDb)).map
      (fun pool => deliveryState pool.world sampleRecipient) = some (some .DELIVERY_UNKNOWN) by
      decide +kernel)
  simp only [Prod.mk.injEq] at hmid
  exact ⟨ls, mid, ls', pool, run_of_guarded hrun, hmid.1, hmid.2, run_of_guarded hrun', hpool⟩

end tiktok_outreach.sent_is_final
