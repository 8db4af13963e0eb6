-- The pace of `SEND_MESSAGE`. The limiter keeps the time of the last admitted
-- send, only `acquire` writes it, and `acquire` never admits a send sooner
-- than one interval after it, whatever the clock shows.
import TiktokOutreach.GovernorRuns
import TiktokOutreach.Lib.Spacing

open runs spacing

namespace tiktok_outreach.outbound_throttle

/-- An admitted send: its `now`, and the interval that its worker is configured with. -/
structure Send where
  sentAt : Int
  interval : Int

/-- The send that `op` admits on the limiter `key` in the rows `db`. -/
def Op.send (key : LimiterKey) (db : Store) : Op → Option Send
  | governor (.acquire options shopId operation owner now) =>
    if options.key shopId operation = key then
      (grantedPermit (acquire options shopId operation owner now db)).map
        fun _ => ⟨now, options.sendInterval⟩
    else none
  | _ => none

/-- The sends that a run admits on the limiter `key`, in order. -/
def sends (key : LimiterKey) : List Op → Store → List Send
  | [], _ => []
  | op :: ops, db => (op.send key db).toList ++ sends key ops (op.apply db)

def lastRequest (key : LimiterKey) (db : Store) : Option Int :=
  (db.limiters key).bind (·.lastRequestAt)

/-! ## Who writes the time of the last request -/

theorem seen_lastRequest (options : Options) (shopId : Nat)
    (operation : OutboundProviderOperation) (db : Store) :
    (seenLimiter options shopId operation db).lastRequestAt =
      lastRequest (options.key shopId operation) db := by
  unfold seenLimiter lastRequest preparedLimiter
  cases db.limiters (options.key shopId operation) with
  | none =>
    dsimp only
    split <;> rfl
  | some l =>
    dsimp only
    split <;> rfl

theorem recovered_lastRequest (l : Limiter) :
    (recoveredLimiter l).lastRequestAt = l.lastRequestAt := by
  unfold recoveredLimiter
  split <;> rfl

theorem settlement_lastRequest {op : GovernorOp} {permit : Permit} {f : Limiter → Limiter}
    (h : op.settlement = some (permit, f)) (l : Limiter) :
    (f l).lastRequestAt = l.lastRequestAt := by
  cases op with
  | acquire => simp [GovernorOp.settlement] at h
  | healthy | throttle | transientFailure | quotaBlocked | release =>
    simp only [GovernorOp.settlement, Option.some.injEq, Prod.mk.injEq] at h
    obtain ⟨_, rfl⟩ := h
    rfl

theorem lastRequest_settlement {op : GovernorOp} {permit : Permit} {f : Limiter → Limiter}
    (h : op.settlement = some (permit, f)) (db : Store) (key : LimiterKey) :
    lastRequest key (op.apply db) = lastRequest key db := by
  unfold lastRequest
  rw [settlement_limiters op db h key]
  split
  · cases db.limiters key with
    | none => rfl
    | some l => simp [settlement_lastRequest h l]
  · rfl

theorem lastRequest_of_map {key : LimiterKey} {db : Store} {f : Limiter → Limiter}
    (hf : ∀ l, (f l).lastRequestAt = l.lastRequestAt) :
    ((db.limiters key).map f).bind (·.lastRequestAt) = lastRequest key db := by
  unfold lastRequest
  cases db.limiters key with
  | none => rfl
  | some l => simp [hf l]

theorem lastRequest_acquire_refused {options : Options} {shopId : Nat}
    {operation : OutboundProviderOperation} {now : Int} {db db' : Store}
    (h : Refused options shopId operation now db db') (key : LimiterKey) :
    lastRequest key db' = lastRequest key db := by
  by_cases hkey : key = options.key shopId operation
  · subst hkey
    rw [← seen_lastRequest options shopId operation db]
    unfold lastRequest
    rcases h.limiter with h' | ⟨_, _, h'⟩
    · rw [h']
      rfl
    · rw [h']
      exact recovered_lastRequest _
  · unfold lastRequest
    rw [h.others key hkey]

/-- A granted `SEND_MESSAGE` lies one interval after the last request. -/
theorem granted_paced {options : Options} {shopId : Nat} {owner : String} {now : Int}
    {db db' : Store} {permit : Permit} {n : Int}
    (h : Granted options shopId .SEND_MESSAGE owner now db permit n db') {last : Int}
    (hlast : lastRequest (options.key shopId .SEND_MESSAGE) db = some last) :
    last + options.sendInterval ≤ now := by
  have hpaced := h.paced
  unfold pacedUntil at hpaced
  rw [recovered_lastRequest, seen_lastRequest, hlast] at hpaced
  simpa using hpaced

/-- One step: a send comes one interval after the last request and becomes the last request,
and every other step leaves the last request alone. -/
theorem send_step (op : Op) (db : Store) {key : LimiterKey} (hkey : key.operation = .SEND_MESSAGE) :
    match op.send key db with
    | some send => lastRequest key (op.apply db) = some send.sentAt ∧
        ∀ last, lastRequest key db = some last → last + send.interval ≤ send.sentAt
    | none => lastRequest key (op.apply db) = lastRequest key db := by
  cases op with
  | governor op =>
    cases op with
    | acquire options shopId operation owner now =>
      by_cases hk : options.key shopId operation = key
      · subst hk
        have hop : operation = .SEND_MESSAGE := hkey
        subst hop
        simp only [Op.send, if_true]
        rcases apply_acquire_cases options shopId .SEND_MESSAGE owner now db with
          ⟨permit, n, h, hg⟩ | ⟨h, hsame | hr⟩
        · rw [h]
          refine ⟨?_, fun last hlast => granted_paced hg hlast⟩
          unfold lastRequest Op.apply
          rw [hg.limiter]
          rfl
        · rw [h]
          exact congrArg (lastRequest _) hsame
        · rw [h]
          exact lastRequest_acquire_refused hr _
      · simp only [Op.send, if_neg hk]
        rcases apply_acquire_cases options shopId operation owner now db with
          ⟨permit, n, h, hg⟩ | ⟨h, hsame | hr⟩
        · unfold lastRequest Op.apply
          rw [hg.others key (fun h => hk h.symm)]
        · exact congrArg (lastRequest _) hsame
        · exact lastRequest_acquire_refused hr key
    | healthy | throttle | transientFailure | quotaBlocked | release =>
      exact lastRequest_settlement rfl db key
  | heartbeatReset appScope =>
    apply lastRequest_of_map
    intro l
    unfold heartbeatLimiter
    split <;> rfl
  | quotaRecovery shopId =>
    apply lastRequest_of_map
    intro l
    unfold recoveryLimiter
    split <;> rfl

/-! ## The laws -/

/-- Each admitted send lies one interval of its worker after the one before it. -/
def Paced (list : List Send) : Prop :=
  list.IsChain (fun a b => a.sentAt + b.interval ≤ b.sentAt)

theorem paced_after (ops : List Op) (db : Store) {key : LimiterKey}
    (hkey : key.operation = .SEND_MESSAGE) :
    Paced (sends key ops db) ∧
    ∀ last, lastRequest key db = some last →
      ∀ send ∈ (sends key ops db).head?, last + send.interval ≤ send.sentAt := by
  induction ops generalizing db with
  | nil => exact ⟨List.isChain_nil, by simp [sends]⟩
  | cons op ops ih =>
    obtain ⟨hchain, hfirst⟩ := ih (op.apply db)
    have hstep := send_step op db hkey
    unfold sends
    cases hs : op.send key db with
    | none =>
      rw [hs] at hstep
      simp only [Option.toList_none, List.nil_append]
      rw [hstep] at hfirst
      exact ⟨hchain, hfirst⟩
    | some send =>
      rw [hs] at hstep
      obtain ⟨hlast, hpaced⟩ := hstep
      simp only [Option.toList_some, List.singleton_append, List.head?_cons, Option.mem_some_iff]
      refine ⟨?_, ?_⟩
      · exact List.isChain_cons.2 ⟨hfirst send.sentAt hlast, hchain⟩
      · rintro last h _ rfl
        exact hpaced last h

theorem spaced_of_paced {list : List Send} {interval : Int} (h : Paced list)
    (hinterval : ∀ send ∈ list, interval ≤ send.interval) :
    Spaced interval (list.map (·.sentAt)) := by
  unfold Spaced
  rw [List.isChain_map]
  apply List.IsChain.imp_of_mem_imp _ h
  intro a b _ hb hab
  have := hinterval b hb
  omega

theorem sendInterval_pos (options : Options) : 1000 ≤ options.sendInterval := by
  unfold Options.sendInterval
  omega

theorem sends_interval_pos (key : LimiterKey) (ops : List Op) (db : Store) :
    ∀ send ∈ sends key ops db, 1000 ≤ send.interval := by
  induction ops generalizing db with
  | nil => simp [sends]
  | cons op ops ih =>
    intro send hsend
    unfold sends at hsend
    rcases List.mem_append.1 hsend with h | h
    · cases op with
      | governor op =>
        cases op with
        | acquire options shopId operation owner now =>
          simp only [Op.send, Option.mem_toList] at h
          split at h
          · obtain ⟨_, _, rfl⟩ := Option.map_eq_some_iff.1 h
            exact sendInterval_pos options
          · cases h
        | healthy | throttle | transientFailure | quotaBlocked | release => simp [Op.send] at h
      | heartbeatReset | quotaRecovery => simp [Op.send] at h
    · exact ih (op.apply db) send h

/-- From any rows and in any order of steps, successive sends of one shop are an interval
apart, and a window of `k` intervals holds at most `k + 1` of them. -/
theorem sends_keep_their_pace (provider appScope : String) (shopId : Nat) (ops : List Op)
    (db : Store) :
    let list := sends ⟨provider, appScope, shopId, .SEND_MESSAGE⟩ ops db
    Paced list ∧ (∀ send ∈ list, 1000 ≤ send.interval) ∧
    ∀ interval, 0 < interval → (∀ send ∈ list, interval ≤ send.interval) →
      ∀ (start : Int) (k : Nat),
        (inWindow start (k * interval) (list.map (·.sentAt))).length ≤ k + 1 := by
  intro list
  have hpaced : Paced list := (paced_after ops db rfl).1
  refine ⟨hpaced, sends_interval_pos _ ops db, ?_⟩
  intro interval hpos hinterval start k
  exact window_holds_at_most hpos (spaced_of_paced hpaced hinterval) start k

def pacedOptions : Options := ⟨"TIKTOK_SHOP", "app", 2, 4, 30000, some 500, two_le_four⟩

/-- Three workers with three clocks: the second one comes too early. -/
def pacedOps : List Op :=
  [.governor (.acquire pacedOptions 1 .SEND_MESSAGE "a" 100),
    .governor (.release ⟨0, pacedOptions.key 1 .SEND_MESSAGE, "a", .SEND_MESSAGE⟩ "ACCEPTED" {} 90),
    .governor (.acquire pacedOptions 1 .SEND_MESSAGE "b" 1099),
    .heartbeatReset "app",
    .governor (.acquire pacedOptions 1 .SEND_MESSAGE "c" 1100)]

theorem sends_of_three_workers :
    let list := sends ⟨"TIKTOK_SHOP", "app", 1, .SEND_MESSAGE⟩ pacedOps Store.empty
    list.map (·.sentAt) = [100, 1100] ∧
      (inWindow 100 ((1 : Nat) * 1000) (list.map (·.sentAt))).length ≤ 1 + 1 := by
  intro list
  refine ⟨by decide, ?_⟩
  have h := sends_keep_their_pace "TIKTOK_SHOP" "app" 1 pacedOps Store.empty
  exact h.2.2 1000 (by decide) h.2.1 100 1

end tiktok_outreach.outbound_throttle
