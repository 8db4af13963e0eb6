-- A player of the TikTok system: the tables answer for themselves, and a reply
-- says what TikTok answers and which calls fail.
import TiktokOutreach.TiktokConformance
import TiktokOutreach.Lib.Plays

open runs executions tables json tiktok_outreach.tiktok_connection tiktok_outreach.tiktok_service

namespace tiktok_outreach.tiktok_system

/-- How a call is answered. -/
inductive Reply
  /-- By the tables and the clock. -/
  | performed
  | shop (shop : Shop)
  | tokens (tokens : SellerTokens)
  | shops (shops : List AuthorizedShop)
  /-- The call throws, and was not performed. -/
  | failed (e : Failure)

/-- What the tables and the clock answer. -/
def World.answer (w : World) : (c : Call) → Option (c.Result × World)
  | .now => some (w.clock, w)
  | .sleep | .registerAtRouter _ => some ((), w)
  | .newLease => some (w.nextLease, { w with nextLease := w.nextLease + 1 })
  | .markRegistered id => some ((), { w with
      states := w.states.updateMany (fun k _ => k = id)
        (fun row => { row with routerRegistered := true }) })
  | .withdrawState id now => some ((), w.withdrawState id now)
  | .createNonce nonceHash _ =>
    if nonceHash ∈ w.nonces then none else some ((), { w with nonces := nonceHash :: w.nonces })
  | .findState stateHash => some (w.findState stateHash, w)
  | .consumeState id _ now =>
    some (if (w.states.get id).any (World.usable now) then 1 else 0, w.consumeState id now)
  | .authorizeConnection shopId data => some ((), w.authorize shopId data)
  | .findConnection shopId => (w.connections.get shopId).map (fun c => (c, w))
  | .failPreparation shopId tokenVersion refreshState ciphertext reason now =>
    some (w.matching shopId (unchanged tokenVersion refreshState ciphertext),
      w.compareAndSet shopId (unchanged tokenVersion refreshState ciphertext)
        (fun c => c.unprepared reason now) (.failed shopId tokenVersion))
  | .claimRefresh shopId tokenVersion leaseId trigger leaseExpiresAt now =>
    some (w.matching shopId (claimable tokenVersion),
      w.compareAndSet shopId (claimable tokenVersion)
        (fun c => c.claimed leaseId leaseExpiresAt now)
        (.started shopId tokenVersion leaseId trigger))
  | .markUncertain shopId leaseId tokenVersion reason now =>
    some (w.matching shopId (fun c => c.underLease leaseId tokenVersion),
      w.compareAndSet shopId (fun c => c.underLease leaseId tokenVersion)
        (fun c => c.uncertain reason now) (.uncertain shopId tokenVersion))
  | .failRefresh shopId leaseId tokenVersion code now =>
    some (w.matching shopId (fun c => c.underLease (some leaseId) tokenVersion),
      w.compareAndSet shopId (fun c => c.underLease (some leaseId) tokenVersion)
        (fun c => c.refreshFailed code now) (.failed shopId tokenVersion))
  | .persistRotation shopId leaseId tokenVersion data =>
    some (w.matching shopId (fun c => c.underLease (some leaseId) tokenVersion),
      w.compareAndSet shopId (fun c => c.underLease (some leaseId) tokenVersion)
        (fun c => c.rotated data) (.stored shopId (tokenVersion + 1)))
  | _ => none

/-- What TikTok answers, and the query of the shops. -/
def Reply.answer : Reply → (c : Call) → Option c.Result
  | .shop s, .selectedShop => some s
  | .shop s, .findShop _ => some s
  | .tokens t, .exchange _ _ _ => some t
  | .tokens t, .refresh _ _ _ _ _ => some t
  | .shops s, .getAuthorizedShops _ => some s
  | _, _ => none

def player : Player World Call (fun c => Except Failure c.Result) Reply := fun _ w c reply =>
  match reply with
  | .performed => (w.answer c).map fun r => (.ok r.1, r.2)
  | .failed e => some (.error e, w)
  | reply => (reply.answer c).map fun a => (.ok a, w)

theorem performs_of_answer {w w' : World} {c : Call} {a : c.Result}
    (h : w.answer c = some (a, w')) : Performs w c a w' := by
  cases c with
  | createNonce nonceHash expiresAt =>
    simp only [World.answer] at h
    split at h
    · cases h
    · next hnew =>
      cases h
      exact .createNonce w nonceHash expiresAt hnew
  | findConnection shopId =>
    obtain ⟨c, hget, hc⟩ := Option.map_eq_some_iff.1 h
    cases hc
    exact .findConnection w shopId _ hget
  | sleep | registerAtRouter =>
    cases h
    exact .other w _ _ rfl
  | _ =>
    cases h
    all_goals constructor

theorem elsewhere_of_answer {reply : Reply} {c : Call} {a : c.Result}
    (h : reply.answer c = some a) : elsewhere c = true := by
  cases reply <;> cases c <;> first
    | rfl
    | cases h

theorem player_sound : player.Sound machine := by
  intro i w c reply res w' h
  cases reply with
  | performed =>
    obtain ⟨⟨a, w1⟩, ha, hres⟩ := Option.map_eq_some_iff.1 h
    cases hres
    exact .done w w1 c a w1.clock (performs_of_answer ha) le_rfl
  | failed e =>
    cases h
    exact .failed w c e w.clock le_rfl
  | _ =>
    obtain ⟨a, ha, hres⟩ := Option.map_eq_some_iff.1 h
    cases hres
    exact .done w w c a w.clock (.other w c a (elsewhere_of_answer ha)) le_rfl

/-! ## A sample -/

/-- A digest that anyone can read, in place of a real one. -/
def sampleEnvironment : Environment where
  config := {
    configured := true
    categoryConfigured := true
    TIKTOK_OAUTH_ROUTER_ENABLED := true
    TIKTOK_OAUTH_INITIATIONS_ENABLED := true
    TIKTOK_OAUTH_HANDOFF_KEY := []
    TIKTOK_TOKEN_REFRESH_MARGIN_SECONDS := 300 }
  crypto := { digest := id, hmac := fun _ value => value }
  encryptTikTokToken := id
  decryptTikTokToken := some

def sampleShop : Shop := ⟨1, some "seller"⟩

def sampleTokens : SellerTokens where
  accessToken := "access"
  refreshToken := "refresh"
  accessTokenExpiresAt := 1000000
  refreshTokenExpiresAt := 2000000

abbrev SystemTurn := Turn Call (fun c => Except Failure c.Result) Reply

abbrev playJobs (guard : SystemPool → SystemLabel → Bool) (turns : List SystemTurn)
    (pool : SystemPool) : Option (List SystemLabel × SystemPool) :=
  playTurns player machine guard turns pool

def spawnJob (i : Nat) (job : Job) : SystemTurn := .spawn i (job.thread sampleEnvironment)

theorem exists_run_of_jobs {guard : SystemPool → SystemLabel → Bool} {turns : List SystemTurn}
    {pool : SystemPool} (hturns : Starts (Startable sampleEnvironment) turns) {β : Type}
    {f : List SystemLabel × SystemPool → β} {b : β}
    (h : (playJobs guard turns pool).map f = some b) :
    ∃ ls pool', Run (Guarded (PoolStep machine (Startable sampleEnvironment))
      (fun pool l => guard pool l = true)) pool ls pool' ∧ f (ls, pool') = b :=
  exists_run_of_turns player_sound hturns h

theorem starts_job {i : Nat} {job : Job} {turns : List SystemTurn}
    (h : Starts (Startable sampleEnvironment) turns) :
    Starts (Startable sampleEnvironment) (spawnJob i job :: turns) :=
  starts_spawn ⟨job, rfl⟩ h

/-- The calls of a thread that the tables answer. -/
def performed (i n : Nat) : List SystemTurn := List.replicate n (.run i .performed)

end tiktok_outreach.tiktok_system
