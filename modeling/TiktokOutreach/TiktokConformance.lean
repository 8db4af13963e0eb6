-- The programs of the TikTok integration follow the protocol of its roles,
-- whatever they are answered.
import TiktokOutreach.TiktokSystem

open runs executions executions.Js json tiktok_outreach.tiktok_connection
  tiktok_outreach.oauth_handoff tiktok_outreach.tiktok_service

namespace tiktok_outreach.tiktok_system

section Rules

variable {α β : Type} {env : Environment} {K : Role → Prop}

theorem within_refuse (condition : Bool) (e : Failure) :
    Within (protocol env) K (refuse condition e) := by
  unfold refuse
  split
  · exact within_throw e
  · exact within_pure ()

theorem within_orThrow (e : Failure) (o : Option α) : Within (protocol env) K (orThrow e o) := by
  cases o with
  | none => exact within_throw e
  | some a => exact within_pure a

theorem within_query {c : Call} (hok : ∀ r, K r → okCall env r c)
    (hnext : ∀ r res, K r → K (nextRole r c res)) : Within (protocol env) K (query c) :=
  fun r hr => lawful_call (hok r hr) (fun res => hnext r res hr)

theorem within_credentials : Within (protocol env) K (credentials env) := within_refuse _ _

theorem within_decrypt (ciphertext : String) : Within (protocol env) K (decrypt env ciphertext) :=
  within_orThrow _ _

end Rules

/-! ## Programs that call what everyone may call -/

/-- The calls that every role may make. -/
def unguarded : Call → Bool
  | .consumeState _ _ _ | .exchange _ _ _ | .failPreparation _ _ _ _ _ _
  | .claimRefresh _ _ _ _ _ _ | .refresh _ _ _ _ _ | .failRefresh _ _ _ _ _
  | .persistRotation _ _ _ _ => false
  | _ => true

section Free

variable {α : Type} {env : Environment}

/-- The program follows the protocol from every role. -/
abbrev Free (env : Environment) (m : Program α) : Prop := Within (protocol env) (fun _ => True) m

theorem ok_of_unguarded {c : Call} (h : unguarded c = true) (r : Role) : okCall env r c := by
  cases c <;> trivial

theorem free_query {c : Call} (h : unguarded c = true) : Free env (query c) :=
  within_query (fun r _ => ok_of_unguarded h r) (fun _ _ _ => trivial)

/-- A call that everyone may make, in the middle of a program. -/
theorem lawful_query_bind {c : Call} {f : c.Result → Program α} {r : Role}
    (h : unguarded c = true)
    (hf : ∀ a, Lawful (protocol env) (fun _ => True) (f a) (nextRole r c (.ok a))) :
    Lawful (protocol env) (fun _ => True) (query c >>= f) r :=
  lawful_call_bind (ok_of_unguarded h r) hf (fun _ => trivial)

theorem lawful_refuse_bind {condition : Bool} {e : Failure} {f : Unit → Program α} {r : Role}
    (hf : condition = false → Lawful (protocol env) (fun _ => True) (f ()) r) :
    Lawful (protocol env) (fun _ => True) (refuse condition e >>= f) r := by
  unfold refuse
  cases condition with
  | true => exact fun _ => trivial
  | false => exact hf rfl

theorem free_markRefreshUncertain (shopId : Nat) (leaseId : Option Nat) (tokenVersion : Nat)
    (reason : Reason) :
    Free env (markRefreshUncertain shopId leaseId tokenVersion reason) := by
  unfold markRefreshUncertain
  apply within_bind (free_query rfl)
  intro now
  apply within_bind (free_query rfl)
  intro marked
  exact within_pure _

theorem free_waitForRefreshLoop (shopId initialTokenVersion attempts : Nat) :
    Free env (waitForRefreshLoop env shopId initialTokenVersion attempts) := by
  induction attempts with
  | zero => exact within_throw _
  | succ attempts ih =>
    unfold waitForRefreshLoop
    apply within_bind (free_query rfl)
    intro _
    apply within_bind (free_query rfl)
    intro connection
    apply within_ite
    · apply within_bind (free_query rfl)
      intro now
      apply within_ite
      · apply within_bind (free_markRefreshUncertain _ _ _ _)
        intro marked
        apply within_ite
        · exact within_throw _
        · exact ih
      · exact ih
    · apply within_ite
      · split
        · exact within_decrypt _
        · exact within_throw _
      · exact within_throw _

theorem free_waitForRefresh (shopId initialTokenVersion : Nat) :
    Free env (waitForRefresh env shopId initialTokenVersion) := by
  unfold waitForRefresh
  apply within_bind within_credentials
  intro _
  exact free_waitForRefreshLoop _ _ _

theorem free_upsertShops (shops : List AuthorizedShop) : Free env (upsertShops shops) := by
  induction shops with
  | nil => exact within_pure _
  | cons shop shops ih =>
    unfold upsertShops
    apply within_bind (free_query rfl)
    intro id
    apply within_bind ih
    intro persisted
    exact within_pure _

theorem free_storeAuthorization (tokens : SellerTokens) :
    Free env (storeAuthorization env tokens) := by
  unfold storeAuthorization
  apply within_bind (free_query rfl)
  intro shops
  apply within_bind (within_refuse _ _)
  intro _
  apply within_bind (within_refuse _ _)
  intro _
  apply within_bind (free_upsertShops _)
  intro persisted
  apply within_bind (within_orThrow _ _)
  intro primary
  exact free_query rfl

theorem free_initiateAuthorization (browser state operationId : Text) :
    Free env (initiateAuthorization env browser state operationId) := by
  unfold initiateAuthorization
  apply within_bind (within_refuse _ _)
  intro _
  apply within_bind within_credentials
  intro _
  apply within_bind (free_query rfl)
  intro now
  apply within_bind (free_query rfl)
  intro stored
  apply within_ite
  · apply within_tryCatch
    · apply within_bind (free_query rfl)
      intro _
      exact free_query rfl
    · intro _
      apply within_bind (free_query rfl)
      intro now
      apply within_bind (free_query rfl)
      intro _
      exact within_throw _
  · exact within_pure _

theorem free_validationToken (connection : Connection) :
    Free env (validationToken env connection) := by
  unfold validationToken
  apply within_bind (free_query rfl)
  intro now
  apply within_bind (within_refuse _ _)
  intro _
  apply within_bind (within_orThrow _ _)
  intro ciphertext
  exact within_orThrow _ _

theorem free_findTarget (shopId : Option Nat) : Free env (findTarget shopId) := by
  cases shopId with
  | none => exact free_query rfl
  | some shopId => exact free_query rfl

end Free

/-! ## A refresh under its lease -/

section Refresh

variable {α : Type} {env : Environment}

/-- The thread claimed this refresh. -/
def Claims (shopId tokenVersion leaseId : Nat) (trigger : Trigger) (r : Role) : Prop :=
  r.refresh = .claimed shopId tokenVersion leaseId trigger

/-- The calls after which a thread still has the refresh that it claimed. -/
def keepsRefresh : Call → Bool
  | .newLease | .claimRefresh _ _ _ _ _ _ => false
  | _ => true

theorem refresh_next {c : Call} (h : keepsRefresh c = true) (r : Role)
    (res : Except Failure c.Result) : (nextRole r c res).refresh = r.refresh := by
  cases c with
  | newLease => cases h
  | claimRefresh shopId tokenVersion leaseId trigger leaseExpiresAt now => cases h
  | findState stateHash => rcases res with e | _ | ⟨id, stored⟩ <;> rfl
  | _ => cases res <;> rfl

theorem within_claims_query {shopId tokenVersion leaseId : Nat} {trigger : Trigger} {c : Call}
    (hok : ∀ r, Claims shopId tokenVersion leaseId trigger r → okCall env r c)
    (hkeep : keepsRefresh c = true) :
    Within (protocol env) (Claims shopId tokenVersion leaseId trigger) (query c) :=
  within_query hok (fun r res hr => (refresh_next hkeep r res).trans hr)

variable {shopId tokenVersion leaseId : Nat} {trigger : Trigger}

theorem claims_query {c : Call} (h : unguarded c = true) (hkeep : keepsRefresh c = true) :
    Within (protocol env) (Claims shopId tokenVersion leaseId trigger) (query c) :=
  within_claims_query (fun r _ => ok_of_unguarded h r) hkeep

theorem claims_markRefreshUncertain (reason : Reason) :
    Within (protocol env) (Claims shopId tokenVersion leaseId trigger)
      (markRefreshUncertain shopId (some leaseId) tokenVersion reason) := by
  unfold markRefreshUncertain
  apply within_bind (claims_query rfl rfl)
  intro now
  apply within_bind (claims_query rfl rfl)
  intro marked
  exact within_pure _

theorem claims_refreshRejected (e : Failure) :
    Within (protocol env) (Claims shopId tokenVersion leaseId trigger)
      (refreshRejected shopId leaseId tokenVersion e) := by
  unfold refreshRejected
  apply within_ite
  · apply within_bind (claims_markRefreshUncertain _)
    intro marked
    apply within_bind (within_refuse _ _)
    intro _
    exact within_throw _
  · apply within_bind (claims_query rfl rfl)
    intro now
    apply within_bind
    · apply within_claims_query
      · intro r hr
        exact ⟨trigger, hr⟩
      · rfl
    · intro failed
      apply within_bind (within_refuse _ _)
      intro _
      exact within_throw _

theorem claims_verifyShop (target : Shop) (refreshed : SellerTokens) :
    Within (protocol env) (Claims shopId tokenVersion leaseId trigger) (verifyShop target refreshed) := by
  unfold verifyShop
  apply within_tryCatch
  · apply within_bind (claims_query rfl rfl)
    intro shops
    exact within_pure _
  · intro _
    exact within_pure _

theorem claims_persistRefresh (data : Rotation) :
    Within (protocol env) (Claims shopId tokenVersion leaseId trigger)
      (persistRefresh shopId leaseId tokenVersion data) := by
  unfold persistRefresh
  apply within_tryCatch
  · apply within_bind
    · apply within_claims_query
      · intro r hr
        exact ⟨trigger, hr⟩
      · rfl
    · intro persisted
      exact within_refuse _ _
  · intro _
    apply within_bind
    · apply within_tryCatch (claims_markRefreshUncertain _)
      intro _
      exact within_pure _
    · intro _
      exact within_throw _

/-- A refresh that has claimed the connection acts under its own lease and version. -/
theorem claims_runRefresh (target : Shop) (connection : Connection) (ciphertext : String) :
    Within (protocol env) (Claims target.id connection.tokenVersion leaseId trigger)
      (runRefresh env target connection ciphertext leaseId trigger) := by
  unfold runRefresh
  apply within_bind (within_decrypt _)
  intro previousRefresh
  apply within_bind
  · apply within_tryCatch
    · apply within_claims_query
      · intro r hr
        exact hr
      · rfl
    intro e
    exact claims_refreshRejected e
  · intro refreshed
    apply within_bind (claims_verifyShop _ _)
    intro verified
    apply within_bind (claims_persistRefresh _)
    intro _
    apply within_bind (within_refuse _ _)
    intro _
    exact within_pure _

theorem free_refusePreparation (connection : Connection) (ciphertext : Option String)
    (reason : Reason) (now : Int)
    (h : connection.refreshState = .IDLE ∨ connection.refreshState = .FAILED) :
    Free env (refusePreparation shopId connection ciphertext reason now) := by
  unfold refusePreparation
  apply within_bind
  · apply within_query
    · intro r _
      exact h
    · intro _ _ _
      trivial
  · intro failed
    apply within_bind (within_refuse _ _)
    intro _
    exact within_throw _

/-- The claim of a refresh under a new lease, and what follows it. -/
theorem free_startRefresh (target : Shop) (connection : Connection)
    (h : connection.refreshState = .IDLE ∨ connection.refreshState = .FAILED) :
    Free env (startRefresh env target connection trigger) := by
  unfold startRefresh
  apply within_bind (free_query rfl)
  intro now
  split
  · exact free_refusePreparation _ _ _ _ h
  · next ciphertext _ =>
    apply within_ite
    · exact free_refusePreparation _ _ _ _ h
    · intro r _
      apply lawful_query_bind rfl
      intro leaseId
      apply lawful_query_bind rfl
      intro now
      apply lawful_call_bind
      · rfl
      · intro claimed
        apply lawful_ite
        · intro hclaimed
          apply lawful_mono (claims_runRefresh target connection ciphertext _ _)
          · intro _ _
            trivial
          · have hcount : claimed = 1 := hclaimed
            simp [Claims, protocol, nextRole, hcount]
        · intro _
          exact free_waitForRefresh _ _ _ trivial
      · intro _
        trivial

theorem free_refreshToken (shopId : Option Nat) (trigger : Trigger) :
    Free env (refreshToken env shopId trigger) := by
  unfold refreshToken
  apply within_bind (free_findTarget _)
  intro target
  apply within_bind within_credentials
  intro _
  apply within_bind (free_query rfl)
  intro connection
  split
  · exact within_throw _
  · apply within_bind (free_query rfl)
    intro now
    apply within_ite
    · apply within_bind (free_markRefreshUncertain _ _ _ _)
      intro marked
      apply within_bind (within_refuse _ _)
      intro _
      exact free_waitForRefresh _ _
    · exact free_waitForRefresh _ _
  · next hfailed =>
    apply within_ite
    · exact within_throw _
    · exact free_startRefresh _ _ (Or.inr hfailed)
  · next hidle => exact free_startRefresh _ _ (Or.inl hidle)

theorem free_validAccessToken (validationMode : Bool) :
    Free env (validAccessToken env validationMode) := by
  unfold validAccessToken
  apply within_bind (free_query rfl)
  intro shop
  apply within_bind within_credentials
  intro _
  apply within_bind (free_query rfl)
  intro connection
  apply within_ite
  · exact free_validationToken _
  · apply within_ite
    · exact free_waitForRefresh _ _
    · apply within_bind (within_refuse _ _)
      intro _
      split
      · apply within_bind (free_query rfl)
        intro now
        apply within_ite
        · exact within_decrypt _
        · exact free_refreshToken _ _
      · exact within_throw _

end Refresh

/-! ## The end of an authorization -/

section Callback

variable {env : Environment}

/-- A callback consumes a state only after the checks of it, and exchanges the code only after
that. -/
theorem free_callback (request : Request) : Free env (callback env request) := by
  unfold callback
  split
  · exact within_throw _
  · next state code hinput =>
    intro r _
    apply lawful_query_bind rfl
    intro found
    cases found with
    | none => exact within_throw _ _ trivial
    | some found =>
      obtain ⟨id, row⟩ := found
      apply lawful_refuse_bind
      intro hbelongs
      apply lawful_refuse_bind
      intro _
      apply lawful_query_bind rfl
      intro now
      apply lawful_refuse_bind
      intro _
      apply lawful_query_bind rfl
      intro now
      apply lawful_call_bind
      · have hshows : Shows env request (env.crypto.digest state) row :=
          ⟨⟨state, code, hinput, rfl⟩, by simpa using hbelongs⟩
        exact ⟨env.crypto.digest state, row, rfl, hshows⟩
      · intro consumed
        apply lawful_refuse_bind
        intro hcount
        have hone : consumed = 1 := by simpa using hcount
        apply lawful_refuse_bind
        intro _
        apply lawful_tryCall_bind
        · simp [protocol, okCall, nextRole, hone]
        · intro tokens
          exact free_storeAuthorization _ _ trivial
        · intro e
          exact within_throw _ _ trivial
      · intro _
        trivial

theorem free_privateCompletion (input : List (Text × Json)) (headers : Headers) :
    Free env (privateCompletion env input headers) := by
  unfold privateCompletion
  apply within_bind (within_refuse _ _)
  intro _
  apply within_bind (free_query rfl)
  intro now
  apply within_bind (within_orThrow _ _)
  intro nonce
  apply within_bind (free_query rfl)
  intro _
  apply within_bind (within_orThrow _ _)
  intro operationId
  apply within_bind (within_orThrow _ _)
  intro browserHash
  apply within_bind (within_refuse _ _)
  intro _
  exact free_callback _

end Callback

theorem startable_conforms {env : Environment}
    {p : Prog Call (fun c => Except Failure c.Result) Unit} (h : Startable env p) :
    p.Conforms (protocol env) start (fun _ _ => True) := by
  obtain ⟨job, rfl⟩ := h
  cases job with
  | initiateAuthorization browser state operationId =>
    exact conforms_of_lawful (free_initiateAuthorization browser state operationId start trivial)
  | callback request => exact conforms_of_lawful (free_callback request start trivial)
  | privateCompletion input headers =>
    exact conforms_of_lawful (free_privateCompletion input headers start trivial)
  | validAccessToken validationMode =>
    exact conforms_of_lawful (free_validAccessToken validationMode start trivial)
  | refreshToken shopId trigger =>
    exact conforms_of_lawful (free_refreshToken shopId trigger start trivial)

/-! ## Runs -/

/-- The roles of the threads after a run from an idle world. -/
abbrev rolesAfter (env : Environment) (ls : List SystemLabel) : Nat → Role :=
  staged (protocol env) start ls

theorem after_cases (env : Environment) (ls : List SystemLabel) (l : SystemLabel) (j : Nat) :
    (rolesAfter env (ls ++ [l]) j = rolesAfter env ls j ∧ l ≠ .spawn j ∧
        ∀ c res, l ≠ .run j c res) ∨
      rolesAfter env (ls ++ [l]) j = start ∧ (∀ c res, l ≠ .run j c res) ∨
      ∃ c res, l = .run j c res ∧
        rolesAfter env (ls ++ [l]) j = nextRole (rolesAfter env ls j) c res :=
  staged_cases (protocol env) start ls l j

def quiet : SystemLabel → Bool
  | .run _ _ _ => false
  | _ => true

/-- A step is a call that the role of its thread allows, or leaves the world as it is. -/
theorem step_cases {env : Environment} {s t : SystemPool} {l : SystemLabel} {roles : Nat → Role}
    (hfollows : Follows (protocol env) s roles) (h : PoolStep machine (Startable env) s l t) :
    (quiet l = true ∧ t.world = s.world) ∨
      ∃ i c res, l = .run i c res ∧ okCall env (roles i) c ∧ Exec i s.world c res t.world := by
  cases h with
  | spawn i p hfree hp => exact Or.inl ⟨rfl, rfl⟩
  | work i c next w hthread hwork => exact hwork.elim
  | run i c next res w hthread hexec =>
    exact Or.inr ⟨i, c, res, rfl, (hfollows i _ hthread).1, hexec⟩
  | crash i p hthread =>
    refine Or.inl ⟨rfl, ?_⟩
    cases p with
    | ret u => rfl
    | call c next => rfl

/-- An invariant of the steps so far and the world, in every run of the system. -/
theorem system_invariant {env : Environment} (guard : World → SystemLabel → Prop)
    (I : List SystemLabel → World → Prop)
    (hquiet : ∀ ls w l, quiet l = true → I ls w → I (ls ++ [l]) w)
    (hrun : ∀ ls w i c res w', I ls w → okCall env (rolesAfter env ls i) c → Exec i w c res w' →
      guard w (.run i c res) → I (ls ++ [.run i c res]) w')
    {w : World} {ls : List SystemLabel} {pool : SystemPool}
    (h : Run (Guarded (PoolStep machine (Startable env)) (fun pool l => guard pool.world l))
      (idle w) ls pool) (h0 : I [] w) :
    I ls pool.world ∧ Follows (protocol env) pool (rolesAfter env ls) := by
  have hI : HistoryInvariant machine (protocol env) start guard I := {
    spawn := fun ls w i hinv => hquiet ls w _ rfl hinv
    work := fun ls w i c w' hinv hok hwork => hwork.elim
    run := hrun
    ends := fun ls w i hinv => hquiet ls w _ rfl hinv
    crash := fun ls w i c hinv => hquiet ls w _ rfl hinv }
  exact history_invariant hI (fun p hp => startable_conforms hp) h (fun _ => rfl) h0

end tiktok_outreach.tiktok_system
