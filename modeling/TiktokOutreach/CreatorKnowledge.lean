-- What the threads of the crawler know of the database. A lease is drawn once
-- and claimed once, and what a thread read holds on as long as no step of any
-- thread makes it false.
import TiktokOutreach.CreatorConformance
import TiktokOutreach.CommandEffects

open runs executions tiktok_outreach.creator_schema
  tiktok_outreach.creator_scheduler tiktok_outreach.adaptive_queue
  tiktok_outreach.creator_commands tiktok_outreach.creator_effects tiktok_outreach.command_effects
  tiktok_outreach.creator_protocol

namespace tiktok_outreach.creator_knowledge

/-- The lease of a thread, from its draw on. -/
def leaseOfPhase : Phase → Option Nat
  | .drawn leaseId | .worker leaseId | .spent leaseId => some leaseId
  | .out => none

/-! ## Leases -/

/-- Every thread has its own lease, and claims it once. -/
structure Leases (w : World) (roles : Nat → Role) : Prop where
  below : ∀ i leaseId, leaseOfPhase (roles i).phase = some leaseId → leaseId < w.nextLease
  apart : ∀ i j leaseId, leaseOfPhase (roles i).phase = some leaseId →
    leaseOfPhase (roles j).phase = some leaseId → i = j
  drawn : ∀ i leaseId, leaseOfPhase (roles i).phase = some leaseId → w.drawn i = some leaseId
  unclaimed : ∀ i leaseId, (roles i).phase = .drawn leaseId → w.db.job.leaseId ≠ some leaseId
  job : ∀ leaseId, w.db.job.leaseId = some leaseId → leaseId < w.nextLease

section Leases

variable {env : Environment} {config : Config} {ambient : Ambient} {db db' : Db}

theorem lease_jobOfCommit {page : CreatorSyncPage} {f : CreatorSyncJob → CreatorSyncJob}
    {job : CreatorSyncJob} {P : Prop} : (jobOfCommit page f job).leaseId = job.leaseId ∨
      (jobOfCommit page f job).leaseId = none ∨ P := by
  unfold jobOfCommit
  split
  · exact Or.inr (Or.inl rfl)
  · exact Or.inl rfl

/-- The job is claimed under a new lease, keeps its lease or gives it up. -/
theorem lease_of_effect {c : Command} {a : c.Result} (h : Effect env config ambient db c a db') :
    db'.job.leaseId = db.job.leaseId ∨ db'.job.leaseId = none ∨
      ∃ leaseId, c = .claimLease leaseId ∧ db'.job.leaseId = some leaseId := by
  cases c with
  | claimLease leaseId =>
    simp only [Effect] at h
    split at h
    · obtain ⟨_, rfl⟩ := h
      exact Or.inr (Or.inr ⟨leaseId, rfl, rfl⟩)
    · obtain ⟨_, rfl⟩ := h
      exact Or.inl rfl
  | recordSheetImport leaseId =>
    cases h
    rcases job_setJobUnder db leaseId (fun job => { job with sheetImportedAt := some ambient.now })
      with hjob | ⟨_, hjob⟩
    · exact Or.inl (congrArg _ hjob)
    · exact Or.inl (by rw [hjob])
  | pauseClaimed leaseId partitionId =>
    cases h
    rw [job_setStatus]
    rcases job_setJobUnder db leaseId stoppedJob with hjob | ⟨_, hjob⟩
    · exact Or.inl (congrArg _ hjob)
    · rw [hjob]
      exact Or.inr (Or.inl rfl)
  | claimPartition leaseId =>
    cases h with
    | current db1 hexpand => exact Or.inl (congrArg _ (expandReadyBranches_expands hexpand).job)
    | exhausted => exact Or.inr (Or.inl rfl)
    | started => exact Or.inl rfl
  | commitPage leaseId pageId page partition =>
    cases h with
    | more => exact lease_jobOfCommit
    | last => exact lease_jobOfCommit
  | sheetsFailure pageId page targetId target paused retryable =>
    obtain ⟨next, rfl⟩ := h
    exact Or.inr (Or.inl rfl)
  | businessRetry paused id partition =>
    cases h
    exact Or.inr (Or.inl rfl)
  | retryLater job error partitionId =>
    cases h
    rw [job_setStatus]
    exact Or.inr (Or.inl rfl)
  | failJob stage partitionId =>
    cases h
    rw [job_setStatus]
    exact Or.inr (Or.inl rfl)
  | pause job =>
    cases h
    dsimp only
    unfold pausedJob
    split
    · exact Or.inl rfl
    · exact Or.inl rfl
  | resume job staged =>
    cases h
    exact Or.inl rfl
  | initializePartitions catalog =>
    cases h
    exact Or.inr (Or.inl rfl)
  | prepareAdaptiveQueue => exact Or.inl (congrArg _ (expandReadyBranches_expands h).job)
  | stagePage page child =>
    obtain ⟨_, categories, rfl⟩ := h
    refine Or.inl ?_
    unfold withReceipt
    dsimp only
    split
    · rfl
    · rfl
  | refreshCategories categories =>
    obtain ⟨t, rfl⟩ := h
    exact Or.inl rfl
  | recordActivity leaseId stage =>
    obtain ⟨_, rfl⟩ := h
    exact Or.inl rfl
  | recordSheetAttempt leaseId id attempt stage =>
    obtain ⟨_, rfl⟩ := h
    exact Or.inl rfl
  | persistBatch origin batch =>
    obtain ⟨_, rfl⟩ := h
    exact Or.inl rfl
  | jobUnderLease leaseId =>
    obtain ⟨_, _, rfl⟩ := h
    exact Or.inl rfl
  | receivedPage id =>
    obtain ⟨_, _, rfl⟩ := h
    exact Or.inl rfl
  | findCandidate | markRequested | countRequest | resetBusinessRetries | markPersisted
  | updateMarketplaceRetryDelay =>
    cases h
    exact Or.inl rfl
  | _ =>
    obtain ⟨_, rfl⟩ := h
    exact Or.inl rfl

end Leases

/-! ## Phases -/

/-- The phase of a thread after a command, whatever the answer is. -/
def afterCommand (phase : Phase) : Command → Phase
  | .claimLease leaseId => .worker leaseId
  | .commitPage leaseId _ _ _ => .spent leaseId
  | _ => phase

section Phases

variable {w : World} {roles : Nat → Role} {r : Role} {c : Command} {phase : Phase}

theorem nextPhase_db (answer : (Call.db c).Answer) :
    nextPhase phase (.db c) answer = afterCommand phase c := by
  cases c <;> rfl

theorem afterCommand_of_moves (h : moves c = false) : afterCommand phase c = phase := by
  cases c <;> first
    | rfl
    | cases h

/-- A thread keeps its lease. -/
theorem lease_afterCommand (hok : okCommand r c) :
    leaseOfPhase (afterCommand r.phase c) = leaseOfPhase r.phase := by
  by_cases hmoves : moves c = false
  · rw [afterCommand_of_moves hmoves]
  · cases c with
    | claimLease leaseId =>
      rw [hok.2.2.1 leaseId rfl]
      rfl
    | commitPage leaseId id page partition =>
      rw [hok.2.2.2.1 leaseId id page partition rfl]
      rfl
    | _ => exact absurd rfl hmoves

theorem drawn_of_afterCommand {leaseId : Nat} (h : afterCommand phase c = .drawn leaseId) :
    phase = .drawn leaseId ∧ ∀ leaseId', c ≠ .claimLease leaseId' := by
  cases c <;> first
    | exact ⟨h, fun _ hc => by cases hc⟩
    | cases h

/-- The threads with the leases of other ones keep what they have. -/
theorem leases_of_lease {i : Nat} {r' : Role} {db' : Db} (h : Leases w roles)
    (hlease : leaseOfPhase r'.phase = leaseOfPhase (roles i).phase)
    (hunclaimed : ∀ j leaseId, (setRole roles i r' j).phase = .drawn leaseId →
      db'.job.leaseId ≠ some leaseId)
    (hjob : ∀ leaseId, db'.job.leaseId = some leaseId → leaseId < w.nextLease) :
    Leases { w with db := db' } (setRole roles i r') := by
  have hsame : ∀ j, leaseOfPhase (setRole roles i r' j).phase = leaseOfPhase (roles j).phase := by
    intro j
    by_cases hj : j = i
    · rw [hj, setRole_self, hlease]
    · rw [setRole_of_ne _ _ hj]
  constructor
  · intro j leaseId hj
    exact h.below j leaseId (hsame j ▸ hj)
  · intro j k leaseId hj hk
    exact h.apart j k leaseId (hsame j ▸ hj) (hsame k ▸ hk)
  · intro j leaseId hj
    exact h.drawn j leaseId (hsame j ▸ hj)
  · exact hunclaimed
  · exact hjob

theorem leases_same {i : Nat} {r' : Role} (h : Leases w roles)
    (hlease : leaseOfPhase r'.phase = leaseOfPhase (roles i).phase)
    (hunclaimed : ∀ j leaseId, (setRole roles i r' j).phase = .drawn leaseId →
      w.db.job.leaseId ≠ some leaseId) : Leases w (setRole roles i r') :=
  leases_of_lease h hlease hunclaimed h.job

/-- A command that fails changes the phase at most. -/
theorem leases_failed {i : Nat} {r' : Role} (h : Leases w roles) (hok : okCommand (roles i) c)
    (hphase : r'.phase = afterCommand (roles i).phase c) :
    Leases w (setRole roles i r') := by
  refine leases_same h (by rw [hphase, lease_afterCommand hok]) ?_
  intro j leaseId hj
  by_cases hji : j = i
  · rw [hji, setRole_self, hphase] at hj
    exact h.unclaimed i leaseId (drawn_of_afterCommand hj).1
  · rw [setRole_of_ne _ _ hji] at hj
    exact h.unclaimed j leaseId hj

theorem leases_command {env : Environment} {config : Config} {ambient : Ambient} {db' : Db}
    {a : c.Result} {i : Nat} {r' : Role} (h : Leases w roles) (hok : okCommand (roles i) c)
    (heffect : Effect env config ambient w.db c a db')
    (hphase : r'.phase = afterCommand (roles i).phase c) :
    Leases { w with db := db' } (setRole roles i r') := by
  have hclaimed : ∀ leaseId, db'.job.leaseId = some leaseId →
      w.db.job.leaseId = some leaseId ∨ (roles i).phase = .drawn leaseId ∧ c = .claimLease leaseId := by
    intro leaseId hlease
    rcases lease_of_effect heffect with hsame | hnone | ⟨leaseId', hc, hsome⟩
    · exact Or.inl (hsame ▸ hlease)
    · rw [hnone] at hlease
      cases hlease
    · have heq : leaseId' = leaseId := Option.some.inj (hsome.symm.trans hlease)
      subst heq
      exact Or.inr ⟨hok.2.2.1 _ hc, hc⟩
  refine leases_of_lease h (by rw [hphase, lease_afterCommand hok]) ?_ ?_
  · intro j leaseId hj hlease
    by_cases hji : j = i
    · rw [hji, setRole_self, hphase] at hj
      obtain ⟨hdrawn, hnot⟩ := drawn_of_afterCommand hj
      rcases hclaimed leaseId hlease with hold | ⟨_, hc⟩
      · exact h.unclaimed i leaseId hdrawn hold
      · exact hnot leaseId hc
    · rw [setRole_of_ne _ _ hji] at hj
      rcases hclaimed leaseId hlease with hold | ⟨hdrawn, _⟩
      · exact h.unclaimed j leaseId hj hold
      · exact hji (h.apart j i leaseId (by rw [hj]; rfl) (by rw [hdrawn]; rfl))
  · intro leaseId hlease
    rcases hclaimed leaseId hlease with hold | ⟨hdrawn, _⟩
    · exact h.job leaseId hold
    · exact h.below i leaseId (by rw [hdrawn]; rfl)

theorem leases_newLease {i : Nat} {r' : Role} (h : Leases w roles)
    (hphase : r'.phase = .drawn w.nextLease) :
    Leases { w with
      nextLease := w.nextLease + 1
      drawn := fun j => if j = i then some w.nextLease else w.drawn j } (setRole roles i r') := by
  have hcases : ∀ j leaseId, leaseOfPhase (setRole roles i r' j).phase = some leaseId →
      j = i ∧ leaseId = w.nextLease ∨ j ≠ i ∧ leaseOfPhase (roles j).phase = some leaseId := by
    intro j leaseId hj
    by_cases hji : j = i
    · rw [hji, setRole_self, hphase] at hj
      exact Or.inl ⟨hji, (Option.some.inj hj).symm⟩
    · rw [setRole_of_ne _ _ hji] at hj
      exact Or.inr ⟨hji, hj⟩
  constructor
  · intro j leaseId hj
    dsimp only
    rcases hcases j leaseId hj with ⟨_, rfl⟩ | ⟨_, hold⟩
    · omega
    · have hbelow := h.below j leaseId hold
      omega
  · intro j k leaseId hj hk
    rcases hcases j leaseId hj with ⟨rfl, rfl⟩ | ⟨hji, hjold⟩
    · rcases hcases k _ hk with ⟨rfl, _⟩ | ⟨_, hkold⟩
      · rfl
      · exact absurd (h.below k _ hkold) (lt_irrefl _)
    · rcases hcases k leaseId hk with ⟨rfl, rfl⟩ | ⟨_, hkold⟩
      · exact absurd (h.below j _ hjold) (lt_irrefl _)
      · exact h.apart j k leaseId hjold hkold
  · intro j leaseId hj
    dsimp only
    rcases hcases j leaseId hj with ⟨rfl, rfl⟩ | ⟨hji, hold⟩
    · rw [if_pos rfl]
    · rw [if_neg hji]
      exact h.drawn j leaseId hold
  · intro j leaseId hj hlease
    have hbelow : leaseId < w.nextLease := h.job leaseId hlease
    rcases hcases j leaseId (by rw [hj]; rfl) with ⟨_, rfl⟩ | ⟨hji, _⟩
    · omega
    · rw [setRole_of_ne _ _ hji] at hj
      exact h.unclaimed j leaseId hj hlease
  · intro leaseId hlease
    dsimp only
    have hbelow : leaseId < w.nextLease := h.job leaseId hlease
    omega

end Phases

/-! ## Knowledge -/

/-- What the answer of a command says of a database, to a thread in a phase. -/
abbrev Meaning : Type := Db → Phase → (c : Command) → c.Result → Prop

/-- All that a thread knows holds in the database. -/
def Sound (Holds : Meaning) (db : Db) (r : Role) : Prop :=
  ∀ c a, Answered r.known c a → Holds db r.phase c a

/-- The phases of a thread one after another, while the database stays. -/
inductive Advances (db : Db) : Phase → Phase → Prop
  | draw (leaseId : Nat) (h : db.job.leaseId ≠ some leaseId) : Advances db .out (.drawn leaseId)
  | claim (leaseId : Nat) (h : db.job.leaseId ≠ some leaseId) :
      Advances db (.drawn leaseId) (.worker leaseId)
  | commit (leaseId : Nat) : Advances db (.worker leaseId) (.spent leaseId)

/-- The phases of the threads before and after a command of the role `r`: that of its own thread,
and those of threads with other leases. -/
inductive Passes (r : Role) (c : Command) : Phase → Phase → Prop
  | own : Passes r c r.phase (afterCommand r.phase c)
  | other (phase : Phase)
      (h : ∀ leaseId, leaseOfPhase phase = some leaseId → leaseOfPhase r.phase ≠ some leaseId) :
      Passes r c phase phase

section Knowledge

variable (env : Environment) (config : Config) (G : Db → Option Nat → Command → Prop)
  (J : Db → Prop) (Holds : Meaning)

/-- A thread with the role `r` has run a command under the guard `G`, in a database with `J`. -/
structure Act (r : Role) (db : Db) (c : Command) (a : c.Result) (db' : Db) : Prop where
  inv : J db
  sound : Sound Holds db r
  ok : okCommand r c
  unclaimed : ∀ leaseId, r.phase = .drawn leaseId → db.job.leaseId ≠ some leaseId
  guard : ∃ drawn, (∀ leaseId, leaseOfPhase r.phase = some leaseId → drawn = some leaseId) ∧
    G db drawn c
  effect : ∃ ambient, Effect env config ambient db c a db'

/-- The commands keep the invariant, and what the threads know. -/
structure Knowledge : Prop where
  advance : ∀ db phase phase' c a, Advances db phase phase' → Holds db phase c a →
    Holds db phase' c a
  inv : ∀ r db c a db', Act env config G J Holds r db c a db' → J db'
  learn : ∀ r db c a db', Act env config G J Holds r db c a db' →
    Holds db' (afterCommand r.phase c) c a
  retain : ∀ r db c a db' phase phase' c' a', Act env config G J Holds r db c a db' →
    Passes r c phase phase' → Holds db phase c' a' → Holds db' phase' c' a'

/-- The guard, as a condition on the steps of a run. -/
def guardOf (w : World) (l : Label Call Call.Answer) : Prop :=
  ∀ i c answer, l = .run i (.db c) answer → G w.db (w.drawn i) c

end Knowledge

section Runs

variable {env : Environment} {config : Config} {G : Db → Option Nat → Command → Prop}
  {J : Db → Prop} {Holds : Meaning} {w : World} {roles : Nat → Role}

theorem sound_start (db : Db) : Sound Holds db start := fun _ _ h => absurd h (Set.notMem_empty _)

theorem sound_setRole {db : Db} {i : Nat} {r : Role} (h : ∀ j, j ≠ i → Sound Holds db (roles j))
    (hr : Sound Holds db r) (j : Nat) : Sound Holds db (setRole roles i r j) := by
  by_cases hj : j = i
  · rw [hj, setRole_self]
    exact hr
  · rw [setRole_of_ne _ _ hj]
    exact h j hj

/-- An answer that is no result of a command adds nothing to what is known of commands. -/
theorem answered_other {r : Role} {call : Call} {answer : call.Answer} {c : Command}
    {a : c.Result} (hcall : ∀ c, call ≠ .db c) (h : Answered (nextRole r call answer).known c a) :
    Answered r.known c a := by
  cases answer with
  | error e => exact h
  | ok b =>
    rcases Set.mem_insert_iff.1 h with heq | hold
    · exact absurd (congrArg Sigma.fst heq).symm (hcall c)
    · exact hold

/-- A thread that goes on without a new answer, while the database stays. -/
theorem sound_advance (hK : Knowledge env config G J Holds) {db : Db} {r r' : Role}
    (h : Sound Holds db r) (hphase : r'.phase = r.phase ∨ Advances db r.phase r'.phase)
    (hknown : ∀ c a, Answered r'.known c a → Answered r.known c a) : Sound Holds db r' := by
  intro c a ha
  have hold := h c a (hknown c a ha)
  rcases hphase with hsame | hadvance
  · rw [hsame]
    exact hold
  · exact hK.advance db _ _ c a hadvance hold

theorem advances_afterCommand {db : Db} {r : Role} {c : Command} (hok : okCommand r c)
    (hunclaimed : ∀ leaseId, r.phase = .drawn leaseId → db.job.leaseId ≠ some leaseId) :
    afterCommand r.phase c = r.phase ∨ Advances db r.phase (afterCommand r.phase c) := by
  by_cases hmoves : moves c = false
  · exact Or.inl (afterCommand_of_moves hmoves)
  · cases c with
    | claimLease leaseId =>
      have hphase := hok.2.2.1 leaseId rfl
      rw [hphase]
      exact Or.inr (Advances.claim leaseId (hunclaimed leaseId hphase))
    | commitPage leaseId id page partition =>
      rw [hok.2.2.2.1 leaseId id page partition rfl]
      exact Or.inr (Advances.commit leaseId)
    | _ => exact absurd rfl hmoves

/-- The invariant of the leases, the database and all that the threads know. -/
def KnownInv (J : Db → Prop) (Holds : Meaning) (w : World) (roles : Nat → Role) : Prop :=
  Leases w roles ∧ J w.db ∧ ∀ i, Sound Holds w.db (roles i)

/-- The roles of all threads after a command of the thread `i`, which learns at most its answer. -/
theorem sound_command (hK : Knowledge env config G J Holds) (h : KnownInv J Holds w roles) {i : Nat}
    {r' : Role} {c : Command} {a : c.Result} {db' : Db}
    (hact : Act env config G J Holds (roles i) w.db c a db')
    (hphase : r'.phase = afterCommand (roles i).phase c)
    (hknown : ∀ c' a', Answered r'.known c' a' →
      Answered (roles i).known c' a' ∨ (⟨.db c', a'⟩ : Known) = ⟨.db c, a⟩) (j : Nat) :
    Sound Holds db' (setRole roles i r' j) := by
  refine sound_setRole (fun j hj c' a' ha => ?_) (fun c' a' ha => ?_) j
  · have hother : Passes (roles i) c (roles j).phase (roles j).phase :=
      Passes.other _ (fun leaseId hjl hil => hj (h.1.apart j i leaseId hjl hil))
    exact hK.retain _ _ _ _ _ _ _ _ _ hact hother (h.2.2 j c' a' ha)
  · rw [hphase]
    rcases hknown c' a' ha with hold | hnew
    · exact hK.retain _ _ _ _ _ _ _ _ _ hact Passes.own (h.2.2 i c' a' hold)
    · cases hnew
      exact hK.learn _ _ _ _ _ hact

/-- A thread starts, or is gone. -/
theorem knownInv_start (h : KnownInv J Holds w roles) (i : Nat) :
    KnownInv J Holds w (setRole roles i start) := by
  obtain ⟨hleases, hJ, hsound⟩ := h
  refine ⟨?_, hJ, sound_setRole (fun j _ => hsound j) (sound_start _)⟩
  have hcases : ∀ j leaseId, leaseOfPhase (setRole roles i start j).phase = some leaseId →
      leaseOfPhase (roles j).phase = some leaseId := by
    intro j leaseId hj
    by_cases hji : j = i
    · rw [hji, setRole_self] at hj
      cases hj
    · rwa [setRole_of_ne _ _ hji] at hj
  constructor
  · exact fun j leaseId hj => hleases.below j leaseId (hcases j leaseId hj)
  · exact fun j k leaseId hj hk =>
      hleases.apart j k leaseId (hcases j leaseId hj) (hcases k leaseId hk)
  · exact fun j leaseId hj => hleases.drawn j leaseId (hcases j leaseId hj)
  · intro j leaseId hj
    by_cases hji : j = i
    · rw [hji, setRole_self] at hj
      cases hj
    · rw [setRole_of_ne _ _ hji] at hj
      exact hleases.unclaimed j leaseId hj
  · exact hleases.job

/-- A step of the thread `i` that keeps the database, and of which it learns nothing. -/
theorem knownInv_quiet (hK : Knowledge env config G J Holds) (h : KnownInv J Holds w roles)
    {w' : World} {i : Nat} {r' : Role} (hdb : w'.db = w.db)
    (hleases : Leases w' (setRole roles i r'))
    (hphase : r'.phase = (roles i).phase ∨ Advances w.db (roles i).phase r'.phase)
    (hknown : ∀ c a, Answered r'.known c a → Answered (roles i).known c a) :
    KnownInv J Holds w' (setRole roles i r') := by
  refine ⟨hleases, by rw [hdb]; exact h.2.1, ?_⟩
  rw [hdb]
  exact sound_setRole (fun j _ => h.2.2 j) (sound_advance hK (h.2.2 i) hphase hknown)

theorem knownInv_run (hK : Knowledge env config G J Holds) (h : KnownInv J Holds w roles) {i : Nat}
    {call : Call} {answer : call.Answer} {w' : World} (hok : creatorProtocol.ok (roles i) call)
    (hexec : Exec env config i w call answer w') (hguard : guardOf G w (.run i call answer)) :
    KnownInv J Holds w' (setRole roles i (creatorProtocol.next (roles i) call answer)) := by
  have hunclaimed : ∀ leaseId, (roles i).phase = .drawn leaseId →
      w.db.job.leaseId ≠ some leaseId := fun leaseId => h.1.unclaimed i leaseId
  -- a command that took effect, whether its answer came or not
  have hcommand : ∀ (c : Command) (ambient : Ambient) (a : c.Result) (db : Db) (r' : Role),
      okCommand (roles i) c → G w.db (w.drawn i) c →
      (c.body env config ambient).run w.db = .ok (a, db) →
      r'.phase = afterCommand (roles i).phase c →
      (∀ c' a', Answered r'.known c' a' →
        Answered (roles i).known c' a' ∨ (⟨.db c', a'⟩ : Known) = ⟨.db c, a⟩) →
      KnownInv J Holds { w with db } (setRole roles i r') := by
    intro c ambient a db r' hok hg hrun hphase hknown
    have hact : Act env config G J Holds (roles i) w.db c a db :=
      ⟨h.2.1, h.2.2 i, hok, hunclaimed, ⟨w.drawn i, h.1.drawn i, hg⟩, ambient, effect_of_run hrun⟩
    exact ⟨leases_command h.1 hok (effect_of_run hrun) hphase, hK.inv _ _ _ _ _ hact,
      sound_command hK h hact hphase hknown⟩
  cases hexec with
  | commit c ambient a db hrun =>
    refine hcommand c ambient a db _ hok (hguard i c _ rfl) hrun (nextPhase_db _) ?_
    intro c' a' ha
    exact (Set.mem_insert_iff.1 ha).symm
  | lost c ambient a db e hrun =>
    exact hcommand c ambient a db _ hok (hguard i c _ rfl) hrun (nextPhase_db _)
      (fun _ _ ha => Or.inl ha)
  | failed c e =>
    refine knownInv_quiet hK h rfl (leases_failed h.1 hok (nextPhase_db _)) ?_ (fun _ _ ha => ha)
    have hphase : (creatorProtocol.next (roles i) (.db c) (.error e)).phase =
        afterCommand (roles i).phase c := nextPhase_db _
    rw [hphase]
    exact advances_afterCommand hok hunclaimed
  | newLease =>
    refine knownInv_quiet hK h rfl (leases_newLease h.1 rfl) (Or.inr ?_) ?_
    · have hout : (roles i).phase = .out := hok
      rw [hout]
      exact Advances.draw _ (fun hlease => lt_irrefl _ (h.1.job _ hlease))
    · have hnone : ∀ c, Call.newLease ≠ .db c := fun _ hc => by cases hc
      exact fun c a ha => answered_other hnone ha
  | other _ answer helsewhere =>
    have hnone : ∀ c, call ≠ .db c := by
      rintro c rfl
      cases helsewhere
    have hphase : (creatorProtocol.next (roles i) call answer).phase = (roles i).phase := by
      cases call <;> first
        | rfl
        | cases helsewhere
    refine knownInv_quiet hK h rfl ?_ (Or.inl hphase) (fun c a ha => answered_other hnone ha)
    refine leases_same h.1 (by rw [hphase]) ?_
    intro j leaseId hj
    by_cases hji : j = i
    · rw [hji, setRole_self, hphase] at hj
      exact hunclaimed leaseId hj
    · rw [setRole_of_ne _ _ hji] at hj
      exact h.1.unclaimed j leaseId hj

theorem knownInv_poolInvariant (hK : Knowledge env config G J Holds) :
    PoolInvariant (machine env config) creatorProtocol start start (guardOf G)
      (KnownInv J Holds) where
  spawn _ _ i h := knownInv_start h i
  work _ _ _ _ _ _ _ hwork _ := hwork.elim
  run _ _ _ _ _ _ h hok hexec hguard := knownInv_run hK h hok hexec hguard
  ends _ _ i h := knownInv_start h i
  crash _ _ i _ h _ := knownInv_start h i

/-- A step leaves the database as it is, or a thread runs a command in it. -/
theorem db_of_step {allowed : Job → Bool} {pool pool' : Pool World Call Call.Answer}
    {l : Label Call Call.Answer}
    (h : PoolStep (machine env config) (Startable allowed) pool l pool') :
    pool'.world.db = pool.world.db ∨ ∃ i c ambient answer, ∃ a : c.Result,
      l = .run i (.db c) answer ∧
        (c.body env config ambient).run pool.world.db = .ok (a, pool'.world.db) := by
  cases h with
  | spawn i p hfree hp => exact .inl rfl
  | work i c next w hthread hwork => exact hwork.elim
  | crash i p hthread => cases p <;> exact .inl rfl
  | run i call next answer w hthread hexec =>
    have hexec' : Exec env config i pool.world call answer w := hexec
    cases hexec' with
    | commit c ambient a db hrun => exact .inr ⟨i, c, ambient, _, a, rfl, hrun⟩
    | lost c ambient a db e hrun => exact .inr ⟨i, c, ambient, _, a, rfl, hrun⟩
    | failed c e => exact .inl rfl
    | newLease => exact .inl rfl
    | other _ answer helsewhere => exact .inl rfl

/-- What the commands keep under a guard is kept by every run whose commands are under the guard. -/
theorem run_knows (hK : Knowledge env config G J Holds) {allowed : Job → Bool}
    {pool pool' : Pool World Call Call.Answer} {ls : List (Label Call Call.Answer)}
    (hrun : Run (Guarded (PoolStep (machine env config) (Startable allowed))
      (fun pool l => guardOf G pool.world l)) pool ls pool')
    (h0 : ∃ roles, KnownInv J Holds pool.world roles ∧ Follows creatorProtocol pool roles) :
    ∃ roles, KnownInv J Holds pool'.world roles ∧ Follows creatorProtocol pool' roles :=
  pool_invariant (knownInv_poolInvariant hK) (fun _ hp => startable_conforms hp) hrun h0

end Runs

end tiktok_outreach.creator_knowledge
