-- The link state of the provider identities over a sequence of calls of the
-- resolver. A verified identity is set back by one kind of call only: the
-- conversation of a linked creator, seen again without its Open ID.
import TiktokOutreach.CreatorIdentityResolver

open tables tiktok_outreach.identity_schema tiktok_outreach.creator_identity_resolver

namespace tiktok_outreach.verified_identities

/-! ## Sequences of calls -/

inductive Call
  | ensureMarketplaceCreator (candidate : CreatorCandidate) (fresh : Nat)
  | ensureConversationCreator (conversation : ProviderConversation) (fresh : Nat)
  | linkExactProviderIdentities (sourceCreatorId targetCreatorId : Nat)
      (evidence : ExactLinkEvidence)

def Call.tx : Call → Tx Nat
  | ensureMarketplaceCreator candidate fresh =>
    creator_identity_resolver.ensureMarketplaceCreator candidate fresh
  | ensureConversationCreator conversation fresh =>
    creator_identity_resolver.ensureConversationCreator conversation fresh
  | linkExactProviderIdentities sourceCreatorId targetCreatorId evidence =>
    creator_identity_resolver.linkExactProviderIdentities sourceCreatorId targetCreatorId evidence

def Call.run (call : Call) (db : Db) : Db := commit call.tx db

def runs (calls : List Call) (db : Db) : Db := calls.foldl (fun db call => call.run db) db

theorem runs_append (calls calls' : List Call) (db : Db) :
    runs (calls ++ calls') db = runs calls' (runs calls db) := List.foldl_append

/-- The source and the target of the link that a call makes. -/
def Call.links (db : Db) : Call → Option (Nat × Nat)
  | ensureMarketplaceCreator _ _ => none
  | ensureConversationCreator conversation _ => do
    let openId ← given conversation.creatorOpenId
    let byIm ← db.creatorByImId conversation.creatorImId
    let byOpen ← db.creatorByOpenId openId
    some (byIm.1, byOpen.1)
  | linkExactProviderIdentities sourceCreatorId targetCreatorId _ =>
    some (sourceCreatorId, targetCreatorId)

/-- The calls link the creator `id`, over any number of links, into `id'`. -/
inductive Moved : Db → List Call → Nat → Nat → Prop
  | here {db : Db} {id : Nat} : Moved db [] id id
  | stays {db : Db} {call : Call} {calls : List Call} {id id' : Nat} :
      Moved (call.run db) calls id id' → Moved db (call :: calls) id id'
  | linked {db : Db} {call : Call} {calls : List Call} {id target id' : Nat} :
      call.links db = some (id, target) → Moved (call.run db) calls target id' →
      Moved db (call :: calls) id id'

/-- Every identity that is verified after some of the calls is verified after each
later one, under its creator or the creator that it was linked into. -/
def StaysVerified (db : Db) (calls : List Call) : Prop :=
  ∀ before during after, calls = before ++ during ++ after →
    ∀ key row, (runs before db).identities.get key = some row → row.linkState = .VERIFIED →
      ∃ row', (runs (before ++ during) db).identities.get key = some row' ∧
        row'.linkState = .VERIFIED ∧ Moved (runs before db) during row.creatorId row'.creatorId

/-- The call shows, without its Open ID, a conversation whose IM ID is verified for the
creator that has it. -/
def Call.reobserves (db : Db) : Call → Bool
  | ensureConversationCreator conversation _ =>
    !conversation.creatorImId.isEmpty && (given conversation.creatorOpenId).isNone &&
      (db.creatorByImId conversation.creatorImId).any (fun creator =>
        (db.identities.get (.TIKTOK_CREATOR_IM_ID, conversation.creatorImId)).any (fun row =>
          row.linkState = .VERIFIED && row.creatorId = creator.1))
  | _ => false

/-! ## One transaction -/

/-- The verified identities stay, and move only where `links` says so. -/
def Keeps (links : Option (Nat × Nat)) (db db' : Db) : Prop :=
  ∀ key row, db.identities.get key = some row → row.linkState = .VERIFIED →
    ∃ row', db'.identities.get key = some row' ∧ row'.linkState = .VERIFIED ∧
      (row'.creatorId = row.creatorId ∨ links = some (row.creatorId, row'.creatorId))

/-- What a call of the resolver does to the identities. -/
structure Step (links : Option (Nat × Nat)) (db db' : Db) : Prop where
  keeps : Keeps links db db'
  constraints : Constraints db → Constraints db'

theorem Keeps.of_same {links : Option (Nat × Nat)} {db db' : Db}
    (h : db'.identities = db.identities) : Keeps links db db' := by
  intro key row hrow hverified
  rw [h]
  exact ⟨row, hrow, hverified, .inl rfl⟩

theorem Step.refl {links : Option (Nat × Nat)} {db : Db} : Step links db db :=
  ⟨.of_same rfl, fun h => h⟩

/-- A transaction that moves nothing, and then one that may. -/
theorem Step.trans {links : Option (Nat × Nat)} {db db' db'' : Db} (h : Step none db db')
    (h' : Step links db' db'') : Step links db db'' := by
  refine ⟨?_, fun hdb => h'.constraints (h.constraints hdb)⟩
  intro key row hrow hverified
  obtain ⟨row', hrow', hverified', hsame | hlink⟩ := h.keeps key row hrow hverified
  · rw [← hsame]
    exact h'.keeps key row' hrow' hverified'
  · cases hlink

theorem Step.mono {links : Option (Nat × Nat)} {db db' : Db} (h : Step none db db') :
    Step links db db' :=
  h.trans .refl

theorem step_setCreator {id : Nat} {creator : Creator} {db : Db}
    (hfree : db.clashes id creator = false) : Step none db (db.setCreator id creator) :=
  ⟨.of_same rfl, fun h => h.setCreator hfree⟩

theorem step_updateCreator {id : Nat} {data : Creator → Creator} {db db' : Db}
    (h : updateCreator id data db = .ok db') :
    Step none db db' ∧ ∃ creator, db'.creators.get id = some creator := by
  obtain ⟨creator, _, hfree, h⟩ := updateCreator_eq_ok h
  rw [h]
  refine ⟨step_setCreator hfree, data creator, ?_⟩
  unfold Db.setCreator
  simp

section Identity

variable {creatorId : Nat} {identityType : IdentityType} {identifier evidenceType : String}
  {linkState : LinkState} {db db' : Db}

theorem identity_eq_ok
    (h : identity creatorId identityType identifier linkState evidenceType db = .ok db') :
    (∀ row, db.identities.get (identityType, identifier) = some row → row.creatorId = creatorId) ∧
      db' = { db with
        identities := db.identities.set (identityType, identifier)
          ⟨creatorId, linkState, evidenceType⟩ } := by
  unfold identity at h
  obtain ⟨_, howner, h⟩ := bind_eq_ok.1 h
  rw [refuse_eq_ok] at howner
  cases h
  refine ⟨?_, rfl⟩
  intro row hrow
  simpa [hrow] using howner

theorem creators_of_identity
    (h : identity creatorId identityType identifier linkState evidenceType db = .ok db') :
    db'.creators = db.creators := by
  rw [(identity_eq_ok h).2]

/-- The upsert keeps what is verified, unless it unverifies the row itself. -/
theorem step_identity
    (h : identity creatorId identityType identifier linkState evidenceType db = .ok db')
    (hcreator : ∃ creator, db.creators.get creatorId = some creator)
    (hstate : linkState = .VERIFIED ∨ ∀ row, db.identities.get (identityType, identifier) = some row →
      row.linkState ≠ .VERIFIED) : Step none db db' := by
  obtain ⟨howner, h⟩ := identity_eq_ok h
  rw [h]
  constructor
  · intro key row hrow hverified
    by_cases hkey : key = (identityType, identifier)
    · rw [hkey] at hrow
      rcases hstate with hstate | hother
      · refine ⟨⟨creatorId, linkState, evidenceType⟩, ?_, hstate, .inl (howner row hrow).symm⟩
        simp [hkey]
      · exact absurd hverified (hother row hrow)
    · refine ⟨row, ?_, hverified, .inl rfl⟩
      simp [hkey, hrow]
  · intro hdb
    refine ⟨hdb.unique, ?_⟩
    intro key row hrow
    simp only [Table.get_set] at hrow
    split_ifs at hrow with hkey
    · rw [Option.some.injEq] at hrow
      subst hrow
      exact hcreator
    · exact hdb.owned key row hrow

end Identity

/-! ## The link -/

theorem frame_of_rebuilds {creatorId : Nat} {shops : List (Nat × Preserved)} {db db' : Db}
    (h : shops.foldlM (fun db shop => rebuildContactState creatorId shop db) db = .ok db') :
    db'.identities = db.identities ∧ db'.creators = db.creators := by
  induction shops generalizing db with
  | nil =>
    cases h
    exact ⟨rfl, rfl⟩
  | cons shop shops ih =>
    rw [List.foldlM_cons] at h
    obtain ⟨db₁, hstep, hrest⟩ := bind_eq_ok.1 h
    obtain ⟨hidentities, hcreators⟩ := ih hrest
    rw [hidentities, hcreators]
    unfold rebuildContactState at hstep
    obtain ⟨creator, _, hstep⟩ := bind_eq_ok.1 hstep
    obtain ⟨_, _, hstep⟩ := bind_eq_ok.1 hstep
    cases hstep
    exact ⟨rfl, rfl⟩

/-- The identities of the source are verified for the target, the others stay. -/
theorem keeps_moved {sourceId targetId : Nat} {evidenceType : String} {db : Db}
    (hne : sourceId ≠ targetId) :
    Keeps (some (sourceId, targetId)) db
      ((Db.moved db sourceId targetId evidenceType).deleteCreator sourceId) := by
  intro key row hrow hverified
  unfold Db.deleteCreator Db.moved
  by_cases hsource : row.creatorId = sourceId
  · refine ⟨⟨targetId, .VERIFIED, evidenceType⟩, ?_, rfl, ?_⟩
    · simp [hrow, hsource, hne.symm]
    · exact .inr (by rw [hsource])
  · refine ⟨row, ?_, hverified, .inl rfl⟩
    simp [hrow, hsource]

theorem constraints_moved {sourceId targetId : Nat} {evidenceType : String} {db : Db}
    (htarget : ∃ target, db.creators.get targetId = some target)
    (h : Constraints db) :
    Constraints ((Db.moved db sourceId targetId evidenceType).deleteCreator sourceId) := by
  have hcreators : ∀ id, id ≠ sourceId →
      ((Db.moved db sourceId targetId evidenceType).deleteCreator sourceId).creators.get id =
        db.creators.get id := by
    intro id hid
    unfold Db.deleteCreator Db.moved
    cases hget : db.creators.get id <;> simp [hid, hget]
  constructor
  · intro id c id' c' hget hget' hshares
    unfold Db.deleteCreator Db.moved at hget hget'
    simp only [Table.get_deleteMany, Option.filter_eq_some_iff] at hget hget'
    exact h.unique id c id' c' hget.1 hget'.1 hshares
  · intro key row hrow
    unfold Db.deleteCreator Db.moved at hrow
    simp only [Table.get_deleteMany, Table.get_updateMany, Option.filter_eq_some_iff,
      Option.map_eq_some_iff] at hrow
    obtain ⟨⟨old, hold, hrow⟩, hstays⟩ := hrow
    have hid : row.creatorId ≠ sourceId := by simpa using hstays
    rw [hcreators row.creatorId hid]
    by_cases hsource : old.creatorId = sourceId
    · rw [if_pos (by simpa using hsource)] at hrow
      rw [← hrow]
      exact htarget
    · rw [if_neg (by simpa using hsource)] at hrow
      rw [← hrow]
      exact h.owned key old hold

theorem step_mergeCreators {sourceId targetId : Nat} {source target : Creator}
    {evidence : ExactLinkEvidence} {db db' : Db} (hne : sourceId ≠ targetId)
    (htarget : db.creators.get targetId = some target)
    (h : mergeCreators sourceId targetId source target evidence db = .ok db') :
    Step (some (sourceId, targetId)) db db' := by
  unfold mergeCreators at h
  obtain ⟨_, _, h⟩ := bind_eq_ok.1 h
  obtain ⟨db₁, hupdate, h⟩ := bind_eq_ok.1 h
  obtain ⟨db₂, hrebuild, h⟩ := bind_eq_ok.1 h
  cases h
  obtain ⟨hidentities, hcreators⟩ := frame_of_rebuilds hrebuild
  obtain ⟨old, _, hfree, hdb₁⟩ := updateCreator_eq_ok hupdate
  have hsame : db₁.identities =
      ((Db.moved db sourceId targetId evidence.evidenceType.text).deleteCreator
        sourceId).identities := by
    rw [hdb₁]
    rfl
  constructor
  · intro key row hrow hverified
    simp only [hidentities, hsame]
    exact keeps_moved hne key row hrow hverified
  · intro hdb
    have hconstraints : Constraints db₁ := by
      rw [hdb₁]
      exact (constraints_moved ⟨target, htarget⟩ hdb).setCreator hfree
    refine ⟨?_, ?_⟩
    · simp only [hcreators]
      exact hconstraints.unique
    · simp only [hcreators, hidentities]
      exact hconstraints.owned

theorem step_linkExactProviderIdentities {sourceId targetId id : Nat}
    {evidence : ExactLinkEvidence} {db db' : Db}
    (h : linkExactProviderIdentities sourceId targetId evidence db = .ok (id, db')) :
    Step (some (sourceId, targetId)) db db' := by
  unfold linkExactProviderIdentities at h
  obtain ⟨target, htarget, h⟩ := bind_eq_ok.1 h
  rw [orThrow_eq_ok] at htarget
  cases hsource : db.creators.get sourceId with
  | none =>
    simp only [hsource] at h
    obtain ⟨_, _, h⟩ := bind_eq_ok.1 h
    cases h
    exact .refl
  | some source =>
    simp only [hsource] at h
    by_cases hsame : sourceId = targetId
    · rw [if_pos hsame] at h
      obtain ⟨db₁, hidentity, h⟩ := bind_eq_ok.1 h
      cases h
      exact (step_identity hidentity ⟨target, htarget⟩ (.inl rfl)).mono
    · rw [if_neg hsame] at h
      obtain ⟨_, _, h⟩ := bind_eq_ok.1 h
      obtain ⟨db₁, hmerge, h⟩ := bind_eq_ok.1 h
      cases h
      exact step_mergeCreators hsame htarget hmerge

/-! ## The observations -/

theorem step_existingOrCreate {existing : Option Nat} {fresh id : Nat} {creator : Creator}
    {db db' : Db} (h : existingOrCreate existing fresh creator db = .ok (id, db')) :
    Step none db db' := by
  unfold existingOrCreate at h
  cases existing with
  | some existingId =>
    cases h
    exact .refl
  | none =>
    obtain ⟨db₁, hcreate, h⟩ := bind_eq_ok.1 h
    cases h
    obtain ⟨_, hfree, hdb⟩ := createCreator_eq_ok hcreate
    rw [hdb]
    exact step_setCreator hfree

theorem step_ensureMarketplaceCreator {candidate : CreatorCandidate} {fresh id : Nat}
    {db db' : Db} (h : ensureMarketplaceCreator candidate fresh db = .ok (id, db')) :
    Step none db db' := by
  unfold ensureMarketplaceCreator at h
  obtain ⟨_, _, h⟩ := bind_eq_ok.1 h
  unfold ensureMarketplaceCreatorInTransaction at h
  obtain ⟨_, _, h⟩ := bind_eq_ok.1 h
  obtain ⟨_, _, h⟩ := bind_eq_ok.1 h
  obtain ⟨_, _, h⟩ := bind_eq_ok.1 h
  obtain ⟨_, _, h⟩ := bind_eq_ok.1 h
  obtain ⟨⟨id₁, db₁⟩, hfirst, h⟩ := bind_eq_ok.1 h
  obtain ⟨db₂, hupdate, h⟩ := bind_eq_ok.1 h
  obtain ⟨db₃, hopen, h⟩ := bind_eq_ok.1 h
  obtain ⟨hstep, hcreator⟩ := step_updateCreator hupdate
  have hstep := ((step_existingOrCreate hfirst).trans hstep).trans
    (step_identity hopen hcreator (.inl rfl))
  split at h
  · obtain ⟨db₄, huser, h⟩ := bind_eq_ok.1 h
    cases h
    rw [← creators_of_identity hopen] at hcreator
    exact hstep.trans (step_identity huser hcreator (.inl rfl))
  · cases h
    exact hstep

theorem step_ensureBothIds {conversation : ProviderConversation} {openId : String}
    {existing : Option Nat} {fresh id : Nat} {db db' : Db}
    (h : ensureBothIds conversation openId existing fresh db = .ok (id, db')) :
    Step none db db' := by
  unfold ensureBothIds at h
  obtain ⟨⟨id₁, db₁⟩, hfirst, h⟩ := bind_eq_ok.1 h
  obtain ⟨db₂, hupdate, h⟩ := bind_eq_ok.1 h
  obtain ⟨db₃, hopen, h⟩ := bind_eq_ok.1 h
  obtain ⟨db₄, him, h⟩ := bind_eq_ok.1 h
  cases h
  obtain ⟨hstep, hcreator⟩ := step_updateCreator hupdate
  have hopened := step_identity hopen hcreator (.inl rfl)
  rw [← creators_of_identity hopen] at hcreator
  exact (((step_existingOrCreate hfirst).trans hstep).trans hopened).trans
    (step_identity him hcreator (.inl rfl))

theorem step_updateOrCreate {conversation : ProviderConversation} {existing : Option Nat}
    {fresh id : Nat} {db db' : Db}
    (h : updateOrCreate conversation existing fresh db = .ok (id, db')) :
    Step none db db' ∧ (∃ creator, db'.creators.get id = some creator) ∧
      db'.identities = db.identities ∧
      (existing = some id ∨ existing = none ∧ db.creators.get id = none) := by
  unfold updateOrCreate at h
  cases existing with
  | some existingId =>
    obtain ⟨db₁, hupdate, h⟩ := bind_eq_ok.1 h
    cases h
    obtain ⟨hstep, hcreator⟩ := step_updateCreator hupdate
    obtain ⟨creator, _, _, hdb⟩ := updateCreator_eq_ok hupdate
    refine ⟨hstep, hcreator, ?_, .inl rfl⟩
    rw [hdb]
    rfl
  | none =>
    obtain ⟨db₁, hcreate, h⟩ := bind_eq_ok.1 h
    cases h
    obtain ⟨hnone, hfree, hdb⟩ := createCreator_eq_ok hcreate
    rw [hdb]
    have hcreated : ∀ creator : Creator, ∃ c, (db.setCreator fresh creator).creators.get fresh =
        some c := by
      intro creator
      unfold Db.setCreator
      simp
    exact ⟨step_setCreator hfree, hcreated _, rfl, .inr ⟨rfl, hnone⟩⟩

/-- Seen without its Open ID, a conversation that is not verified for its creator changes
no verified identity. -/
theorem step_ensureImOnly {conversation : ProviderConversation} {existing : Option Nat}
    {fresh id : Nat} {db db' : Db} (hdb : Constraints db)
    (h : ensureImOnly conversation existing fresh db = .ok (id, db'))
    (hother : ∀ creatorId, existing = some creatorId → ∀ row,
      db.identities.get (.TIKTOK_CREATOR_IM_ID, conversation.creatorImId) = some row →
      row.creatorId = creatorId → row.linkState ≠ .VERIFIED) : Step none db db' := by
  unfold ensureImOnly at h
  obtain ⟨⟨id₁, db₁⟩, hfirst, h⟩ := bind_eq_ok.1 h
  obtain ⟨db₂, hidentity, h⟩ := bind_eq_ok.1 h
  cases h
  obtain ⟨hstep, hcreator, hsame, hid⟩ := step_updateOrCreate hfirst
  have howner := (identity_eq_ok hidentity).1
  have hlast : Step none db₁ db₂ := by
    refine step_identity hidentity hcreator (.inr ?_)
    intro row hrow
    have hrowOwner := howner row hrow
    rw [hsame] at hrow
    rcases hid with hexisting | ⟨_, hnone⟩
    · exact hother id hexisting row hrow hrowOwner
    · -- a creator that did not exist owned no identity
      obtain ⟨creator, hget⟩ := hdb.owned _ row hrow
      rw [hrowOwner, hnone] at hget
      cases hget
  have hboth := hstep.trans hlast
  exact ⟨hboth.keeps, fun h => ⟨(hboth.constraints h).unique, (hboth.constraints h).owned⟩⟩

theorem step_ensureConversationCreator {conversation : ProviderConversation} {fresh id : Nat}
    {db db' : Db} (hdb : Constraints db)
    (hcall : (Call.ensureConversationCreator conversation fresh).reobserves db = false)
    (h : ensureConversationCreator conversation fresh db = .ok (id, db')) :
    Step ((Call.ensureConversationCreator conversation fresh).links db) db db' := by
  unfold ensureConversationCreator at h
  obtain ⟨_, hempty, h⟩ := bind_eq_ok.1 h
  rw [refuse_eq_ok] at hempty
  cases hopen : given conversation.creatorOpenId with
  | none =>
    simp only [hopen] at h
    refine (step_ensureImOnly hdb h ?_).mono
    intro creatorId hexisting row hrow howner hverified
    obtain ⟨creator, hcreator, rfl⟩ := Option.map_eq_some_iff.1 hexisting
    unfold Call.reobserves at hcall
    simp [hempty, hopen, hcreator, hrow, howner, hverified] at hcall
  | some openId =>
    simp only [hopen] at h
    obtain ⟨_, _, h⟩ := bind_eq_ok.1 h
    obtain ⟨_, _, h⟩ := bind_eq_ok.1 h
    cases him : db.creatorByImId conversation.creatorImId with
    | none =>
      simp only [him, Option.map_none] at h
      exact (step_ensureBothIds h).mono
    | some byIm =>
      cases hop : db.creatorByOpenId openId with
      | none =>
        simp only [him, hop, Option.map_some, Option.map_none] at h
        exact (step_ensureBothIds h).mono
      | some byOpen =>
        have hlinks : (Call.ensureConversationCreator conversation fresh).links db =
            some (byIm.1, byOpen.1) := by
          unfold Call.links
          simp [hopen, him, hop]
        simp only [him, hop, Option.map_some] at h
        split_ifs at h with hsame
        · exact (step_ensureBothIds h).mono
        · rw [hlinks]
          exact step_linkExactProviderIdentities h

/-- What a call does when it does not see a verified conversation again without its
Open ID. -/
theorem step_run {call : Call} {db : Db} (hdb : Constraints db)
    (hcall : call.reobserves db = false) : Step (call.links db) db (call.run db) := by
  cases hresult : call.tx db with
  | error e =>
    have hrun : call.run db = db := by
      unfold Call.run commit
      rw [hresult]
    rw [hrun]
    exact .refl
  | ok r =>
    have hrun : call.run db = r.2 := by
      unfold Call.run commit
      rw [hresult]
    rw [hrun]
    cases call with
    | ensureMarketplaceCreator candidate fresh =>
      exact (step_ensureMarketplaceCreator hresult).mono
    | linkExactProviderIdentities sourceId targetId evidence =>
      exact step_linkExactProviderIdentities hresult
    | ensureConversationCreator conversation fresh =>
      exact step_ensureConversationCreator hdb hcall hresult

/-! ## Runs -/

/-- No call of the sequence sees a verified conversation again without its Open ID. -/
def NeverReobserves (db : Db) (calls : List Call) : Prop :=
  ∀ before call after, calls = before ++ call :: after → call.reobserves (runs before db) = false

theorem NeverReobserves.head {db : Db} {call : Call} {calls : List Call}
    (h : NeverReobserves db (call :: calls)) : call.reobserves db = false :=
  h [] call calls rfl

theorem NeverReobserves.tail {db : Db} {call : Call} {calls : List Call}
    (h : NeverReobserves db (call :: calls)) : NeverReobserves (call.run db) calls := by
  intro before next after hcalls
  exact h (call :: before) next after (by rw [hcalls]; rfl)

theorem NeverReobserves.suffix {db : Db} {before calls : List Call}
    (h : NeverReobserves db (before ++ calls)) : NeverReobserves (runs before db) calls := by
  induction before generalizing db with
  | nil => exact h
  | cons call before ih => exact ih h.tail

theorem NeverReobserves.start {db : Db} {calls after : List Call}
    (h : NeverReobserves db (calls ++ after)) : NeverReobserves db calls := by
  intro before call rest hcalls
  exact h before call (rest ++ after) (by rw [hcalls]; simp)

theorem NeverReobserves.cons {db : Db} {call : Call} {calls : List Call}
    (hcall : call.reobserves db = false) (h : NeverReobserves (call.run db) calls) :
    NeverReobserves db (call :: calls) := by
  intro before next after hcalls
  cases before with
  | nil =>
    rw [List.nil_append, List.cons.injEq] at hcalls
    rw [← hcalls.1]
    exact hcall
  | cons first before =>
    rw [List.cons_append, List.cons.injEq] at hcalls
    rw [← hcalls.1]
    exact h before next after hcalls.2

/-- A run step by step, from `step_run`. -/
theorem keeps_runs {db : Db} {calls : List Call} (hdb : Constraints db)
    (h : NeverReobserves db calls) :
    Constraints (runs calls db) ∧
      ∀ key row, db.identities.get key = some row → row.linkState = .VERIFIED →
        ∃ row', (runs calls db).identities.get key = some row' ∧ row'.linkState = .VERIFIED ∧
          Moved db calls row.creatorId row'.creatorId := by
  induction calls generalizing db with
  | nil => exact ⟨hdb, fun key row hrow hverified => ⟨row, hrow, hverified, .here⟩⟩
  | cons call calls ih =>
    have hstep := step_run hdb h.head
    obtain ⟨hconstraints, hrest⟩ := ih (hstep.constraints hdb) h.tail
    refine ⟨hconstraints, ?_⟩
    intro key row hrow hverified
    obtain ⟨row₁, hrow₁, hverified₁, hmove⟩ := hstep.keeps key row hrow hverified
    obtain ⟨row', hrow', hverified', hmoved⟩ := hrest key row₁ hrow₁ hverified₁
    refine ⟨row', hrow', hverified', ?_⟩
    rcases hmove with hsame | hlink
    · rw [hsame] at hmoved
      exact .stays hmoved
    · exact .linked hlink hmoved

/-- The call that sees it again sets the identity back. -/
theorem unresolved_of_reobserves {call : Call} {db : Db} (hdb : Constraints db)
    (h : call.reobserves db = true) :
    ∃ key row row', db.identities.get key = some row ∧ row.linkState = .VERIFIED ∧
      (call.run db).identities.get key = some row' ∧ row'.linkState = .UNRESOLVED := by
  cases call with
  | ensureMarketplaceCreator candidate fresh => cases h
  | linkExactProviderIdentities sourceId targetId evidence => cases h
  | ensureConversationCreator conversation fresh =>
    unfold Call.reobserves at h
    rw [Bool.and_eq_true, Bool.and_eq_true, Bool.not_eq_true'] at h
    obtain ⟨⟨hempty, hopen⟩, h⟩ := h
    rw [Option.isNone_iff_eq_none] at hopen
    obtain ⟨⟨id, creator⟩, him, h⟩ := (Option.any_eq_true _ _).1 h
    obtain ⟨row, hrow, h⟩ := (Option.any_eq_true _ _).1 h
    rw [Bool.and_eq_true, decide_eq_true_eq, decide_eq_true_eq] at h
    obtain ⟨hverified, howner⟩ := h
    have hget := (of_creatorWith him).1
    -- the update of the profile changes no id, so it clashes with no creator
    have hfree : db.clashes id (conversation.profile creator) = false := by
      rw [not_clashes_iff]
      intro id' c' hget' hshares
      exact hdb.unique id creator id' c' hget hget' hshares
    have hrefuse : refuse conversation.creatorImId.isEmpty
        (.badRequest "Conversation creator_im_id is required") = .ok () :=
      refuse_eq_ok.2 hempty
    have hidentity : identity id .TIKTOK_CREATOR_IM_ID conversation.creatorImId .UNRESOLVED
        "CONVERSATION_IM_ONLY" (db.setCreator id (conversation.profile creator)) =
        .ok { db.setCreator id (conversation.profile creator) with
          identities := db.identities.set (.TIKTOK_CREATOR_IM_ID, conversation.creatorImId)
            ⟨id, .UNRESOLVED, "CONVERSATION_IM_ONLY"⟩ } := by
      unfold identity Db.setCreator
      refine bind_eq_ok.2 ⟨(), refuse_eq_ok.2 ?_, rfl⟩
      simp [hrow, howner]
    have hupdate : updateOrCreate conversation (some id) fresh db =
        .ok (id, db.setCreator id (conversation.profile creator)) :=
      bind_eq_ok.2 ⟨_, updateCreator_of_free hget hfree, rfl⟩
    have himOnly : ∃ db', ensureImOnly conversation (some id) fresh db = .ok (id, db') ∧
        db'.identities = db.identities.set (.TIKTOK_CREATOR_IM_ID, conversation.creatorImId)
          ⟨id, .UNRESOLVED, "CONVERSATION_IM_ONLY"⟩ := by
      unfold ensureImOnly
      exact ⟨_, bind_eq_ok.2 ⟨_, hupdate, bind_eq_ok.2 ⟨_, hidentity, rfl⟩⟩, rfl⟩
    obtain ⟨db', hok, hidentities⟩ := himOnly
    have htx : ensureConversationCreator conversation fresh db = .ok (id, db') := by
      unfold ensureConversationCreator
      simp only [hopen, him, Option.map_some]
      exact bind_eq_ok.2 ⟨(), hrefuse, hok⟩
    have hrun : (Call.ensureConversationCreator conversation fresh).run db = db' := by
      unfold Call.run commit Call.tx
      simp only [htx]
    refine ⟨_, row, ⟨id, .UNRESOLVED, "CONVERSATION_IM_ONLY"⟩, hrow, hverified, ?_, rfl⟩
    rw [hrun, hidentities]
    simp

theorem StaysVerified.tail {db : Db} {call : Call} {calls : List Call}
    (h : StaysVerified db (call :: calls)) : StaysVerified (call.run db) calls := by
  intro before during after hcalls
  exact h (call :: before) during after (by rw [hcalls]; rfl)

theorem StaysVerified.head {db : Db} {call : Call} {calls : List Call} (hdb : Constraints db)
    (h : StaysVerified db (call :: calls)) : call.reobserves db = false := by
  by_contra hcall
  rw [Bool.not_eq_false] at hcall
  obtain ⟨key, row, row', hrow, hverified, hrow', hunresolved⟩ := unresolved_of_reobserves hdb hcall
  obtain ⟨row'', hrow'', hverified'', _⟩ := h [] [call] calls rfl key row hrow hverified
  have hsame : (runs ([] ++ [call]) db).identities = (call.run db).identities := rfl
  rw [hsame, hrow', Option.some.injEq] at hrow''
  rw [← hrow'', hunresolved] at hverified''
  cases hverified''

/-- The verified identities stay verified exactly in the sequences without such a call. -/
theorem stays_verified_iff {db : Db} (hdb : Constraints db) (calls : List Call) :
    StaysVerified db calls ↔ NeverReobserves db calls := by
  constructor
  · intro h
    induction calls generalizing db with
    | nil =>
      intro before call after hcalls
      cases before <;> cases hcalls
    | cons call calls ih =>
      have hcall := h.head hdb
      exact .cons hcall (ih ((step_run hdb hcall).constraints hdb) h.tail)
  · intro h before during after hcalls key row hrow hverified
    rw [hcalls] at h
    have hbefore := h.start.start
    have hduring := h.start.suffix
    rw [runs_append]
    exact (keeps_runs (keeps_runs hdb hbefore).1 hduring).2 key row hrow hverified

/-- A conversation that shows both ids. -/
def bothIdsSeen : Call :=
  .ensureConversationCreator { creatorOpenId := some "open", creatorImId := "im" } 1

/-- The same conversation with its IM ID only. -/
def imIdSeen : Call := .ensureConversationCreator { creatorImId := "im" } 2

theorem linked_conversation_is_unresolved_again : ¬ StaysVerified {} [bothIdsSeen, imIdSeen] := by
  intro h
  have hbefore : (runs [bothIdsSeen] {}).identities.get (.TIKTOK_CREATOR_IM_ID, "im") =
      some ⟨1, .VERIFIED, "CONVERSATION_RETURNED_BOTH_IDENTIFIERS"⟩ := by decide
  have hafter : (runs [bothIdsSeen, imIdSeen] {}).identities.get (.TIKTOK_CREATOR_IM_ID, "im") =
      some ⟨1, .UNRESOLVED, "CONVERSATION_IM_ONLY"⟩ := by decide
  obtain ⟨row, hrow, hverified, _⟩ := h [bothIdsSeen] [imIdSeen] [] rfl _ _ hbefore rfl
  rw [List.singleton_append, hafter, Option.some.injEq] at hrow
  rw [← hrow] at hverified
  cases hverified

theorem constraints_empty : Constraints {} := by
  constructor
  · intro id c id' c' hget
    cases hget
  · intro key row hrow
    cases hrow

/-- Without the second call the two ids stay verified. -/
theorem stays_verified_after_link : StaysVerified {} [bothIdsSeen] := by
  refine (stays_verified_iff constraints_empty [bothIdsSeen]).2 ?_
  intro before call after hcalls
  cases before with
  | nil =>
    rw [List.nil_append, List.cons.injEq] at hcalls
    rw [← hcalls.1]
    decide
  | cons first before =>
    rw [List.cons_append, List.cons.injEq] at hcalls
    cases before <;> cases hcalls.2

end tiktok_outreach.verified_identities
