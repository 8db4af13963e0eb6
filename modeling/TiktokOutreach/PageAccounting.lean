-- The accounts of a partition: its counters are the sums over its committed
-- receipts, each of which counts once, and its cursor stands behind the last
-- one, whatever workers were lost or taken over in between.
import TiktokOutreach.ClaimCandidates
import TiktokOutreach.CommandFrames
import TiktokOutreach.CreatorKnowledge
import TiktokOutreach.Lib.Plays

open tables transactions runs executions tiktok_outreach.creator_schema
  tiktok_outreach.marketplace_partitions tiktok_outreach.creator_scheduler
  tiktok_outreach.adaptive_queue tiktok_outreach.partition_claims tiktok_outreach.creator_sync
  tiktok_outreach.creator_commands tiktok_outreach.creator_worker tiktok_outreach.queue_growth
  tiktok_outreach.creator_effects tiktok_outreach.command_effects
  tiktok_outreach.command_frames tiktok_outreach.creator_protocol
  tiktok_outreach.claim_candidates tiktok_outreach.creator_knowledge

namespace tiktok_outreach.page_accounting

/-! ## Accounts -/

def committedOf (id : Nat) (page : CreatorSyncPage) : Bool :=
  page.state = .COMMITTED && page.creatorSearchPartitionId = id

/-- The committed receipts of a partition. -/
def committed (db : Db) (id : Nat) : List (Nat × CreatorSyncPage) :=
  db.pages.findMany (fun _ page => committedOf id page)

/-- A column of the committed receipts of a partition. -/
def column {β : Type} (db : Db) (id : Nat) (f : CreatorSyncPage → β) : List β :=
  (committed db id).map (fun row => f row.2)

/-- The key of the receipt of the next request. -/
def requestKey (row : Row) : String :=
  receiptRequestKey row.1 (row.2.privateNextPageToken.getD "FIRST")

/-- The cursor that a page leads to. -/
def cursorBehind (page : CreatorSyncPage) : Option String :=
  if page.providerHasMore then page.privateNextToken else none

/-- A receipt is that of the first page of its partition, or was asked for with the cursor of the
page before it. -/
def Chained (db : Db) (id : Nat) (page : CreatorSyncPage) : Prop :=
  (page.pageNumber = 1 ∧ page.privateRequestToken = receiptRequestKey id "FIRST") ∨
  ∃ i before, db.pages.get i = some before ∧ committedOf id before = true ∧
    page.pageNumber = before.pageNumber + 1 ∧
    page.privateRequestToken = receiptRequestKey id ((cursorBehind before).getD "FIRST")

/-- The partition counts its committed receipts, each once, and stands behind the last one. -/
structure Accounted (db : Db) (id : Nat) (p : CreatorSearchPartition) : Prop where
  /-- The committed receipts have the numbers of the pages, each once. -/
  numbers : (column db id (·.pageNumber)).Perm (List.range' 1 p.pagesCompleted)
  rows : p.rowsReturned = (column db id (·.creatorsReturned)).sum
  unique : p.uniqueCreatorsAdded = (column db id (·.newUniqueCreators)).sum
  duplicates : p.duplicates = (column db id (·.duplicateRows)).sum
  balanced : p.rowsReturned = p.uniqueCreatorsAdded + p.duplicates
  first : p.pagesCompleted = 0 → p.privateNextPageToken = none
  last : ∀ i page, db.pages.get i = some page → committedOf id page = true →
    page.pageNumber = p.pagesCompleted → p.privateNextPageToken = cursorBehind page
  /-- No page was left out. -/
  chain : ∀ i page, db.pages.get i = some page → committedOf id page = true → Chained db id page
  /-- A receipt that waits is that of the next page. -/
  next : ∀ i page, db.pages.get i = some page → page.state = .RECEIVED →
    page.creatorSearchPartitionId = id →
    page.pageNumber = p.pagesCompleted + 1 ∧ page.privateRequestToken = requestKey (id, p)

structure Ledger (db : Db) : Prop where
  ids : FreshIds db
  pageIds : ∀ i page, db.pages.get i = some page → i < db.nextPageId
  keys : ∀ i j a b, db.pages.get i = some a → db.pages.get j = some b →
    a.privateRequestToken = b.privateRequestToken → i = j
  stored : ∀ i page, db.pages.get i = some page →
    ∃ p, db.partitions.get page.creatorSearchPartitionId = some p
  balanced : ∀ i page, db.pages.get i = some page →
    page.creatorsReturned = page.newUniqueCreators + page.duplicateRows
  accounted : ∀ id p, db.partitions.get id = some p → Accounted db id p

/-! ## Steps that count nothing -/

/-- The cursor and the counters of a partition. -/
def counts (p : CreatorSearchPartition) : Option String × Nat × Nat × Nat × Nat :=
  (p.privateNextPageToken, p.pagesCompleted, p.rowsReturned, p.uniqueCreatorsAdded, p.duplicates)

/-- Old partitions keep their counters, and new ones have none. -/
structure CountsKept (db db' : Db) : Prop where
  ids : FreshIds db → FreshIds db'
  old : FreshIds db → ∀ id p, db.partitions.get id = some p →
    ∃ q, db'.partitions.get id = some q ∧ counts q = counts p
  new : FreshIds db → ∀ id q, db'.partitions.get id = some q →
    (∃ p, db.partitions.get id = some p) ∨ counts q = (none, 0, 0, 0, 0)

section Kept

variable {env : Environment} {config : Config} {ambient : Ambient} {db db' db'' : Db} {id i : Nat}
  {p q : CreatorSearchPartition} {page : CreatorSyncPage}

theorem CountsKept.trans (h : CountsKept db db') (h' : CountsKept db' db'') :
    CountsKept db db'' where
  ids hids := h'.ids (h.ids hids)
  old hids id p hp := by
    obtain ⟨q, hq, hsame⟩ := h.old hids id p hp
    obtain ⟨r, hr, hsame'⟩ := h'.old (h.ids hids) id q hq
    exact ⟨r, hr, hsame'.trans hsame⟩
  new hids id r hr := by
    rcases h'.new (h.ids hids) id r hr with ⟨q, hq⟩ | hnew
    · rcases h.new hids id q hq with hold | hnew
      · exact .inl hold
      · obtain ⟨r', hr', hsame⟩ := h'.old (h.ids hids) id q hq
        rw [hr, Option.some.injEq] at hr'
        subst hr'
        exact .inr (hsame.trans hnew)
    · exact .inr hnew

end Kept

/-! ## Steps -/

section Ledger

variable {env : Environment} {config : Config} {ambient : Ambient} {db db' : Db} {id i pageId : Nat}
  {p q : CreatorSearchPartition} {page receipt : CreatorSyncPage}

/-- The partition stands where the row was read, or the page behind the row has a receipt. -/
def StandsAt (db : Db) (row : Row) : Prop :=
  ∃ p, db.partitions.get row.1 = some p ∧
    ((∃ i page, db.pages.get i = some page ∧ page.privateRequestToken = requestKey row) ∨
      (p.privateNextPageToken = row.2.privateNextPageToken ∧
        p.pagesCompleted = row.2.pagesCompleted))

theorem standsAt_stored (hp : db.partitions.get id = some p) : StandsAt db (id, p) :=
  ⟨p, hp, .inr ⟨rfl, rfl⟩⟩

end Ledger

/-! ## The commit of a page -/

section Commit

variable {env : Environment} {config : Config} {ambient : Ambient} {db db' : Db} {id i pageId : Nat}
  {p q : CreatorSearchPartition} {page receipt : CreatorSyncPage}

/-- What a commit does to the cursor and the counters. -/
def counted (page : CreatorSyncPage) (p : CreatorSearchPartition) :
    Option String × Nat × Nat × Nat × Nat :=
  (cursorBehind page, p.pagesCompleted + 1, p.rowsReturned + page.creatorsReturned,
    p.uniqueCreatorsAdded + page.newUniqueCreators, p.duplicates + page.duplicateRows)

end Commit

/-! ## What the threads know -/

/-- A receipt that was read waits as long as the lease of the reader holds. -/
def Awaits (db : Db) (phase : Phase) (id : Nat) (page : CreatorSyncPage) : Prop :=
  match phase with
  | .worker leaseId => db.job.leaseId = some leaseId →
    page.state = .RECEIVED ∧ (db.pages.get id).map sealedPage = some (sealedPage page)
  | .spent _ => True
  | .out | .drawn _ => False

def Meant (db : Db) (phase : Phase) : (c : Command) → c.Result → Prop
  | .claimPartition _, (r : Option Claim) => ∀ claim ∈ r, StandsAt db claim.row
  | .findPartition id, (p : CreatorSearchPartition) => StandsAt db (id, p)
  | .receivedPage id, (page : CreatorSyncPage) => Awaits db phase id page
  | _, _ => True

section Knowledge

variable {env : Environment} {config : Config} {ambient : Ambient} {db db' : Db} {c : Command}
  {r : Role} {phase phase' : Phase}

/-- What a command answers is so in the database behind it. -/
theorem meant_answer {a : c.Result} (h : Ledger db) (hok : okCommand r c)
    (heffect : Effect env config ambient db c a db') :
    Meant db' (afterCommand r.phase c) c a := by
  cases c with
  | claimPartition leaseId =>
    intro claim hclaim
    have hclaims : Claims env config leaseId ambient.now db a db' := heffect
    cases hclaims with
    | current db1 hexpand hlease id p hid hp =>
      cases hclaim
      exact standsAt_stored hp
    | exhausted => cases hclaim
    | started db1 hexpand hlease hnot selection hselection next hnext =>
      cases hclaim
      obtain ⟨hp, -⟩ := of_selectPartition hselection hnext
      -- a claim changes neither the cursor nor the counters
      have hstarted : (db1.partitions.updateMany
          (fun id p => id = next.id && p.status = claimableStatus next.candidate)
          (startedPartition env selection.slot (db.job.partitionClaimSequence + 1) ambient.now
            next.candidate)).get next.id = _ := Table.get_updateMany _ _ _ _
      rw [hp, Option.map_some] at hstarted
      refine ⟨_, hstarted, .inr ?_⟩
      split
      · exact ⟨rfl, rfl⟩
      · exact ⟨rfl, rfl⟩
  | findPartition id =>
    obtain ⟨hp, rfl⟩ := heffect
    exact standsAt_stored hp
  | receivedPage id =>
    obtain ⟨hpage, hreceived, rfl⟩ := heffect
    obtain ⟨leaseId, hholds⟩ := hok.2.1 rfl
    have hafter : afterCommand r.phase (.receivedPage id) = r.phase := rfl
    rw [hafter]
    cases hphase : r.phase with
    | out =>
      rw [hphase] at hholds
      cases hholds
    | drawn leaseId' =>
      rw [hphase] at hholds
      cases hholds
    | spent leaseId' => trivial
    | worker leaseId' => exact fun _ => ⟨hreceived, by rw [hpage]; rfl⟩
  | _ => trivial

end Knowledge

/-! ## A sample -/

def sampleEnvironment : Environment := ⟨fun _ => 0, fun _ => 1⟩

/-- A category with one child. -/
def sampleCategories : List TikTokShopCategory := [⟨"100", "0"⟩, ⟨"101", "100"⟩]

/-- The database answers for itself, and the Marketplace has these categories. -/
def player : Player World Call Call.Answer Unit
  | _, w, .db c, _ => match (c.body sampleEnvironment Config.defaults ⟨0, 0⟩).run w.db with
    | .ok (r, db) => some (.ok r, { w with db })
    | .error e => some (.error e, w)
  | _, w, .getCategories, _ => some (.ok sampleCategories, w)
  | _, _, _, _ => none

theorem player_sound : player.Sound (machine sampleEnvironment Config.defaults) := by
  intro i w c m answer w' h
  cases c with
  | db c =>
    simp only [player] at h
    split at h
    · rename_i r db hrun
      cases h
      exact .commit w c ⟨0, 0⟩ r db hrun
    · cases h
      exact .failed w c _
  | getCategories =>
    cases h
    exact .other w _ _ rfl
  | _ => cases h

/-- The refresh of the categories, up to the insert of the partitions. -/
def sampleTurns : List (Turn Call Call.Answer Unit) :=
  .spawn 0 Job.refreshCategories.thread :: (List.replicate 6 (.run 0 ()) ++ [])

section Main

variable {env : Environment} {config : Config} {allowed : Job → Bool}
  {pool : Pool World Call Call.Answer} {ls : List (Label Call Call.Answer)}

end Main

end tiktok_outreach.page_accounting
