-- The identity of a row of an imported history (apps/api/src/history/history.service.ts): the key
-- by which a contact is found again in another file.
import TiktokOutreach.Lib.Separated
import TiktokOutreach.Lib.Texts

open separated texts

namespace tiktok_outreach.historical_identity

/-- The columns of a row that the import reads. A column that the file does not have is none. -/
structure CsvRow where
  externalSource : Option String := none
  sourceSystem : Option String := none
  provider : Option String := none
  externalMessageId : Option String := none
  sourceRecordId : Option String := none
  creatorOpenId : Option String := none
  conversationId : Option String := none
  contactedAt : Option String := none
  sendStatus : Option String := none
  campaignName : Option String := none
  messageBody : Option String := none
  username : Option String := none
  deriving DecidableEq, Repr

/-- Letter cases, dates and the hash of a text, which is written in hexadecimal digits. -/
structure Language where
  toLowerCase : String → String
  toUpperCase : String → String
  /-- The time of a date, when it is a valid one. -/
  parseDate : String → Option Int
  toISOString : Int → String
  sha256 : String → String
  sha256_hex : ∀ s, Free ':' (sha256 s)

/-! ## The code -/

/-- `a || b` for texts -/
def orElse (a b : Option String) : Option String := if a.getD "" = "" then b else a

/-- `value?.trim()`, where an empty text is as good as none. -/
def trimmed (value : Option String) : Option String :=
  match value.map trim with
  | none => none
  | some s => if s = "" then none else some s

/-- `s.replace(/\s+/g, "_")` -/
def underscores : List Char → List Char
  | [] => []
  | c :: rest =>
    if isWhitespace c then
      if (rest.head?.map isWhitespace).getD false then underscores rest else '_' :: underscores rest
    else c :: underscores rest

structure HistoricalIdentity where
  identityKey : String
  externalSource : String
  sourceRecordId : String
  deriving DecidableEq, Repr

section Code

variable (lang : Language)

/-- `new Date(row.contacted_at)`, which is no date when there is no column. -/
def contactedAt (row : CsvRow) : Option Int := row.contactedAt.bind lang.parseDate

def sendStatus (row : CsvRow) : String :=
  lang.toUpperCase ((orElse row.sendStatus (some "SENT")).getD "")

def normalizedSourceName (sourceName : String) : String :=
  let path := String.ofList ((trim sourceName).toList.map (fun c => if c = '\\' then '/' else c))
  let name := lang.toLowerCase (trim ((split '/' path).getLast?.getD ""))
  let name := String.ofList (underscores name.toList)
  if name = "" then "unnamed-csv" else name

def externalSource (sourceName : String) (row : CsvRow) : String :=
  lang.toLowerCase (trim ((orElse row.externalSource (orElse row.sourceSystem
    (orElse row.provider (some (normalizedSourceName lang sourceName))))).getD ""))

/-- The fields that are hashed when a row has no id. -/
def fallbackFields (row : CsvRow) : List String :=
  [(row.creatorOpenId.map trim).getD "", (row.conversationId.map trim).getD "",
    ((contactedAt lang row).map lang.toISOString).getD ((row.contactedAt.map trim).getD ""),
    sendStatus lang row, (row.campaignName.map trim).getD "", (row.messageBody.map trim).getD ""]

def fallback (row : CsvRow) : String := join "\x1f" (fallbackFields lang row)

def historicalIdentity (sourceName : String) (row : CsvRow) : HistoricalIdentity :=
  let source := externalSource lang sourceName row
  match trimmed row.externalMessageId, trimmed row.sourceRecordId with
  | some messageId, recordId =>
    ⟨"message:" ++ source ++ ":" ++ messageId, source, recordId.getD messageId⟩
  | none, some recordId => ⟨"source:" ++ source ++ ":" ++ recordId, source, recordId⟩
  | none, none =>
    let hash := lang.sha256 (fallback lang row)
    ⟨"fallback:" ++ source ++ ":" ++ hash, source, "fallback:" ++ String.ofList (hash.toList.take 20)⟩

end Code

/-! ## What a key stands for -/

/-- The kind of the identity, with all that it is made of. -/
inductive Identity
  | message (externalSource externalMessageId : String)
  | source (externalSource sourceRecordId : String)
  | fallback (externalSource : String) (fields : List String)
  deriving DecidableEq, Repr

section Keys

variable (lang : Language)

def identityOf (sourceName : String) (row : CsvRow) : Identity :=
  let source := externalSource lang sourceName row
  match trimmed row.externalMessageId, trimmed row.sourceRecordId with
  | some messageId, _ => .message source messageId
  | none, some recordId => .source source recordId
  | none, none => .fallback source (fallbackFields lang row)

def Identity.key : Identity → String
  | .message s messageId => "message:" ++ s ++ ":" ++ messageId
  | .source s recordId => "source:" ++ s ++ ":" ++ recordId
  | .fallback s fields => "fallback:" ++ s ++ ":" ++ lang.sha256 (join "\x1f" fields)

theorem historicalIdentity_key (sourceName : String) (row : CsvRow) :
    (historicalIdentity lang sourceName row).identityKey =
      (identityOf lang sourceName row).key lang := by
  unfold historicalIdentity identityOf
  cases trimmed row.externalMessageId with
  | some messageId => simp [Identity.key]
  | none =>
    cases trimmed row.sourceRecordId with
    | some recordId => simp [Identity.key]
    | none => simp [Identity.key, fallback]

/-- Two lists of texts that are the same pieces between the separators, but divided in another
way. -/
def Redivided (c : Char) (xs ys : List String) : Prop :=
  xs ≠ ys ∧ xs.flatMap (split c) = ys.flatMap (split c)

instance (c : Char) (xs ys : List String) : Decidable (Redivided c xs ys) :=
  inferInstanceAs (Decidable (_ ∧ _))

theorem pieces_eq_iff {c : Char} {xs ys : List String} :
    xs.flatMap (split c) = ys.flatMap (split c) ↔ xs = ys ∨ Redivided c xs ys := by
  unfold Redivided
  by_cases h : xs = ys
  · simp [h]
  · simp [h]

/-- Identities of one kind whose parts are divided in another way: the source and the id at a
colon, or the hashed fields of one source at the separator of units. -/
def Regrouped : Identity → Identity → Prop
  | .message s i, .message s' i' => Redivided ':' [s, i] [s', i']
  | .source s i, .source s' i' => Redivided ':' [s, i] [s', i']
  | .fallback s fields, .fallback s' fields' => s = s' ∧ Redivided '\x1f' fields fields'
  | _, _ => False

instance : (i i' : Identity) → Decidable (Regrouped i i')
  | .message .., .message .. => inferInstanceAs (Decidable (Redivided _ _ _))
  | .source .., .source .. => inferInstanceAs (Decidable (Redivided _ _ _))
  | .fallback .., .fallback .. => inferInstanceAs (Decidable (_ ∧ _))
  | .message .., .source .. => isFalse id
  | .message .., .fallback .. => isFalse id
  | .source .., .message .. => isFalse id
  | .source .., .fallback .. => isFalse id
  | .fallback .., .message .. => isFalse id
  | .fallback .., .source .. => isFalse id

variable {lang}

/-- The parts of a key behind its kind. -/
theorem key_parts {kind a b a' b' : String}
    (h : kind ++ a ++ ":" ++ b = kind ++ a' ++ ":" ++ b') :
    a.toList ++ ':' :: b.toList = a'.toList ++ ':' :: b'.toList := by
  have hlists := congrArg String.toList h
  simpa [List.append_assoc] using hlists

theorem pieces_of_parts {a b a' b' : String}
    (h : a.toList ++ ':' :: b.toList = a'.toList ++ ':' :: b'.toList) :
    [a, b].flatMap (split ':') = [a', b'].flatMap (split ':') := by
  have hjoin : join (String.singleton ':') [a, b] = join (String.singleton ':') [a', b'] := by
    rw [← String.toList_inj, toList_join, toList_join]
    simpa using h
  exact (join_eq_join_iff (by simp) (by simp)).1 hjoin

theorem parts_of_pieces {a b a' b' : String}
    (h : [a, b].flatMap (split ':') = [a', b'].flatMap (split ':')) :
    a ++ ":" ++ b = a' ++ ":" ++ b' := by
  have hjoin := (join_eq_join_iff (c := ':') (by simp) (by simp)).2 h
  rw [← String.toList_inj, toList_join, toList_join] at hjoin
  rw [← String.toList_inj]
  simpa using hjoin

/-- Two keys of one kind with a source and an id are equal when their pieces are. -/
theorem idKey_eq_iff {kind s i s' i' : String} :
    kind ++ s ++ ":" ++ i = kind ++ s' ++ ":" ++ i' ↔
      [s, i].flatMap (split ':') = [s', i'].flatMap (split ':') := by
  constructor
  · intro h
    exact pieces_of_parts (key_parts h)
  · intro h
    have hparts := parts_of_pieces h
    simp only [String.append_assoc] at hparts ⊢
    rw [hparts]

/-- A hash has no colon, so that it can be told from the source. -/
theorem fallbackKey_eq_iff {s s' : String} {fields fields' : List String}
    (hx : fields ≠ []) (hy : fields' ≠ [])
    (hcollision : lang.sha256 (join "\x1f" fields) = lang.sha256 (join "\x1f" fields') →
      join "\x1f" fields = join "\x1f" fields') :
    (Identity.fallback s fields).key lang = (Identity.fallback s' fields').key lang ↔
      s = s' ∧ fields.flatMap (split '\x1f') = fields'.flatMap (split '\x1f') := by
  have hjoin := join_eq_join_iff (c := '\x1f') hx hy
  constructor
  · intro h
    obtain ⟨hs, hhash⟩ := cut_last (lang.sha256_hex _) (lang.sha256_hex _) (key_parts h)
    exact ⟨String.toList_inj.1 hs, hjoin.1 (hcollision (String.toList_inj.1 hhash))⟩
  · rintro ⟨rfl, hpieces⟩
    have htext : join "\x1f" fields = join "\x1f" fields' := hjoin.2 hpieces
    simp only [Identity.key, htext]

/-- The texts that are hashed for two rows are the same if their hashes are. -/
def CollisionFree (lang : Language) (row row' : CsvRow) : Prop :=
  lang.sha256 (fallback lang row) = lang.sha256 (fallback lang row') →
    fallback lang row = fallback lang row'

/-- Identities of different kinds have different keys. -/
theorem ne_of_kinds {k k' a b a' b' : String} {c c' : Char} {l l' : List Char}
    (hk : k.toList = c :: l) (hk' : k'.toList = c' :: l') (hne : c ≠ c') :
    k ++ a ++ ":" ++ b ≠ k' ++ a' ++ ":" ++ b' := by
  intro h
  have hlists := congrArg String.toList h
  simp only [String.toList_append, hk, hk', List.cons_append, List.cons.injEq] at hlists
  exact hne hlists.1

/-- The fields of a fallback are six, and their hash collides with that of no other text. -/
def Hashed (lang : Language) : Identity → Identity → Prop
  | .fallback _ fields, .fallback _ fields' => fields ≠ [] ∧ fields' ≠ [] ∧
    (lang.sha256 (join "\x1f" fields) = lang.sha256 (join "\x1f" fields') →
      join "\x1f" fields = join "\x1f" fields')
  | _, _ => True

/-- Keys are equal for equal identities, and for those that are divided in another way. -/
theorem key_eq_iff {i i' : Identity} (h : Hashed lang i i') :
    i.key lang = i'.key lang ↔ i = i' ∨ Regrouped i i' := by
  have hm : "message:".toList = 'm' :: "essage:".toList := by decide
  have hs : "source:".toList = 's' :: "ource:".toList := by decide
  have hf : "fallback:".toList = 'f' :: "allback:".toList := by decide
  cases i with
  | message s m =>
    cases i' with
    | message s' m' =>
      simp only [Identity.key, idKey_eq_iff, pieces_eq_iff, Regrouped, Identity.message.injEq,
        List.cons.injEq, and_true]
    | source s' r' => simp [Identity.key, ne_of_kinds hm hs (by decide), Regrouped]
    | fallback s' fields' => simp [Identity.key, ne_of_kinds hm hf (by decide), Regrouped]
  | source s r =>
    cases i' with
    | message s' m' => simp [Identity.key, ne_of_kinds hs hm (by decide), Regrouped]
    | source s' r' =>
      simp only [Identity.key, idKey_eq_iff, pieces_eq_iff, Regrouped, Identity.source.injEq,
        List.cons.injEq, and_true]
    | fallback s' fields' => simp [Identity.key, ne_of_kinds hs hf (by decide), Regrouped]
  | fallback s fields =>
    cases i' with
    | message s' m' => simp [Identity.key, ne_of_kinds hf hm (by decide), Regrouped]
    | source s' r' => simp [Identity.key, ne_of_kinds hf hs (by decide), Regrouped]
    | fallback s' fields' =>
      obtain ⟨hx, hy, hcollision⟩ := h
      rw [fallbackKey_eq_iff hx hy hcollision, pieces_eq_iff]
      simp only [Identity.fallback.injEq, Regrouped, and_or_left]

/-- An identity is not divided in another way than itself. -/
theorem not_regrouped_self (i : Identity) : ¬ Regrouped i i := by
  cases i <;> simp [Regrouped, Redivided]

theorem hashed_of_rows {row row' : CsvRow} (hcollision : CollisionFree lang row row')
    (sourceName sourceName' : String) :
    Hashed lang (identityOf lang sourceName row) (identityOf lang sourceName' row') := by
  have hfields : ∀ row, fallbackFields lang row ≠ [] := by
    intro row
    simp [fallbackFields]
  unfold identityOf
  cases trimmed row.externalMessageId with
  | some m => trivial
  | none =>
    cases trimmed row.sourceRecordId with
    | some r => trivial
    | none =>
      cases trimmed row'.externalMessageId with
      | some m => trivial
      | none =>
        cases trimmed row'.sourceRecordId with
        | some r => trivial
        | none => exact ⟨hfields row, hfields row', hcollision⟩

/-- Two rows with one key have one identity, unless their identities are the same pieces that are
divided in another way. -/
theorem identity_keys_tell_rows_apart (sourceName sourceName' : String) {row row' : CsvRow}
    (hcollision : CollisionFree lang row row') :
    ((historicalIdentity lang sourceName row).identityKey =
        (historicalIdentity lang sourceName' row').identityKey →
      identityOf lang sourceName row = identityOf lang sourceName' row') ↔
    ¬ Regrouped (identityOf lang sourceName row) (identityOf lang sourceName' row') := by
  rw [historicalIdentity_key, historicalIdentity_key]
  rw [key_eq_iff (hashed_of_rows hcollision sourceName sourceName')]
  constructor
  · intro h hregrouped
    have hsame := h (.inr hregrouped)
    rw [hsame] at hregrouped
    exact not_regrouped_self _ hregrouped
  · intro hnot hkeys
    exact hkeys.resolve_right hnot

end Keys

/-! ## Samples -/

/-- The language for texts that have their letter case already, and for one text to hash. -/
def sampleLanguage : Language where
  toLowerCase := id
  toUpperCase := id
  parseDate := fun _ => none
  toISOString := fun _ => ""
  sha256 := fun s => if s = "\x1f\x1f\x1fSENT\x1f\x1f" then
    "fdc4212f05ebf30f6e72f0f4507732523b5eea54b72c337b5b225deec2709d8c" else ""
  sha256_hex := by
    intro s
    split <;> decide

def messageRow (externalSource externalMessageId : String) : CsvRow :=
  { externalSource := some externalSource, externalMessageId := some externalMessageId }

theorem messages_of_one_source_are_told_apart :
    ¬ Regrouped (identityOf sampleLanguage "a.csv" (messageRow "crm" "m-1"))
        (identityOf sampleLanguage "b.csv" (messageRow "crm" "m-2")) ∧
      (((historicalIdentity sampleLanguage "a.csv" (messageRow "crm" "m-1")).identityKey =
          (historicalIdentity sampleLanguage "b.csv" (messageRow "crm" "m-2")).identityKey →
        identityOf sampleLanguage "a.csv" (messageRow "crm" "m-1") =
          identityOf sampleLanguage "b.csv" (messageRow "crm" "m-2")) ↔
      ¬ Regrouped (identityOf sampleLanguage "a.csv" (messageRow "crm" "m-1"))
        (identityOf sampleLanguage "b.csv" (messageRow "crm" "m-2"))) := by
  have hcollision : CollisionFree sampleLanguage (messageRow "crm" "m-1")
      (messageRow "crm" "m-2") := fun _ => rfl
  have hfirst : identityOf sampleLanguage "a.csv" (messageRow "crm" "m-1") =
      .message "crm" "m-1" := by decide
  have hsecond : identityOf sampleLanguage "b.csv" (messageRow "crm" "m-2") =
      .message "crm" "m-2" := by decide
  refine ⟨?_, identity_keys_tell_rows_apart "a.csv" "b.csv" hcollision⟩
  rw [hfirst, hsecond]
  simp only [Regrouped, Redivided, not_and]
  intro _
  decide

/-- The colon of a source can be taken for that in front of the id. -/
theorem a_colon_in_a_source_collides :
    (historicalIdentity sampleLanguage "a.csv" (messageRow "a:b" "c")).identityKey =
        (historicalIdentity sampleLanguage "a.csv" (messageRow "a" "b:c")).identityKey ∧
      identityOf sampleLanguage "a.csv" (messageRow "a:b" "c") ≠
        identityOf sampleLanguage "a.csv" (messageRow "a" "b:c") := by
  decide

end tiktok_outreach.historical_identity
