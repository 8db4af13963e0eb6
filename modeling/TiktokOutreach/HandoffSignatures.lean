-- What the signature of a handoff binds: it is accepted again for the message
-- that was signed only, while its time is near.
import TiktokOutreach.CanonicalBodies

open json tiktok_outreach.oauth_handoff tiktok_outreach.canonical_bodies

namespace tiktok_outreach.handoff_signatures

/-- A function does not take two texts to one. -/
def Apart (f : Text → Text) (a b : Text) : Prop := f a = f b → a = b

/-- The list of texts that is signed. -/
def message (crypto : Crypto) (path timestamp nonce : Text) (body : Json) : Json :=
  .arr ([units "OUTREACH_PRIVATE_HANDOFF_V1", units "POST", path, timestamp, nonce,
    crypto.digest (canonicalBody body)].map .str)

/-- `/^\d{10}$/` -/
def TenDigits (timestamp : Text) : Prop := timestamp.length = 10 ∧ timestamp.all isDigit = true

section Messages

variable {crypto : Crypto} {key path path' time time' nonce nonce' : Text} {body body' : Json}

theorem signature_eq : signature crypto key path time nonce body =
    if !isDigest key then none
    else some (crypto.hmac key (canonicalBody (message crypto path time nonce body))) := rfl

theorem wellFormed_message : WellFormed (message crypto path time nonce body) := by
  simp [message, WellFormed, WellFormedElements]

/-- A signed text has one path, one time, one nonce and one digest. -/
theorem message_inj (h : canonicalBody (message crypto path time nonce body) =
      canonicalBody (message crypto path' time' nonce' body')) :
    path = path' ∧ time = time' ∧ nonce = nonce' ∧
      crypto.digest (canonicalBody body) = crypto.digest (canonicalBody body') := by
  rw [canonicalBody_eq_iff wellFormed_message wellFormed_message] at h
  simpa [message, Same, SameElements] using h

end Messages

/-! ## Times -/

/-- The number that the digits of a number say. -/
theorem foldl_digits (n : Nat) : ((Nat.toDigits 10 n).map (fun c => UInt16.ofNat c.toNat)).foldl
    (fun (m : Int) c => 10 * m + ((c.toNat : Int) - 0x30)) 0 = n := by
  induction n using Nat.strong_induction_on with
  | _ n ih =>
    by_cases hsmall : n < 10
    · rw [Nat.toDigits_of_lt_base hsmall]
      interval_cases n <;> rfl
    · rw [Nat.toDigits_of_base_le (by decide) (by omega), List.map_append, List.foldl_append,
        ih (n / 10) (by omega)]
      have hdigit : ∀ d < 10, ((UInt16.ofNat (Nat.digitChar d).toNat).toNat : Int) - 0x30 = d := by
        decide
      have hlast := hdigit (n % 10) (Nat.mod_lt _ (by decide))
      simp only [List.map_cons, List.map_nil, List.foldl_cons, List.foldl_nil, hlast]
      omega

/-- The seconds of a time with ten digits are those of the clock that it was made from. -/
theorem secondsOf_timestampOf {now : Int} (h : TenDigits (timestampOf now)) :
    secondsOf (timestampOf now) = now / 1000 := by
  unfold TenDigits timestampOf at h
  unfold timestampOf secondsOf
  cases hnow : now / 1000 with
  | ofNat n =>
    have htext : toString (Int.ofNat n) = n.repr := rfl
    rw [htext, units, Nat.toList_repr, foldl_digits]
    rfl
  | negSucc n =>
    -- the sign of a negative number is no digit
    have htext : toString (Int.negSucc n) = "-" ++ (n + 1).repr := rfl
    rw [hnow, htext] at h
    simp [units, isDigit] at h

/-! ## What is accepted -/

section Accepted

variable {crypto : Crypto} {key path path' time' nonce nonce' mac : Text} {body body' : Json}
  {now now' : Int} {headers headers' : Headers}

theorem signHandoff_eq (hkey : isDigest key = true) :
    signHandoff crypto key path body now nonce = some ⟨timestampOf now, nonce,
      crypto.hmac key (canonicalBody (message crypto path (timestampOf now) nonce body))⟩ := by
  unfold signHandoff
  rw [signature_eq, hkey]
  rfl

theorem of_signHandoff (h : signHandoff crypto key path body now nonce = some headers) :
    isDigest key = true ∧ headers = ⟨timestampOf now, nonce,
      crypto.hmac key (canonicalBody (message crypto path (timestampOf now) nonce body))⟩ := by
  cases hkey : isDigest key with
  | false =>
    unfold signHandoff at h
    rw [signature_eq] at h
    simp [hkey] at h
  | true =>
    rw [signHandoff_eq hkey, Option.some.injEq] at h
    exact ⟨rfl, h.symm⟩

theorem verifyHandoff_isSome_iff :
    (verifyHandoff crypto key path body headers now).isSome ↔
      TenDigits headers.time ∧ isOpaque headers.nonce = true ∧
      |now - secondsOf headers.time * 1000| ≤ 60000 ∧ (canonicalBody body).length ≤ 12000 ∧
      isDigest headers.signature = true ∧
      signature crypto key path headers.time headers.nonce body = some headers.signature := by
  unfold verifyHandoff TenDigits
  split
  · next h =>
    simp only [Option.isSome_none, Bool.false_eq_true, false_iff]
    simp only [Bool.or_eq_true, Bool.not_eq_true', Bool.and_eq_false_iff, decide_eq_true_eq,
      decide_eq_false_iff_not] at h
    rintro ⟨⟨hlength, hdigits⟩, hnonce, hclock, hbody, hmac, hsignature⟩
    rcases h with ((((h | h) | h) | h) | h) | h
    · rcases h with h | h
      · exact h hlength
      · rw [hdigits] at h
        cases h
    · rw [hnonce] at h
      cases h
    · omega
    · omega
    · rw [hmac] at h
      cases h
    · exact h hsignature
  · next h =>
    simp only [Option.isSome_some, true_iff]
    simpa [and_assoc] using h

/-- A signature that was made for one message is accepted for another one exactly when this is the
same but for the order of members, and is near, short and well formed. -/
theorem verify_signed (hform : ∀ key text, isDigest (crypto.hmac key text) = true)
    (hbody : WellFormed body) (hbody' : WellFormed body')
    (hsigned : signHandoff crypto key path body now nonce = some headers)
    (hhmac : Apart (crypto.hmac key) (canonicalBody (message crypto path' time' nonce' body'))
      (canonicalBody (message crypto path headers.time headers.nonce body)))
    (hdigest : Apart crypto.digest (canonicalBody body') (canonicalBody body)) :
    (verifyHandoff crypto key path' body' ⟨time', nonce', headers.signature⟩ now').isSome ↔
      path' = path ∧ time' = headers.time ∧ nonce' = headers.nonce ∧ Same body' body ∧
      |now' - now / 1000 * 1000| ≤ 60000 ∧
      (canonicalBody body).length ≤ 12000 ∧ TenDigits headers.time ∧ isOpaque headers.nonce := by
  obtain ⟨hkey, rfl⟩ := of_signHandoff hsigned
  rw [verifyHandoff_isSome_iff, signature_eq, hkey]
  simp only [Bool.not_true, Bool.false_eq_true, if_false, Option.some.injEq, hform, true_and]
  constructor
  · rintro ⟨htime, hnonce, hclock, hlength, hmac⟩
    obtain ⟨hpath, htimes, hnonces, hdigests⟩ := message_inj (hhmac hmac)
    have htext := hdigest hdigests
    subst hpath htimes hnonces
    rw [secondsOf_timestampOf htime] at hclock
    rw [htext] at hlength
    exact ⟨rfl, rfl, rfl, (canonicalBody_eq_iff hbody' hbody).1 htext, hclock, hlength, htime,
      hnonce⟩
  · rintro ⟨rfl, rfl, rfl, hsame, hclock, hlength, htime, hnonce⟩
    have htext := (canonicalBody_eq_iff hbody' hbody).2 hsame
    refine ⟨htime, hnonce, ?_, ?_, ?_⟩
    · rw [secondsOf_timestampOf htime]
      exact hclock
    · rwa [htext]
    · unfold message
      rw [htext]

end Accepted

/-- Canonical texts are those of the values up to the order of members, and so the signature of a
handoff that is not too long binds its path, its time, its nonce and its body. -/
theorem handoff_signatures_bind (crypto : Crypto)
    (hform : ∀ key text, isDigest (crypto.hmac key text) = true) :
    (∀ a b, WellFormed a → WellFormed b → (canonicalBody a = canonicalBody b ↔ Same a b)) ∧
    ∀ key path nonce body now headers path' time' nonce' body' now',
      WellFormed body → WellFormed body' →
      signHandoff crypto key path body now nonce = some headers →
      Apart (crypto.hmac key) (canonicalBody (message crypto path' time' nonce' body'))
        (canonicalBody (message crypto path headers.time headers.nonce body)) →
      Apart crypto.digest (canonicalBody body') (canonicalBody body) →
      ((verifyHandoff crypto key path' body' ⟨time', nonce', headers.signature⟩ now').isSome ↔
        path' = path ∧ time' = headers.time ∧ nonce' = headers.nonce ∧ Same body' body ∧
        |now' - now / 1000 * 1000| ≤ 60000 ∧
        (canonicalBody body).length ≤ 12000 ∧ TenDigits headers.time ∧ isOpaque headers.nonce) := by
  constructor
  · intro a b ha hb
    exact canonicalBody_eq_iff ha hb
  · intro key path nonce body now headers path' time' nonce' body' now' hbody hbody' hsigned hhmac
      hdigest
    exact verify_signed hform hbody hbody' hsigned hhmac hdigest

/-! ## Samples -/

/-- The functions on the texts of one handoff, whose body has the digest and whose list is signed. -/
def sampleCrypto (bodyText bodyDigest mac : Text) : Crypto where
  digest text := if text = bodyText then bodyDigest else
    units "0f007385b6f9d4b7eeb2748605afe1a984a0a3bfa3f014d09e2a784ce9e5cd1a"
  hmac _ _ := mac

def sampleKey : Text := List.replicate 64 0x61

def sampleNonce : Text := List.replicate 43 0x41

def samplePath : Text := units "/api/v1/integrations/tiktok/private-completion"

/-- The digest and the signature of an empty object. -/
def emptyCrypto : Crypto :=
  sampleCrypto (units "\x7b\x7d")
    (units "44136fa355b3678a1146ad16f7e8649e94fb4fc21fe77e8310c060f61caaff8a")
    (units "decde9bc41c4a54eddddb8fca7090ad4f491036afd0b6b78c80b5f1bf3d3808e")

theorem a_handoff_is_accepted_half_a_minute_later : ∃ headers,
    signHandoff emptyCrypto sampleKey samplePath (.obj []) 1700000000000 sampleNonce = some headers ∧
    (verifyHandoff emptyCrypto sampleKey samplePath (.obj []) headers 1700000030000).isSome := by
  have hform : ∀ key text, isDigest (emptyCrypto.hmac key text) = true := by
    intro key text
    show isDigest (units "decde9bc41c4a54eddddb8fca7090ad4f491036afd0b6b78c80b5f1bf3d3808e") = true
    decide
  have hbody : WellFormed (.obj []) := by simp [WellFormed, WellFormedMembers]
  have hkey : isDigest sampleKey = true := by decide
  have hsigned := @signHandoff_eq emptyCrypto sampleKey samplePath sampleNonce (.obj []) 1700000000000
    hkey
  have hbinds := (handoff_signatures_bind emptyCrypto hform).2 _ _ _ _ _ _ samplePath
    (timestampOf 1700000000000) sampleNonce (.obj []) 1700000030000 hbody hbody hsigned
    (fun _ => rfl) (fun _ => rfl)
  refine ⟨_, hsigned, hbinds.2 ⟨rfl, rfl, rfl, same_refl _, by decide, ?_, ?_, ?_⟩⟩
  · simp [canonicalBody, canonicalPairs, canonicalMembers]
  · unfold TenDigits timestampOf
    decide
  · show isOpaque sampleNonce = true
    decide

/-! ## A body that is too long -/

theorem one_le_quoteUnit (c : UInt16) : 1 ≤ (quoteUnit c).length := by
  unfold quoteUnit
  split
  · simp
  · split <;> simp [unicodeEscape]

theorem length_le_quoteBody (s : Text) : s.length ≤ (quoteBody s).length := by
  induction s using quoteBody.induct with
  | case1 => simp [quoteBody]
  | case2 c =>
    have hunit := one_le_quoteUnit c
    simpa [quoteBody] using hunit
  | case3 c d s hpair ih =>
    rw [quoteBody, if_pos hpair]
    simpa using ih
  | case4 c d s hpair ih =>
    have hunit := one_le_quoteUnit c
    rw [quoteBody, if_neg hpair, List.length_append, List.length_cons]
    omega

/-- A body of one code. -/
def codeBody (code : Text) : Json := .obj [(units "code", .str code)]

theorem wellFormed_codeBody (code : Text) : WellFormed (codeBody code) := by
  simp [codeBody, WellFormed, WellFormedMembers]

theorem length_le_codeBody (code : Text) : code.length ≤ (canonicalBody (codeBody code)).length := by
  have hquote := length_le_quoteBody code
  simp only [codeBody, canonicalBody, canonicalPairs, List.insertionSort_cons,
    List.insertionSort_nil, List.orderedInsert, canonicalMembers, stringify, quote,
    List.length_cons, List.length_append]
  omega

def longBody : Json := codeBody (List.replicate 12001 0x78)

/-- The digest and the signature of the long body. -/
def longCrypto : Crypto :=
  sampleCrypto (canonicalBody longBody)
    (units "b9191332e4c3428fbbc9c241473d020331aa6845e5a6644897c3763a25543670")
    (units "6884e70b72dc01486be929cd92e5c1eb571996bfc0ae9b7eb35c685d93ec012b")

/-- The handoff of a long body is refused in the moment in which it is signed. -/
theorem a_long_body_is_refused : ∃ headers,
    signHandoff longCrypto sampleKey samplePath longBody 1700000000000 sampleNonce = some headers ∧
    WellFormed longBody ∧ Same longBody longBody ∧
    |(1700000000000 : Int) - 1700000000000 / 1000 * 1000| ≤ 60000 ∧
    (verifyHandoff longCrypto sampleKey samplePath longBody headers 1700000000000).isSome = false := by
  have hkey : isDigest sampleKey = true := by decide
  have hlong : 12001 ≤ (canonicalBody longBody).length := by
    have hcode := length_le_codeBody (List.replicate 12001 0x78)
    rwa [List.length_replicate] at hcode
  refine ⟨_, signHandoff_eq hkey, wellFormed_codeBody _, same_refl _, by decide, ?_⟩
  rw [← Bool.not_eq_true, verifyHandoff_isSome_iff]
  rintro ⟨-, -, -, hlength, -⟩
  omega

end tiktok_outreach.handoff_signatures
