-- A message that was sent, as the read adapter decodes it when the provider
-- lists it (real-outbound.ts, real-read-only.ts). An unknown delivery is
-- found again by the hash of its text, so the text has to come back unchanged.
import TiktokOutreach.Lib.Json

namespace tiktok_outreach.sent_text

open json

/-! ## Sending -/

/-- The recipient's columns that `freeze` fills from the rendered message. -/
structure FrozenRecipient (Digest : Type) where
  frozenMessage : Text
  contentHash : Digest

/-- `sha256` stands for `createHash("sha256").update(text).digest("hex")`. -/
def freeze {Digest : Type} (sha256 : Text → Digest) (frozenMessage : Text) :
    FrozenRecipient Digest where
  frozenMessage := frozenMessage
  contentHash := sha256 frozenMessage

/-- The field is a JSON text of its own inside the body. -/
def contentField (content : Text) : Text := stringify (.obj [(units "content", .str content)])

/-- The body of the request of `sendMessage`. -/
def sendMessage (content : Text) : Json :=
  .obj [(units "msg_type", .str (units "TEXT")), (units "content", .str (contentField content))]

/-! ## Listing -/

def string : Option Json → Option Text
  | some (.str value) => if value.isEmpty then none else some value
  | _ => none

/-- The members of an object, `none` where `object` throws. -/
def object : Option Json → Option (List (Text × Json))
  | some (.obj members) => some members
  | _ => none

/-- What is inside the `try`, `none` where it throws. -/
def parsedContent (content : Text) : Option Text := do
  let parsed ← parse content
  let field ← property (units "content") parsed
  some ((string field).getD content)

/-- The content of one listed message. A text that is no JSON, or whose JSON has no
content, is taken as it is. -/
def listedContent (item : Json) : Option Text := do
  let wrapper ← object (some item)
  let body ← object (lookup (units "message_body") wrapper)
  let content := (string (lookup (units "content") body)).getD []
  some ((parsedContent content).getD content)

/-- The hash that the history processor stores with a listed message. -/
def importedHash {Digest : Type} (sha256 : Text → Digest) (item : Json) : Option Digest :=
  (listedContent item).map sha256

/-- The provider lists a message with the content field that it was sent. -/
def Echoes (item : Json) (request : Json) : Prop :=
  ∃ wrapper body fields, item = .obj wrapper ∧
    lookup (units "message_body") wrapper = some (.obj body) ∧
    request = .obj fields ∧
    lookup (units "content") body = lookup (units "content") fields

/-! ## The text comes back -/

theorem contentField_ne_nil (content : Text) : contentField content ≠ [] := by
  unfold contentField
  rw [stringify]
  simp

theorem string_str {value : Text} (h : value ≠ []) : string (some (.str value)) = some value := by
  unfold string
  simp [h]

theorem lookup_single (key : Text) (x : Json) : lookup key [(key, x)] = some x := by
  unfold lookup
  simp

theorem parsedContent_contentField {content : Text} (h : content ≠ []) :
    parsedContent (contentField content) = some content := by
  unfold parsedContent contentField
  rw [parse_stringify_single]
  simp only [Option.bind_eq_bind, Option.bind_some, property, lookup_single, string_str h,
    Option.getD_some]

theorem lookup_sendMessage {content : Text} {fields : List (Text × Json)}
    (h : sendMessage content = .obj fields) :
    lookup (units "content") fields = some (.str (contentField content)) := by
  unfold sendMessage at h
  rw [Json.obj.injEq] at h
  subst h
  unfold lookup
  simp

theorem listedContent_of_echoes {content : Text} {item : Json} (h : content ≠ [])
    (hecho : Echoes item (sendMessage content)) : listedContent item = some content := by
  obtain ⟨wrapper, body, fields, hitem, hbody, hrequest, hsame⟩ := hecho
  rw [lookup_sendMessage hrequest] at hsame
  unfold listedContent
  subst hitem
  simp only [object, hbody, hsame, string_str (contentField_ne_nil content),
    Option.bind_eq_bind, Option.bind_some, Option.getD_some, parsedContent_contentField h]

/-- The text that was sent is listed again, and the hash of the import is the hash
that the delivery was frozen with. -/
theorem sent_text_is_recognised {Digest : Type} (sha256 : Text → Digest) (message : Text)
    (hmessage : message ≠ []) (item : Json) (hecho : Echoes item (sendMessage message)) :
    listedContent item = some message ∧
      importedHash sha256 item = some (freeze sha256 message).contentHash := by
  have hlisted := listedContent_of_echoes hmessage hecho
  refine ⟨hlisted, ?_⟩
  unfold importedHash freeze
  rw [hlisted]
  simp

/-- A brace, a quotation mark, a backslash, a line feed, an emoji and half of a
surrogate pair. -/
theorem sent_text_is_recognised_with_escapes :
    ∃ item, listedContent item =
        some [openBrace, quotationMark, backslash, 0x0A, 0xD83D, 0xDE00, 0xD800] ∧
      importedHash List.length item = some 7 := by
  have hecho : Echoes
      (.obj [(units "message_body", sendMessage
        [openBrace, quotationMark, backslash, 0x0A, 0xD83D, 0xDE00, 0xD800])])
      (sendMessage [openBrace, quotationMark, backslash, 0x0A, 0xD83D, 0xDE00, 0xD800]) :=
    ⟨_, _, _, rfl, lookup_single _ _, rfl, rfl⟩
  have h := sent_text_is_recognised List.length
    [openBrace, quotationMark, backslash, 0x0A, 0xD83D, 0xDE00, 0xD800] (by decide) _ hecho
  exact ⟨_, h.1, h.2⟩

end tiktok_outreach.sent_text
