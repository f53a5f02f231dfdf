import MailMerge.Mail.Json
import MailMerge.Proofs.CustomTags
/-!
The one text of an image. Reading base64 takes no text but that of some bytes, so wherever an image
is given as text, its bytes say how that text was written: up to white space around it where the
value of a tag is read, and to the character in the JSON of a mail.
-/

set_option autoImplicit false

namespace MailMerge

namespace TagValue

theorem readImage?_eq_some {s : String} {bytes : List UInt8} :
    readImage? s = some bytes ↔ bytes ≠ [] ∧ s = Base64.encodeText bytes := by
  have decoded : (Base64.decodeText s).toOption = some bytes ↔ s = Base64.encodeText bytes := by
    rw [← Base64.decodeText_eq_ok]
    cases Base64.decodeText s <;> simp [Except.toOption]
  rw [readImage?, Option.filter_eq_some_iff, decoded, and_comm]
  simp

/-- A text stands for an image exactly if it is the text of some bytes, with white space around. -/
theorem parse_image_eq_ok {raw : String} {v : TagValue} :
    parse raw .image = .ok v ↔
      ∃ bytes, bytes ≠ [] ∧ Text.trimmed raw = Base64.encodeText bytes ∧ v = .image bytes := by
  rw [parse_eq_ok, ofText?, Option.map_eq_some_iff]
  constructor
  · rintro ⟨bytes, read, rfl⟩
    obtain ⟨some, spelled⟩ := readImage?_eq_some.mp read
    exact ⟨bytes, some, spelled, rfl⟩
  · rintro ⟨bytes, some, spelled, rfl⟩
    exact ⟨bytes, readImage?_eq_some.mpr ⟨some, spelled⟩, rfl⟩

theorem text_of_parse_image {raw : String} {v : TagValue} (found : parse raw .image = .ok v) :
    v.text = Text.trimmed raw := by
  obtain ⟨bytes, -, spelled, rfl⟩ := parse_image_eq_ok.mp found
  exact spelled.symm

end TagValue

namespace CustomTag

variable {c : CustomTag} {raw : String}

theorem text_withTag_image {tag : MergeTag} (image : tag.type = .image)
    (made : withTag tag raw = .ok c) : c.text = Text.trimmed raw := by
  have found := (withTag_eq_ok made).2
  rw [image] at found
  exact TagValue.text_of_parse_image (TagValue.parse_eq_ok.mpr found)

theorem text_ofString_image {name : String} (made : ofString name .image raw = .ok c) :
    c.text = Text.trimmed raw := by
  obtain ⟨tag, declared, made⟩ := bind_eq_ok.mp made
  exact text_withTag_image (type_of_ofName declared) made

/-- The text that is taken from the members of an object is that of every member with the value. -/
theorem value_of_splitValue {found : Option String}
    {others members rest : List (Option String × JsonTree)}
    (split : splitValue found others members = .ok (raw, rest)) :
    (∀ first, found = some first → first = raw) ∧
      ∀ t, (some "value", t) ∈ members → t = .string raw := by
  fun_induction splitValue found others members with
  | case1 others text =>
      cases split
      exact ⟨fun first had => (Option.some.inj had).symm, nofun⟩
  | case2 => cases split
  | case3 others members text ih =>
      obtain ⟨same, later⟩ := ih split
      obtain rfl : text = raw := same text rfl
      refine ⟨nofun, ?_⟩
      intro t inside
      rcases List.mem_cons.mp inside with here | there
      · cases here
        rfl
      · exact later t there
  | case4 => cases split
  | case5 found others name value members other whole ih =>
      obtain ⟨same, later⟩ := ih split
      refine ⟨same, ?_⟩
      intro t inside
      rcases List.mem_cons.mp inside with here | there
      · cases here
        exact absurd rfl other
      · exact later t there
  | case6 => cases split

theorem text_read_image {members : List (Option String × JsonTree)}
    (inside : (some "value", .string raw) ∈ members)
    (done : read (.object members) = .ok c) (image : c.tag.type = .image) :
    c.text = Text.trimmed raw := by
  obtain ⟨⟨given, others⟩, split, done⟩ := bind_eq_ok.mp done
  obtain ⟨tag, -, made⟩ := bind_eq_ok.mp done
  have same : raw = given := by simpa using (value_of_splitValue split).2 _ inside
  subst same
  have made := mapError_eq_ok.mp made
  rw [(withTag_eq_ok made).1] at image
  exact text_withTag_image image made

end CustomTag

namespace Json

variable {α : Type} {t : JsonTree} {a : α}

theorem readAccepted_eq_ok {ε : Type} {message : ε → String} {accept : String → Except ε α} :
    readAccepted message accept t = .ok a ↔ ∃ s, t = .string s ∧ accept s = .ok a := by
  cases t with
  | string s => simp [readAccepted, mapError_eq_ok]
  | _ => simp [readAccepted]

theorem exists_of_readText {parse : String → Option α} (read : readText parse t = .ok a) :
    ∃ s, parse s = some a := by
  cases t with
  | string s =>
      rw [readText] at read
      split at read
      · next found =>
          cases read
          exact ⟨s, found⟩
      · cases read
  | _ => cases read

theorem exists_of_readName {parse : String → Option α} (read : readName parse t = .ok a) :
    ∃ s, parse s = some a := by
  rw [readName.eq_def] at read
  split at read <;> exact exists_of_readText read

end Json

namespace Payload

/-- The data of a payload in JSON: it stands second in an array, and under its name in an object. -/
def data? : JsonTree → Option JsonTree
  | .array (_ :: data :: _) => some data
  | .object members => members.lookup (some "data")
  | _ => none

variable {bytes : List UInt8}

/-- Bytes are only read from their text. -/
theorem data_of_readParts {α : Type} {kind data : JsonTree} {more : List α}
    (read : readParts kind data more = .ok (.bytes bytes)) :
    data = .string (Base64.encodeText bytes) := by
  obtain ⟨reader, known, read⟩ := bind_eq_ok.mp read
  obtain ⟨payload, read, last⟩ := bind_eq_ok.mp read
  split at last
  · cases last
    obtain ⟨name, reads⟩ := Json.exists_of_readName known
    rw [dataReader?] at reads
    split at reads
    · cases reads
      obtain ⟨_, accepted, ⟨⟩⟩ := map_eq_ok.mp read
      obtain ⟨s, rfl, decoded⟩ := Json.readAccepted_eq_ok.mp accepted
      rw [Base64.decodeText_eq_ok.mp decoded]
    · split at reads
      · cases reads
        obtain ⟨_, -, ⟨⟩⟩ := map_eq_ok.mp read
      · cases reads
  · cases last

theorem lookup_data_of_readMembers {parts : List (Option String × JsonTree)}
    (read : readMembers parts = .ok (.bytes bytes)) :
    parts.lookup (some "data") = some (.string (Base64.encodeText bytes)) := by
  rw [readMembers.eq_def] at read
  split at read
  · rw [← data_of_readParts read]
    rfl
  · split at read
    · rw [← data_of_readParts read]
      rfl
    · cases read
  · cases read

/-- The members without a part in a payload do not stand for its data. -/
theorem lookup_data_isPart (members : List (Option String × JsonTree)) :
    (members.filter isPart).lookup (some "data") = members.lookup (some "data") := by
  induction members with
  | nil => rfl
  | cons m members ih =>
      obtain ⟨name, value⟩ := m
      by_cases data : name = some "data"
      · rw [List.filter_cons_of_pos (by simp [isPart, data]), data]
        simp
      · have other : (some "data" == name) = false := beq_eq_false_iff_ne.mpr (Ne.symm data)
        rw [List.filter_cons]
        split <;> simp only [List.lookup_cons, other, ih]

/-- The data of bytes in JSON is their text. -/
theorem data?_of_read {t : JsonTree} (done : read t = .ok (.bytes bytes)) :
    data? t = some (.string (Base64.encodeText bytes)) := by
  rw [read.eq_def] at done
  split at done
  · rw [data?, data_of_readParts done]
  · rw [data?, ← lookup_data_isPart]
    exact lookup_data_of_readMembers done
  · cases done

/-- The object of the kind bytes with a text as its data is read exactly if some bytes have that
text. -/
theorem read_kind_data {s : String} {p : Payload} :
    read (Json.object [("kind", .string "bytes"), ("data", .string s)]).tree = .ok p ↔
      ∃ bytes, s = Base64.encodeText bytes ∧ p = .bytes bytes := by
  have parts : read (Json.object [("kind", .string "bytes"), ("data", .string s)]).tree =
      readParts (.string "bytes") (.string s) ([] : List (Option String × JsonTree)) := rfl
  have decoded : readParts (.string "bytes") (.string s) ([] : List (Option String × JsonTree)) =
      (Json.readAccepted Base64.Fault.message Base64.decodeText (.string s)).map
        Payload.bytes := by
    cases accepted : Json.readAccepted Base64.Fault.message Base64.decodeText (.string s) <;>
      simp [readParts, Json.readName, Json.readText, dataReader?, accepted, bind, Except.bind,
        Except.map]
  rw [parts, decoded, map_eq_ok]
  constructor
  · rintro ⟨bytes, accepted, rfl⟩
    obtain ⟨_, ⟨⟩, spelled⟩ := Json.readAccepted_eq_ok.mp accepted
    exact ⟨bytes, Base64.decodeText_eq_ok.mp spelled, rfl⟩
  · rintro ⟨bytes, spelled, rfl⟩
    exact ⟨bytes, Json.readAccepted_eq_ok.mpr ⟨s, rfl, Base64.decodeText_eq_ok.mpr spelled⟩, rfl⟩

theorem read_bytes (bytes : List UInt8) : read (toJson (.bytes bytes)).tree = .ok (.bytes bytes) :=
  read_kind_data.mpr ⟨bytes, rfl, rfl⟩

theorem readDocument_bytes (bytes : List UInt8) :
    Json.readDocument read (toJson (.bytes bytes)).text = .ok (.bytes bytes) := by
  have readable : (toJson (.bytes bytes)).Readable JsonDocument.maxDepth :=
    ⟨trivial, trivial, trivial⟩
  exact Json.readDocument_of_ofText (Json.ofText_text readable) (read_bytes bytes)

end Payload

/-- Bytes and their text determine each other. A text is read as an image exactly if it is, without
the white space around it, the text of some bytes; a tag for an image has the text that it was given
as its own, however it came into being. In the JSON of a mail white space counts as well, and there
may be no bytes at all. -/
theorem image_texts_canonical :
    (∀ (raw : String) (v : TagValue), TagValue.parse raw .image = .ok v ↔
      ∃ bytes, bytes ≠ [] ∧ Text.trimmed raw = Base64.encodeText bytes ∧ v = .image bytes) ∧
    (∀ (raw other : String) (v : TagValue), TagValue.parse raw .image = .ok v →
      TagValue.parse other .image = .ok v → Text.trimmed raw = Text.trimmed other) ∧
    (∀ (tag : MergeTag) (raw : String) (c : CustomTag), tag.type = .image →
      CustomTag.withTag tag raw = .ok c → c.text = Text.trimmed raw) ∧
    (∀ (name raw : String) (c : CustomTag),
      CustomTag.ofString name .image raw = .ok c → c.text = Text.trimmed raw) ∧
    (∀ (members : List (Option String × JsonTree)) (raw : String) (c : CustomTag),
      (some "value", .string raw) ∈ members → CustomTag.read (.object members) = .ok c →
        c.tag.type = .image → c.text = Text.trimmed raw) ∧
    (∀ (t : JsonTree) (bytes : List UInt8), Payload.read t = .ok (.bytes bytes) →
      Payload.data? t = some (.string (Base64.encodeText bytes))) ∧
    (∀ (data : String) (p : Payload),
      Payload.read (Json.object [("kind", .string "bytes"), ("data", .string data)]).tree = .ok p ↔
        ∃ bytes, data = Base64.encodeText bytes ∧ p = .bytes bytes) ∧
    ∀ bytes : List UInt8, Base64.decodeText (Base64.encodeText bytes) = .ok bytes ∧
      Json.readDocument Payload.read (Payload.toJson (.bytes bytes)).text = .ok (.bytes bytes) := by
  refine ⟨fun raw v => TagValue.parse_image_eq_ok, ?_, ?_, ?_, ?_, ?_, ?_, ?_⟩
  · intro raw other v found found'
    rw [← TagValue.text_of_parse_image found, TagValue.text_of_parse_image found']
  · intro tag raw c image made
    exact CustomTag.text_withTag_image image made
  · intro name raw c made
    exact CustomTag.text_ofString_image made
  · intro members raw c inside done image
    exact CustomTag.text_read_image inside done image
  · intro t bytes done
    exact Payload.data?_of_read done
  · intro data p
    exact Payload.read_kind_data
  · intro bytes
    exact ⟨Base64.decodeText_encodeText bytes, Payload.readDocument_bytes bytes⟩

/-- The tag of a seal. -/
def sealTag : MergeTag := ⟨⟨"seal", by decide +kernel⟩, ⟨"seal", by decide⟩, .image⟩

/-- A seal of one byte. -/
def sealImage : CustomTag := ⟨sealTag, .image [77], rfl, by decide +kernel⟩

/-- The members of a record of the seal, with white space around its text. -/
def sealMembers : List (Option String × JsonTree) :=
  [(some "value", .string " TQ==\n"), (some "name", .string "seal"),
    (some "shortCode", .string "{{seal}}"), (some "typeName", .string "Image")]

/-- The payload of the seal in JSON, as an array of kind and data. -/
def sealPayload : JsonTree := .array [.string "bytes", .string "TQ=="]

theorem seal_text :
    TagValue.parse " TQ==\n" .image = .ok (.image [77]) ∧
      TagValue.parse "TQ==" .image = .ok (.image [77]) ∧
      Text.trimmed " TQ==\n" = Text.trimmed "TQ==" ∧
      (∃ e, TagValue.parse "TR==" .image = .error e) ∧
      CustomTag.withTag sealTag "TQ==\n" = .ok sealImage ∧
      sealImage.text = Text.trimmed "TQ==\n" ∧
      CustomTag.ofString "seal" .image "\tTQ==" = .ok sealImage ∧
      sealImage.text = Text.trimmed "\tTQ==" ∧
      CustomTag.read (.object sealMembers) = .ok sealImage ∧
      sealImage.text = Text.trimmed " TQ==\n" ∧
      Payload.read sealPayload = .ok (.bytes [77]) ∧
      Payload.data? sealPayload = some (.string (Base64.encodeText [77])) := by
  have spaced : TagValue.parse " TQ==\n" .image = .ok (.image [77]) := by decide +kernel
  have plain : TagValue.parse "TQ==" .image = .ok (.image [77]) := by decide +kernel
  have refused : TagValue.parse "TR==" .image = .error (.invalid "TR==" .image) := by
    decide +kernel
  have made : CustomTag.withTag sealTag "TQ==\n" = .ok sealImage := by decide +kernel
  have named : CustomTag.ofString "seal" .image "\tTQ==" = .ok sealImage := by decide +kernel
  have stored : CustomTag.read (.object sealMembers) = .ok sealImage := by decide +kernel
  have done : Payload.read sealPayload = .ok (.bytes [77]) := by decide +kernel
  obtain ⟨-, same, withTag, ofString, read, data, -⟩ := image_texts_canonical
  exact ⟨spaced, plain, same _ _ _ spaced plain, ⟨_, refused⟩, made, withTag sealTag _ _ rfl made,
    named, ofString "seal" _ _ named, stored, read sealMembers _ _ List.mem_cons_self stored rfl,
    done, data _ _ done⟩

end MailMerge
