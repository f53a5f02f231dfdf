import MailMerge.Proofs.GuidText
import MailMerge.Proofs.ImageTexts
import MailMerge.Proofs.JsonLines
import MailMerge.Proofs.JsonNumbers
import MailMerge.Proofs.JsonRecords
import MailMerge.Proofs.OwnerData
import MailMerge.Proofs.TypedValues
import MailMerge.Store.Json
/-!
JSON that is read back. What is written down of an owner, of a stored template type and of a mail is
read as the same value, field by field: each field is found under its name, the items of a list are
read one by one, and bytes, moments and identifiers have texts of their own.
-/

set_option autoImplicit false

namespace MailMerge

open Json.Shape (Takes takes_value takes_missing)

theorem Guid.read_toJson (g : Guid) : read g.toJson.tree = .ok g := by
  rw [toJson, Json.tree, read, Json.readText, ofText?_text]

theorem DateTime.read_toJson (dt : DateTime) : read dt.toJson.tree = .ok dt := by
  rw [toJson, Json.tree, read, Json.readText, ofRecordText?_zuluText]

theorem readByte_number (b : UInt8) : Json.readByte (.number (.whole b.toNat)) = .ok b := by
  have small : 0 ≤ (b.toNat : Int) ∧ (b.toNat : Int).toNat ≤ 255 := by
    have := b.toNat_lt
    omega
  rw [Json.readByte, Json.readNat, if_pos small, Int.toNat_natCast, Except.map, UInt8.ofNat_toNat]

theorem read_bytesJson (bytes : List UInt8) :
    Json.readList Json.readByte (bytesJson bytes).tree = .ok bytes :=
  Json.readList_ofList fun b _ => readByte_number b

theorem readable_bytesJson (bytes : List UInt8) (depth : Nat) :
    (bytesJson bytes).Readable (depth + 1) := by
  have fits (b : UInt8) : b.toNat ≤ JsonNumber.maxWhole := by
    have := b.toNat_lt
    have : JsonNumber.maxWhole = 18446744073709551615 := rfl
    omega
  apply Json.itemsReadable_map
  intro b
  exact JsonNumber.rereads_whole (fits b)

namespace ContentRecord

theorem read_toJson (r : ContentRecord) : shape.read r.toJson.tree = .ok r := by
  obtain ⟨id, culture, subject, body, source, tags, isDefault, createdAt, updatedAt⟩ := r
  refine Takes.read (by decide) (.refl _) ?_
  -- A shape takes its fields in order, so its last field is the outermost.
  refine .field ?_ rfl (DateTime.read_toJson updatedAt)
  refine .field ?_ rfl (DateTime.read_toJson createdAt)
  refine .field ?_ rfl rfl
  refine .field ?_ rfl rfl
  refine .field ?_ rfl (read_bytesJson source)
  refine .field ?_ rfl (read_bytesJson body)
  refine .field ?_ rfl rfl
  refine .field ?_ rfl rfl
  exact .map _ (takes_value rfl (Guid.read_toJson id))

theorem readable_toJson (r : ContentRecord) (depth : Nat) : r.toJson.Readable (depth + 2) :=
  ⟨trivial, trivial, trivial, readable_bytesJson _ depth, readable_bytesJson _ depth, trivial,
    trivial, trivial, trivial, trivial⟩

end ContentRecord

namespace TemplateRecord

theorem read_toJson (r : TemplateRecord) : shape.read r.toJson.tree = .ok r := by
  obtain ⟨id, typeId, name, contents, createdAt, updatedAt⟩ := r
  refine Takes.read (by decide) (.refl _) ?_
  refine .field ?_ rfl (DateTime.read_toJson updatedAt)
  refine .field ?_ rfl (DateTime.read_toJson createdAt)
  refine .field ?_ rfl (Json.readList_ofList fun content _ => content.read_toJson)
  refine .field ?_ rfl rfl
  refine .field ?_ rfl (Guid.read_toJson typeId)
  exact .map _ (takes_value rfl (Guid.read_toJson id))

theorem readable_toJson (r : TemplateRecord) (depth : Nat) : r.toJson.Readable (depth + 4) := by
  have contents := Json.itemsReadable_map (fun c => c.readable_toJson depth) r.contents
  exact ⟨trivial, trivial, trivial, contents, trivial, trivial, trivial⟩

end TemplateRecord

namespace TypeRecord

theorem read_toJson (r : TypeRecord) : shape.read r.toJson.tree = .ok r := by
  obtain ⟨id, name, acceptedTags, templates, createdAt, updatedAt⟩ := r
  refine Takes.read (by decide) (.refl _) ?_
  refine .field ?_ rfl (DateTime.read_toJson updatedAt)
  refine .field ?_ rfl (DateTime.read_toJson createdAt)
  refine .field ?_ rfl (Json.readList_ofList fun template _ => template.read_toJson)
  refine .field ?_ rfl rfl
  refine .field ?_ rfl rfl
  exact .map _ (takes_value rfl (Guid.read_toJson id))

theorem readable_toJson (r : TypeRecord) (depth : Nat) : r.toJson.Readable (depth + 6) := by
  have templates := Json.itemsReadable_map (fun t => t.readable_toJson depth) r.templates
  exact ⟨trivial, trivial, trivial, templates, trivial, trivial, trivial⟩

end TypeRecord

namespace Payload

theorem read_toJson (p : Payload) : read p.toJson.tree = .ok p := by
  cases p with
  | bytes bs => exact read_bytes bs
  | url text => rfl

theorem readable_toJson (p : Payload) (depth : Nat) : p.toJson.Readable (depth + 1) := by
  cases p <;> exact ⟨trivial, trivial, trivial⟩

end Payload

namespace LinkedResource

theorem read_toJson (r : LinkedResource) : shape.read r.toJson.tree = .ok r := by
  obtain ⟨contentId, mediaType, payload, altText⟩ := r
  refine Takes.read (by decide) ?_ (.seq ?_ ?_)
  · cases altText with
    | none => exact List.sublist_append_left _ _
    | some text => exact .refl _
  · refine .field ?_ rfl payload.read_toJson
    refine .field ?_ rfl rfl
    exact .map _ (takes_value rfl rfl)
  · cases altText with
    | none => exact takes_missing rfl
    | some text => exact takes_value rfl rfl

theorem readable_toJson (r : LinkedResource) (depth : Nat) : r.toJson.Readable (depth + 2) := by
  obtain ⟨contentId, mediaType, payload, altText⟩ := r
  have payload := payload.readable_toJson depth
  cases altText with
  | none => exact ⟨trivial, trivial, payload, trivial⟩
  | some text => exact ⟨trivial, trivial, payload, trivial, trivial⟩

end LinkedResource

namespace RenderedEmail

theorem read_toJson (m : RenderedEmail) : shape.read m.toJson.tree = .ok m := by
  obtain ⟨subject, html, plainText, linkedResources⟩ := m
  refine Takes.read (by decide) (.refl _) ?_
  refine .field ?_ rfl (Json.readList_ofList fun r _ => r.read_toJson)
  refine .field ?_ rfl rfl
  refine .field ?_ rfl rfl
  exact .map _ (takes_value rfl rfl)

theorem readable_toJson (m : RenderedEmail) (depth : Nat) : m.toJson.Readable (depth + 4) := by
  have resources := Json.itemsReadable_map (fun r => r.readable_toJson depth) m.linkedResources
  exact ⟨trivial, trivial, trivial, resources, trivial⟩

end RenderedEmail

namespace CustomTag

theorem built_of_read {t : JsonTree} {c : CustomTag} (done : read t = .ok c) : c.Built := by
  rw [read.eq_def] at done
  split at done
  · obtain ⟨⟨raw, others⟩, -, done⟩ := bind_eq_ok.mp done
    obtain ⟨tag, -, made⟩ := bind_eq_ok.mp done
    exact .withTag (mapError_eq_ok.mp made)
  · cases done

theorem readable_toJson (c : CustomTag) (depth : Nat) : c.toJson.Readable (depth + 1) :=
  ⟨trivial, trivial, trivial, trivial, trivial⟩

end CustomTag

namespace DataOwner

variable {o : DataOwner}

theorem read_toJson (built : ∀ c ∈ o.customData, c.Built) : shape.read o.toJson.tree = .ok o := by
  obtain ⟨id, name, customData, createdAt, updatedAt⟩ := o
  have values : Json.readList CustomTag.read (Json.ofList CustomTag.toJson customData).tree =
      .ok customData :=
    Json.readList_ofList fun c held => CustomTag.read_toJson (built c held)
  refine Takes.read (by decide) (.refl _) ?_
  refine .field ?_ rfl (DateTime.read_toJson updatedAt)
  refine .field ?_ rfl (DateTime.read_toJson createdAt)
  refine .seq ?_ (takes_value rfl values)
  refine .field ?_ rfl rfl
  exact .map _ (takes_value rfl (Guid.read_toJson id))

theorem readable_toJson (o : DataOwner) (depth : Nat) : o.toJson.Readable (depth + 3) := by
  have customData := Json.itemsReadable_map (fun c => c.readable_toJson depth) o.customData
  exact ⟨trivial, trivial, customData, trivial, trivial, trivial⟩

/-- An owner as it can come into being: it is created or read, from whatever JSON, and its values
are set and removed one by one. -/
inductive Built : DataOwner → Prop where
  | create {id : Guid} {now : DateTime} {name : String} {o : DataOwner}
      (created : create id now name = .ok o) : Built o
  | read {t : JsonTree} {o : DataOwner} (done : shape.read t = .ok o) : Built o
  | set (now : DateTime) {c : CustomTag} (made : c.Built) {o : DataOwner} (built : Built o) :
      Built (o.set now c)
  | remove (now : DateTime) (name : String) {o : DataOwner} (built : Built o) :
      Built (o.remove now name).state

theorem built_of_mem_set {now : DateTime} {c other : CustomTag} (made : c.Built)
    (built : ∀ c ∈ o.customData, c.Built) (held : other ∈ (o.set now c).customData) :
    other.Built := by
  simp only [set] at held
  split at held
  · rcases mem_modifyFirst held with old | ⟨_, -, -, rfl⟩
    · exact built other old
    · exact made
  · rcases List.mem_append.mp held with old | new
    · exact built other old
    · rwa [List.mem_singleton.mp new]

theorem built_of_mem_remove {now : DateTime} {name : String} {c : CustomTag}
    (built : ∀ c ∈ o.customData, c.Built) (held : c ∈ (o.remove now name).state.customData) :
    c.Built := by
  rw [remove] at held
  split at held
  · exact built c held
  · exact built c (List.mem_of_mem_eraseP held)

theorem built_of_mem_read {t : JsonTree} (done : shape.read t = .ok o) {c : CustomTag}
    (held : c ∈ o.customData) : c.Built := by
  obtain ⟨value, built⟩ := Json.Shape.exists_build done
  simp only [shape, Json.Shape.build_seq, Json.Shape.build_map, Json.Shape.build_orElse] at built
  obtain ⟨_, ⟨_, ⟨_, ⟨_, ⟨_, -, rfl⟩, _, -, rfl⟩, customData, given, rfl⟩, _, -, rfl⟩, _, -, rfl⟩ :=
    built
  rcases given with ⟨_, -, items⟩ | ⟨-, rfl⟩
  · obtain ⟨_, item⟩ := Json.exists_of_readList items held
    exact CustomTag.built_of_read item
  · exact absurd held List.not_mem_nil

/-- The values of an owner can come into being, each on its own. -/
theorem Built.customData (built : o.Built) : ∀ c ∈ o.customData, c.Built := by
  induction built with
  | create created =>
      obtain ⟨_, -, ⟨⟩⟩ := bind_eq_ok.mp created
      exact fun c held => absurd held List.not_mem_nil
  | read done => exact fun c held => built_of_mem_read done held
  | set now made _ ih => exact fun c held => built_of_mem_set made ih held
  | remove now name _ ih => exact fun c held => built_of_mem_remove ih held

end DataOwner

/-- A value is read back from its JSON text, without white space and on lines. -/
def Json.RoundTrips {α : Type} (read : Json.Reader α) (toJson : α → Json) (a : α) : Prop :=
  readDocument read (toJson a).text = .ok a ∧ readDocument read (toJson a).prettyText = .ok a

theorem Json.roundTrips_of_read {α : Type} {read : Json.Reader α} {toJson : α → Json} {a : α}
    (readable : (toJson a).Readable JsonDocument.maxDepth) (done : read (toJson a).tree = .ok a) :
    RoundTrips read toJson a :=
  ⟨readDocument_of_ofText (ofText_text readable) done,
    readDocument_of_ofText (ofText_prettyText readable) done⟩

/-- Owners, stored template types and rendered mails are read back from their JSON as they were. The
values of an owner come back with their types, since each was read from a text before; nothing is
asked of types and mails, so their bytes may be any, their moments may lie in any year and have leap
seconds and nanoseconds, and a resource may have no alternative text. -/
theorem json_round_trips :
    (∀ o : DataOwner, o.Built → Json.RoundTrips DataOwner.shape.read DataOwner.toJson o) ∧
      (∀ r : TypeRecord, Json.RoundTrips TypeRecord.shape.read TypeRecord.toJson r) ∧
      ∀ m : RenderedEmail, Json.RoundTrips RenderedEmail.shape.read RenderedEmail.toJson m := by
  refine ⟨?_, ?_, ?_⟩
  · intro o built
    exact Json.roundTrips_of_read (o.readable_toJson 124) (DataOwner.read_toJson built.customData)
  · intro r
    exact Json.roundTrips_of_read (r.readable_toJson 121) r.read_toJson
  · intro m
    exact Json.roundTrips_of_read (m.readable_toJson 123) m.read_toJson

/-- The last second of the year 2016, a leap second, and one nanosecond. -/
def leapSecond : DateTime := ⟨⟨2016, 12, 31, by decide⟩, ⟨23, 59, 59, 1000000001, by decide⟩⟩

/-- A moment under a name with quotation marks. -/
def observedAt : CustomTag :=
  ⟨⟨⟨"\"observed\" at", by decide +kernel⟩, ⟨"observed_at", by decide⟩, .dateTime⟩,
    .dateTime leapSecond, rfl, by decide +kernel⟩

/-- A zero with a sign. -/
def drift : CustomTag :=
  ⟨⟨⟨"drift", by decide +kernel⟩, ⟨"drift", by decide⟩, .double⟩,
    .double TagValue.minusZero, rfl, by decide +kernel⟩

/-- An owner with both values. -/
def observer : DataOwner := (DataOwner.acme.set .epoch observedAt).set leapSecond drift

/-- A stored type with any texts and bytes in it. -/
def observations : TypeRecord :=
  ⟨⟨1⟩, "Grüße\u0000", "[",
    [⟨⟨2⟩, ⟨3⟩, "", [⟨⟨4⟩, "\\", "\t", [0, 255], [], "", true, leapSecond, .epoch⟩], .epoch,
      leapSecond⟩],
    .epoch, leapSecond⟩

/-- A mail with a resource without bytes and alternative text, and one whose text is empty. -/
def observationMail : RenderedEmail :=
  ⟨"Hi", "<p>\"Hi\"</p>", "",
    [⟨"seal", "image/png", .bytes [], none⟩, ⟨"logo", "", .url "https://x/?a=\n", some ""⟩]⟩

theorem observation_round_trips :
    leapSecond.zuluText = "2016-12-31T23:59:60.000000001Z" ∧ observer.Built ∧
      Json.RoundTrips DataOwner.shape.read DataOwner.toJson observer ∧
      Json.RoundTrips TypeRecord.shape.read TypeRecord.toJson observations ∧
      Json.RoundTrips RenderedEmail.shape.read RenderedEmail.toJson observationMail := by
  have created : DataOwner.create ⟨1⟩ .epoch "Acme" = .ok DataOwner.acme := by decide +kernel
  have moment : CustomTag.withTag observedAt.tag "2016-12-31 23:59:60.000000001" =
      .ok observedAt := by decide +kernel
  have number : CustomTag.withTag drift.tag " -0.0" = .ok drift := by decide +kernel
  have built : observer.Built :=
    .set leapSecond (.withTag number) (.set .epoch (.withTag moment) (.create created))
  obtain ⟨owners, types, mails⟩ := json_round_trips
  exact ⟨by decide +kernel, built, owners observer built, types observations,
    mails observationMail⟩

end MailMerge
