import MailMerge.Proofs.JsonText
import MailMerge.Proofs.ShortCodes
import MailMerge.Proofs.SingleDefault
import MailMerge.Proofs.TypeCalls
import MailMerge.Store.Record
/-!
What is stored is loaded again. Names, tags and texts are given back by every record; the flags of
the defaults are given back because every template that can come into being has one default, so that
loading has nothing to settle.
-/

set_option autoImplicit false

namespace MailMerge

open Deflate (Compressor)

variable {now : DateTime}

theorem inflateText_deflateText [Compressor] (s : String) :
    inflateText (deflateText s) = .ok s := by
  have bytes : String.fromUTF8? ⟨s.toUTF8.data.toList.toArray⟩ = some s := by
    have valid : (⟨s.toUTF8.data.toList.toArray⟩ : ByteArray).IsValidUTF8 := s.isValidUTF8
    rw [String.fromUTF8?, dif_pos valid]
    rfl
  rw [inflateText, deflateText, Compressor.inflate?_compress]
  simp only [bytes]

theorem TagRecord.read_toJson (r : TagRecord) : shape.read r.toJson.tree = .ok r := rfl

theorem TagRecord.load_ofTag (tag : MergeTag) : (ofTag tag).load = .ok tag := by
  have typed : TagType.ofName? (ofTag tag).typeName = some tag.type := TagType.ofName?_name tag.type
  have coded : ShortCode.parse (ofTag tag).shortCode = .ok tag.shortCode :=
    ShortCode.parse_text tag.shortCode
  have named : NonBlank.check .name (ofTag tag).name = .ok tag.name := by
    have kept : NonBlank.ofString? (ofTag tag).name = some tag.name :=
      NonBlank.ofString?_text tag.name
    rw [NonBlank.check, kept]
  rw [load, typed]
  simp only [coded, bind, Except.bind, MergeTag.withShortCode, named]
  rfl

namespace Json

theorem trees_map {α : Type} (f : α → Json) (xs : List α) :
    trees (xs.map f) = xs.map fun x => (f x).tree := by
  induction xs with
  | nil => rfl
  | cons x xs ih => rw [List.map_cons, trees, ih, List.map_cons]

theorem itemsReadable_map {α : Type} {f : α → Json} {depth : Nat}
    (readable : ∀ x, (f x).Readable depth) (xs : List α) : ItemsReadable (xs.map f) depth := by
  induction xs with
  | nil => trivial
  | cons x xs ih => exact ⟨readable x, ih⟩

/-- A list is read from an array, if its items are read from the items of the array. -/
theorem readList_ofList {α : Type} {read : Reader α} {f : α → Json} {xs : List α}
    (undo : ∀ x ∈ xs, read (f x).tree = .ok x) : readList read (ofList f xs).tree = .ok xs := by
  rw [ofList, tree, trees_map]
  exact mapM_map_eq_ok (g := fun x => (f x).tree) undo

/-- A list that is printed as an array is read from its text, if its items are read from theirs. -/
theorem readDocument_ofList {α : Type} {read : Reader α} {f : α → Json}
    (undo : ∀ x, read (f x).tree = .ok x)
    (readable : ∀ x, (f x).Readable (JsonDocument.maxDepth - 1)) (xs : List α) :
    readDocument (readList read) (ofList f xs).text = .ok xs := by
  have document : JsonDocument.ofText (ofList f xs).text = ⟨(ofList f xs).tree, true⟩ := by
    apply ofText_text
    exact itemsReadable_map readable xs
  exact readDocument_of_ofText document (readList_ofList fun x _ => undo x)

end Json

theorem loadTags_tagsText (tags : List MergeTag) : loadTags (tagsText tags) = .ok tags := by
  have records : Json.readDocument (Json.readList TagRecord.shape.read) (tagsText tags) =
      .ok (tags.map TagRecord.ofTag) := by
    have text : tagsText tags = (Json.ofList TagRecord.toJson (tags.map TagRecord.ofTag)).text := by
      rw [tagsText, Json.ofList, Json.ofList, List.map_map]
      rfl
    rw [text]
    apply Json.readDocument_ofList TagRecord.read_toJson
    intro r
    exact ⟨trivial, trivial, trivial, trivial⟩
  rw [loadTags, records]
  exact mapM_map_eq_ok fun tag _ => TagRecord.load_ofTag tag

theorem ContentRecord.load_ofContent [Compressor] (c : Content) : (ofContent c).load = .ok c := by
  have tags : loadTags (ofContent c).tags = .ok c.tags.toList := loadTags_tagsText c.tags.toList
  have body : inflateText (ofContent c).body = .ok c.body := inflateText_deflateText c.body
  have source : inflateText (ofContent c).source = .ok c.source := inflateText_deflateText c.source
  simp only [load, tags, body, source, bind, Except.bind, Ascending.ofList_toList]
  rfl

/-- A template with one default is loaded as it was stored. -/
theorem TemplateRecord.load_ofTemplate [Compressor] {t : Template}
    (single : SingleDefault t.contents) : (ofTemplate t).load now = .ok t := by
  have contents : (ofTemplate t).contents.mapM ContentRecord.load = .ok t.contents :=
    mapM_map_eq_ok fun c _ => ContentRecord.load_ofContent c
  simp only [load, contents, bind, Except.bind, Template.ofParts, normalizeDefault_same single]
  rfl

theorem TypeRecord.load_ofType [Compressor] {tt : TemplateType}
    (single : ∀ t ∈ tt.templates, SingleDefault t.contents) : (ofType tt).load now = .ok tt := by
  have tags : loadTags (ofType tt).acceptedTags = .ok tt.acceptedTags :=
    loadTags_tagsText tt.acceptedTags
  have templates : (ofType tt).templates.mapM (TemplateRecord.load now) = .ok tt.templates :=
    mapM_map_eq_ok fun t inside => TemplateRecord.load_ofTemplate (single t inside)
  simp only [load, tags, templates, bind, Except.bind]
  rfl

theorem TypeRecord.load_eq_ok {r : TypeRecord} {tt : TemplateType} :
    r.load now = .ok tt ↔ ∃ tags templates, loadTags r.acceptedTags = .ok tags ∧
      List.Forall₂ (fun r t => TemplateRecord.load now r = .ok t) r.templates templates ∧
      tt = ⟨r.id, r.name, tags, templates, r.createdAt, r.updatedAt⟩ := by
  simp only [load, bind_eq_ok, mapM_eq_ok_iff]
  constructor
  · rintro ⟨tags, read, templates, all, ⟨⟩⟩
    exact ⟨tags, templates, read, all, rfl⟩
  · rintro ⟨tags, templates, read, all, rfl⟩
    exact ⟨tags, read, templates, all, rfl⟩

/-- A template that comes into being and is then changed by calls. -/
def Template.Reached (t : Template) : Prop :=
  ∃ start : Template, start.Built ∧ ∃ calls, t = start.after calls

namespace Template

theorem Reached.single {t : Template} (reached : t.Reached) : SingleDefault t.contents := by
  obtain ⟨start, built, calls, rfl⟩ := reached
  exact after_single calls built.single

theorem Reached.run {t : Template} (reached : t.Reached) (call : TemplateCall) :
    (call.run t).state.Reached := by
  obtain ⟨start, built, calls, rfl⟩ := reached
  refine ⟨start, built, calls ++ [call], ?_⟩
  simp [after]

theorem Built.reached {t : Template} (built : t.Built) : t.Reached := ⟨t, built, [], rfl⟩

theorem reached_of_load {r : TemplateRecord} {t : Template} (loaded : r.load now = .ok t) :
    t.Reached := by
  obtain ⟨contents, -, ⟨⟩⟩ := bind_eq_ok.mp loaded
  exact Built.reached (.ofParts now r.id r.typeId r.name contents r.createdAt r.updatedAt)

end Template

namespace TemplateType

/-- A template type as it can come into being: it is created, made of templates that can come into
being, or loaded from any record, and then changed by calls. -/
inductive Built : TemplateType → Prop where
  | create {id : Guid} {now : DateTime} {name : String} {tt : TemplateType}
      (created : create id now name = .ok tt) : Built tt
  | withTags {id : Guid} {now : DateTime} {name : String} {tags : List MergeTag}
      {tt : TemplateType} (created : withTags id now name tags = .ok tt) : Built tt
  | ofParts (id : Guid) (name : String) (tags : List MergeTag) {templates : List Template}
      (createdAt updatedAt : DateTime) (reached : ∀ t ∈ templates, t.Reached) :
      Built ⟨id, name, tags, templates, createdAt, updatedAt⟩
  | loaded {now : DateTime} {r : TypeRecord} {tt : TemplateType} (loaded : r.load now = .ok tt) :
      Built tt
  | called (call : TypeCall) {tt : TemplateType} (built : Built tt) : Built (call.run tt).state

theorem Origin.reached {before after : TemplateType} {t : Template} (origin : Origin before after t)
    (reached : ∀ t ∈ before.templates, t.Reached) : t.Reached := by
  cases origin with
  | kept _ old => exact reached t old
  | created _ created => exact (Template.Built.create created).reached
  | changed call _ _ old => exact (reached _ old).run call
  | @reconciled t _ now old done =>
      have run : (t.reconcile now after.acceptedTags).state.Reached :=
        (reached t old).run (.reconcile now after.acceptedTags)
      rw [done] at run
      exact run

theorem create_eq_ok {id : Guid} {name : String} {tt : TemplateType} :
    create id now name = .ok tt ↔
      checkName name = .ok () ∧ tt = ⟨id, Text.trimmed name, [], [], now, now⟩ := by
  rw [create, bind_eq_ok]
  constructor
  · rintro ⟨_, named, ⟨⟩⟩
    exact ⟨named, rfl⟩
  · rintro ⟨named, rfl⟩
    exact ⟨(), named, rfl⟩

/-- What every declaration of a tag keeps is kept where many tags are declared. -/
theorem declareAll_keeps {motive : TemplateType → Prop}
    (step : ∀ tag tt, motive tt → motive (tt.declareTag now tag).state) {tags : List MergeTag}
    {start tt : TemplateType} (holds : motive start)
    (declared : declareAll now tags start = .ok tt) : motive tt := by
  induction tags generalizing start with
  | nil =>
      cases declared
      exact holds
  | cons tag tags ih =>
      have next := step tag start holds
      rw [declareAll] at declared
      split at declared
      · cases declared
      · next ran =>
          rw [ran] at next
          exact ih next declared

/-- What holds of a type without tags and templates, and is kept where a tag is declared, holds of
every type that is created with tags. -/
theorem withTags_keeps {motive : TemplateType → Prop} {id : Guid} {name : String}
    {tags : List MergeTag} {tt : TemplateType}
    (blank : motive ⟨id, Text.trimmed name, [], [], now, now⟩)
    (step : ∀ tag tt, motive tt → motive (tt.declareTag now tag).state)
    (created : withTags id now name tags = .ok tt) : motive tt := by
  obtain ⟨start, new, declared⟩ := bind_eq_ok.mp created
  obtain ⟨-, rfl⟩ := create_eq_ok.mp new
  exact declareAll_keeps step blank declared

theorem Built.reached {tt : TemplateType} (built : tt.Built) : ∀ t ∈ tt.templates, t.Reached := by
  induction built with
  | create created =>
      obtain ⟨-, rfl⟩ := create_eq_ok.mp created
      exact fun t inside => absurd inside List.not_mem_nil
  | withTags created =>
      refine withTags_keeps (motive := fun tt => ∀ t ∈ tt.templates, t.Reached)
        (fun t inside => absurd inside List.not_mem_nil) ?_ created
      intro tag tt reached t inside
      exact ((TypeCall.run_step (.declareTag _ tag) tt).origin inside).reached reached
  | ofParts _ _ _ _ _ reached => exact reached
  | loaded loaded =>
      obtain ⟨_, templates, -, all, rfl⟩ := TypeRecord.load_eq_ok.mp loaded
      intro t inside
      obtain ⟨i, short, rfl⟩ := List.getElem_of_mem inside
      exact Template.reached_of_load (all.get (all.length_eq ▸ short) short)
  | called call _ ih =>
      intro t inside
      exact ((call.run_step _).origin inside).reached ih

/-- Every type that can come into being is loaded as it was stored, at whatever time. A type that
was loaded from any record is no exception, so loading again changes nothing more. -/
theorem load_stored [Compressor] :
    (∀ tt : TemplateType, tt.Built → ∀ now, (TypeRecord.ofType tt).load now = .ok tt) ∧
      ∀ (r : TypeRecord) (first : DateTime) (tt : TemplateType), r.load first = .ok tt →
        ∀ now, (TypeRecord.ofType tt).load now = .ok tt := by
  have stored (tt : TemplateType) (built : tt.Built) (now : DateTime) :
      (TypeRecord.ofType tt).load now = .ok tt :=
    TypeRecord.load_ofType fun t inside => (built.reached t inside).single
  refine ⟨stored, ?_⟩
  intro r first tt loaded
  exact stored tt (.loaded loaded)

/-- A tag whose name has to be escaped in JSON. -/
def quotedTag : MergeTag := ⟨⟨"\"größe\"\n", by decide +kernel⟩, ⟨"size", by decide⟩, .string⟩

/-- A type as it may be stored: a tag twice, a template without contents, and one with two
defaults. -/
def unsettled : TemplateType :=
  ⟨⟨1⟩, "Grüße", [quotedTag, quotedTag],
    [⟨⟨2⟩, ⟨1⟩, "Empty", [], .epoch, .epoch⟩,
      ⟨⟨3⟩, ⟨1⟩, "Welcome",
        [Template.storedContent 4 "de" true, Template.storedContent 5 "en" true],
        .epoch, .epoch⟩],
    .epoch, .epoch⟩

/-- The same type with one default, the first. -/
def settled : TemplateType :=
  { unsettled with
    templates :=
      [⟨⟨2⟩, ⟨1⟩, "Empty", [], .epoch, .epoch⟩,
        ⟨⟨3⟩, ⟨1⟩, "Welcome",
          [Template.storedContent 4 "de" true, Template.storedContent 5 "en" false],
          .epoch, .epoch⟩] }

theorem unsettled_load_stored :
    (TypeRecord.ofType unsettled).load .epoch = .ok settled ∧ settled.Built ∧
      ∀ now, (TypeRecord.ofType settled).load now = .ok settled := by
  have first : (TypeRecord.ofType unsettled).load .epoch = .ok settled := by decide +kernel
  have built : settled.Built := .loaded first
  have again (now : DateTime) : (TypeRecord.ofType settled).load now = .ok settled :=
    load_stored.2 (TypeRecord.ofType unsettled) .epoch settled first now
  exact ⟨first, built, again⟩

end TemplateType

end MailMerge
