import MailMerge.Proofs.TagRecords
/-!
What is loaded from the store. A record is loaded if its texts can be decoded, at every depth, and
then everything is as it is stored but the flags of the defaults: of every template the first
content that is stored as default is the default, or the first content if none is.
-/

set_option autoImplicit false

namespace MailMerge

variable {now : DateTime}

section Settled

/-- The place of the first flag that is set, or else the first place. -/
def defaultPlace (flags : List Bool) : Nat := (flags.findIdx? id).getD 0

variable {contents : List Content}

theorem clearDefault_eq (contents : List Content) :
    Template.clearDefault now contents = contents.mapIdx fun _ c => c.setDefault now false := by
  induction contents with
  | nil => rfl
  | cons c contents ih => rw [List.mapIdx_cons, ← ih]; rfl

theorem keepFirstDefault_eq {place : Nat}
    (first : (contents.map Content.isDefault).findIdx? id = some place) :
    Template.keepFirstDefault now contents =
      contents.mapIdx fun i c => c.setDefault now (i == place) := by
  induction contents generalizing place with
  | nil => cases first
  | cons c contents ih =>
      rw [List.map_cons, List.findIdx?_cons] at first
      rw [Template.keepFirstDefault, List.mapIdx_cons]
      cases flag : c.isDefault with
      | true =>
          rw [flag] at first
          cases first
          have same : c.setDefault now true = c := Content.setDefault_same flag
          rw [if_pos rfl, clearDefault_eq]
          simp [same]
      | false =>
          rw [flag] at first
          obtain ⟨later, found, rfl⟩ := Option.map_eq_some_iff.mp first
          have same : c.setDefault now false = c := Content.setDefault_same flag
          rw [if_neg Bool.false_ne_true, ih found]
          simp [same]

/-- Every content gets the flag that its place asks for. -/
theorem normalizeDefault_eq (contents : List Content) :
    Template.normalizeDefault now contents = contents.mapIdx fun i c =>
      c.setDefault now (i == defaultPlace (contents.map Content.isDefault)) := by
  have any : contents.any Content.isDefault =
      ((contents.map Content.isDefault).findIdx? id).isSome := by
    rw [List.findIdx?_isSome, List.any_map]
    rfl
  unfold Template.normalizeDefault
  rw [any, defaultPlace]
  cases first : (contents.map Content.isDefault).findIdx? id with
  | some place => exact keepFirstDefault_eq first
  | none =>
      cases contents with
      | nil => rfl
      | cons c rest =>
          have flags := List.findIdx?_eq_none_iff.mp first
          rw [List.map_cons, List.forall_mem_cons, List.forall_mem_map] at flags
          have none : rest.countP Content.isDefault = 0 := by
            rw [List.countP_eq_zero]
            intro c inside
            simpa using flags.2 c inside
          have same : rest = rest.mapIdx fun _ c => c.setDefault now false := by
            rw [← clearDefault_eq, clearDefault_same none]
          rw [if_neg (by simp), List.mapIdx_cons]
          exact congrArg (c.setDefault now true :: ·) same

end Settled

/-! What it means that something is loaded from a record, for every kind of record. -/

/-- Bytes are the deflated form of a text. -/
def InflatesTo (bytes : List UInt8) (s : String) : Prop :=
  Deflate.inflate? bytes = some s.toUTF8.data

/-- A text lists merge tags, each of which can be loaded. -/
def TagsDecodable (text : String) : Prop :=
  ∃ records, ListsTags text records ∧ ∀ r ∈ records, r.Sound

/-- A content that can be loaded. -/
structure ContentRecord.Decodable (r : ContentRecord) : Prop where
  tags : TagsDecodable r.tags
  body : ∃ s, InflatesTo r.body s
  source : ∃ s, InflatesTo r.source s

/-- A template type that can be loaded. -/
structure TypeRecord.Decodable (r : TypeRecord) : Prop where
  acceptedTags : TagsDecodable r.acceptedTags
  contents : ∀ t ∈ r.templates, ∀ c ∈ t.contents, c.Decodable

/-- A content as it is stored, with the set of its merge tags, and with the given flag; it is
changed where it had another flag. -/
structure ContentRecord.LoadedAs (now : DateTime) (flag : Bool) (r : ContentRecord)
    (c : Content) : Prop where
  id : c.id = r.id
  culture : c.culture = r.culture
  subject : c.subject = r.subject
  body : InflatesTo r.body c.body
  source : InflatesTo r.source c.source
  tags : ∃ listed : List MergeTag, ListsTags r.tags (listed.map TagRecord.ofTag) ∧
    ∀ tag, tag ∈ c.tags.toList ↔ tag ∈ listed
  isDefault : c.isDefault = flag
  createdAt : c.createdAt = r.createdAt
  updatedAt : c.updatedAt = if r.isDefault = flag then r.updatedAt else now

/-- A template as it is stored, with one default. -/
structure TemplateRecord.LoadedAs (now : DateTime) (r : TemplateRecord) (t : Template) :
    Prop where
  id : t.id = r.id
  typeId : t.typeId = r.typeId
  name : t.name = r.name
  contents : List.Forall₂
    (fun stored c => ContentRecord.LoadedAs now
      (stored.2 == defaultPlace (r.contents.map ContentRecord.isDefault)) stored.1 c)
    r.contents.zipIdx t.contents
  createdAt : t.createdAt = r.createdAt
  updatedAt : t.updatedAt = r.updatedAt

/-- A template type as it is stored. -/
structure TypeRecord.LoadedAs (now : DateTime) (r : TypeRecord) (tt : TemplateType) : Prop where
  id : tt.id = r.id
  name : tt.name = r.name
  acceptedTags : ListsTags r.acceptedTags (tt.acceptedTags.map TagRecord.ofTag)
  templates : List.Forall₂ (TemplateRecord.LoadedAs now) r.templates tt.templates
  createdAt : tt.createdAt = r.createdAt
  updatedAt : tt.updatedAt = r.updatedAt

theorem inflateText_eq_ok {bytes : List UInt8} {s : String} :
    inflateText bytes = .ok s ↔ InflatesTo bytes s := by
  rw [inflateText, InflatesTo]
  cases Deflate.inflate? bytes with
  | none => simp
  | some inflated =>
      rw [Option.some.injEq]
      simp only [String.fromUTF8?]
      by_cases valid : (⟨inflated⟩ : ByteArray).IsValidUTF8
      · rw [dif_pos valid]
        constructor
        · rintro ⟨⟩
          rfl
        · rintro rfl
          rfl
      · rw [dif_neg valid]
        constructor
        · intro failed
          cases failed
        · rintro rfl
          exact absurd s.isValidUTF8 valid

namespace ContentRecord

variable {r : ContentRecord} {c : Content}

theorem load_eq_ok : r.load = .ok c ↔ ∃ listed body source,
    ListsTags r.tags (listed.map TagRecord.ofTag) ∧ InflatesTo r.body body ∧
      InflatesTo r.source source ∧
      c = ⟨r.id, r.culture, r.subject, body, source, Ascending.ofList listed, r.isDefault,
        r.createdAt, r.updatedAt⟩ := by
  simp only [load, bind_eq_ok, loadTags_eq_ok, inflateText_eq_ok]
  constructor
  · rintro ⟨listed, tags, body, inflated, source, structured, ⟨⟩⟩
    exact ⟨listed, body, source, tags, inflated, structured, rfl⟩
  · rintro ⟨listed, body, source, tags, inflated, structured, rfl⟩
    exact ⟨listed, tags, body, inflated, source, structured, rfl⟩

/-- A content that is loaded and then gets its flag. -/
theorem loadedAs_iff {flag : Bool} :
    (∃ stored, r.load = .ok stored ∧ c = stored.setDefault now flag) ↔ r.LoadedAs now flag c := by
  have mem (listed : List MergeTag) (tag : MergeTag) :
      tag ∈ (Ascending.ofList listed : TagSet).toList ↔ tag ∈ listed :=
    Ascending.mem_ofList MergeTag.key_injective
  constructor
  · rintro ⟨stored, loaded, rfl⟩
    obtain ⟨listed, body, source, tags, inflated, structured, rfl⟩ := load_eq_ok.mp loaded
    rw [Content.setDefault]
    split
    · next same =>
        exact ⟨rfl, rfl, rfl, inflated, structured, ⟨listed, tags, mem listed⟩, same, rfl,
          (if_pos same).symm⟩
    · next other =>
        exact ⟨rfl, rfl, rfl, inflated, structured, ⟨listed, tags, mem listed⟩, rfl, rfl,
          (if_neg other).symm⟩
  · intro loaded
    obtain ⟨listed, tags, same⟩ := loaded.tags
    have set : c.tags = Ascending.ofList listed :=
      Ascending.ext_mem fun tag => (same tag).trans (mem listed tag).symm
    have flag := loaded.isDefault
    have time := loaded.updatedAt
    refine ⟨{ c with isDefault := r.isDefault, updatedAt := r.updatedAt }, ?_, ?_⟩
    · rw [load_eq_ok, loaded.id, loaded.culture, loaded.subject, loaded.createdAt, set]
      exact ⟨listed, c.body, c.source, tags, loaded.body, loaded.source, rfl⟩
    · rw [Content.setDefault]
      split
      · next same =>
          rw [if_pos same] at time
          rw [← time]
          exact congrArg (fun b => { c with isDefault := b }) (flag.trans same.symm)
      · next other =>
          rw [if_neg other] at time
          rw [← flag, ← time]

theorem exists_load : (∃ c, r.load = .ok c) ↔ r.Decodable := by
  have listed : TagsDecodable r.tags ↔
      ∃ listed : List MergeTag, ListsTags r.tags (listed.map TagRecord.ofTag) := by
    rw [TagsDecodable, ← exists_loadTags]
    simp only [loadTags_eq_ok]
  simp only [load_eq_ok]
  constructor
  · rintro ⟨_, tags, body, source, lists, inflated, structured, -⟩
    exact ⟨listed.mpr ⟨tags, lists⟩, ⟨body, inflated⟩, ⟨source, structured⟩⟩
  · rintro ⟨decodable, ⟨body, inflated⟩, ⟨source, structured⟩⟩
    obtain ⟨tags, lists⟩ := listed.mp decodable
    exact ⟨_, tags, body, source, lists, inflated, structured, rfl⟩

end ContentRecord

namespace TemplateRecord

variable {r : TemplateRecord} {t : Template}

theorem load_eq_ok : r.load now = .ok t ↔ ∃ contents,
    List.Forall₂ (fun r c => ContentRecord.load r = .ok c) r.contents contents ∧
      t = .ofParts now r.id r.typeId r.name contents r.createdAt r.updatedAt := by
  simp only [load, bind_eq_ok, mapM_eq_ok_iff]
  constructor
  · rintro ⟨contents, loaded, ⟨⟩⟩
    exact ⟨contents, loaded, rfl⟩
  · rintro ⟨contents, loaded, rfl⟩
    exact ⟨contents, loaded, rfl⟩

/-- Loading keeps the flags, so they can be looked up in the record. -/
theorem map_isDefault {contents : List Content}
    (loaded : List.Forall₂ (fun r c => ContentRecord.load r = .ok c) r.contents contents) :
    contents.map Content.isDefault = r.contents.map ContentRecord.isDefault := by
  generalize r.contents = records at loaded
  induction loaded with
  | nil => rfl
  | cons first _ ih =>
      obtain ⟨_, _, _, -, -, -, rfl⟩ := ContentRecord.load_eq_ok.mp first
      rw [List.map_cons, List.map_cons, ih]

theorem load_iff : r.load now = .ok t ↔ r.LoadedAs now t := by
  have settled : (∃ contents,
      List.Forall₂ (fun r c => ContentRecord.load r = .ok c) r.contents contents ∧
        t.contents = Template.normalizeDefault now contents) ↔
      List.Forall₂ (fun stored c => ContentRecord.LoadedAs now
        (stored.2 == defaultPlace (r.contents.map ContentRecord.isDefault)) stored.1 c)
        r.contents.zipIdx t.contents := by
    simp only [← ContentRecord.loadedAs_iff]
    have each := @forall₂_zipIdx _ _ _ (fun r c => ContentRecord.load r = .ok c)
      (fun c i => c.setDefault now (i == defaultPlace (r.contents.map ContentRecord.isDefault)))
      r.contents t.contents 0
    refine Iff.trans ?_ each
    refine exists_congr fun contents => and_congr_right fun loaded => ?_
    rw [normalizeDefault_eq, map_isDefault loaded, List.mapIdx_eq_zipIdx_map]
  rw [load_eq_ok]
  constructor
  · rintro ⟨contents, loaded, rfl⟩
    exact ⟨rfl, rfl, rfl, settled.mp ⟨contents, loaded, rfl⟩, rfl, rfl⟩
  · intro loaded
    obtain ⟨contents, each, same⟩ := settled.mpr loaded.contents
    refine ⟨contents, each, ?_⟩
    rw [Template.ofParts, ← same, ← loaded.id, ← loaded.typeId, ← loaded.name,
      ← loaded.createdAt, ← loaded.updatedAt]

theorem exists_load :
    (∃ t, r.load now = .ok t) ↔ ∀ c ∈ r.contents, ContentRecord.Decodable c := by
  simp only [load_eq_ok, ← ContentRecord.exists_load]
  rw [← exists_mapM_eq_ok, exists_comm]
  simp only [exists_and_left, exists_eq, and_true, mapM_eq_ok_iff]

end TemplateRecord

namespace TypeRecord

theorem exists_load {r : TypeRecord} : (∃ tt, r.load now = .ok tt) ↔ r.Decodable := by
  have templates : (∃ ts, List.Forall₂ (fun r t => TemplateRecord.load now r = .ok t)
      r.templates ts) ↔ ∀ t ∈ r.templates, ∀ c ∈ t.contents, ContentRecord.Decodable c := by
    simp only [← mapM_eq_ok_iff, exists_mapM_eq_ok, TemplateRecord.exists_load]
  constructor
  · rintro ⟨tt, loaded⟩
    obtain ⟨tags, ts, listed, all, -⟩ := load_eq_ok.mp loaded
    exact ⟨exists_loadTags.mp ⟨tags, listed⟩, templates.mp ⟨ts, all⟩⟩
  · rintro ⟨accepted, contents⟩
    obtain ⟨tags, listed⟩ := exists_loadTags.mpr accepted
    obtain ⟨ts, all⟩ := templates.mpr contents
    exact ⟨_, load_eq_ok.mpr ⟨tags, ts, listed, all, rfl⟩⟩

theorem load_iff {r : TypeRecord} {tt : TemplateType} :
    r.load now = .ok tt ↔ r.LoadedAs now tt := by
  rw [load_eq_ok]
  simp only [loadTags_eq_ok, TemplateRecord.load_iff]
  constructor
  · rintro ⟨tags, templates, listed, all, rfl⟩
    exact ⟨rfl, rfl, listed, all, rfl, rfl⟩
  · rintro ⟨id, name, listed, all, createdAt, updatedAt⟩
    refine ⟨tt.acceptedTags, tt.templates, listed, all, ?_⟩
    rw [← id, ← name, ← createdAt, ← updatedAt]

/-- A record is loaded exactly if all of its texts can be decoded, and what is loaded is what is
stored but for the flags of the defaults. -/
theorem load_exact (now : DateTime) (r : TypeRecord) :
    ((∃ tt, r.load now = .ok tt) ↔ r.Decodable) ∧
      ∀ tt, r.load now = .ok tt ↔ r.LoadedAs now tt :=
  ⟨exists_load, fun _ => load_iff⟩

/-- A merge tag as an array, and one as an object with its fields in another order and a member
more; of the contents the second and the third are stored as default. -/
def handwritten : TypeRecord :=
  ⟨⟨1⟩, "Mails",
    "[[\"size\",\"\x7b\x7bSize\x7d\x7d\",\"Double\"],\n" ++
      "\x7b\"typeName\":\"Bool\",\"note\":[],\"shortCode\":\"\x7b\x7b.\x7d\x7d\"," ++
      "\"name\":\" a \"\x7d]",
    [⟨⟨2⟩, ⟨1⟩, "Welcome",
      [⟨⟨3⟩, "de", "Hallo", deflateText "Grüße", deflateText "[]", "[]", false, .epoch, .epoch⟩,
        ⟨⟨4⟩, "en", "Hello", deflateText "", deflateText "[]", "[]", true, .epoch, .epoch⟩,
        ⟨⟨5⟩, "it", "Ciao", deflateText "", deflateText "[]", "[]", true, .epoch, .epoch⟩],
      .epoch, .epoch⟩],
    .epoch, .epoch⟩

/-- The time at which it is loaded. -/
def loading : DateTime := ⟨⟨2025, 5, 9, by decide⟩, Time.midnight⟩

/-- What is loaded: only the third content is changed. -/
def handwrittenType : TemplateType :=
  ⟨⟨1⟩, "Mails",
    [⟨⟨"size", by decide⟩, ⟨"Size", by decide⟩, .double⟩,
      ⟨⟨" a ", by decide⟩, ⟨".", by decide⟩, .bool⟩],
    [⟨⟨2⟩, ⟨1⟩, "Welcome",
      [⟨⟨3⟩, "de", "Hallo", "Grüße", "[]", Ascending.empty, false, .epoch, .epoch⟩,
        ⟨⟨4⟩, "en", "Hello", "", "[]", Ascending.empty, true, .epoch, .epoch⟩,
        ⟨⟨5⟩, "it", "Ciao", "", "[]", Ascending.empty, false, .epoch, loading⟩],
      .epoch, .epoch⟩],
    .epoch, .epoch⟩

theorem handwritten_loaded :
    handwritten.Decodable ∧ handwritten.LoadedAs loading handwrittenType := by
  have loaded : handwritten.load loading = .ok handwrittenType := by decide +kernel
  obtain ⟨success, result⟩ := load_exact loading handwritten
  exact ⟨success.mp ⟨handwrittenType, loaded⟩, (result handwrittenType).mp loaded⟩

end TypeRecord

end MailMerge
