import MailMerge.Proofs.OwnerData
import MailMerge.Proofs.TagCoherence
import MailMerge.Proofs.WellFormedStore
/-!
Images that a mail carries inline. Each is the value of an image tag that the type accepts and the
content refers to, and no text is put in for its name. That takes four things together: tags of
contents are resolved, accepted tags are named by their short codes, owners have one value under a
name, and an argument for an image takes the place of a text.
-/

set_option autoImplicit false

namespace MailMerge

open Deflate (Compressor)

namespace ServiceCall

variable {α : Type}

/-- An owner that is saved was created, or is the one that was stored before with a value set. -/
theorem Applies.owner_cases {call : ServiceCall α} {before : Except ServiceError Aggregate} {a : α}
    {o : DataOwner} (applies : call.Applies before a (.owner o)) :
    (∃ id now name, DataOwner.create id now name = .ok o) ∨
      ∃ old now c, before = .ok (.owner old) ∧ o = old.set now c := by
  cases call with
  | createType id now name tags => cases applies.2
  | declareTag now typeId tag =>
      obtain ⟨_, _, _, made⟩ := applies
      cases made
  | retractTag now typeId name =>
      obtain ⟨_, _, _, _, made⟩ := applies
      cases made
  | createTemplate id contentId now typeId name d =>
      obtain ⟨_, _, _, _, made⟩ := applies
      cases made
  | upsertContent contentId now typeId templateId d =>
      obtain ⟨_, _, _, _, made⟩ := applies
      cases made
  | removeContent now typeId templateId culture =>
      obtain ⟨_, _, _, _, made⟩ := applies
      cases made
  | createOwner id now name =>
      obtain ⟨created, made⟩ := applies
      cases made
      exact Or.inl ⟨id, now, name, created⟩
  | setOwnerData now ownerId c =>
      obtain ⟨old, stored, set, made⟩ := applies
      cases made
      exact Or.inr ⟨old, now, c, stored, set⟩

end ServiceCall

namespace ServiceState

/-- Stored types are coherent, and stored owners have one value under a name. -/
structure Tidy [Compressor] (s : ServiceState) : Prop where
  types : s.repository.Holds TemplateType.Coherent
  owners : ∀ id o, s.repository.owners.get? id = some o → o.Distinct

variable {s left : ServiceState}

theorem dataOwner_eq_ok {id : Guid} {o : DataOwner} :
    s.dataOwner id = .ok o ↔ s.repository.owners.get? id = some o := by
  rw [dataOwner, mapError_eq_ok, Repository.dataOwner]
  cases s.repository.owners.get? id <;> simp

variable [Compressor]

theorem tidy_empty : empty.Tidy where
  types := Repository.holds_empty
  owners _ _ found := nomatch found

theorem Tidy.congr (tidy : s.Tidy) (same : left.repository = s.repository) : left.Tidy where
  types := same ▸ tidy.types
  owners := same ▸ tidy.owners

theorem Tidy.distinct (tidy : s.Tidy) {now : DateTime} {address : Address} {o : DataOwner}
    (found : s.answer now address = .ok (.owner o)) : o.Distinct := by
  cases address with
  | type id =>
      obtain ⟨_, -, same⟩ := map_eq_ok.mp found
      cases same
  | owner id =>
      obtain ⟨_, loaded, same⟩ := map_eq_ok.mp found
      cases same
      exact tidy.owners id o (dataOwner_eq_ok.mp loaded)

theorem Tidy.saveOwner (tidy : s.Tidy) {o : DataOwner} (distinct : o.Distinct)
    (saved : left.repository = s.repository.save (.owner o)) :
    ∀ id other, left.repository.owners.get? id = some other → other.Distinct := by
  intro id other found
  rw [saved, Repository.save, Repository.saveOwner, GuidMap.get?_set] at found
  split at found
  · cases found
    exact distinct
  · exact tidy.owners id other found

/-- A call keeps types coherent and the values of owners apart. -/
theorem Tidy.run {α : Type} (tidy : s.Tidy) (call : ServiceCall α) (config : ServiceConfig) :
    (call.run config s).state.Tidy where
  types := by
    refine call.run_holds (fun _ coherent => coherent.single) ?_ ?_ tidy.types
    · exact fun id now name tags tt => TemplateType.coherent_withTags
    · exact fun old typeCall _ coherent => (typeCall.run_step old).coherent coherent
  owners := by
    rcases call.run_cases config s with
      ⟨_, e, left, same, -, failed⟩ | ⟨now, a, after, left, applies, saved, done⟩
    · rw [failed]
      exact (tidy.congr same).owners
    · rw [done]
      change ∀ id o, left.repository.owners.get? id = some o → o.Distinct
      cases after with
      | type tt =>
          rw [saved]
          exact tidy.owners
      | owner o =>
          rcases applies.owner_cases with ⟨_, _, _, created⟩ | ⟨old, set, c, stored, rfl⟩
          · exact tidy.saveOwner (DataOwner.distinct_create created) saved
          · exact tidy.saveOwner ((tidy.distinct stored).set set c) saved

theorem Tidy.serve (tidy : s.Tidy) (r : ServiceConfig × ServiceRequest) : (s.serve r).Tidy := by
  obtain ⟨config, request⟩ := r
  cases request with
  | change call => exact tidy.run call config
  | render contentIds now typeId templateId culture owner request =>
      exact tidy.congr
        (s.repository_render config contentIds now typeId templateId culture owner request)

theorem Tidy.after (tidy : s.Tidy) (requests : List (ServiceConfig × ServiceRequest)) :
    (s.after requests).Tidy :=
  after_keeps (fun r _ _ tidy => tidy.serve r) tidy

end ServiceState

/-- The images that a mail carries inline, as a type, a content of it and the texts that are put in
tell them. -/
structure InlineImages (tt : TemplateType) (c : Content) (scalars : Dict String)
    (images : List LinkedResource) : Prop where
  /-- They stand in the strict order of their content ids. -/
  ascending : images.Pairwise fun a b => a.contentId < b.contentId
  /-- Each content id is the name of an accepted image tag whose short code is a candidate in the
  source of the content. -/
  declared : ∀ r ∈ images, ∃ tag ∈ tt.acceptedTags, tag.type = .image ∧
    tag.name.text = r.contentId ∧ tag.shortCode.text ∈ candidateTexts c.source
  /-- Content ids are not empty and written in letters, digits, underscores and points of ASCII. -/
  written : ∀ r ∈ images, isIdentifier r.contentId.toList = true
  /-- No text is put in for a content id. -/
  unnamed : ∀ r ∈ images, scalars.get? r.contentId = none
  /-- A placeholder for a content id is left unresolved. -/
  unresolved : ∀ r ∈ images, ∀ code : ShortCode, code.identifier = r.contentId → ∀ fill,
    Segment.fill fill scalars (.placeholder code) =
      if fill.keepUnresolved then code.text.toList else []

section Images

variable {arguments : Dict String} {custom : List CustomTag} {limit : Nat}

/-- There is no text for the name of an image that is attached, as long as the owner has one value
under a name. -/
theorem scalarFor?_image {tags : TagSet} {name : String}
    (distinct : (custom.map CustomTag.name).Nodup)
    (attached : (imageFor? tags arguments custom name).isSome = true) :
    scalarFor? tags arguments custom name = none := by
  obtain ⟨declared, argument | ⟨image, held, resource, rfl⟩⟩ := isSome_imageFor?.mp attached
  · obtain ⟨value, given⟩ := Option.isSome_iff_exists.mp argument
    rw [scalarFor?, given]
    exact if_pos declared
  · rw [scalarFor?]
    cases arguments.get? image.name with
    | some value => exact if_pos declared
    | none =>
        have found : custom.find? (fun c => c.name == image.name) = some image :=
          find?_key distinct held
        have none : isScalar image = false := by rw [isScalar, resource]; rfl
        simp [lastText?_of_distinct distinct, found, none]

theorem inlineImages {tt : TemplateType} {c : Content} {prepared : PreparedMerge}
    (named : NamedByCode tt.acceptedTags) (resolved : c.Resolved tt.acceptedTags)
    (distinct : (custom.map CustomTag.name).Nodup)
    (selects : prepared.Selects c.tags arguments custom limit) :
    InlineImages tt c prepared.scalars prepared.linkedResources := by
  have accepted (r : LinkedResource) (inside : r ∈ prepared.linkedResources) :
      ∃ tag ∈ tt.acceptedTags, tag.type = .image ∧ tag.name.text = r.contentId ∧
        tag.shortCode.text ∈ candidateTexts c.source := by
    obtain ⟨⟨tag, mentioned, image, same⟩, -⟩ := (selects.names r.contentId).mp ⟨r, inside, rfl⟩
    obtain ⟨declared, candidate⟩ := (resolved.mem_iff named tag).mp mentioned
    exact ⟨tag, declared, image, same, candidate⟩
  have unnamed (r : LinkedResource) (inside : r ∈ prepared.linkedResources) :
      prepared.scalars.get? r.contentId = none := by
    obtain ⟨encoded, _, selected, -⟩ := selects.payloads r inside
    rw [selects.scalars]
    exact scalarFor?_image distinct (Option.isSome_of_eq_some selected)
  refine ⟨selects.ascending, accepted, ?_, unnamed, ?_⟩
  · intro r inside
    obtain ⟨tag, declared, -, same, -⟩ := accepted r inside
    rw [← same, ← named tag declared]
    exact tag.shortCode.wellFormed
  · intro r inside code same fill
    rw [Segment.fill, same, unnamed r inside]

end Images

namespace ServiceState

variable {s : ServiceState}

theorem content_eq_ok {now : DateTime} {typeId id : Guid} {culture : String} {c : Content} :
    s.content now typeId id culture = .ok c ↔ ∃ tt t, s.templateType now typeId = .ok tt ∧
      tt.template id = .ok t ∧ t.content culture = .ok c := by
  simp only [content, template, bind_eq_ok, mapError_eq_ok]
  constructor
  · rintro ⟨t, ⟨tt, loaded, inType⟩, inTemplate⟩
    exact ⟨tt, t, loaded, inType, inTemplate⟩
  · rintro ⟨tt, t, loaded, inType, inTemplate⟩
    exact ⟨t, ⟨tt, loaded, inType⟩, inTemplate⟩

section

variable [Compressor]

theorem Tidy.customData (tidy : s.Tidy) {owner : Option Guid} {custom : List CustomTag}
    (found : s.customData owner = .ok custom) : (custom.map CustomTag.name).Nodup := by
  cases owner with
  | none =>
      cases found
      exact List.nodup_nil
  | some id =>
      obtain ⟨o, loaded, rfl⟩ := map_eq_ok.mp found
      exact tidy.owners id o (dataOwner_eq_ok.mp loaded)

/-- Whatever was requested of a service that was empty at first: a mail that it renders carries
images of its tags and then what the request asks for. The images are declared and referred to, and
no text takes the place of a placeholder for one. -/
theorem rendered_inlineImages (requests : List (ServiceConfig × ServiceRequest))
    (config : ServiceConfig) (contentIds : Nat → String) (now : DateTime)
    (typeId templateId : Guid) (culture : String) (owner : Option Guid) (request : RenderRequest)
    {mail : RenderedEmail}
    (rendered : ((empty.after requests).render config contentIds now typeId templateId culture
      owner request).answer = .ok mail) :
    ∃ tt t c custom images requested,
      (empty.after requests).templateType now typeId = .ok tt ∧ tt.template templateId = .ok t ∧
      t.content culture = .ok c ∧ (empty.after requests).customData owner = .ok custom ∧
      mail.linkedResources = images ++ requested ∧
      List.Forall₂ (fun d r => d.1.Becomes config.engine.options.maxInlineBytes
        (contentIds d.2) r) request.resources.zipIdx requested ∧
      let scalars := (partitionValues c.tags request.arguments custom).scalars
      InlineImages tt c scalars images ∧
        mail.subject = config.engine.fillSubject c.subject scalars ∧
        ∀ fill, config.engine.engine = .placeholders fill →
          mail.html = fillTemplate fill (compileTemplate c.body) scalars := by
  have tidy : (empty.after requests).Tidy := tidy_empty.after requests
  rw [render] at rendered
  split at rendered
  · next done =>
      cases rendered
      obtain ⟨c, found, rest⟩ := bind_eq_ok.mp done
      obtain ⟨custom, data, made⟩ := bind_eq_ok.mp rest
      obtain ⟨tt, t, loaded, inType, inTemplate⟩ := content_eq_ok.mp found
      obtain ⟨prepared, requested, compiled, images, resources, compiles, rfl⟩ :=
        MergeEngine.render_eq_ok.mp (mapError_eq_ok.mp (mapError_eq_ok.mp made))
      -- What is loaded was saved by some request, so it is as coherent as all that was saved.
      have coherent : tt.Coherent :=
        (tidy.types.templateType (fun _ good => good.single) (mapError_eq_ok.mp loaded)).1
      have resolved : c.Resolved tt.acceptedTags :=
        coherent.resolved t (TemplateType.template_mem inType) c
          (List.mem_of_find?_eq_some (Template.content_eq_ok.mp inTemplate))
      have selects := selects_of_prepareMerge images
      have scalars : prepared.scalars =
          (partitionValues c.tags request.arguments custom).scalars := by
        obtain ⟨_, -, rfl⟩ := prepareMerge_eq_ok.mp images
        rfl
      have inline := inlineImages coherent.named resolved (tidy.customData data) selects
      rw [scalars] at inline
      refine ⟨tt, t, c, custom, prepared.linkedResources, requested, loaded, inType, inTemplate,
        data, rfl, MergeEngine.requestedResources_eq_ok.mp resources, inline, ?_, ?_⟩
      · rw [scalars]
      · intro fill builtIn
        rw [builtIn] at compiles
        cases compiles
        rw [scalars]
  · cases rendered

end

/-- A content that refers to a logo, and shows its short code in the subject and in the body. -/
def logoDraft : Draft :=
  ⟨"en", "Hello {{logo}}", "<img src=\"cid:logo\">{{logo}}", "[\"{{logo}}\"]", true⟩

/-- A type with this content, and an owner with a logo and a text. -/
def logoRequests : List (ServiceConfig × ServiceRequest) :=
  [(ServiceCall.plainService, .change (.createType ⟨1⟩ .epoch "Mails" [logoTag])),
    (ServiceCall.plainService,
      .change (.createTemplate ⟨2⟩ ⟨3⟩ .epoch ⟨1⟩ "Hello" logoDraft)),
    (ServiceCall.plainService, .change (.createOwner ⟨4⟩ .epoch "Acme")),
    (ServiceCall.plainService, .change (.setOwnerData .epoch ⟨4⟩ ownLogo)),
    (ServiceCall.plainService, .change (.setOwnerData .epoch ⟨4⟩ DataOwner.company))]

/-- A request for one more resource. -/
def dotRequest : RenderRequest := ⟨Ascending.empty, [⟨"/dot.svg", some "Dot", none, .url⟩]⟩

/-- The mail with the logo of the owner, and this resource behind it. -/
def logoMail : RenderedEmail :=
  ⟨"Hello ", "<img src=\"cid:logo\">", "",
    [⟨"logo", MediaType.octetStream, .bytes [7], none⟩,
      ⟨"0", MediaType.octetStream, .url "/dot.svg", some "Dot"⟩]⟩

theorem logo_inline :
    ((empty.after logoRequests).render ServiceCall.plainService Nat.repr .epoch ⟨1⟩ ⟨2⟩ "en"
        (some ⟨4⟩) dotRequest).answer = .ok logoMail ∧
      ∃ tt c scalars images requested, InlineImages tt c scalars images ∧
        logoMail.linkedResources = images ++ requested ∧
        requested.length = dotRequest.resources.length := by
  have rendered : ((empty.after logoRequests).render ServiceCall.plainService Nat.repr .epoch
      ⟨1⟩ ⟨2⟩ "en" (some ⟨4⟩) dotRequest).answer = .ok logoMail := by decide +kernel
  obtain ⟨tt, _, c, _, images, requested, -, -, -, -, parts, becomes, inline, -⟩ :=
    rendered_inlineImages logoRequests ServiceCall.plainService Nat.repr .epoch ⟨1⟩ ⟨2⟩ "en"
      (some ⟨4⟩) dotRequest rendered
  refine ⟨rendered, tt, c, _, images, requested, inline, parts, ?_⟩
  rw [← becomes.length_eq, List.length_zipIdx]

end ServiceState

end MailMerge
