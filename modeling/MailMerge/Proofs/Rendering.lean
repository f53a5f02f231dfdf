import MailMerge.Mail.Render
import MailMerge.Proofs.Base64Text
import MailMerge.Proofs.Precedence
/-!
Mails that are rendered as a whole or not at all. Images of tags and resources of a request are read
in two loops, one behind the other. Nothing else can fail, so the first value that cannot be read
decides about the error, and every resource of a mail is within the limit.
-/

set_option autoImplicit false

namespace MailMerge

/-- A text is, apart from white space around it, the base64 text of some bytes; there is at least
one, and there are at most `limit`. -/
def Encodes (limit : Nat) (encoded : String) (bytes : List UInt8) : Prop :=
  Text.trimmed encoded = Base64.encodeText bytes ∧ 1 ≤ bytes.length ∧ bytes.length ≤ limit

/-- A text stands for bytes that a mail can carry. -/
def Attachable (limit : Nat) (encoded : String) : Prop := ∃ bytes, Encodes limit encoded bytes

/-- Why a text stands for no bytes that a mail can carry. There is a reason of one kind only: a text
that is not base64 is neither empty nor too large. -/
inductive Refused (limit : Nat) (name encoded : String) : RenderError → Prop
  | badImage {fault : Base64.Fault}
      (unreadable : ∀ bytes, Text.trimmed encoded ≠ Base64.encodeText bytes)
      (first : Base64.decodeText (Text.trimmed encoded) = .error fault) :
      Refused limit name encoded (.badImage name fault)
  | empty (blank : Text.trimmed encoded = Base64.encodeText []) :
      Refused limit name encoded (.emptyResource name)
  | tooLarge {bytes : List UInt8} (read : Text.trimmed encoded = Base64.encodeText bytes)
      (large : limit < bytes.length) :
      Refused limit name encoded (.tooLarge name bytes.length limit)

section Values

variable {limit : Nat} {name encoded : String}

theorem decodesTo_iff {bytes : List UInt8} :
    DecodesTo limit encoded bytes ↔ Encodes limit encoded bytes := by
  rw [DecodesTo, Encodes, Base64.decodeText_eq_ok, ← List.length_pos_iff, Nat.succ_le_iff]

/-- An image cannot be read exactly for the reasons that there are. -/
theorem decodeImage_eq_error {e : RenderError} :
    decodeImage name encoded limit = .error e ↔ Refused limit name encoded e := by
  rw [decodeImage]
  cases decoded : Base64.decodeText (Text.trimmed encoded) with
  | error fault =>
      have unreadable (bytes : List UInt8) : Text.trimmed encoded ≠ Base64.encodeText bytes := by
        intro read
        rw [Base64.decodeText_eq_ok.mpr read] at decoded
        cases decoded
      constructor
      · rintro ⟨⟩
        exact .badImage unreadable decoded
      · rintro (⟨-, first⟩ | ⟨blank⟩ | ⟨read, -⟩)
        · rw [decoded] at first
          cases first
          rfl
        · exact absurd blank (unreadable [])
        · exact absurd read (unreadable _)
  | ok bytes =>
      have read := Base64.decodeText_eq_ok.mp decoded
      have only {other : List UInt8} (same : Text.trimmed encoded = Base64.encodeText other) :
          other = bytes := Except.ok.inj ((Base64.decodeText_eq_ok.mpr same).symm.trans decoded)
      by_cases none : bytes = []
      · subst none
        constructor
        · rintro ⟨⟩
          exact .empty read
        · rintro (⟨unreadable, -⟩ | _ | ⟨same, large⟩)
          · exact absurd read (unreadable [])
          · rfl
          · rw [only same] at large
            exact absurd large (Nat.not_lt_zero limit)
      · by_cases large : limit < bytes.length
        · simp only [List.isEmpty_iff, none, large, ↓reduceIte]
          constructor
          · rintro ⟨⟩
            exact .tooLarge read large
          · rintro (⟨unreadable, -⟩ | ⟨blank⟩ | ⟨same, -⟩)
            · exact absurd read (unreadable bytes)
            · exact absurd (only blank).symm none
            · rw [only same]
        · simp only [List.isEmpty_iff, none, large, ↓reduceIte]
          constructor
          · intro failed
            cases failed
          · rintro (⟨unreadable, -⟩ | ⟨blank⟩ | ⟨same, above⟩)
            · exact absurd read (unreadable bytes)
            · exact absurd (only blank).symm none
            · rw [only same] at above
              exact absurd above large

end Values

section Images

variable {tags : TagSet} {arguments : Dict String} {custom : List CustomTag} {limit : Nat}

theorem exists_prepareMerge : (∃ prepared, prepareMerge tags arguments custom limit = .ok prepared) ↔
    ∀ name encoded, imageFor? tags arguments custom name = some encoded →
      Attachable limit encoded := by
  constructor
  · rintro ⟨prepared, done⟩ name encoded selected
    have selects := selects_of_prepareMerge done
    have given : (imageFor? tags arguments custom name).isSome = true := by
      rw [selected]
      rfl
    obtain ⟨r, inside, rfl⟩ := (selects.names name).mpr (isSome_imageFor?.mp given)
    obtain ⟨value, bytes, same, decodes, -⟩ := selects.payloads r inside
    rw [selected] at same
    cases same
    exact ⟨bytes, decodesTo_iff.mp decodes⟩
  · intro all
    cases ran : prepareMerge tags arguments custom limit with
    | ok prepared => exact ⟨prepared, rfl⟩
    | error e =>
        obtain ⟨name, encoded, selected, wrong, -⟩ := prepareMerge_eq_error.mp ran
        obtain ⟨bytes, encodes⟩ := all name encoded selected
        rw [decodeImage_eq_ok.mpr (decodesTo_iff.mpr encodes)] at wrong
        cases wrong

/-- The image that stands first in the order of names decides about the error. -/
theorem prepareMerge_refused {e : RenderError} :
    prepareMerge tags arguments custom limit = .error e ↔ ∃ name encoded,
      imageFor? tags arguments custom name = some encoded ∧ Refused limit name encoded e ∧
        ∀ other < name, ∀ value, imageFor? tags arguments custom other = some value →
          Attachable limit value := by
  simp only [prepareMerge_eq_error, decodeImage_eq_error, decodesTo_iff, Attachable]

/-- The images of a prepared mail are within the limit. -/
theorem PreparedMerge.Selects.within {prepared : PreparedMerge}
    (selects : prepared.Selects tags arguments custom limit) {r : LinkedResource}
    (inside : r ∈ prepared.linkedResources) {bytes : List UInt8} (payload : r.payload = .bytes bytes) :
    1 ≤ bytes.length ∧ bytes.length ≤ limit := by
  obtain ⟨encoded, read, -, decodes, made⟩ := selects.payloads r inside
  rw [made] at payload
  cases payload
  exact (decodesTo_iff.mp decodes).2

end Images

namespace ResourceDescriptor

/-- The resource that a descriptor becomes: it keeps the alternative text and a declared media type,
and its payload is the value. -/
inductive Becomes (limit : Nat) (contentId : String) :
    ResourceDescriptor → LinkedResource → Prop
  | base64 {value : String} {altText mediaType : Option String} {bytes : List UInt8}
      (encodes : Encodes limit value bytes) :
      Becomes limit contentId ⟨value, altText, mediaType, .base64⟩
        ⟨contentId, mediaType.getD (MediaType.detect bytes), .bytes bytes, altText⟩
  | url {value : String} {altText mediaType : Option String} :
      Becomes limit contentId ⟨value, altText, mediaType, .url⟩
        ⟨contentId, mediaType.getD MediaType.octetStream, .url value, altText⟩

/-- A descriptor whose value, if it is given as base64, can be attached. -/
def Readable (limit : Nat) (d : ResourceDescriptor) : Prop :=
  d.encoding = .base64 → Attachable limit d.value

variable {d : ResourceDescriptor} {limit : Nat} {contentId : String}

theorem Becomes.within {r : LinkedResource} (becomes : Becomes limit contentId d r)
    {bytes : List UInt8} (payload : r.payload = .bytes bytes) :
    1 ≤ bytes.length ∧ bytes.length ≤ limit := by
  cases becomes with
  | base64 encodes =>
      cases payload
      exact encodes.2
  | url => cases payload

theorem toLinkedResource_eq_ok {r : LinkedResource} :
    d.toLinkedResource contentId limit = .ok r ↔ Becomes limit contentId d r := by
  obtain ⟨value, altText, mediaType, encoding⟩ := d
  cases encoding with
  | base64 =>
      simp only [toLinkedResource]
      constructor
      · intro made
        split at made
        · cases made
        · next bytes decoded =>
            cases made
            exact .base64 (decodesTo_iff.mp (decodeImage_eq_ok.mp decoded))
      · rintro ⟨encodes⟩
        rw [decodeImage_eq_ok.mpr (decodesTo_iff.mpr encodes)]
  | url =>
      simp only [toLinkedResource]
      constructor
      · rintro ⟨⟩
        exact .url
      · rintro ⟨⟩
        rfl

theorem toLinkedResource_eq_error {e : RenderError} :
    d.toLinkedResource contentId limit = .error e ↔
      d.encoding = .base64 ∧ Refused limit contentId d.value e := by
  obtain ⟨value, altText, mediaType, encoding⟩ := d
  cases encoding with
  | base64 =>
      simp only [toLinkedResource, true_and, ← decodeImage_eq_error]
      cases decodeImage contentId value limit <;> simp
  | url => simp [toLinkedResource]

theorem exists_toLinkedResource :
    (∃ r, d.toLinkedResource contentId limit = .ok r) ↔ d.Readable limit := by
  simp only [toLinkedResource_eq_ok]
  obtain ⟨value, altText, mediaType, encoding⟩ := d
  constructor
  · rintro ⟨_, ⟨encodes⟩ | _⟩
    · exact fun _ => ⟨_, encodes⟩
    · exact nofun
  · intro readable
    cases encoding with
    | base64 =>
        obtain ⟨bytes, encodes⟩ := readable rfl
        exact ⟨_, .base64 encodes⟩
    | url => exact ⟨_, .url⟩

end ResourceDescriptor

namespace MergeEngine

section Requested

variable {limit : Nat} {contentIds : Nat → String} {descriptors : List ResourceDescriptor}

theorem requestedResources_eq_ok {resources : List LinkedResource} :
    requestedResources limit contentIds descriptors = .ok resources ↔
      List.Forall₂ (fun d r => d.1.Becomes limit (contentIds d.2) r) descriptors.zipIdx
        resources := by
  rw [requestedResources, mapM_eq_ok_iff]
  simp only [ResourceDescriptor.toLinkedResource_eq_ok]

theorem exists_requestedResources :
    (∃ resources, requestedResources limit contentIds descriptors = .ok resources) ↔
      ∀ d ∈ descriptors, d.Readable limit := by
  simp only [requestedResources, exists_mapM_eq_ok, ResourceDescriptor.exists_toLinkedResource]
  exact forall_mem_zipIdx

/-- The descriptor that stands first decides about the error. -/
theorem requestedResources_eq_error {e : RenderError} :
    requestedResources limit contentIds descriptors = .error e ↔ ∃ front d back,
      descriptors = front ++ d :: back ∧ (∀ earlier ∈ front, earlier.Readable limit) ∧
        d.encoding = .base64 ∧ Refused limit (contentIds front.length) d.value e := by
  rw [requestedResources, mapM_eq_error_iff]
  simp only [ResourceDescriptor.toLinkedResource_eq_error,
    ResourceDescriptor.exists_toLinkedResource]
  constructor
  · rintro ⟨numbered, ⟨d, i⟩, others, parts, before, wrong⟩
    -- The place of a descriptor is the number of those before it.
    obtain ⟨front, rest, rfl, rfl, tail⟩ := List.zipIdx_eq_append_iff.mp parts
    obtain ⟨_, back, rfl, here, -⟩ := List.zipIdx_eq_cons_iff.mp tail.symm
    cases here
    rw [Nat.zero_add] at wrong
    exact ⟨front, d, back, rfl, forall_mem_zipIdx.mp before, wrong⟩
  · rintro ⟨front, d, back, rfl, before, wrong⟩
    refine ⟨front.zipIdx, (d, front.length), back.zipIdx (front.length + 1), ?_,
      forall_mem_zipIdx.mpr before, wrong⟩
    rw [List.zipIdx_append, List.zipIdx_cons, Nat.zero_add]

end Requested

section Render

variable {m : MergeEngine} {contentIds : Nat → String} {subject body : String} {tags : TagSet}
  {request : RenderRequest} {custom : List CustomTag}

theorem render_eq_ok {mail : RenderedEmail} :
    m.render contentIds subject body tags request custom = .ok mail ↔
      ∃ prepared requested compiled,
        prepareMerge tags request.arguments custom m.options.maxInlineBytes = .ok prepared ∧
        requestedResources m.options.maxInlineBytes contentIds request.resources =
          .ok requested ∧
        m.engine.compile body = .ok compiled ∧
        mail = ⟨m.fillSubject subject prepared.scalars, compiled prepared.scalars,
          plainTextOfHtml (compiled prepared.scalars), prepared.linkedResources ++ requested⟩ := by
  simp only [render, bind_eq_ok]
  constructor
  · rintro ⟨prepared, images, requested, resources, compiled, read, made⟩
    cases made
    exact ⟨prepared, requested, compiled, images, resources, read, rfl⟩
  · rintro ⟨prepared, requested, compiled, images, resources, read, rfl⟩
    exact ⟨prepared, images, requested, resources, compiled, read, rfl⟩

variable {fill : FillOptions} {options : MergeOptions}

/-- The engine for placeholders compiles every body, so only resources can fail. -/
theorem render_eq_error {e : RenderError} :
    render ⟨.placeholders fill, options⟩ contentIds subject body tags request custom = .error e ↔
      prepareMerge tags request.arguments custom options.maxInlineBytes = .error e ∨
        (∃ prepared, prepareMerge tags request.arguments custom options.maxInlineBytes =
          .ok prepared) ∧
        requestedResources options.maxInlineBytes contentIds request.resources = .error e := by
  have compiled (requested : Except RenderError (List LinkedResource)) (prepared : PreparedMerge) :
      (requested >>= fun resources =>
        TemplateEngine.compile (.placeholders fill) body >>= fun compiled =>
          (pure ⟨fillSubject ⟨.placeholders fill, options⟩ subject prepared.scalars,
            compiled prepared.scalars, plainTextOfHtml (compiled prepared.scalars),
            prepared.linkedResources ++ resources⟩ : Except RenderError RenderedEmail)) =
          .error e ↔ requested = .error e := by
    rw [bind_eq_error]
    constructor
    · rintro (failed | ⟨_, _, ⟨⟩⟩)
      exact failed
    · exact Or.inl
  simp only [render]
  rw [bind_eq_error]
  simp only [compiled, exists_and_right]

/-- A mail is rendered exactly if everything that it carries can be read. -/
theorem exists_render :
    (∃ mail, render ⟨.placeholders fill, options⟩ contentIds subject body tags request custom =
        .ok mail) ↔
      (∀ name encoded, imageFor? tags request.arguments custom name = some encoded →
          Attachable options.maxInlineBytes encoded) ∧
        ∀ d ∈ request.resources, d.encoding = .base64 →
          Attachable options.maxInlineBytes d.value := by
  have requests : (∃ requested, requestedResources options.maxInlineBytes contentIds
      request.resources = .ok requested) ↔ ∀ d ∈ request.resources, d.encoding = .base64 →
        Attachable options.maxInlineBytes d.value := exists_requestedResources
  rw [← exists_prepareMerge, ← requests]
  constructor
  · rintro ⟨mail, done⟩
    obtain ⟨prepared, requested, _, images, resources, -⟩ := render_eq_ok.mp done
    exact ⟨⟨prepared, images⟩, requested, resources⟩
  · rintro ⟨⟨prepared, images⟩, requested, resources⟩
    exact ⟨_, render_eq_ok.mpr ⟨prepared, requested, _, images, resources, rfl, rfl⟩⟩

end Render

/-- A mail is rendered exactly if every selected image and every resource that the request gives as
base64 can be read. It then carries the images in the order of their names and behind them one
resource for each descriptor, and all bytes are within the limit. Otherwise the error is that of the
first value that cannot be read, where images go before descriptors. A mail without descriptors is
what merging makes of the body. -/
theorem render_all_or_nothing (fill : FillOptions) (options : MergeOptions)
    (contentIds : Nat → String) (subject body : String) (tags : TagSet) (request : RenderRequest)
    (custom : List CustomTag) :
    let limit := options.maxInlineBytes
    let image? := imageFor? tags request.arguments custom
    let answer :=
      render ⟨.placeholders fill, options⟩ contentIds subject body tags request custom
    ((∃ mail, answer = .ok mail) ↔
        (∀ name encoded, image? name = some encoded → Attachable limit encoded) ∧
          ∀ d ∈ request.resources, d.encoding = .base64 → Attachable limit d.value) ∧
      (∀ mail, answer = .ok mail → ∃ (prepared : PreparedMerge) (requested : List LinkedResource),
        mail.linkedResources = prepared.linkedResources ++ requested ∧
        prepared.Selects tags request.arguments custom limit ∧
        List.Forall₂ (fun d r => d.1.Becomes limit (contentIds d.2) r) request.resources.zipIdx
          requested ∧
        ∀ r ∈ mail.linkedResources, ∀ bytes, r.payload = .bytes bytes →
          1 ≤ bytes.length ∧ bytes.length ≤ limit) ∧
      (∀ e, answer = .error e ↔
        (∃ name encoded, image? name = some encoded ∧ Refused limit name encoded e ∧
          ∀ other < name, ∀ value, image? other = some value → Attachable limit value) ∨
        (∀ name encoded, image? name = some encoded → Attachable limit encoded) ∧
          ∃ front d back, request.resources = front ++ d :: back ∧
            (∀ earlier ∈ front, earlier.encoding = .base64 → Attachable limit earlier.value) ∧
            d.encoding = .base64 ∧ Refused limit (contentIds front.length) d.value e) ∧
      (request.resources = [] →
        answer.map (fun mail => (mail.html, mail.linkedResources)) =
          mergeBody (fillTemplate fill (compileTemplate body)) tags request.arguments custom
            limit) := by
  intro limit image? answer
  refine ⟨exists_render, ?_, ?_, ?_⟩
  · intro mail done
    obtain ⟨prepared, requested, _, images, resources, -, rfl⟩ := render_eq_ok.mp done
    have selects := selects_of_prepareMerge images
    have becomes := requestedResources_eq_ok.mp resources
    refine ⟨prepared, requested, rfl, selects, becomes, ?_⟩
    intro r inside bytes payload
    rcases List.mem_append.mp inside with image | attached
    · exact selects.within image payload
    · obtain ⟨d, -, made⟩ := exists_of_forall₂ becomes attached
      exact made.within payload
  · intro e
    rw [render_eq_error, exists_prepareMerge, prepareMerge_refused, requestedResources_eq_error]
    rfl
  · intro none
    simp only [answer, render, mergeBody, none, requestedResources]
    cases prepareMerge tags request.arguments custom limit with
    | error e => rfl
    | ok prepared => exact congrArg (fun more => Except.ok (_, more)) (List.append_nil _)

end MergeEngine

/-- A request with a logo that brings two bytes and a place for more. -/
def portraitRequest : RenderRequest :=
  ⟨portraitArguments, [⟨" AQI=", some "Dots", none, .base64⟩,
    ⟨"/dot.svg", none, some "image/svg+xml", .url⟩]⟩

/-- The mail for it, where resources may have `limit` bytes. -/
def renderPortrait (limit : Nat) : Except RenderError RenderedEmail :=
  MergeEngine.render ⟨.placeholders .html, ⟨false, true, limit⟩⟩ Nat.repr "{{title}}"
    "<b>{{photo}}</b>" (Ascending.ofList [logoTag, photoTag]) portraitRequest photos

/-- What is rendered. -/
def portraitMail : RenderedEmail :=
  ⟨"Hi", "<b>a photo</b>", "a photo", portrait.linkedResources ++
    [⟨"0", MediaType.octetStream, .bytes [1, 2], some "Dots"⟩,
      ⟨"1", "image/svg+xml", .url "/dot.svg", none⟩]⟩

theorem portrait_all_or_nothing :
    renderPortrait 3 = .ok portraitMail ∧
      (∀ r ∈ portraitMail.linkedResources, ∀ bytes, r.payload = .bytes bytes →
        1 ≤ bytes.length ∧ bytes.length ≤ 3) ∧
      renderPortrait 2 = .error (.tooLarge "logo" 3 2) ∧
      ¬((∀ name encoded, imageFor? (Ascending.ofList [logoTag, photoTag]) portraitArguments photos
          name = some encoded → Attachable 2 encoded) ∧
        ∀ d ∈ portraitRequest.resources, d.encoding = .base64 → Attachable 2 d.value) := by
  have done : renderPortrait 3 = .ok portraitMail := by decide +kernel
  have failed : renderPortrait 2 = .error (.tooLarge "logo" 3 2) := by decide +kernel
  obtain ⟨-, holds, -, -⟩ := MergeEngine.render_all_or_nothing .html ⟨false, true, 3⟩ Nat.repr
    "{{title}}" "<b>{{photo}}</b>" (Ascending.ofList [logoTag, photoTag]) portraitRequest photos
  obtain ⟨succeeds, -, -, -⟩ := MergeEngine.render_all_or_nothing .html ⟨false, true, 2⟩ Nat.repr
    "{{title}}" "<b>{{photo}}</b>" (Ascending.ofList [logoTag, photoTag]) portraitRequest photos
  obtain ⟨_, _, -, -, -, within⟩ := holds portraitMail done
  refine ⟨done, within, failed, ?_⟩
  intro readable
  obtain ⟨mail, rendered⟩ := succeeds.mpr readable
  cases failed.symm.trans rendered

end MailMerge
