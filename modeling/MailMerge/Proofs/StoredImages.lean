import MailMerge.Proofs.Base64Text
import MailMerge.Proofs.Precedence
/-!
Images of an owner when a mail is prepared. A tag with a value keeps the bytes of its image and is
passed on as their canonical text. That text has no white space and decodes to the bytes, of which
there are some, so all that can go wrong is that there are too many.
-/

set_option autoImplicit false

namespace MailMerge

/-- Only images are attached, and an image has some bytes. -/
theorem CustomTag.image_of_isResource {c : CustomTag} (image : c.isResource = true) :
    ∃ bytes, c.value = .image bytes ∧ bytes ≠ [] := by
  have solid := c.not_blank
  cases held : c.value with
  | image bytes =>
      refine ⟨bytes, rfl, ?_⟩
      rintro rfl
      rw [held] at solid
      exact absurd solid (by decide +kernel)
  | _ =>
      rw [CustomTag.isResource, held] at image
      cases image

/-- The bytes of an image come back from its canonical text, unless there are too many. -/
theorem decodeImage_text {c : CustomTag} {bytes : List UInt8} (held : c.value = .image bytes)
    (name : String) (limit : Nat) : decodeImage name c.text limit =
      if limit < bytes.length then .error (.tooLarge name bytes.length limit) else .ok bytes := by
  have image : c.isResource = true := by
    rw [CustomTag.isResource, held]
    rfl
  obtain ⟨_, same, some⟩ := c.image_of_isResource image
  rw [held, TagValue.image.injEq] at same
  subst same
  rw [decodeImage, CustomTag.text, held, TagValue.text,
    Text.trimmed_of_solid (Base64.solid_encodeText bytes), Base64.decodeText_encodeText]
  simp [some]

/-- The image that an owner has for a name: the last one, if there are several. -/
def ownImage? (custom : List CustomTag) (name : String) : Option CustomTag :=
  custom.reverse.find? fun c => c.isResource && c.name == name

/-- The name is declared as that of an image, and the image that the owner has for it consists of
these bytes. -/
def StoredImage (tags : TagSet) (custom : List CustomTag) (name : String) (bytes : List UInt8) :
    Prop :=
  DeclaredImage tags name ∧ ∃ c, ownImage? custom name = some c ∧ c.value = .image bytes

section Stored

variable {tags : TagSet} {arguments : Dict String} {custom : List CustomTag} {limit : Nat}
  {name : String} {bytes : List UInt8}

theorem StoredImage.unique {other : List UInt8} (stored : StoredImage tags custom name bytes)
    (stored' : StoredImage tags custom name other) : bytes = other := by
  obtain ⟨-, c, found, held⟩ := stored
  obtain ⟨-, c', found', held'⟩ := stored'
  rw [found, Option.some.injEq] at found'
  subst found'
  rwa [held, TagValue.image.injEq] at held'

/-- Without arguments for images, the images of the owner are attached, by their texts. -/
theorem imageFor?_stored (own : ∀ name, DeclaredImage tags name → arguments.get? name = none)
    {encoded : String} : imageFor? tags arguments custom name = some encoded ↔
      DeclaredImage tags name ∧ ∃ c, ownImage? custom name = some c ∧ encoded = c.text := by
  rw [imageFor?]
  split
  · next declared =>
      rw [own name declared, Option.none_or, lastText?, Option.map_eq_some_iff]
      simp only [declared, true_and, ownImage?, eq_comm]
  · next undeclared => simp [undeclared]

/-- What an owner has for the name of an image consists of some bytes. -/
theorem exists_stored {c : CustomTag} (declared : DeclaredImage tags name)
    (found : ownImage? custom name = some c) :
    ∃ bytes, c.value = .image bytes ∧ StoredImage tags custom name bytes := by
  have kind := List.find?_some found
  rw [Bool.and_eq_true] at kind
  obtain ⟨bytes, held, -⟩ := c.image_of_isResource kind.1
  exact ⟨bytes, held, declared, c, found, held⟩

variable {prepared : PreparedMerge} {r : LinkedResource}

theorem stored_of_mem (own : ∀ name, DeclaredImage tags name → arguments.get? name = none)
    (done : prepareMerge tags arguments custom limit = .ok prepared)
    (inside : r ∈ prepared.linkedResources) : ∃ bytes,
      StoredImage tags custom r.contentId bytes ∧ bytes.length ≤ limit ∧
        r = ⟨r.contentId, MediaType.detect bytes, .bytes bytes, none⟩ := by
  obtain ⟨_, decoded, selected, decodes, made⟩ := (selects_of_prepareMerge done).payloads r inside
  obtain ⟨declared, c, found, rfl⟩ := (imageFor?_stored own).mp selected
  obtain ⟨bytes, held, stored⟩ := exists_stored declared found
  have result := decodeImage_text held r.contentId limit
  rw [decodeImage_eq_ok.mpr decodes] at result
  split at result
  · cases result
  · cases result
    exact ⟨decoded, stored, decodes.2.2, made⟩

theorem mem_of_stored (own : ∀ name, DeclaredImage tags name → arguments.get? name = none)
    (done : prepareMerge tags arguments custom limit = .ok prepared)
    (stored : StoredImage tags custom name bytes) : bytes.length ≤ limit ∧
      ⟨name, MediaType.detect bytes, .bytes bytes, none⟩ ∈ prepared.linkedResources := by
  have ⟨declared, c, found, _⟩ := stored
  have selected : imageFor? tags arguments custom name = some c.text :=
    (imageFor?_stored own).mpr ⟨declared, c, found, rfl⟩
  obtain ⟨r, inside, rfl⟩ := ((selects_of_prepareMerge done).names name).mpr
    (isSome_imageFor?.mp (by rw [selected]; rfl))
  obtain ⟨other, stored', short, made⟩ := stored_of_mem own done inside
  obtain rfl := stored.unique stored'
  exact ⟨short, made ▸ inside⟩

theorem tooLarge_of_error (own : ∀ name, DeclaredImage tags name → arguments.get? name = none)
    {e : RenderError} (failed : prepareMerge tags arguments custom limit = .error e) :
    ∃ name bytes, StoredImage tags custom name bytes ∧ limit < bytes.length ∧
      e = .tooLarge name bytes.length limit := by
  obtain ⟨name, _, selected, wrong, -⟩ := prepareMerge_eq_error.mp failed
  obtain ⟨declared, c, found, rfl⟩ := (imageFor?_stored own).mp selected
  obtain ⟨bytes, held, stored⟩ := exists_stored declared found
  rw [decodeImage_text held] at wrong
  split at wrong
  · next large =>
      cases wrong
      exact ⟨name, bytes, stored, large, rfl⟩
  · cases wrong

theorem exists_prepareMerge_stored
    (own : ∀ name, DeclaredImage tags name → arguments.get? name = none) :
    (∃ prepared, prepareMerge tags arguments custom limit = .ok prepared) ↔
      ∀ name bytes, StoredImage tags custom name bytes → bytes.length ≤ limit := by
  constructor
  · rintro ⟨prepared, done⟩ name bytes stored
    exact (mem_of_stored own done stored).1
  · intro short
    cases result : prepareMerge tags arguments custom limit with
    | ok prepared => exact ⟨prepared, rfl⟩
    | error e =>
        obtain ⟨name, bytes, stored, large, -⟩ := tooLarge_of_error own result
        exact absurd (short name bytes stored) (Nat.not_le.mpr large)

/-- If no argument is given for a declared image, preparing a mail fails only because of an image of
the owner that is too large, and succeeds if there is none. Then the images that are attached are
those of the owner, with the bytes that the owner has stored. -/
theorem prepareMerge_stored_images (tags : TagSet) (arguments : Dict String)
    (custom : List CustomTag) (limit : Nat)
    (own : ∀ name, DeclaredImage tags name → arguments.get? name = none) :
    (∀ e, prepareMerge tags arguments custom limit = .error e → ∃ name bytes,
        StoredImage tags custom name bytes ∧ limit < bytes.length ∧
          e = .tooLarge name bytes.length limit) ∧
      ((∃ prepared, prepareMerge tags arguments custom limit = .ok prepared) ↔
        ∀ name bytes, StoredImage tags custom name bytes → bytes.length ≤ limit) ∧
      ∀ prepared, prepareMerge tags arguments custom limit = .ok prepared →
        ∀ r, r ∈ prepared.linkedResources ↔ ∃ name bytes, StoredImage tags custom name bytes ∧
          r = ⟨name, MediaType.detect bytes, .bytes bytes, none⟩ := by
  refine ⟨fun e failed => tooLarge_of_error own failed, exists_prepareMerge_stored own, ?_⟩
  intro prepared done r
  constructor
  · intro inside
    obtain ⟨bytes, stored, -, made⟩ := stored_of_mem own done inside
    exact ⟨r.contentId, bytes, stored, made⟩
  · rintro ⟨name, bytes, stored, rfl⟩
    exact (mem_of_stored own done stored).2

end Stored

/-- The tag of a portrait. -/
def portraitTag : MergeTag := ⟨⟨"portrait", by decide +kernel⟩, ⟨"portrait", by decide⟩, .image⟩

/-- Two portraits of an owner. -/
def portraits : List CustomTag :=
  [⟨portraitTag, .image [8], rfl, by decide +kernel⟩,
    ⟨portraitTag, .image [2, 3, 5], rfl, by decide +kernel⟩]

/-- An argument with the name of a tag that is not declared, and a text that is no base64. -/
def badgeArgument : Dict String := Ascending.ofList [("badge", "%%%")]

theorem portraits_attached :
    let tags : TagSet := Ascending.ofList [portraitTag]
    (∀ name, DeclaredImage tags name → badgeArgument.get? name = none) ∧
      prepareMerge tags badgeArgument portraits 2 = .error (.tooLarge "portrait" 3 2) ∧
      (∃ name bytes, StoredImage tags portraits name bytes ∧ 2 < bytes.length ∧
        RenderError.tooLarge "portrait" 3 2 = .tooLarge name bytes.length 2) ∧
      (∀ name bytes, StoredImage tags portraits name bytes → bytes.length ≤ 3) ∧
      ∃ prepared, prepareMerge tags badgeArgument portraits 3 = .ok prepared ∧
        ∀ r, r ∈ prepared.linkedResources ↔ ∃ name bytes, StoredImage tags portraits name bytes ∧
          r = ⟨name, MediaType.detect bytes, .bytes bytes, none⟩ := by
  intro tags
  have own : ∀ name, DeclaredImage tags name → badgeArgument.get? name = none := by
    rintro _ ⟨tag, inside, -, rfl⟩
    obtain rfl : tag = portraitTag := List.mem_singleton.mp inside
    decide +kernel
  have failed : prepareMerge tags badgeArgument portraits 2 = .error (.tooLarge "portrait" 3 2) := by
    decide +kernel
  have done : prepareMerge tags badgeArgument portraits 3 = .ok ⟨badgeArgument,
      [⟨"portrait", MediaType.octetStream, .bytes [2, 3, 5], none⟩]⟩ := by decide +kernel
  obtain ⟨fails, -⟩ := prepareMerge_stored_images tags badgeArgument portraits 2 own
  obtain ⟨-, succeeds, attached⟩ := prepareMerge_stored_images tags badgeArgument portraits 3 own
  exact ⟨own, failed, fails _ failed, succeeds.mp ⟨_, done⟩, _, done, attached _ done⟩

end MailMerge
