import MailMerge.Mail.Partition
import MailMerge.Proofs.Lists
/-!
Which value a name stands for in a mail. Arguments go before the values of the owner, of which the
last one counts; declared images are attached and everything else is put into the text. Two maps are
filled from two sources, so every name is followed through all of them.
-/

set_option autoImplicit false

namespace MailMerge

/-- A name is declared as that of an image. -/
def DeclaredImage (tags : TagSet) (name : String) : Prop :=
  ∃ tag ∈ tags.toList, tag.type = .image ∧ tag.name.text = name

instance (tags : TagSet) (name : String) : Decidable (DeclaredImage tags name) :=
  inferInstanceAs (Decidable (∃ tag ∈ tags.toList, tag.type = .image ∧ tag.name.text = name))

/-- The text of the last value of one kind that stands under a name. -/
def lastText? (kind : CustomTag → Bool) (custom : List CustomTag) (name : String) : Option String :=
  (custom.reverse.find? fun c => kind c && c.name == name).map CustomTag.text

/-- A value that is put into the text. -/
def isScalar (c : CustomTag) : Bool := !c.isResource

/-- The text that is put in for a name. A declared image has none, unless it is the owner alone who
has a scalar of that name. -/
def scalarFor? (tags : TagSet) (arguments : Dict String) (custom : List CustomTag)
    (name : String) : Option String :=
  match arguments.get? name with
  | some value => if DeclaredImage tags name then none else some value
  | none => lastText? isScalar custom name

/-- The encoded image that is attached for a name. -/
def imageFor? (tags : TagSet) (arguments : Dict String) (custom : List CustomTag)
    (name : String) : Option String :=
  if DeclaredImage tags name then
    (arguments.get? name).or (lastText? CustomTag.isResource custom name)
  else none

/-- A text stands for the bytes of an image that is not too large. -/
def DecodesTo (limit : Nat) (encoded : String) (bytes : List UInt8) : Prop :=
  Base64.decodeText (Text.trimmed encoded) = .ok bytes ∧ bytes ≠ [] ∧ bytes.length ≤ limit

theorem mem_imageNames {tags : TagSet} {name : String} :
    name ∈ imageNames tags ↔ DeclaredImage tags name := by
  simp only [imageNames, List.mem_map, List.mem_filter, MergeTag.isResource, TagType.isResource,
    beq_iff_eq, DeclaredImage, and_assoc]

section LastText

variable {kind : CustomTag → Bool} {custom : List CustomTag} {name : String}

theorem lastText?_cons (c : CustomTag) :
    lastText? kind (c :: custom) name =
      (lastText? kind custom name).or (if kind c && c.name == name then some c.text else none) := by
  rw [lastText?, lastText?, List.reverse_cons, List.find?_append, Option.map_or]
  congr 1
  rw [List.find?_singleton]
  split <;> rfl

theorem lastText?_append (front back : List CustomTag) :
    lastText? kind (front ++ back) name =
      (lastText? kind back name).or (lastText? kind front name) := by
  rw [lastText?, List.reverse_append, List.find?_append, Option.map_or]
  rfl

theorem isSome_lastText? :
    (lastText? kind custom name).isSome = true ↔ ∃ c ∈ custom, kind c = true ∧ c.name = name := by
  simp [lastText?]

end LastText

namespace Partition

variable {names : List String} {p : Partition} {name : String}

/-- Partitions that give the same values are the same. -/
theorem ext_get? {q : Partition} (scalars : ∀ name, p.scalars.get? name = q.scalars.get? name)
    (images : ∀ name, p.images.get? name = q.images.get? name) : p = q := by
  cases p
  cases q
  rw [Partition.mk.injEq]
  exact ⟨Dict.ext_get? scalars, Dict.ext_get? images⟩

/-! What one value changes under a name. -/

theorem scalars_addCustom (c : CustomTag) :
    (p.addCustom names c).scalars.get? name =
      if isScalar c && c.name == name then some c.text else p.scalars.get? name := by
  rw [addCustom, isScalar]
  by_cases image : c.isResource = true
  · rw [if_pos image]
    split <;> simp [image]
  · simp [image, Dict.get?_set]

theorem images_addCustom (c : CustomTag) :
    (p.addCustom names c).images.get? name =
      if name ∈ names ∧ (c.isResource && c.name == name) = true then some c.text
      else p.images.get? name := by
  rw [addCustom]
  by_cases here : c.isResource = true ∧ c.name = name
  · obtain ⟨image, rfl⟩ := here
    by_cases declared : c.name ∈ names
    · simp [image, declared, Dict.get?_set]
    · simp [image, declared]
  · split
    · next image =>
        have other : c.name ≠ name := fun same => here ⟨image, same⟩
        split <;> simp [other, Dict.get?_set]
    · next scalar => simp [scalar]

theorem scalars_addArgument (a : String × String) :
    (p.addArgument names a).scalars.get? name =
      if a.1 = name then if name ∈ names then none else some a.2 else p.scalars.get? name := by
  rw [addArgument]
  by_cases here : a.1 = name
  · subst here
    by_cases declared : a.1 ∈ names
    · simp [declared, Dict.get?_erase]
    · simp [declared, Dict.get?_set]
  · split <;> simp [here, Dict.get?_erase, Dict.get?_set]

theorem images_addArgument (a : String × String) :
    (p.addArgument names a).images.get? name =
      if a.1 = name ∧ name ∈ names then some a.2 else p.images.get? name := by
  rw [addArgument]
  by_cases here : a.1 = name
  · subst here
    by_cases declared : a.1 ∈ names
    · simp [declared, Dict.get?_set]
    · simp [declared]
  · split <;> simp [here, Dict.get?_set]

/-- It does not matter which of two arguments comes first. -/
theorem addArgument_comm {a b : String × String} (differ : a.1 ≠ b.1) :
    (p.addArgument names a).addArgument names b = (p.addArgument names b).addArgument names a := by
  have apart (name : String) : ¬(b.1 = name ∧ a.1 = name) := fun ⟨right, left⟩ =>
    differ (left.trans right.symm)
  apply ext_get?
  · intro name
    simp only [scalars_addArgument]
    by_cases right : b.1 = name
    · have left : a.1 ≠ name := fun left => apart name ⟨right, left⟩
      rw [if_pos right, if_neg left, if_pos right]
    · rw [if_neg right, if_neg right]
  · intro name
    simp only [images_addArgument]
    by_cases right : b.1 = name
    · have left : a.1 ≠ name := fun left => apart name ⟨right, left⟩
      simp only [right, left, false_and, if_false]
    · simp only [right, false_and, if_false]

theorem foldl_addArgument_perm {arguments : Dict String} {entries : List (String × String)}
    (same : entries.Perm arguments.toList) :
    entries.foldl (addArgument names) p = arguments.toList.foldl (addArgument names) p := by
  apply same.foldl_eq'
  intro a left b right q
  by_cases named : a.1 = b.1
  · have first := (Dict.mem_iff_get? arguments a.1 a.2).mp (same.mem_iff.mp left)
    have second := (Dict.mem_iff_get? arguments b.1 b.2).mp (same.mem_iff.mp right)
    rw [named, second] at first
    have equal : a = b := Prod.ext named (Option.some.inj first).symm
    rw [equal]
  · exact addArgument_comm named

/-! What all values of the owner and then all arguments change under a name. -/

theorem scalars_foldl_addCustom (custom : List CustomTag) :
    (custom.foldl (addCustom names) p).scalars.get? name =
      (lastText? isScalar custom name).or (p.scalars.get? name) := by
  induction custom generalizing p with
  | nil => rfl
  | cons c custom ih =>
      rw [List.foldl_cons, ih, lastText?_cons, scalars_addCustom, Option.or_assoc]
      split <;> rfl

theorem images_foldl_addCustom (custom : List CustomTag) :
    (custom.foldl (addCustom names) p).images.get? name =
      (if name ∈ names then lastText? CustomTag.isResource custom name else none).or
        (p.images.get? name) := by
  induction custom generalizing p with
  | nil => simp [lastText?]
  | cons c custom ih =>
      rw [List.foldl_cons, ih, lastText?_cons, images_addCustom]
      by_cases declared : name ∈ names
      · simp only [declared, true_and, ↓reduceIte, Option.or_assoc]
        split <;> rfl
      · simp [declared]

theorem foldl_addArgument_others {arguments : List (String × String)}
    (others : ∀ a ∈ arguments, a.1 ≠ name) :
    (arguments.foldl (addArgument names) p).scalars.get? name = p.scalars.get? name ∧
      (arguments.foldl (addArgument names) p).images.get? name = p.images.get? name := by
  induction arguments generalizing p with
  | nil => exact ⟨rfl, rfl⟩
  | cons a arguments ih =>
      have other : a.1 ≠ name := others a List.mem_cons_self
      have rest := ih (p := p.addArgument names a)
        fun b later => others b (List.mem_cons_of_mem a later)
      rw [scalars_addArgument, images_addArgument, if_neg other, if_neg (by simp [other])] at rest
      exact rest

/-- An argument decides about its name, whatever comes before it. -/
theorem scalars_foldl_addArgument (arguments : Dict String) :
    (arguments.toList.foldl (addArgument names) p).scalars.get? name =
      match arguments.get? name with
      | some value => if name ∈ names then none else some value
      | none => p.scalars.get? name := by
  cases found : arguments.get? name with
  | none => exact (foldl_addArgument_others (Dict.ne_of_get?_none found)).1
  | some value =>
      obtain ⟨front, back, parts, behind⟩ := Dict.split_of_get? found
      rw [parts, List.foldl_append, List.foldl_cons, (foldl_addArgument_others behind).1,
        scalars_addArgument, if_pos rfl]

theorem images_foldl_addArgument (arguments : Dict String) :
    (arguments.toList.foldl (addArgument names) p).images.get? name =
      if name ∈ names then (arguments.get? name).or (p.images.get? name)
      else p.images.get? name := by
  by_cases declared : name ∈ names
  · rw [if_pos declared]
    cases found : arguments.get? name with
    | none => exact (foldl_addArgument_others (Dict.ne_of_get?_none found)).2
    | some value =>
        obtain ⟨front, back, parts, behind⟩ := Dict.split_of_get? found
        rw [parts, List.foldl_append, List.foldl_cons, (foldl_addArgument_others behind).2,
          images_addArgument, if_pos ⟨rfl, declared⟩]
        rfl
  · rw [if_neg declared]
    have undeclared (entries : List (String × String)) (q : Partition) :
        (entries.foldl (addArgument names) q).images.get? name = q.images.get? name := by
      induction entries generalizing q with
      | nil => rfl
      | cons a entries ih => rw [List.foldl_cons, ih, images_addArgument, if_neg (by simp [declared])]
    exact undeclared _ p

end Partition

section Selection

variable {tags : TagSet} {arguments : Dict String} {custom : List CustomTag} {name : String}

theorem scalars_partitionValues :
    (partitionValues tags arguments custom).scalars.get? name =
      scalarFor? tags arguments custom name := by
  rw [partitionValues, Partition.scalars_foldl_addArgument, Partition.scalars_foldl_addCustom,
    scalarFor?]
  simp only [mem_imageNames, Partition.empty, Dict.get?_empty, Option.or_none]

theorem images_partitionValues :
    (partitionValues tags arguments custom).images.get? name =
      imageFor? tags arguments custom name := by
  rw [partitionValues, Partition.images_foldl_addArgument, Partition.images_foldl_addCustom,
    imageFor?]
  simp only [mem_imageNames, Partition.empty, Dict.get?_empty, Option.or_none]
  split <;> rfl

/-- Values are told apart by what is selected for every name, and by nothing else. -/
theorem partitionValues_congr {arguments' : Dict String} {custom' : List CustomTag}
    (scalars : ∀ name, scalarFor? tags arguments custom name =
      scalarFor? tags arguments' custom' name)
    (images : ∀ name, imageFor? tags arguments custom name =
      imageFor? tags arguments' custom' name) :
    partitionValues tags arguments custom = partitionValues tags arguments' custom' := by
  apply Partition.ext_get?
  · intro name
    rw [scalars_partitionValues, scalars_partitionValues, scalars]
  · intro name
    rw [images_partitionValues, images_partitionValues, images]

/-- There is an image to attach for a declared name that an argument or an image of the owner has. -/
theorem isSome_imageFor? :
    (imageFor? tags arguments custom name).isSome = true ↔ DeclaredImage tags name ∧
      ((arguments.get? name).isSome = true ∨ ∃ c ∈ custom, c.isResource = true ∧ c.name = name) := by
  rw [imageFor?]
  split
  · next declared => simp [declared, isSome_lastText?]
  · next undeclared => simp [undeclared]

/-- An image of the owner that is not declared, or that an argument or a later image of its name
goes before. -/
def Unused (tags : TagSet) (arguments : Dict String) (c : CustomTag) (later : List CustomTag) :
    Prop :=
  c.isResource = true ∧ (¬DeclaredImage tags c.name ∨ (arguments.get? c.name).isSome = true ∨
    ∃ other ∈ later, other.isResource = true ∧ other.name = c.name)

theorem partitionValues_unused {front back : List CustomTag} {c : CustomTag}
    (unused : Unused tags arguments c back) :
    partitionValues tags arguments (front ++ c :: back) =
      partitionValues tags arguments (front ++ back) := by
  obtain ⟨image, reason⟩ := unused
  apply partitionValues_congr
  · intro name
    have same : lastText? isScalar (front ++ c :: back) name =
        lastText? isScalar (front ++ back) name := by
      rw [lastText?_append, lastText?_append, lastText?_cons]
      simp [isScalar, image]
    rw [scalarFor?, scalarFor?, same]
  · intro name
    rw [imageFor?, imageFor?, lastText?_append, lastText?_append, lastText?_cons]
    by_cases here : c.name = name
    · subst here
      rcases reason with undeclared | overridden | replaced
      · rw [if_neg undeclared, if_neg undeclared]
      · obtain ⟨value, given⟩ := Option.isSome_iff_exists.mp overridden
        simp [given]
      · obtain ⟨text, later⟩ := Option.isSome_iff_exists.mp (isSome_lastText?.mpr replaced)
        simp [later]
    · simp [here]

end Selection

section Decoding

variable {name encoded : String} {limit : Nat}

theorem decodeImage_eq_ok {bytes : List UInt8} :
    decodeImage name encoded limit = .ok bytes ↔ DecodesTo limit encoded bytes := by
  rw [decodeImage, DecodesTo]
  cases Base64.decodeText (Text.trimmed encoded) with
  | error fault => simp
  | ok decoded =>
      by_cases none : decoded = []
      · subst none
        constructor
        · exact nofun
        · rintro ⟨⟨⟩, some, -⟩
          exact absurd rfl some
      · by_cases large : limit < decoded.length
        · simp only [List.isEmpty_iff, none, large, ↓reduceIte]
          constructor
          · exact nofun
          · rintro ⟨⟨⟩, -, short⟩
            omega
        · simp only [List.isEmpty_iff, none, large, ↓reduceIte, Except.ok.injEq]
          constructor
          · rintro rfl
            exact ⟨rfl, none, by omega⟩
          · exact fun decodes => decodes.1

theorem ofImage_eq_ok {r : LinkedResource} :
    LinkedResource.ofImage name encoded limit = .ok r ↔ ∃ bytes, DecodesTo limit encoded bytes ∧
      r = ⟨name, MediaType.detect bytes, .bytes bytes, none⟩ := by
  have decodes (bytes : List UInt8) :
      decodeImage name encoded limit = .ok bytes ↔ DecodesTo limit encoded bytes :=
    decodeImage_eq_ok
  simp only [← decodes, LinkedResource.ofImage]
  cases decodeImage name encoded limit with
  | error e => simp
  | ok bytes => simp [eq_comm]

theorem ofImage_eq_error {e : RenderError} :
    LinkedResource.ofImage name encoded limit = .error e ↔
      decodeImage name encoded limit = .error e := by
  rw [LinkedResource.ofImage]
  cases decodeImage name encoded limit <;> simp

end Decoding

section Prepare

variable {tags : TagSet} {arguments : Dict String} {custom : List CustomTag} {limit : Nat}

/-- What a prepared mail holds, told from what is selected for every name. -/
structure PreparedMerge.Selects (tags : TagSet) (arguments : Dict String) (custom : List CustomTag)
    (limit : Nat) (prepared : PreparedMerge) : Prop where
  /-- The text for every name. -/
  scalars : ∀ name, prepared.scalars.get? name = scalarFor? tags arguments custom name
  /-- The resources stand in the strict order of their content ids. -/
  ascending : prepared.linkedResources.Pairwise fun a b => a.contentId < b.contentId
  /-- There is one for every declared image that an argument or an image of the owner is given for,
  and no other. -/
  names : ∀ name, (∃ r ∈ prepared.linkedResources, r.contentId = name) ↔ DeclaredImage tags name ∧
    ((arguments.get? name).isSome = true ∨ ∃ c ∈ custom, c.isResource = true ∧ c.name = name)
  /-- Each holds the bytes of the image for its name. -/
  payloads : ∀ r ∈ prepared.linkedResources, ∃ encoded bytes,
    imageFor? tags arguments custom r.contentId = some encoded ∧ DecodesTo limit encoded bytes ∧
      r = ⟨r.contentId, MediaType.detect bytes, .bytes bytes, none⟩

theorem prepareMerge_eq_ok {prepared : PreparedMerge} :
    prepareMerge tags arguments custom limit = .ok prepared ↔ ∃ resources,
      List.Forall₂ (fun image r => LinkedResource.ofImage image.1 image.2 limit = .ok r)
        (partitionValues tags arguments custom).images.toList resources ∧
      prepared = ⟨(partitionValues tags arguments custom).scalars, resources⟩ := by
  simp only [prepareMerge, ← mapM_eq_ok_iff]
  cases (partitionValues tags arguments custom).images.toList.mapM
    fun image => LinkedResource.ofImage image.1 image.2 limit with
  | error e => simp
  | ok resources => simp [eq_comm]

theorem contentIds_ofImage {images : List (String × String)} {resources : List LinkedResource}
    (all : List.Forall₂ (fun image r => LinkedResource.ofImage image.1 image.2 limit = .ok r)
      images resources) :
    resources.map LinkedResource.contentId = images.map Prod.fst := by
  induction all with
  | nil => rfl
  | cons made _ ih =>
      obtain ⟨bytes, -, rfl⟩ := ofImage_eq_ok.mp made
      rw [List.map_cons, List.map_cons, ih]

/-- The image that stands first in the order of names decides about the error. -/
theorem prepareMerge_eq_error {e : RenderError} :
    prepareMerge tags arguments custom limit = .error e ↔ ∃ name encoded,
      imageFor? tags arguments custom name = some encoded ∧
      decodeImage name encoded limit = .error e ∧
      ∀ other < name, ∀ value, imageFor? tags arguments custom other = some value →
        ∃ bytes, DecodesTo limit value bytes := by
  have failed : prepareMerge tags arguments custom limit = .error e ↔
      ((partitionValues tags arguments custom).images.toList.mapM
        fun image => LinkedResource.ofImage image.1 image.2 limit) = .error e := by
    simp only [prepareMerge]
    cases (partitionValues tags arguments custom).images.toList.mapM
      fun image => LinkedResource.ofImage image.1 image.2 limit <;> simp
  have decodes (image : String × String) :
      (∃ r, LinkedResource.ofImage image.1 image.2 limit = .ok r) ↔
        ∃ bytes, DecodesTo limit image.2 bytes := by
    simp only [ofImage_eq_ok]
    constructor
    · rintro ⟨_, bytes, good, -⟩
      exact ⟨bytes, good⟩
    · rintro ⟨bytes, good⟩
      exact ⟨_, bytes, good, rfl⟩
  rw [failed, Ascending.mapM_eq_error_iff]
  simp only [Prod.exists, Prod.forall, Dict.mem_iff_get?, images_partitionValues,
    ofImage_eq_error, decodes]
  constructor
  · rintro ⟨name, encoded, selected, wrong, least⟩
    exact ⟨name, encoded, selected, wrong, fun other lower value h => least other value h lower⟩
  · rintro ⟨name, encoded, selected, wrong, least⟩
    exact ⟨name, encoded, selected, wrong, fun other value h lower => least other lower value h⟩

theorem selects_of_prepareMerge {prepared : PreparedMerge}
    (done : prepareMerge tags arguments custom limit = .ok prepared) :
    prepared.Selects tags arguments custom limit := by
  obtain ⟨resources, all, rfl⟩ := prepareMerge_eq_ok.mp done
  have ids : resources.map LinkedResource.contentId =
      (partitionValues tags arguments custom).images.toList.map Prod.fst := contentIds_ofImage all
  refine ⟨fun name => scalars_partitionValues, ?_, ?_, ?_⟩
  · have ascending := (partitionValues tags arguments custom).images.ascending
    rw [← List.pairwise_map (f := Prod.fst) (R := (· < ·)), ← ids, List.pairwise_map] at ascending
    exact ascending
  · intro name
    rw [← isSome_imageFor?, ← List.mem_map, ids, List.mem_map, ← images_partitionValues,
      Option.isSome_iff_exists]
    constructor
    · rintro ⟨⟨_, encoded⟩, inside, rfl⟩
      exact ⟨encoded, (Dict.mem_iff_get? _ _ _).mp inside⟩
    · rintro ⟨encoded, found⟩
      exact ⟨(name, encoded), (Dict.mem_iff_get? _ _ _).mpr found, rfl⟩
  · intro r inside
    obtain ⟨image, present, made⟩ := exists_of_forall₂ all inside
    obtain ⟨bytes, decodes, rfl⟩ := ofImage_eq_ok.mp made
    have selected := (Dict.mem_iff_get? _ _ _).mp present
    rw [images_partitionValues] at selected
    exact ⟨image.2, bytes, selected, decodes, rfl⟩

/-- A prepared mail holds exactly what is selected for every name. It fails exactly if a selected
image does not decode, and then with the error of the first such name. Images that are not selected
do not matter, and neither does the order in which the arguments come or are gone through. -/
theorem prepareMerge_selects (tags : TagSet) (arguments : Dict String) (custom : List CustomTag)
    (limit : Nat) :
    (∀ prepared, prepareMerge tags arguments custom limit = .ok prepared →
        prepared.Selects tags arguments custom limit) ∧
      ((∃ e, prepareMerge tags arguments custom limit = .error e) ↔ ∃ name encoded,
        imageFor? tags arguments custom name = some encoded ∧
          ¬∃ bytes, DecodesTo limit encoded bytes) ∧
      (∀ e, prepareMerge tags arguments custom limit = .error e ↔ ∃ name encoded,
        imageFor? tags arguments custom name = some encoded ∧
        decodeImage name encoded limit = .error e ∧
        ∀ other < name, ∀ value, imageFor? tags arguments custom other = some value →
          ∃ bytes, DecodesTo limit value bytes) ∧
      (∀ front c back, custom = front ++ c :: back → Unused tags arguments c back →
        prepareMerge tags arguments (front ++ back) limit =
          prepareMerge tags arguments custom limit) ∧
      ∀ entries : List (String × String), entries.Perm arguments.toList →
        prepareMerge tags (Ascending.ofList entries) custom limit =
            prepareMerge tags arguments custom limit ∧
          entries.foldl (Partition.addArgument (imageNames tags))
              (custom.foldl (Partition.addCustom (imageNames tags)) Partition.empty) =
            partitionValues tags arguments custom := by
  refine ⟨fun prepared => selects_of_prepareMerge, ?_, fun e => prepareMerge_eq_error, ?_, ?_⟩
  · constructor
    · rintro ⟨e, failed⟩
      obtain ⟨name, encoded, selected, wrong, -⟩ := prepareMerge_eq_error.mp failed
      refine ⟨name, encoded, selected, ?_⟩
      rintro ⟨bytes, good⟩
      rw [decodeImage_eq_ok.mpr good] at wrong
      cases wrong
    · rintro ⟨name, encoded, selected, never⟩
      cases ran : prepareMerge tags arguments custom limit with
      | error e => exact ⟨e, rfl⟩
      | ok prepared =>
          have selects := selects_of_prepareMerge ran
          have named := (selects.names name).mpr
            (isSome_imageFor?.mp (by rw [selected]; rfl))
          obtain ⟨r, inside, rfl⟩ := named
          obtain ⟨value, bytes, same, good, -⟩ := selects.payloads r inside
          rw [selected] at same
          cases same
          exact absurd ⟨bytes, good⟩ never
  · rintro front c back rfl unused
    rw [prepareMerge, prepareMerge, partitionValues_unused unused]
  · intro entries same
    rw [Ascending.ofList_perm same]
    exact ⟨rfl, Partition.foldl_addArgument_perm same⟩

end Prepare

/-- The tag of an image that an argument brings. -/
def logoTag : MergeTag := ⟨⟨"logo", by decide +kernel⟩, ⟨"logo", by decide⟩, .image⟩

/-- The tag of an image that the owner has. -/
def photoTag : MergeTag := ⟨⟨"photo", by decide +kernel⟩, ⟨"photo", by decide⟩, .image⟩

/-- A logo of the owner, which the argument goes before. -/
def ownLogo : CustomTag := ⟨logoTag, .image [7], rfl, by decide +kernel⟩

/-- Two photos of the owner, and a text of the same name. -/
def photos : List CustomTag :=
  [⟨photoTag, .image [8, 9], rfl, by decide +kernel⟩,
    ⟨{ photoTag with type := .string }, .string "a photo", rfl, by decide +kernel⟩,
    ⟨photoTag, .image [1, 2, 3], rfl, by decide +kernel⟩]

/-- Arguments with a logo, and a text that no tag is declared for. -/
def portraitArguments : Dict String := Ascending.ofList [("title", "Hi"), ("logo", " BAUG ")]

/-- What is prepared for them. -/
def portrait : PreparedMerge :=
  ⟨Ascending.ofList [("photo", "a photo"), ("title", "Hi")],
    [⟨"logo", MediaType.octetStream, .bytes [4, 5, 6], none⟩,
      ⟨"photo", MediaType.octetStream, .bytes [1, 2, 3], none⟩]⟩

theorem portrait_selected :
    let tags : TagSet := Ascending.ofList [logoTag, photoTag]
    portrait.Selects tags portraitArguments (ownLogo :: photos) 3 ∧
      prepareMerge tags portraitArguments photos 3 = .ok portrait ∧
      prepareMerge tags portraitArguments (ownLogo :: photos) 2 = .error (.tooLarge "logo" 3 2) ∧
      ∃ name encoded, imageFor? tags portraitArguments (ownLogo :: photos) name = some encoded ∧
        ¬∃ bytes, DecodesTo 2 encoded bytes := by
  intro tags
  have done : prepareMerge tags portraitArguments (ownLogo :: photos) 3 = .ok portrait := by
    decide +kernel
  have failed : prepareMerge tags portraitArguments (ownLogo :: photos) 2 =
      .error (.tooLarge "logo" 3 2) := by decide +kernel
  have overridden : (portraitArguments.get? ownLogo.name).isSome = true := by decide +kernel
  have unused : Unused tags portraitArguments ownLogo photos := ⟨rfl, Or.inr (Or.inl overridden)⟩
  obtain ⟨selects, -, -, drop, -⟩ :=
    prepareMerge_selects tags portraitArguments (ownLogo :: photos) 3
  obtain ⟨-, fails, -⟩ := prepareMerge_selects tags portraitArguments (ownLogo :: photos) 2
  refine ⟨selects portrait done, ?_, failed, fails.mp ⟨_, failed⟩⟩
  exact (drop [] ownLogo photos rfl unused).trans done

end MailMerge
