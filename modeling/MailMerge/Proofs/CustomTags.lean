import MailMerge.Proofs.JsonText
import MailMerge.Proofs.ShortCodes
import MailMerge.Proofs.TypedValues
import MailMerge.Tag.Json
/-!
Merge tags with a value, however they come into being. All ways lead through `withTag`, which takes
any text of a value; since the canonical text has the same value, it makes no difference how often a
value is printed and read on the way. A text that is blank has no value but itself, so the checks
for blank texts agree as well.
-/

set_option autoImplicit false

namespace MailMerge

namespace CustomTag

/-- What a tag makes of a value: a tag with this value, unless its canonical text is blank. -/
theorem withTag_found (tag : MergeTag) {raw : String} {v : TagValue}
    (found : TagValue.ofText? raw tag.type = some v) :
    withTag tag raw =
      if h : Text.isBlank v.text = false then .ok ⟨tag, v, TagValue.type_of_ofText? found, h⟩
      else .error (.blank .value) := by
  rw [withTag]
  split
  · next blank =>
      -- Only a string is read from a blank text, and then its canonical text is blank as well.
      rw [dif_neg]
      rw [TagValue.text_of_blank blank found, blank]
      decide
  · split
    · next missing =>
        rw [found] at missing
        cases missing
    · next v' found' =>
        have same : v = v' := Option.some.inj (found.symm.trans found')
        subst same
        rfl

/-- The canonical text of a value makes the same tag as any other text of it. -/
theorem withTag_canonical (tag : MergeTag) {raw : String} {v : TagValue}
    (found : TagValue.ofText? raw tag.type = some v) : withTag tag raw = withTag tag v.text := by
  rw [withTag_found tag found, withTag_found tag (TagValue.ofText?_canonical found)]

theorem type_of_ofName {name : String} {t : TagType} {tag : MergeTag}
    (made : MergeTag.ofName name t = .ok tag) : tag.type = t := by
  obtain ⟨_, _, made⟩ := bind_eq_ok.1 made
  obtain ⟨_, _, made⟩ := bind_eq_ok.1 made
  cases made
  rfl

theorem ofString_eq_ofValue (name : String) {t : TagType} {raw : String} {v : TagValue}
    (found : TagValue.ofText? raw t = some v) : ofString name t raw = ofValue name v := by
  rw [ofValue, TagValue.type_of_ofText? found, ofString, ofString]
  cases made : MergeTag.ofName name t with
  | error error => rfl
  | ok tag =>
      have typed := type_of_ofName made
      subst typed
      exact withTag_canonical tag found

/-- The first type that takes a text decides what `infer` makes of it. -/
theorem infer_eq_ofString (name raw : String) :
    ∃ t, TagType.primitives.find? (fun t => (TagValue.parse raw t).isOk) = some t ∧
      infer name raw = ofString name t raw := by
  have accepts (t : TagType) :
      (TagValue.parse raw t).isOk = (TagValue.ofText? raw t).isSome := by
    rw [TagValue.parse]
    cases TagValue.ofText? raw t <;> rfl
  have candidates : TagType.all.filter TagType.primitives.contains = TagType.primitives := by
    decide
  cases first : TagType.primitives.findSome? (TagValue.ofText? raw) with
  | none =>
      have string := List.findSome?_eq_none_iff.1 first .string (by decide)
      cases string
  | some v =>
      obtain ⟨front, t, back, split, found, before⟩ := List.findSome?_eq_some_iff.1 first
      refine ⟨t, ?_, ?_⟩
      · rw [List.find?_eq_some_iff_append]
        refine ⟨by rw [accepts, found, Option.isSome_some], front, back, split, ?_⟩
        intro other earlier
        rw [accepts, before other earlier]
        rfl
      · rw [infer, TagValue.parseFirst, candidates, first, ofString_eq_ofValue name found]

/-- The tags with a value that can come into being. -/
inductive Built : CustomTag → Prop
  | withTag {tag : MergeTag} {raw : String} {c : CustomTag}
      (made : withTag tag raw = .ok c) : Built c
  | ofString {name raw : String} {t : TagType} {c : CustomTag}
      (made : ofString name t raw = .ok c) : Built c
  | ofValue {name : String} {value : TagValue} {c : CustomTag}
      (made : ofValue name value = .ok c) : Built c
  | infer {name raw : String} {c : CustomTag} (made : infer name raw = .ok c) : Built c

/-- Every way goes through `withTag`. -/
theorem Built.made {c : CustomTag} (built : Built c) :
    ∃ tag raw, CustomTag.withTag tag raw = .ok c := by
  have string {name raw : String} {t : TagType} (made : CustomTag.ofString name t raw = .ok c) :
      ∃ tag raw, CustomTag.withTag tag raw = .ok c := by
    obtain ⟨tag, -, made⟩ := bind_eq_ok.1 made
    exact ⟨tag, raw, made⟩
  cases built with
  | withTag made => exact ⟨_, _, made⟩
  | ofString made => exact string made
  | ofValue made => exact string made
  | @infer name raw _ made =>
      obtain ⟨t, -, same⟩ := infer_eq_ofString name raw
      exact string (same ▸ made)

theorem withTag_eq_ok {tag : MergeTag} {raw : String} {c : CustomTag}
    (made : withTag tag raw = .ok c) :
    c.tag = tag ∧ TagValue.ofText? raw tag.type = some c.value := by
  rw [withTag] at made
  split at made
  · cases made
  · split at made
    · cases made
    · next v found =>
        split at made
        · cases made
          exact ⟨rfl, found⟩
        · cases made

/-- A tag is made again from its declaration and its text. -/
theorem Built.withTag_text {c : CustomTag} (built : Built c) :
    CustomTag.withTag c.tag c.text = .ok c := by
  obtain ⟨tag, raw, made⟩ := built.made
  obtain ⟨rfl, found⟩ := withTag_eq_ok made
  rw [← made, text, ← withTag_canonical c.tag found]

end CustomTag

theorem NonBlank.read_text (t : NonBlank) : read (.string t.text) = .ok t := by
  rw [read, Json.readAccepted, check, ofString?_text]
  rfl

theorem ShortCode.read_text (code : ShortCode) : read (.string code.text) = .ok code := by
  rw [read, Json.readAccepted, parse_text]
  rfl

theorem TagType.readLoose_name (t : TagType) :
    Json.readLooseName ofName? (.string t.name) = .ok t := by
  cases t <;> decide

/-- A merge tag is read from the members of its record. -/
theorem MergeTag.read_members (tag : MergeTag) :
    (shapeWith (Json.readLooseName TagType.ofName?)).read (.object (Json.memberTrees tag.members)) =
      .ok tag := by
  have name := NonBlank.read_text tag.name
  have code := ShortCode.read_text tag.shortCode
  have type := TagType.readLoose_name tag.type
  simp [shapeWith, Functor.map, Seq.seq, Json.Shape.read, members, Json.memberTrees, Json.tree,
    Json.Shape.checkMembers, Json.Shape.required, Json.Shape.fieldOr, Except.map, List.lookup_cons,
    name, code, type]

namespace CustomTag

/-- The members of a record are taken apart into the text of the value and the other ones. -/
theorem splitValue_members (c : CustomTag) :
    splitValue none [] (Json.memberTrees (c.tag.members ++ [("value", .string c.text)])) =
      .ok (c.text, Json.memberTrees c.tag.members) := by
  simp [splitValue, MergeTag.members, Json.memberTrees, Json.tree, JsonTree.value?]

theorem read_toJson {c : CustomTag} (built : Built c) : read c.toJson.tree = .ok c := by
  rw [toJson, Json.tree, read]
  simp only [splitValue_members, MergeTag.read_members, built.withTag_text, bind, Except.bind]
  rfl

/-- A tag with a value is read back from the text of its record. -/
theorem readDocument_toJson {c : CustomTag} (built : Built c) :
    Json.readDocument read c.toJson.text = .ok c := by
  have readable : c.toJson.Readable JsonDocument.maxDepth :=
    ⟨trivial, trivial, trivial, trivial, trivial⟩
  exact Json.readDocument_of_ofText (Json.ofText_text readable) (read_toJson built)

/-- All ways to make a tag with a value agree. A text and the value that it stands for make the same
tag, or fail for the same reason; a text of unknown type is taken as one of the first type that
takes it; and what is made has a value of the declared type, whose canonical text is not blank and
gives the tag back, alone as in the record of the tag. -/
theorem construction_paths_agree :
    (∀ (name raw : String) (t : TagType) (v : TagValue), TagValue.parse raw t = .ok v →
      ofString name t raw = ofValue name v) ∧
    (∀ name raw : String, ∃ t,
      TagType.primitives.find? (fun t => (TagValue.parse raw t).isOk) = some t ∧
        infer name raw = ofString name t raw) ∧
    ∀ c : CustomTag, Built c →
      c.value.type = c.tag.type ∧ c.text = c.value.text ∧ Text.isBlank c.text = false ∧
        withTag c.tag c.text = .ok c ∧
        c.toJson = .object [("name", .string c.tag.name.text),
          ("shortCode", .string c.tag.shortCode.text), ("typeName", .string c.tag.type.name),
          ("value", .string c.text)] ∧
        Json.readDocument read c.toJson.text = .ok c := by
  refine ⟨?_, infer_eq_ofString, ?_⟩
  · intro name raw t v found
    exact ofString_eq_ofValue name (TagValue.parse_eq_ok.1 found)
  · intro c built
    exact ⟨c.type_value, rfl, c.not_blank, built.withTag_text, rfl, readDocument_toJson built⟩

/-- A tag with the value true. -/
def active : CustomTag :=
  ⟨⟨⟨"Active", by decide⟩, ⟨"active", by decide⟩, .bool⟩, .bool true, rfl, by decide⟩

theorem active_made :
    ofString "Active" .bool " TRUE" = .ok active ∧ ofValue "Active" (.bool true) = .ok active ∧
      Json.readDocument read active.toJson.text = .ok active := by
  have found : TagValue.parse " TRUE" .bool = .ok (.bool true) :=
    TagValue.parse_eq_ok.2 (by decide)
  have made : ofString "Active" .bool " TRUE" = .ok active := rfl
  have same := construction_paths_agree.1 "Active" " TRUE" .bool (.bool true) found
  obtain ⟨-, -, -, -, -, read⟩ := construction_paths_agree.2.2 active (.ofString made)
  exact ⟨made, same ▸ made, read⟩

end CustomTag

end MailMerge
