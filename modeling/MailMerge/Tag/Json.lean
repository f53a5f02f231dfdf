import MailMerge.Json.Shape
import MailMerge.Tag.Custom
/-!
Merge tags in JSON. A tag is a record of its name, its short code and the name of its type; a tag
with a value has the text of the value beside these.
-/

namespace MailMerge

/-- Reads a short code. -/
def ShortCode.read : Json.Reader ShortCode := Json.readAccepted TagError.message ShortCode.parse

/-- Reads a text that is not blank. -/
def NonBlank.read : Json.Reader NonBlank :=
  Json.readAccepted TagError.message (NonBlank.check .storedText)

/-- Reads the name of a type. -/
def TagType.read : Json.Reader TagType := Json.readName TagType.ofName?

namespace MergeTag

/-- A merge tag as a record whose type is read by `readType`. -/
def shapeWith (readType : Json.Reader TagType) : Json.Shape MergeTag :=
  MergeTag.mk <$> .required "name" NonBlank.read <*> .required "shortCode" ShortCode.read
    <*> .required "typeName" readType

/-- A merge tag as a record. -/
def shape : Json.Shape MergeTag := shapeWith TagType.read

/-- The members of the record of a merge tag. -/
def members (tag : MergeTag) : List (String × Json) :=
  [("name", .string tag.name.text), ("shortCode", .string tag.shortCode.text),
    ("typeName", .string tag.type.name)]

/-- The record of a merge tag. -/
def toJson (tag : MergeTag) : Json := .object tag.members

end MergeTag

namespace CustomTag

/-- Takes the text of the value from the members of an object, and leaves the others, which must all
stand for values. There must be one member with the value. -/
def splitValue (found : Option String) (others : List (Option String × JsonTree)) :
    List (Option String × JsonTree) →
      Except Json.Fault (String × List (Option String × JsonTree))
  | [] =>
    match found with
    | some raw => .ok (raw, others.reverse)
    | none => .error .shape
  | (name, value) :: members =>
    if name = some "value" then
      match found, value with
      | none, .string raw => splitValue (some raw) others members
      | _, _ => .error .shape
    else if name.isSome && value.value?.isSome then
      splitValue found ((name, value) :: others) members
    else .error .shape

/-- Reads a merge tag with a value, from an object only. Nothing is refused before all members have
been looked at. -/
def read : Json.Reader CustomTag
  | .object members => do
    let (raw, others) ← splitValue none [] members
    let tag ← (MergeTag.shapeWith (Json.readLooseName TagType.ofName?)).read (.object others)
    (withTag tag raw).mapError fun e => .refused e.message
  | _ => .error .shape

/-- The record of a merge tag with a value. -/
def toJson (c : CustomTag) : Json := .object (c.tag.members ++ [("value", .string c.text)])

end CustomTag

end MailMerge
