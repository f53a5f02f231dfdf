import MailMerge.Tag.Basic
/-!
Merge tags with a value. The value has the type of the tag and its text is not blank, so the text
gives the value back.
-/

namespace MailMerge

/-- A merge tag with a value. -/
structure CustomTag where
  tag : MergeTag
  value : TagValue
  type_value : value.type = tag.type
  not_blank : Text.isBlank value.text = false
  deriving DecidableEq

namespace CustomTag

/-- The tag with the value that a text stands for. -/
def withTag (tag : MergeTag) (raw : String) : Except TagError CustomTag :=
  if Text.isBlank raw then .error (.blank .value)
  else
    match found : TagValue.ofText? raw tag.type with
    | none => .error (.value (.invalid raw tag.type))
    | some v =>
      if h : Text.isBlank v.text = false then .ok ⟨tag, v, TagValue.type_of_ofText? found, h⟩
      else .error (.blank .value)

/-- The tag with a name and type, and the value that a text stands for. -/
def ofString (name : String) (type : TagType) (raw : String) : Except TagError CustomTag := do
  let tag ← MergeTag.ofName name type
  withTag tag raw

/-- The tag with a name and a value, of the value's type. -/
def ofValue (name : String) (value : TagValue) : Except TagError CustomTag :=
  ofString name value.type value.text

/-- The tag with a name and the value that a text stands for, of the first type that fits. -/
def infer (name : String) (raw : String) : Except TagError CustomTag :=
  match TagValue.parseFirst raw TagType.primitives with
  | .ok value => ofValue name value
  | .error error => .error (.value error)

/-- The name of the tag. -/
def name (c : CustomTag) : String := c.tag.name.text

/-- The canonical text of the value. -/
def text (c : CustomTag) : String := c.value.text

/-- Whether the value is attached to a mail rather than put into its text. -/
def isResource (c : CustomTag) : Bool := c.value.type.isResource

end CustomTag

end MailMerge
