import MailMerge.Ascending
import MailMerge.Tag.ShortCode
import MailMerge.Tag.Value
import MailMerge.Text.NonBlank
/-!
Merge tags: a name, the short code that stands for it in a text, and the type of its values. The
order of merge tags is that of their names, then short codes, then types.
-/

namespace MailMerge

/-- A declared merge tag. -/
structure MergeTag where
  name : NonBlank
  shortCode : ShortCode
  type : TagType
  deriving DecidableEq

/-- The texts that must not be blank. -/
inductive TagPart where
  | name
  | value
  | storedText
  deriving DecidableEq

/-- What a text that must not be blank is called. -/
def TagPart.words : TagPart → String
  | name => "merge tag name"
  | value => "merge tag value"
  | storedText => "value"

/-- Why there is no such merge tag. -/
inductive TagError where
  | blank (part : TagPart)
  | malformed (text : String) (fault : ShortCode.Fault)
  | value (error : ValueError)
  deriving DecidableEq

/-- The error in words. -/
def TagError.message : TagError → String
  | blank part => part.words ++ " must not be empty"
  | malformed text fault => "Malformed short code '" ++ text ++ "': " ++ fault.reason
  | value error => error.message

/-- Reads a short code. -/
def ShortCode.parse (s : String) : Except TagError ShortCode :=
  match ofText? s with
  | .ok code => .ok code
  | .error fault => .error (.malformed s fault)

/-- The short code for a name. -/
def ShortCode.generate (name : String) : Except TagError ShortCode :=
  match ofName? name with
  | some code => .ok code
  | none => .error (.blank .name)

/-- The text, unless it is blank. -/
def NonBlank.check (part : TagPart) (s : String) : Except TagError NonBlank :=
  match ofString? s with
  | some t => .ok t
  | none => .error (.blank part)

namespace MergeTag

/-- The merge tag with a name, trimmed, and the short code made up from it. -/
def ofName (name : String) (type : TagType) : Except TagError MergeTag := do
  let name ← NonBlank.check .name (Text.trimmed name)
  let shortCode ← ShortCode.generate name.text
  return ⟨name, shortCode, type⟩

/-- The merge tag with a name and a short code of its own; the name is kept as it is. -/
def withShortCode (name : String) (shortCode : ShortCode) (type : TagType) :
    Except TagError MergeTag := do
  let name ← NonBlank.check .name name
  return ⟨name, shortCode, type⟩

/-- Whether the values are attached to a mail rather than put into its text. -/
def isResource (tag : MergeTag) : Bool := tag.type.isResource

/-- What the order of merge tags goes by. -/
def key (tag : MergeTag) : List String :=
  [tag.name.text, tag.shortCode.text, tag.type.digit]

end MergeTag

/-- A set of merge tags, in their order. -/
abbrev TagSet := Ascending MergeTag.key

end MailMerge
