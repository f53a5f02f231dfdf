/-!
The types of merge tags, in the order in which they are tried on a text of unknown type.
-/

namespace MailMerge

/-- What kind of value a merge tag stands for. -/
inductive TagType where
  | dateOnly
  | timeOnly
  | dateTime
  | guid
  | double
  | bool
  | string
  | image
  deriving DecidableEq

namespace TagType

/-- All types, in the order in which they are tried. -/
def all : List TagType := [dateOnly, timeOnly, dateTime, guid, double, bool, string, image]

/-- The types that can be told from a plain text; an image has to be asked for. -/
def primitives : List TagType := [dateOnly, timeOnly, dateTime, guid, double, bool, string]

theorem mem_all (t : TagType) : t ∈ all := by
  cases t <;> decide

/-- The name of a type. -/
def name : TagType → String
  | dateOnly => "DateOnly"
  | timeOnly => "TimeOnly"
  | dateTime => "DateTime"
  | guid => "Guid"
  | double => "Double"
  | bool => "Bool"
  | string => "String"
  | image => "Image"

/-- The place of a type in `all`, as a digit. -/
def digit : TagType → String
  | dateOnly => "0"
  | timeOnly => "1"
  | dateTime => "2"
  | guid => "3"
  | double => "4"
  | bool => "5"
  | string => "6"
  | image => "7"

/-- The type with a name; the case counts. -/
def ofName? (s : String) : Option TagType := all.find? fun t => t.name == s

theorem ofName?_name (t : TagType) : ofName? t.name = some t := by
  cases t <;> decide

/-- Whether the values are attached to a mail rather than put into its text. -/
def isResource (t : TagType) : Bool := t == image

end TagType

end MailMerge
