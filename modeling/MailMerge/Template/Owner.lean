import MailMerge.Outcome
import MailMerge.Template.Draft
import MailMerge.Calendar.Time
import MailMerge.Tag.Custom
/-!
Data owners: those who have values of their own for merge tags, one per name.
-/

namespace MailMerge

/-- Someone who has values for merge tags. -/
structure DataOwner where
  id : Guid
  name : String
  customData : List CustomTag
  createdAt : DateTime
  updatedAt : DateTime
  deriving DecidableEq

namespace DataOwner

/-- A new owner without values. -/
def create (id : Guid) (now : DateTime) (name : String) : Except TemplateError DataOwner := do
  checkName name
  return ⟨id, Text.trimmed name, [], now, now⟩

/-- The value under a name. -/
def get? (o : DataOwner) (name : String) : Option CustomTag :=
  o.customData.find? fun c => c.name == name

/-- Sets the value under its name; an old value gives its place to it. -/
def set (now : DateTime) (c : CustomTag) (o : DataOwner) : DataOwner :=
  { o with
    customData :=
      if (o.get? c.name).isSome then
        modifyFirst (fun old => old.name == c.name) (fun _ => c) o.customData
      else o.customData ++ [c]
    updatedAt := now }

/-- Removes the value under a name. -/
def remove (now : DateTime) (name : String) (o : DataOwner) :
    Outcome DataOwner TemplateError CustomTag :=
  match o.get? name with
  | none => .failed (.notFound (.customData name o.id)) o
  | some c =>
    .done c
      { o with customData := o.customData.eraseP fun c => c.name == name, updatedAt := now }

end DataOwner

end MailMerge
