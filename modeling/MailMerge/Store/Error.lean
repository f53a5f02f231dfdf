import MailMerge.Guid
import MailMerge.Tag.Basic
/-!
What can go wrong with what is stored.
-/

namespace MailMerge

/-- Something that is looked for in the store. -/
inductive StoredEntity where
  | templateType (id : Guid)
  | dataOwner (id : Guid)
  | described (text : String)
  deriving DecidableEq

/-- The entity in words. -/
def StoredEntity.words : StoredEntity → String
  | templateType id => "template type " ++ id.text
  | dataOwner id => "data owner " ++ id.text
  | described text => text

/-- Why something stored cannot be had. -/
inductive StoreError where
  | notFound (entity : StoredEntity)
  | unknownTagType (name : String)
  | invalidTag (error : TagError)
  | compression
  | utf8
  | serialization
  deriving DecidableEq

/-- The error in words. -/
def StoreError.message : StoreError → String
  | notFound entity => "Not found: " ++ entity.words
  | unknownTagType name => "Unknown merge tag type: " ++ name
  | invalidTag error => "Invalid stored merge tag: " ++ error.message
  | compression => "Compression error"
  | utf8 => "Stored text is not valid UTF-8"
  | serialization => "Serialization error"

end MailMerge
