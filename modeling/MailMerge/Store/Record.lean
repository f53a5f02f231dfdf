import MailMerge.Deflate.Stored
import MailMerge.Json.Print
import MailMerge.Json.Shape
import MailMerge.Store.Error
import MailMerge.Template.Type
/-!
The stored form of template types. Bodies and sources are deflated, and merge tags are kept as JSON
text. Loading checks the merge tags, but neither names nor drafts.
-/

namespace MailMerge

open Deflate (Compressor)

/-- The deflated form of a text. -/
def deflateText [Compressor] (s : String) : List UInt8 :=
  Compressor.compress s.toUTF8.data.toList

/-- The text that was deflated. -/
def inflateText (bytes : List UInt8) : Except StoreError String :=
  match Deflate.inflate? bytes with
  | none => .error .compression
  | some inflated =>
    match String.fromUTF8? ⟨inflated⟩ with
    | some s => .ok s
    | none => .error .utf8

/-- A stored merge tag. -/
structure TagRecord where
  name : String
  shortCode : String
  typeName : String
  deriving DecidableEq

namespace TagRecord

/-- The stored form of a merge tag. -/
def ofTag (tag : MergeTag) : TagRecord := ⟨tag.name.text, tag.shortCode.text, tag.type.name⟩

/-- The merge tag that is stored. The type is checked first, then the short code, then the name. -/
def load (r : TagRecord) : Except StoreError MergeTag :=
  match TagType.ofName? r.typeName with
  | none => .error (.unknownTagType r.typeName)
  | some type =>
    (do MergeTag.withShortCode r.name (← ShortCode.parse r.shortCode) type).mapError .invalidTag

/-- A stored merge tag as a record. -/
def shape : Json.Shape TagRecord :=
  TagRecord.mk <$> .required "name" Json.readString <*> .required "shortCode" Json.readString
    <*> .required "typeName" Json.readString

/-- The record of a stored merge tag. -/
def toJson (r : TagRecord) : Json :=
  .object
    [("name", .string r.name), ("shortCode", .string r.shortCode),
      ("typeName", .string r.typeName)]

end TagRecord

/-- The JSON text of some merge tags. -/
def tagsText (tags : List MergeTag) : String :=
  (Json.ofList (fun tag => (TagRecord.ofTag tag).toJson) tags).text

/-- The merge tags that a JSON text stands for. -/
def loadTags (text : String) : Except StoreError (List MergeTag) :=
  match Json.readDocument (Json.readList TagRecord.shape.read) text with
  | .ok records => records.mapM TagRecord.load
  | .error _ => .error .serialization

/-- A stored content. -/
structure ContentRecord where
  id : Guid
  culture : String
  subject : String
  body : List UInt8
  source : List UInt8
  tags : String
  isDefault : Bool
  createdAt : DateTime
  updatedAt : DateTime
  deriving DecidableEq

namespace ContentRecord

/-- The stored form of a content. -/
def ofContent [Compressor] (c : Content) : ContentRecord where
  id := c.id
  culture := c.culture
  subject := c.subject
  body := deflateText c.body
  source := deflateText c.source
  tags := tagsText c.tags.toList
  isDefault := c.isDefault
  createdAt := c.createdAt
  updatedAt := c.updatedAt

/-- The content that is stored. -/
def load (r : ContentRecord) : Except StoreError Content := do
  let tags ← loadTags r.tags
  let body ← inflateText r.body
  let source ← inflateText r.source
  return {
    id := r.id
    culture := r.culture
    subject := r.subject
    body := body
    source := source
    tags := Ascending.ofList tags
    isDefault := r.isDefault
    createdAt := r.createdAt
    updatedAt := r.updatedAt }

end ContentRecord

/-- A stored template. -/
structure TemplateRecord where
  id : Guid
  typeId : Guid
  name : String
  contents : List ContentRecord
  createdAt : DateTime
  updatedAt : DateTime
  deriving DecidableEq

namespace TemplateRecord

/-- The stored form of a template. -/
def ofTemplate [Compressor] (t : Template) : TemplateRecord :=
  ⟨t.id, t.typeId, t.name, t.contents.map ContentRecord.ofContent, t.createdAt, t.updatedAt⟩

/-- The template that is stored, with one default content. -/
def load (now : DateTime) (r : TemplateRecord) : Except StoreError Template := do
  let contents ← r.contents.mapM ContentRecord.load
  return Template.ofParts now r.id r.typeId r.name contents r.createdAt r.updatedAt

end TemplateRecord

/-- A stored template type. -/
structure TypeRecord where
  id : Guid
  name : String
  acceptedTags : String
  templates : List TemplateRecord
  createdAt : DateTime
  updatedAt : DateTime
  deriving DecidableEq

namespace TypeRecord

/-- The stored form of a template type. -/
def ofType [Compressor] (tt : TemplateType) : TypeRecord :=
  ⟨tt.id, tt.name, tagsText tt.acceptedTags, tt.templates.map TemplateRecord.ofTemplate,
    tt.createdAt, tt.updatedAt⟩

/-- The template type that is stored. -/
def load (now : DateTime) (r : TypeRecord) : Except StoreError TemplateType := do
  let tags ← loadTags r.acceptedTags
  let templates ← r.templates.mapM (TemplateRecord.load now)
  return ⟨r.id, r.name, tags, templates, r.createdAt, r.updatedAt⟩

end TypeRecord

end MailMerge
