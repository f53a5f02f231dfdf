import MailMerge.Store.Record
import MailMerge.Template.Json
/-!
Stored templates in JSON.
-/

namespace MailMerge

/-- Some bytes as an array of numbers. -/
def bytesJson (bytes : List UInt8) : Json :=
  .ofList (fun b => .number (.whole b.toNat)) bytes

namespace ContentRecord

/-- A stored content as a record. -/
def shape : Json.Shape ContentRecord :=
  ContentRecord.mk <$> .required "id" Guid.read <*> .required "cultureCode" Json.readString
    <*> .required "subject" Json.readString <*> .required "body" (Json.readList Json.readByte)
    <*> .required "jsonStructure" (Json.readList Json.readByte)
    <*> .required "mergeTags" Json.readString <*> .required "isDefault" Json.readBool
    <*> .required "createdAt" DateTime.read <*> .required "updatedAt" DateTime.read

/-- The record of a stored content. -/
def toJson (r : ContentRecord) : Json :=
  .object
    [("id", r.id.toJson), ("cultureCode", .string r.culture), ("subject", .string r.subject),
      ("body", bytesJson r.body), ("jsonStructure", bytesJson r.source),
      ("mergeTags", .string r.tags), ("isDefault", .bool r.isDefault),
      ("createdAt", r.createdAt.toJson), ("updatedAt", r.updatedAt.toJson)]

end ContentRecord

namespace TemplateRecord

/-- A stored template as a record. -/
def shape : Json.Shape TemplateRecord :=
  TemplateRecord.mk <$> .required "id" Guid.read <*> .required "templateTypeId" Guid.read
    <*> .required "name" Json.readString
    <*> .required "contents" (Json.readList ContentRecord.shape.read)
    <*> .required "createdAt" DateTime.read <*> .required "updatedAt" DateTime.read

/-- The record of a stored template. -/
def toJson (r : TemplateRecord) : Json :=
  .object
    [("id", r.id.toJson), ("templateTypeId", r.typeId.toJson), ("name", .string r.name),
      ("contents", .ofList ContentRecord.toJson r.contents),
      ("createdAt", r.createdAt.toJson), ("updatedAt", r.updatedAt.toJson)]

end TemplateRecord

namespace TypeRecord

/-- A stored template type as a record. -/
def shape : Json.Shape TypeRecord :=
  TypeRecord.mk <$> .required "id" Guid.read <*> .required "name" Json.readString
    <*> .required "acceptedTags" Json.readString
    <*> .required "templates" (Json.readList TemplateRecord.shape.read)
    <*> .required "createdAt" DateTime.read <*> .required "updatedAt" DateTime.read

/-- The record of a stored template type. -/
def toJson (r : TypeRecord) : Json :=
  .object
    [("id", r.id.toJson), ("name", .string r.name), ("acceptedTags", .string r.acceptedTags),
      ("templates", .ofList TemplateRecord.toJson r.templates),
      ("createdAt", r.createdAt.toJson), ("updatedAt", r.updatedAt.toJson)]

end TypeRecord

end MailMerge
