import MailMerge.Tag.Json
import MailMerge.Template.Draft
import MailMerge.Template.Owner
/-!
Drafts and data owners in JSON.
-/

namespace MailMerge

/-- Reads an identifier in any of its textual forms. -/
def Guid.read : Json.Reader Guid := Json.readText Guid.ofText?

/-- The canonical text of an identifier. -/
def Guid.toJson (g : Guid) : Json := .string g.text

/-- Reads a moment. -/
def DateTime.read : Json.Reader DateTime := Json.readText DateTime.ofRecordText?

/-- The text of a moment in universal time. -/
def DateTime.toJson (dt : DateTime) : Json := .string dt.zuluText

namespace Draft

/-- A draft as a record. -/
def shape : Json.Shape Draft :=
  Draft.mk <$> .required "culture_code" Json.readString <*> .required "subject" Json.readString
    <*> .required "body" Json.readString <*> .required "json_structure" Json.readString
    <*> .orElse "is_default" Json.readBool false

/-- The record of a draft. -/
def toJson (d : Draft) : Json :=
  .object
    [("culture_code", .string d.culture), ("subject", .string d.subject),
      ("body", .string d.body), ("json_structure", .string d.source),
      ("is_default", .bool d.isDefault)]

end Draft

namespace DataOwner

/-- An owner as a record. -/
def shape : Json.Shape DataOwner :=
  DataOwner.mk <$> .required "id" Guid.read <*> .required "name" Json.readString
    <*> .orElse "customData" (Json.readList CustomTag.read) []
    <*> .required "createdAt" DateTime.read <*> .required "updatedAt" DateTime.read

/-- The record of an owner. -/
def toJson (o : DataOwner) : Json :=
  .object
    [("id", o.id.toJson), ("name", .string o.name),
      ("customData", .ofList CustomTag.toJson o.customData),
      ("createdAt", o.createdAt.toJson), ("updatedAt", o.updatedAt.toJson)]

end DataOwner

end MailMerge
