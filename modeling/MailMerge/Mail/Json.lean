import MailMerge.Json.Shape
import MailMerge.Mail.Render
/-!
Requests and rendered mails in JSON. The payload of a resource is a pair of its kind and its data.
-/

namespace MailMerge

/-- Reads the name of an encoding. -/
def ResourceEncoding.read : Json.Reader ResourceEncoding :=
  Json.readName ResourceEncoding.ofName?

namespace ResourceDescriptor

/-- A requested resource as a record. -/
def shape : Json.Shape ResourceDescriptor :=
  ResourceDescriptor.mk <$> .required "value" Json.readString
    <*> .orElse "alt_text" (Json.readNullable Json.readString) none
    <*> .orElse "media_type" (Json.readNullable Json.readString) none
    <*> .orElse "encoding" ResourceEncoding.read .base64

/-- The record of a requested resource. -/
def toJson (d : ResourceDescriptor) : Json :=
  .object
    [("value", .string d.value), ("alt_text", .ofOption .string d.altText),
      ("media_type", .ofOption .string d.mediaType), ("encoding", .string d.encoding.name)]

end ResourceDescriptor

namespace RenderRequest

/-- A request as a record. -/
def shape : Json.Shape RenderRequest :=
  RenderRequest.mk <$> .orElse "arguments" (Json.readDict Json.readString) Ascending.empty
    <*> .orElse "resources" (Json.readList ResourceDescriptor.shape.read) []

/-- The record of a request. -/
def toJson (r : RenderRequest) : Json :=
  .object
    [("arguments", .object (r.arguments.toList.map fun a => (a.1, .string a.2))),
      ("resources", .ofList ResourceDescriptor.toJson r.resources)]

end RenderRequest

namespace Payload

/-- How the data of a payload of the named kind is read. -/
def dataReader? (kind : String) : Option (Json.Reader Payload) :=
  if kind = "bytes" then
    some fun t => (Json.readAccepted Base64.Fault.message Base64.decodeText t).map bytes
  else if kind = "url" then some fun t => (Json.readString t).map url
  else none

/-- Reads a payload from its kind and its data, if nothing else follows. -/
def readParts {α : Type} (kind data : JsonTree) (more : List α) : Except Json.Fault Payload := do
  let read ← Json.readName dataReader? kind
  let payload ← read data
  if more.isEmpty then .ok payload else .error .shape

/-- Reads a payload from the kind, the data and the faulty members of an object, in order. Data that
stands before the kind must stand for a value. -/
def readMembers : List (Option String × JsonTree) → Except Json.Fault Payload
  | (some "kind", kind) :: (some "data", data) :: more => readParts kind data more
  | (some "data", data) :: (some "kind", kind) :: more =>
    if data.value?.isSome then readParts kind data more else .error .shape
  | _ => .error .shape

/-- Whether a member of an object has a part in reading a payload: it is a kind, data, or not well
formed. -/
def isPart (m : Option String × JsonTree) : Bool :=
  m.1 == some "kind" || m.1 == some "data" || m.1.isNone || !m.2.isWhole

/-- Reads a payload, from an object or from an array of kind and data. -/
def read : Json.Reader Payload
  | .array (kind :: data :: more) => readParts kind data more
  | .object members => readMembers (members.filter isPart)
  | _ => .error .shape

/-- The pair of kind and data. -/
def toJson : Payload → Json
  | bytes bs => .object [("kind", .string "bytes"), ("data", .string (Base64.encodeText bs))]
  | url text => .object [("kind", .string "url"), ("data", .string text)]

end Payload

namespace LinkedResource

/-- A resource as a record. -/
def shape : Json.Shape LinkedResource :=
  LinkedResource.mk <$> .required "content_id" Json.readString
    <*> .required "media_type" Json.readString <*> .required "payload" Payload.read
    <*> .nullable "alt_text" Json.readString

/-- The members of the record of a resource. A missing alternative text is left out. -/
def members (r : LinkedResource) : List (String × Json) :=
  [("content_id", .string r.contentId), ("media_type", .string r.mediaType),
    ("payload", r.payload.toJson)] ++ (r.altText.map fun text => ("alt_text", .string text)).toList

/-- The record of a resource. -/
def toJson (r : LinkedResource) : Json := .object r.members

end LinkedResource

namespace RenderedEmail

/-- A rendered mail as a record. -/
def shape : Json.Shape RenderedEmail :=
  RenderedEmail.mk <$> .required "subject" Json.readString <*> .required "html" Json.readString
    <*> .required "plain_text" Json.readString
    <*> .required "linked_resources" (Json.readList LinkedResource.shape.read)

/-- The record of a rendered mail. -/
def toJson (m : RenderedEmail) : Json :=
  .object
    [("subject", .string m.subject), ("html", .string m.html),
      ("plain_text", .string m.plainText),
      ("linked_resources", .ofList LinkedResource.toJson m.linkedResources)]

end RenderedEmail

end MailMerge
