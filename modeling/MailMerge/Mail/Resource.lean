import MailMerge.Base64
import MailMerge.Mail.MediaType
import MailMerge.Text.Blank
/-!
Resources that a mail carries along and its text refers to by a content id.
-/

namespace MailMerge

/-- Why a mail cannot be rendered. -/
inductive RenderError where
  | badImage (name : String) (fault : Base64.Fault)
  | emptyResource (name : String)
  | tooLarge (name : String) (size limit : Nat)
  | compile (detail : String)
  deriving DecidableEq

/-- The error in words. -/
def RenderError.message : RenderError → String
  | badImage name fault =>
    "Image value for '" ++ name ++ "' is not valid base64: " ++ fault.message
  | emptyResource name => "Image value for '" ++ name ++ "' is empty"
  | tooLarge name size limit =>
    "Resource '" ++ name ++ s!"' is {size} bytes, above the {limit} byte inline limit"
  | compile detail => "Template compilation failed: " ++ detail

/-- What a resource consists of: its bytes, or the place where they are. -/
inductive Payload where
  | bytes (bs : List UInt8)
  | url (text : String)
  deriving DecidableEq

/-- A resource that a mail carries along. -/
structure LinkedResource where
  contentId : String
  mediaType : String
  payload : Payload
  altText : Option String
  deriving DecidableEq

namespace LinkedResource

/-- How the text of a mail refers to a resource. -/
def cidUrl (r : LinkedResource) : String := "cid:" ++ r.contentId

/-- The number of bytes that the mail carries for the resource. -/
def size (r : LinkedResource) : Nat :=
  match r.payload with
  | .bytes bs => bs.length
  | .url _ => 0

end LinkedResource

/-- The bytes of an image that is given as base64 text; there must be some, and at most `limit`. -/
def decodeImage (name encoded : String) (limit : Nat) : Except RenderError (List UInt8) :=
  match Base64.decodeText (Text.trimmed encoded) with
  | .error fault => .error (.badImage name fault)
  | .ok bytes =>
    if bytes.isEmpty then .error (.emptyResource name)
    else if limit < bytes.length then .error (.tooLarge name bytes.length limit)
    else .ok bytes

/-- The resource for the value of an image tag; the name of the tag is its content id. -/
def LinkedResource.ofImage (name encoded : String) (limit : Nat) :
    Except RenderError LinkedResource :=
  match decodeImage name encoded limit with
  | .error e => .error e
  | .ok bytes => .ok ⟨name, MediaType.detect bytes, .bytes bytes, none⟩

/-- How the value of a resource is given. -/
inductive ResourceEncoding where
  | base64
  | url
  deriving DecidableEq

/-- The name of an encoding. -/
def ResourceEncoding.name : ResourceEncoding → String
  | base64 => "base64"
  | url => "url"

/-- The encoding with a name; the case counts. -/
def ResourceEncoding.ofName? (s : String) : Option ResourceEncoding :=
  if s = "base64" then some base64 else if s = "url" then some url else none

/-- A resource as a request gives it. -/
structure ResourceDescriptor where
  value : String
  altText : Option String
  mediaType : Option String
  encoding : ResourceEncoding
  deriving DecidableEq

/-- The resource that a request asks for, under a content id made for it. A declared media type
goes before the one that the bytes tell. -/
def ResourceDescriptor.toLinkedResource (d : ResourceDescriptor) (contentId : String)
    (limit : Nat) : Except RenderError LinkedResource :=
  match d.encoding with
  | .base64 =>
    match decodeImage contentId d.value limit with
    | .error e => .error e
    | .ok bytes =>
      .ok ⟨contentId, d.mediaType.getD (MediaType.detect bytes), .bytes bytes, d.altText⟩
  | .url => .ok ⟨contentId, d.mediaType.getD MediaType.octetStream, .url d.value, d.altText⟩

end MailMerge
