import MailMerge.Mail.Partition
import MailMerge.Mail.PlainText
/-!
Rendering mails: a subject and a body with values filled in, the plain text of the body, and the
resources that the mail carries along.
-/

namespace MailMerge

/-- What a compiled template does with values. -/
abbrev CompiledTemplate := Dict String → String

/-- A way to compile the body of a mail. -/
structure TemplateEngine where
  compile : String → Except RenderError CompiledTemplate

/-- The engine that fills in placeholders. -/
def TemplateEngine.placeholders (options : FillOptions) : TemplateEngine :=
  ⟨fun source => .ok (fillTemplate options (compileTemplate source))⟩

/-- The options of merging. -/
structure MergeOptions where
  keepUnresolved : Bool
  escapeHtml : Bool
  maxInlineBytes : Nat
  deriving DecidableEq

/-- Five mebibytes. -/
def defaultMaxInlineBytes : Nat := 5 * 1024 * 1024

/-- The options of merging where nothing else is asked for. -/
def MergeOptions.default : MergeOptions := ⟨false, true, defaultMaxInlineBytes⟩

/-- What a request gives for one mail. -/
structure RenderRequest where
  arguments : Dict String
  resources : List ResourceDescriptor
  deriving DecidableEq

/-- A request that gives nothing. -/
def RenderRequest.empty : RenderRequest := ⟨Ascending.empty, []⟩

/-- A rendered mail. -/
structure RenderedEmail where
  subject : String
  html : String
  plainText : String
  linkedResources : List LinkedResource
  deriving DecidableEq

/-- Fills the values of a mail into a compiled body. -/
def mergeBody (compiled : CompiledTemplate) (tags : TagSet) (arguments : Dict String)
    (custom : List CustomTag) (limit : Nat) :
    Except RenderError (String × List LinkedResource) :=
  match prepareMerge tags arguments custom limit with
  | .error e => .error e
  | .ok prepared => .ok (compiled prepared.scalars, prepared.linkedResources)

/-- A way to render mails: the engine for bodies, and options. Subjects are always plain text with
placeholders. -/
structure MergeEngine where
  engine : TemplateEngine
  options : MergeOptions

namespace MergeEngine

/-- The engine that fills in placeholders in bodies too. -/
def ofOptions (options : MergeOptions) : MergeEngine :=
  ⟨.placeholders ⟨options.keepUnresolved, options.escapeHtml⟩, options⟩

/-- The subject with values filled in. -/
def fillSubject (m : MergeEngine) (subject : String) (values : Dict String) : String :=
  fillTemplate ⟨m.options.keepUnresolved, false⟩ (compileTemplate subject) values

/-- The resources that a request asks for, in order; `contentIds` gives each its content id. -/
def requestedResources (limit : Nat) (contentIds : Nat → String)
    (descriptors : List ResourceDescriptor) : Except RenderError (List LinkedResource) :=
  descriptors.zipIdx.mapM fun d => d.1.toLinkedResource (contentIds d.2) limit

/-- Renders a mail. Its resources are the images of its tags, followed by those of the request. -/
def render (m : MergeEngine) (contentIds : Nat → String) (subject body : String) (tags : TagSet)
    (request : RenderRequest) (custom : List CustomTag) : Except RenderError RenderedEmail := do
  let limit := m.options.maxInlineBytes
  let prepared ← prepareMerge tags request.arguments custom limit
  let requested ← requestedResources limit contentIds request.resources
  let compiled ← m.engine.compile body
  let html := compiled prepared.scalars
  return {
    subject := m.fillSubject subject prepared.scalars
    html := html
    plainText := plainTextOfHtml html
    linkedResources := prepared.linkedResources ++ requested }

end MergeEngine

end MailMerge
