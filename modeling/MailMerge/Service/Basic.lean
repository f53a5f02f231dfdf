import MailMerge.Outcome
import MailMerge.Service.Counters
import MailMerge.Service.Error
import MailMerge.Settings.Basic
import MailMerge.Store.Repository
/-!
The service over stored templates. A change loads what it changes and saves it afterwards, so a
request that fails leaves the store as it was; only counters may move.
-/

namespace MailMerge

open Deflate (Compressor)

/-- What the service is set up with. -/
structure ServiceConfig where
  engine : MergeEngine
  maxSubjectLength : Nat

/-- The service that settings ask for. -/
def ServiceConfig.ofSettings (s : Settings) : ServiceConfig :=
  ⟨.ofOptions s.merge.options, s.templates.maxSubjectLength⟩

/-- What the service holds. -/
structure ServiceState where
  repository : Repository
  counters : Counters
  deriving DecidableEq

/-- What a request to the service comes to. -/
abbrev ServiceOutcome (α : Type) := Outcome ServiceState ServiceError α

namespace ServiceState

/-- A service that holds nothing. -/
def empty : ServiceState := ⟨Repository.empty, Counters.zero⟩

/-- Changes the counters. -/
def count (f : Counters → Counters) (s : ServiceState) : ServiceState :=
  { s with counters := f s.counters }

/-- Stores a template type. -/
def saveType [Compressor] (tt : TemplateType) (s : ServiceState) : ServiceState :=
  { s with repository := s.repository.saveType tt }

/-- Stores a data owner. -/
def saveOwner (owner : DataOwner) (s : ServiceState) : ServiceState :=
  { s with repository := s.repository.saveOwner owner }

/-- The template type with an id. -/
def templateType (now : DateTime) (id : Guid) (s : ServiceState) :
    Except ServiceError TemplateType :=
  (s.repository.templateType now id).mapError .store

/-- The data owner with an id. -/
def dataOwner (id : Guid) (s : ServiceState) : Except ServiceError DataOwner :=
  (s.repository.dataOwner id).mapError .store

/-- The template with an id, of the type with an id. -/
def template (now : DateTime) (typeId id : Guid) (s : ServiceState) :
    Except ServiceError Template := do
  let tt ← s.templateType now typeId
  (tt.template id).mapError .template

/-- The content of a template for a culture. -/
def content (now : DateTime) (typeId id : Guid) (culture : String) (s : ServiceState) :
    Except ServiceError Content := do
  let t ← s.template now typeId id
  (t.content culture).mapError .template

/-- Carries an operation out on the type with an id and saves the type. An error is counted by
`counting`. The answer is made from that of the operation and the type as it is saved. -/
def changeType [Compressor] {α β : Type} (now : DateTime) (id : Guid)
    (counting : TemplateError → Counters → Counters)
    (op : TemplateType → Outcome TemplateType TemplateError α)
    (answer : α → TemplateType → β) (s : ServiceState) : ServiceOutcome β :=
  .check (s.templateType now id) s fun tt =>
    match op tt with
    | ⟨.ok a, changed⟩ => .done (answer a changed) (s.saveType changed)
    | ⟨.error e, _⟩ => .failed (.template e) (s.count (counting e))

/-- Counts nothing. -/
def uncounted (_ : TemplateError) (c : Counters) : Counters := c

/-- Counts a content that was not accepted, and whether its references are to blame. -/
def contentRejected (e : TemplateError) (c : Counters) : Counters :=
  match e with
  | .references _ => c.countReferenceFailure.countRejected
  | _ => c.countRejected

/-- Creates a template type that accepts some tags. -/
def createType [Compressor] (id : Guid) (now : DateTime) (name : String) (tags : List MergeTag)
    (s : ServiceState) : ServiceOutcome TemplateType :=
  .check ((TemplateType.withTags id now name tags).mapError .template) s fun tt =>
    .done tt (s.saveType tt)

/-- Accepts one more tag. -/
def declareTag [Compressor] (now : DateTime) (typeId : Guid) (tag : MergeTag) (s : ServiceState) :
    ServiceOutcome TemplateType :=
  s.changeType now typeId uncounted (TemplateType.declareTag now tag) fun _ tt => tt

/-- No longer accepts a tag. -/
def retractTag [Compressor] (now : DateTime) (typeId : Guid) (name : String) (s : ServiceState) :
    ServiceOutcome TemplateType :=
  s.changeType now typeId uncounted (TemplateType.retractTag now name) fun _ tt => tt

/-- Accepts subjects up to the limit of the service. -/
def checkSubject (config : ServiceConfig) (d : Draft) : Except ServiceError Unit :=
  if config.maxSubjectLength < d.subject.length then
    .error (.refused (.subjectTooLong d.subject.length config.maxSubjectLength))
  else .ok ()

/-- Creates a template with its first content. -/
def createTemplate [Compressor] (config : ServiceConfig) (id contentId : Guid) (now : DateTime)
    (typeId : Guid) (name : String) (initial : Draft) (s : ServiceState) :
    ServiceOutcome Template :=
  .check (checkSubject config initial) s fun _ =>
    s.changeType now typeId contentRejected
      (TemplateType.addTemplate id contentId now name initial) fun t _ => t

/-- Sets the content of a template for a culture. -/
def upsertContent [Compressor] (config : ServiceConfig) (contentId : Guid) (now : DateTime)
    (typeId templateId : Guid) (d : Draft) (s : ServiceState) : ServiceOutcome Content :=
  match checkSubject config d with
  | .error e => .failed e (s.count Counters.countRejected)
  | .ok _ =>
    match
      s.changeType now typeId contentRejected
        (TemplateType.upsertContent templateId contentId now d) fun c _ => c with
    | ⟨.ok c, saved⟩ => .done c (saved.count Counters.countSaved)
    | ⟨.error e, left⟩ => .failed e left

/-- Removes the content of a template for a culture. -/
def removeContent [Compressor] (now : DateTime) (typeId templateId : Guid) (culture : String)
    (s : ServiceState) : ServiceOutcome Content :=
  s.changeType now typeId uncounted (TemplateType.removeContent templateId now culture)
    fun c _ => c

/-- Creates a data owner. -/
def createOwner (id : Guid) (now : DateTime) (name : String) (s : ServiceState) :
    ServiceOutcome DataOwner :=
  .check ((DataOwner.create id now name).mapError .template) s fun owner =>
    .done owner (s.saveOwner owner)

/-- Sets a value of a data owner. -/
def setOwnerData (now : DateTime) (ownerId : Guid) (c : CustomTag) (s : ServiceState) :
    ServiceOutcome DataOwner :=
  .check (s.dataOwner ownerId) s fun owner =>
    let owner := owner.set now c
    .done owner (s.saveOwner owner)

/-- The values of an owner; without an owner there are none. -/
def customData (owner : Option Guid) (s : ServiceState) : Except ServiceError (List CustomTag) :=
  match owner with
  | none => .ok []
  | some id => (s.dataOwner id).map DataOwner.customData

/-- The mail of a template for a culture, with the values of an owner. -/
def renderMail (config : ServiceConfig) (contentIds : Nat → String) (now : DateTime)
    (typeId templateId : Guid) (culture : String) (owner : Option Guid) (request : RenderRequest)
    (s : ServiceState) : Except ServiceError RenderedEmail := do
  let c ← s.content now typeId templateId culture
  let custom ← s.customData owner
  (c.render config.engine contentIds request custom).mapError .template

/-- Renders a mail and counts it. -/
def render (config : ServiceConfig) (contentIds : Nat → String) (now : DateTime)
    (typeId templateId : Guid) (culture : String) (owner : Option Guid) (request : RenderRequest)
    (s : ServiceState) : ServiceOutcome RenderedEmail :=
  match s.renderMail config contentIds now typeId templateId culture owner request with
  | .ok mail => .done mail (s.count (Counters.countRendered mail.linkedResources.length))
  | .error e => .failed e (s.count (Counters.countFailure e.code))

end ServiceState

end MailMerge
