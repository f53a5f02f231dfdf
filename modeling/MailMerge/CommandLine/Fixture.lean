import MailMerge.Mail.Json
import MailMerge.Service.Basic
import MailMerge.Settings.Environment
import MailMerge.Template.Json
/-!
Fixtures: a template type, a template with its contents, the values of an owner and a request, all
in one JSON text, from which one mail is rendered.
-/

namespace MailMerge

/-- A merge tag of a fixture. -/
structure FixtureTag where
  name : String
  type : TagType
  deriving DecidableEq

/-- A merge tag of a fixture as a record. -/
def FixtureTag.shape : Json.Shape FixtureTag :=
  FixtureTag.mk <$> .required "name" Json.readString <*> .required "type_name" TagType.read

/-- A value of the owner in a fixture. The type is told from the value if it is missing. -/
structure FixtureValue where
  name : String
  type : Option TagType
  value : String
  deriving DecidableEq

/-- A value of the owner as a record. -/
def FixtureValue.shape : Json.Shape FixtureValue :=
  FixtureValue.mk <$> .required "name" Json.readString <*> .nullable "type_name" TagType.read
    <*> .required "value" Json.readString

/-- The merge tag with the value. -/
def FixtureValue.customTag (v : FixtureValue) : Except TagError CustomTag :=
  match v.type with
  | some type => CustomTag.ofString v.name type v.value
  | none => CustomTag.infer v.name v.value

/-- What one mail is rendered from. -/
structure Fixture where
  typeName : String
  tags : List FixtureTag
  templateName : String
  contents : List Draft
  culture : Option String
  ownerData : List FixtureValue
  request : RenderRequest
  deriving DecidableEq

/-- Why no mail is rendered. -/
inductive CommandError where
  | settings (error : SettingsError)
  | logFilter (level : String)
  | usage
  | unreadable (path : String)
  | invalidFixture (path : String)
  | noContents
  | tag (error : TagError)
  | service (error : ServiceError)
  deriving DecidableEq

/-- The error in words. -/
def CommandError.message : CommandError → String
  | settings error => error.message
  | logFilter level => "Invalid log filter '" ++ level ++ "'"
  | usage => "usage: ara-email-templates <fixture.json>"
  | unreadable path => "Failed to read fixture: " ++ path
  | invalidFixture path => "Invalid fixture: " ++ path
  | noContents => "Fixture has no contents"
  | tag error => error.message
  | service error => error.message

/-- The identifiers of everything that is made for a fixture. -/
structure FixtureIds where
  templateType : Guid
  template : Guid
  owner : Guid
  content : Nat → Guid
  resource : Nat → String

namespace Fixture

/-- A fixture as a record. -/
def shape : Json.Shape Fixture :=
  Fixture.mk <$> .required "template_type" Json.readString
    <*> .orElse "merge_tags" (Json.readList FixtureTag.shape.read) []
    <*> .required "template" Json.readString
    <*> .required "contents" (Json.readList Draft.shape.read)
    <*> .nullable "culture" Json.readString
    <*> .orElse "owner_data" (Json.readList FixtureValue.shape.read) []
    <*> .orElse "request" RenderRequest.shape.read RenderRequest.empty

/-- Reads a fixture. -/
def ofText? (s : String) : Option Fixture :=
  (Json.readDocument shape.read s).toOption

/-- A request to the service as part of a command. -/
def served {α : Type} (o : ServiceOutcome α) : Except CommandError (α × ServiceState) :=
  o.toExcept.mapError .service

/-- Sets the contents for further cultures, in order. -/
def addContents (config : ServiceConfig) (ids : FixtureIds) (now : DateTime) (s : ServiceState)
    (drafts : List Draft) : Except CommandError ServiceState :=
  drafts.zipIdx.foldlM (fun s d => do
    let (_, s) ← served <|
      s.upsertContent config (ids.content (d.2 + 1)) now ids.templateType ids.template d.1
    return s) s

/-- Sets the values of the owner, in order. -/
def addOwnerData (ids : FixtureIds) (now : DateTime) (s : ServiceState)
    (values : List FixtureValue) : Except CommandError ServiceState :=
  values.foldlM (fun s v => do
    let c ← v.customTag.mapError .tag
    let (_, s) ← served (s.setOwnerData now ids.owner c)
    return s) s

/-- Makes the owner, if there are values for one. -/
def addOwner (f : Fixture) (ids : FixtureIds) (now : DateTime) (s : ServiceState) :
    Except CommandError (Option Guid × ServiceState) :=
  if f.ownerData.isEmpty then .ok (none, s)
  else do
    let (_, s) ← served (s.createOwner ids.owner now f.typeName)
    let s ← addOwnerData ids now s f.ownerData
    return (some ids.owner, s)

/-- Renders the mail of a fixture. -/
def render (f : Fixture) (settings : Settings) (ids : FixtureIds) (now : DateTime) :
    Except CommandError RenderedEmail := do
  let config := ServiceConfig.ofSettings settings
  let tags ← (f.tags.mapM fun t => MergeTag.ofName t.name t.type).mapError CommandError.tag
  let (_, s) ← served
    (ServiceState.empty.createType ids.templateType now f.typeName tags)
  match f.contents with
  | [] => throw .noContents
  | initial :: more =>
    let (_, s) ← served <|
      s.createTemplate config ids.template (ids.content 0) now ids.templateType f.templateName
        initial
    let s ← addContents config ids now s more
    let (owner, s) ← f.addOwner ids now s
    let culture := f.culture.getD settings.templates.defaultCulture
    let (mail, _) ← served <|
      s.render config ids.resource now ids.templateType ids.template culture owner f.request
    return mail

end Fixture

end MailMerge
