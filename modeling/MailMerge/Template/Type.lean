import MailMerge.Template.Basic
/-!
Template types: the merge tags that templates of a type may refer to, and the templates. Whenever
the accepted tags change, the tags of all contents are resolved anew.
-/

namespace MailMerge

/-- A type of templates. -/
structure TemplateType where
  id : Guid
  name : String
  acceptedTags : List MergeTag
  templates : List Template
  createdAt : DateTime
  updatedAt : DateTime
  deriving DecidableEq

namespace TemplateType

/-- A new type without tags and templates. -/
def create (id : Guid) (now : DateTime) (name : String) : Except TemplateError TemplateType := do
  checkName name
  return ⟨id, Text.trimmed name, [], [], now, now⟩

/-- Resolves the merge tags of templates one after the other; the first that fails ends it. -/
def reconcileAll (now : DateTime) (accepted : List MergeTag) :
    List Template → Except TemplateError (List Template)
  | [] => .ok []
  | t :: rest =>
    match t.reconcile now accepted with
    | ⟨.error e, _⟩ => .error e
    | ⟨.ok _, t⟩ => (reconcileAll now accepted rest).map (t :: ·)

/-- Replaces the accepted tags, provided that the tags of all contents can be resolved. -/
def replaceTags {α : Type} (now : DateTime) (accepted : List MergeTag) (answer : α)
    (tt : TemplateType) : Outcome TemplateType TemplateError α :=
  .check (reconcileAll now accepted tt.templates) tt fun templates =>
    .done answer { tt with acceptedTags := accepted, templates := templates, updatedAt := now }

/-- Accepts one more tag. Its name has to be the identifier of its short code, and no accepted tag
may have that name. -/
def declareTag (now : DateTime) (tag : MergeTag) (tt : TemplateType) :
    Outcome TemplateType TemplateError Unit :=
  if tag.shortCode.identifier ≠ tag.name.text then
    .failed (.invalid (.misnamedTag tag.name.text tag.shortCode.identifier)) tt
  else if tt.acceptedTags.any fun t => t.name.text == tag.name.text then
    .failed (.duplicateTag tag.name.text) tt
  else tt.replaceTags now (tt.acceptedTags ++ [tag]) ()

/-- No longer accepts the tag with a name. -/
def retractTag (now : DateTime) (name : String) (tt : TemplateType) :
    Outcome TemplateType TemplateError MergeTag :=
  match tt.acceptedTags.find? fun t => t.name.text == name with
  | none => .failed (.notFound (.tag name)) tt
  | some tag =>
    tt.replaceTags now (tt.acceptedTags.eraseP fun t => t.name.text == name) tag

/-- Declares tags in turn; the first that fails ends it. -/
def declareAll (now : DateTime) : List MergeTag → TemplateType → Except TemplateError TemplateType
  | [], tt => .ok tt
  | tag :: tags, tt =>
    match tt.declareTag now tag with
    | ⟨.error e, _⟩ => .error e
    | ⟨.ok _, tt⟩ => declareAll now tags tt

/-- A new type that accepts some tags. -/
def withTags (id : Guid) (now : DateTime) (name : String) (tags : List MergeTag) :
    Except TemplateError TemplateType := do
  let tt ← create id now name
  declareAll now tags tt

/-- Adds a template with its first content. No two templates of a type have the same name. -/
def addTemplate (id contentId : Guid) (now : DateTime) (name : String) (initial : Draft)
    (tt : TemplateType) : Outcome TemplateType TemplateError Template :=
  if tt.templates.any fun t => t.name == Text.trimmed name then
    .failed (.alreadyExists (.templateNamed name)) tt
  else
    .check (Template.create id contentId now tt.id name initial tt.acceptedTags) tt fun t =>
      .done t { tt with templates := tt.templates ++ [t], updatedAt := now }

/-- The template with an id. -/
def template (tt : TemplateType) (id : Guid) : Except TemplateError Template :=
  match tt.templates.find? fun t => t.id == id with
  | some t => .ok t
  | none => .error (.notFound (.template id))

/-- Removes the template with an id. -/
def removeTemplate (now : DateTime) (id : Guid) (tt : TemplateType) :
    Outcome TemplateType TemplateError Template :=
  .check (tt.template id) tt fun t =>
    .done t { tt with templates := tt.templates.eraseP fun t => t.id == id, updatedAt := now }

/-- Carries an operation out on the template with an id. -/
def onTemplate {α : Type} (id : Guid) (op : Template → Outcome Template TemplateError α)
    (tt : TemplateType) : Outcome TemplateType TemplateError α :=
  .check (tt.template id) tt fun t =>
    (op t).within fun changed =>
      { tt with templates := modifyFirst (fun t => t.id == id) (fun _ => changed) tt.templates }

/-- Adds a content to a template. -/
def addContent (template contentId : Guid) (now : DateTime) (d : Draft) (tt : TemplateType) :
    Outcome TemplateType TemplateError Content :=
  tt.onTemplate template (Template.addContent contentId now d tt.acceptedTags)

/-- Sets the content of a template for a culture. -/
def upsertContent (template contentId : Guid) (now : DateTime) (d : Draft) (tt : TemplateType) :
    Outcome TemplateType TemplateError Content :=
  tt.onTemplate template (Template.upsertContent contentId now d tt.acceptedTags)

/-- Removes the content of a template for a culture. -/
def removeContent (template : Guid) (now : DateTime) (culture : String) (tt : TemplateType) :
    Outcome TemplateType TemplateError Content :=
  tt.onTemplate template (Template.removeContent now culture)

end TemplateType

end MailMerge
