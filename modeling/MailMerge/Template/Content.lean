import MailMerge.Calendar.Time
import MailMerge.Mail.Render
import MailMerge.Template.Draft
/-!
Contents: subject and body of a mail for one culture, with the merge tags that their JSON source
refers to. A change of a content is stamped with its time.
-/

namespace MailMerge

/-- The content of a template for one culture. -/
structure Content where
  id : Guid
  culture : String
  subject : String
  body : String
  source : String
  tags : TagSet
  isDefault : Bool
  createdAt : DateTime
  updatedAt : DateTime
  deriving DecidableEq

/-- The accepted tags that a source refers to. -/
def contentTags (source : String) (accepted : List MergeTag) : Except TemplateError TagSet :=
  (resolveTags source accepted).mapError .references

namespace Content

/-- The content that a draft asks for. -/
def ofDraft (id : Guid) (now : DateTime) (d : Draft) (accepted : List MergeTag) :
    Except TemplateError Content :=
  match d.check with
  | .error e => .error e
  | .ok _ =>
    match contentTags d.source accepted with
    | .error e => .error e
    | .ok tags =>
      .ok ⟨id, d.culture, d.subject, d.body, d.source, tags, d.isDefault, now, now⟩

/-- Takes over what a draft asks for. A content stays the default even if the draft does not ask
for it. -/
def apply (now : DateTime) (d : Draft) (tags : TagSet) (c : Content) : Content :=
  { c with
    subject := d.subject
    body := d.body
    source := d.source
    tags := tags
    isDefault := d.isDefault || c.isDefault
    updatedAt := now }

/-- Makes a content the default, or an ordinary one. -/
def setDefault (now : DateTime) (isDefault : Bool) (c : Content) : Content :=
  if c.isDefault = isDefault then c else { c with isDefault := isDefault, updatedAt := now }

/-- Sets the merge tags. -/
def setTags (now : DateTime) (tags : TagSet) (c : Content) : Content :=
  if c.tags = tags then c else { c with tags := tags, updatedAt := now }

/-- Renders the content as a mail. -/
def render (c : Content) (engine : MergeEngine) (contentIds : Nat → String)
    (request : RenderRequest) (custom : List CustomTag) : Except TemplateError RenderedEmail :=
  (engine.render contentIds c.subject c.body c.tags request custom).mapError .render

end Content

end MailMerge
