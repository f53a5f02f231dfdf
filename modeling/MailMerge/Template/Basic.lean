import MailMerge.Outcome
import MailMerge.Template.Content
/-!
Templates: a content per culture, one of them the default. A template without contents has no
default.
-/

namespace MailMerge

/-- A template of mails. -/
structure Template where
  id : Guid
  typeId : Guid
  name : String
  contents : List Content
  createdAt : DateTime
  updatedAt : DateTime
  deriving DecidableEq

namespace Template

/-- Takes the default away from every content. -/
def clearDefault (now : DateTime) (contents : List Content) : List Content :=
  contents.map (Content.setDefault now false)

/-- Keeps the first default content and takes the default away from those behind it. -/
def keepFirstDefault (now : DateTime) : List Content → List Content
  | [] => []
  | c :: rest =>
    if c.isDefault then c :: clearDefault now rest else c :: keepFirstDefault now rest

/-- The contents with one default: the first of the defaults, or the first content if there is no
default. -/
def normalizeDefault (now : DateTime) (contents : List Content) : List Content :=
  if contents.any Content.isDefault then keepFirstDefault now contents
  else
    match contents with
    | [] => []
    | c :: rest => c.setDefault now true :: rest

/-- The template with the given parts, with one default content. -/
def ofParts (now : DateTime) (id typeId : Guid) (name : String) (contents : List Content)
    (createdAt updatedAt : DateTime) : Template :=
  ⟨id, typeId, name, normalizeDefault now contents, createdAt, updatedAt⟩

/-- The content for a culture. -/
def find? (t : Template) (culture : String) : Option Content :=
  t.contents.find? fun c => c.culture == culture

/-- The content for a culture. -/
def content (t : Template) (culture : String) : Except TemplateError Content :=
  match t.find? culture with
  | some c => .ok c
  | none => .error (.notFound (.content culture t.id))

/-- The default content. -/
def defaultContent (t : Template) : Option Content := t.contents.find? Content.isDefault

/-- The cultures of the contents, in order. -/
def cultures (t : Template) : List String := t.contents.map Content.culture

/-- A content as it joins a template: the first content becomes the default. -/
def settle (now : DateTime) (t : Template) (c : Content) : Content :=
  if t.contents.isEmpty then c.setDefault now true else c

/-- Puts a content behind the others. A default content takes the default over. -/
def insert (now : DateTime) (c : Content) (t : Template) : Template :=
  { t with
    contents := (if c.isDefault then clearDefault now t.contents else t.contents) ++ [c]
    updatedAt := now }

/-- A new template with its first content. -/
def create (id contentId : Guid) (now : DateTime) (typeId : Guid) (name : String) (initial : Draft)
    (accepted : List MergeTag) : Except TemplateError Template := do
  checkName name
  let c ← Content.ofDraft contentId now initial accepted
  let t : Template := ⟨id, typeId, Text.trimmed name, [], now, now⟩
  return t.insert now (t.settle now c)

/-- Adds the content for a culture that has none yet. -/
def addContent (contentId : Guid) (now : DateTime) (d : Draft) (accepted : List MergeTag)
    (t : Template) : Outcome Template TemplateError Content :=
  match t.find? d.culture with
  | some _ => .failed (.alreadyExists (.content d.culture t.id)) t
  | none =>
    .check (Content.ofDraft contentId now d accepted) t fun c =>
      let c := t.settle now c
      .done c (t.insert now c)

/-- Sets the content for a culture. An old one keeps its place, id and time of creation; a draft
that asks for the default takes it over. -/
def upsertContent (contentId : Guid) (now : DateTime) (d : Draft) (accepted : List MergeTag)
    (t : Template) : Outcome Template TemplateError Content :=
  match t.find? d.culture with
  | none => t.addContent contentId now d accepted
  | some old =>
    .check d.check t fun _ =>
    .check (contentTags d.source accepted) t fun tags =>
      let cleared := if d.isDefault then clearDefault now t.contents else t.contents
      let applied := old.apply now d tags
      .done applied
        { t with
          contents := modifyFirst (fun c => c.culture == d.culture) (fun _ => applied) cleared
          updatedAt := now }

/-- Removes the content for a culture. The default can only go last. -/
def removeContent (now : DateTime) (culture : String) (t : Template) :
    Outcome Template TemplateError Content :=
  match t.find? culture with
  | none => .failed (.notFound (.content culture t.id)) t
  | some c =>
    if c.isDefault && decide (1 < t.contents.length) then .failed (.defaultRequired culture) t
    else
      .done c
        { t with
          contents := t.contents.eraseP fun c => c.culture == culture
          updatedAt := now }

/-- Resolves the merge tags of all contents anew. -/
def reconcile (now : DateTime) (accepted : List MergeTag) (t : Template) :
    Outcome Template TemplateError Unit :=
  .check (t.contents.mapM fun c => contentTags c.source accepted) t fun resolved =>
    .done ()
      { t with
        contents := List.zipWith (fun c tags => c.setTags now tags) t.contents resolved }

end Template

end MailMerge
