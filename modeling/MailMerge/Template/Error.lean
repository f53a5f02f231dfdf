import MailMerge.Guid
import MailMerge.Mail.Resource
import MailMerge.Tag.Reference
/-!
What can go wrong with template types, templates, contents and owners.
-/

namespace MailMerge

/-- Something that is looked for or would be there twice. -/
inductive Entity where
  | content (culture : String) (template : Guid)
  | template (id : Guid)
  | templateNamed (name : String)
  | tag (name : String)
  | customData (name : String) (owner : Guid)
  | described (text : String)
  deriving DecidableEq

/-- The entity in words. -/
def Entity.words : Entity → String
  | content culture id => "content for culture '" ++ culture ++ "' in template " ++ id.text
  | template id => "template " ++ id.text
  | templateNamed name => "template '" ++ name ++ "'"
  | tag name => "merge tag '" ++ name ++ "'"
  | customData name owner => "custom data '" ++ name ++ "' of owner " ++ owner.text
  | described text => text

/-- What is wrong with a name, a draft or a declaration. -/
inductive Flaw where
  | nameLength
  | subjectLength
  | blankBody
  | misnamedTag (name identifier : String)
  | described (text : String)
  deriving DecidableEq

/-- The flaw in words. -/
def Flaw.words : Flaw → String
  | nameLength => "Name must be 1-256 characters"
  | subjectLength => "Subject must be 1-998 characters"
  | blankBody => "Body must not be empty"
  | misnamedTag name identifier =>
    "Merge tag name '" ++ name ++ "' must be written as '" ++ identifier ++ "'"
  | described text => text

/-- Why an operation on templates fails. -/
inductive TemplateError where
  | notFound (entity : Entity)
  | alreadyExists (entity : Entity)
  | invalid (flaw : Flaw)
  | invalidCulture (code : String)
  | duplicateTag (name : String)
  | defaultRequired (culture : String)
  | references (error : ReferenceError)
  | tag (error : TagError)
  | render (error : RenderError)
  deriving DecidableEq

/-- The error in words. -/
def TemplateError.message : TemplateError → String
  | notFound entity => "Not found: " ++ entity.words
  | alreadyExists entity => "Already exists: " ++ entity.words
  | invalid flaw => "Invalid template: " ++ flaw.words
  | invalidCulture code => "Invalid culture code: " ++ code
  | duplicateTag name => "Merge tag already declared: " ++ name
  | defaultRequired culture =>
    "Default content for '" ++ culture ++ "' cannot be removed while other cultures exist"
  | references error => "Merge tag validation failed: " ++ error.message
  | tag error => error.message
  | render error => error.message

end MailMerge
