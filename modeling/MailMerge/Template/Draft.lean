import MailMerge.Template.Error
/-!
Drafts of contents, and the rules for culture codes, names, subjects and bodies.
-/

namespace MailMerge

/-- Whether a list of characters is a language: two or three ASCII letters. -/
def isLanguage (cs : List Char) : Bool :=
  decide (2 ≤ cs.length ∧ cs.length ≤ 3) && cs.all Char.isAlpha

/-- Whether a list of characters is a subtag of a culture code: one to eight ASCII letters or
digits. -/
def isSubtag (cs : List Char) : Bool :=
  decide (1 ≤ cs.length ∧ cs.length ≤ 8) && cs.all Char.isAlphanum

/-- Whether a text is a culture code: a language and subtags, joined by hyphens, 2 to 35 bytes in
all. -/
def isCultureCode (code : String) : Bool :=
  decide (2 ≤ code.utf8ByteSize ∧ code.utf8ByteSize ≤ 35) &&
    match Text.splitAt (· == '-') code.toList with
    | [] => false
    | language :: subtags => isLanguage language && subtags.all isSubtag

/-- Accepts culture codes. -/
def checkCulture (code : String) : Except TemplateError Unit :=
  if isCultureCode code then .ok () else .error (.invalidCulture code)

/-- So many bytes may a name have. -/
def maxNameBytes : Nat := 256

/-- Accepts names: they are not blank, and not too long. -/
def checkName (name : String) : Except TemplateError Unit :=
  if Text.isBlank name ∨ maxNameBytes < name.utf8ByteSize then .error (.invalid .nameLength)
  else .ok ()

/-- So many characters may the subject of a content have. -/
def maxSubjectLength : Nat := 998

/-- What the content for a culture shall be. -/
structure Draft where
  culture : String
  subject : String
  body : String
  source : String
  isDefault : Bool
  deriving DecidableEq

namespace Draft

/-- The same draft, asking to be the default content. -/
def asDefault (d : Draft) : Draft := { d with isDefault := true }

/-- Accepts drafts with a culture code, a subject that is not blank and not too long, and a body
that is not blank. -/
def check (d : Draft) : Except TemplateError Unit := do
  checkCulture d.culture
  if Text.isBlank d.subject ∨ maxSubjectLength < d.subject.length then
    throw (.invalid .subjectLength)
  if Text.isBlank d.body then throw (.invalid .blankBody)

end Draft

end MailMerge
