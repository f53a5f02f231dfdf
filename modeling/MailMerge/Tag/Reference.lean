import MailMerge.Json.Read
import MailMerge.Tag.Basic
import MailMerge.Tag.Candidate
/-!
The merge tags that the JSON structure of a content refers to. The structure is searched as text;
every candidate in it has to be a short code, whatever tags are accepted.
-/

namespace MailMerge

/-- Why the references of a structure cannot be told. -/
inductive ReferenceError where
  | notJson
  | malformed (text : String) (fault : ShortCode.Fault)
  deriving DecidableEq

/-- The error in words. -/
def ReferenceError.message : ReferenceError → String
  | notJson => "Template structure is not valid JSON"
  | malformed text fault =>
    "Template references an invalid short code: " ++ (TagError.malformed text fault).message

/-- A set of texts, in their order. -/
abbrev TextSet := Ascending (fun s : String => s)

/-- The short codes among the candidates, in order; the first candidate that is none decides the
error. -/
def shortCodes (bodies : List (List Char)) : Except ReferenceError (List ShortCode) :=
  bodies.mapM fun body =>
    match ShortCode.ofChars? (ShortCode.inBraces body) with
    | .ok code => .ok code
    | .error fault => .error (.malformed (String.ofList (ShortCode.inBraces body)) fault)

/-- The identifiers that a text refers to. -/
def referencedIdentifiers (s : String) : Except ReferenceError TextSet :=
  (shortCodes (candidates s)).map fun codes => Ascending.ofList (codes.map ShortCode.identifier)

/-- The accepted tags whose name a structure refers to. -/
def resolveTags (source : String) (accepted : List MergeTag) : Except ReferenceError TagSet :=
  if Json.isValid source then
    (referencedIdentifiers source).map fun identifiers =>
      Ascending.ofList (accepted.filter fun tag => identifiers.toList.contains tag.name.text)
  else .error .notJson

end MailMerge
