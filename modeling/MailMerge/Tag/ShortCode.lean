import MailMerge.Text.Blank
/-!
Short codes, the marks that stand for a value in a text: an identifier in double braces. A short
code is held as its identifier, so `text` and `ofText?` are each other's inverse. A short code can
also be made up from a name.
-/

namespace MailMerge

/-- The characters of identifiers: ASCII letters and digits, the underscore and the point. -/
def isIdentifierChar (c : Char) : Bool := c.isAlphanum || c == '_' || c == '.'

/-- One or more identifier characters. -/
def isIdentifier (cs : List Char) : Bool := !cs.isEmpty && cs.all isIdentifierChar

/-- A mark for a value, known by its identifier. -/
structure ShortCode where
  identifier : String
  wellFormed : isIdentifier identifier.toList = true
  deriving DecidableEq

namespace ShortCode

/-- Why a text is no short code. -/
inductive Fault where
  | badStart
  | badEnd
  | emptyIdentifier
  | badCharacter (c : Char)
  deriving DecidableEq

/-- The fault in words. -/
def Fault.reason : Fault → String
  | .badStart => "must start with '\x7b\x7b'"
  | .badEnd => "must end with '\x7d\x7d'"
  | .emptyIdentifier => "identifier is empty"
  | .badCharacter c => "invalid character '" ++ c.toString ++ "'"

/-- Puts double braces around a text. -/
def inBraces (body : List Char) : List Char := '{' :: '{' :: (body ++ ['}', '}'])

/-- The short code as it is written. -/
def text (code : ShortCode) : String := String.ofList (inBraces code.identifier.toList)

/-- The text before two closing braces that end it. -/
def beforeBraces? : List Char → Option (List Char)
  | [] => none
  | ['}', '}'] => some []
  | c :: cs => (beforeBraces? cs).map (c :: ·)

/-- The short code whose identifier is `body`. -/
def ofIdentifier? (body : List Char) : Except Fault ShortCode :=
  if h : isIdentifier body = true then
    .ok ⟨String.ofList body, by simpa using h⟩
  else
    match body.find? (fun c => !isIdentifierChar c) with
    | some c => .error (.badCharacter c)
    | none => .error .emptyIdentifier

/-- Reads a short code; of several faults the first in the order of `Fault` is given. -/
def ofChars? : List Char → Except Fault ShortCode
  | '{' :: '{' :: rest =>
    match beforeBraces? rest with
    | some body => ofIdentifier? body
    | none => .error .badEnd
  | _ => .error .badStart

/-- Reads a short code. -/
def ofText? (s : String) : Except Fault ShortCode := ofChars? s.toList

/-- The identifier characters in the lower-case form of a character. Outside ASCII only the Kelvin
sign and the dotted capital I have any. -/
def lowerIdentifierChars (c : Char) : List Char :=
  if c.isUpper then [c.toLower]
  else if isIdentifierChar c then [c]
  else if c = '\u212A' then ['k']
  else if c = '\u0130' then ['i']
  else []

/-- The identifier for a name: its words joined by underscores, in lower case, without the
characters that identifiers do not have. -/
def identifierOfName (name : String) : List Char :=
  (List.intercalate ['_'] (Text.words name.toList)).flatMap lowerIdentifierChars

/-- The short code for a name, unless nothing of the name is left. -/
def ofName? (name : String) : Option ShortCode := (ofIdentifier? (identifierOfName name)).toOption

end ShortCode

end MailMerge
