import MailMerge.Base64
import MailMerge.Calendar.Read
import MailMerge.Double.Read
import MailMerge.Double.Shortest
import MailMerge.Guid
import MailMerge.Json.Print
import MailMerge.Tag.Type
/-!
Typed values of merge tags, their canonical texts, and reading them from a text of known or unknown
type.
-/

namespace MailMerge

/-- A value of a merge tag. -/
inductive TagValue where
  | date (d : Date)
  | time (t : Time)
  | dateTime (dt : DateTime)
  | guid (g : Guid)
  | double (x : Double)
  | bool (b : Bool)
  | string (s : String)
  | image (bytes : List UInt8)
  deriving DecidableEq

/-- Why a text is no value. -/
inductive ValueError where
  | invalid (raw : String) (expected : TagType)
  | noCandidate (raw : String)
  | unknownType (name : String)
  deriving DecidableEq

/-- The error in words. -/
def ValueError.message : ValueError → String
  | invalid raw expected => "'" ++ raw ++ "' is not a valid " ++ expected.name
  | noCandidate raw => "'" ++ raw ++ "' does not match any candidate type"
  | unknownType name => "Unknown merge tag type: " ++ name

/-- The type with a name. -/
def TagType.ofName (s : String) : Except ValueError TagType :=
  match ofName? s with
  | some t => .ok t
  | none => .error (.unknownType s)

namespace TagValue

/-- The type of a value. -/
def type : TagValue → TagType
  | date _ => .dateOnly
  | time _ => .timeOnly
  | dateTime _ => .dateTime
  | guid _ => .guid
  | double _ => .double
  | bool _ => .bool
  | string _ => .string
  | image _ => .image

/-- The canonical text of a value. -/
def text : TagValue → String
  | date d => String.ofList d.chars
  | time t => String.ofList t.chars
  | dateTime dt => String.ofList dt.chars
  | guid g => g.text
  | double x => x.text
  | bool true => "true"
  | bool false => "false"
  | string s => s
  | image bytes => Base64.encodeText bytes

/-- Reads a truth value, in any case. -/
def readBool? (s : String) : Option Bool :=
  let lower := s.toList.map Char.toLower
  if lower = ['t', 'r', 'u', 'e'] then some true
  else if lower = ['f', 'a', 'l', 's', 'e'] then some false
  else none

/-- Reads a finite double. -/
def readDouble? (s : String) : Option Double := (Double.ofText? s).filter Double.isFinite

/-- Reads the bytes of an image; there must be some. -/
def readImage? (s : String) : Option (List UInt8) :=
  (Base64.decodeText s).toOption.filter fun bytes => !bytes.isEmpty

/-- The value of the given type that a text stands for. White space around it does not count,
except in a string. -/
def ofText? (raw : String) : TagType → Option TagValue
  | .dateOnly => (Date.ofChars? (Text.trim raw.toList)).map date
  | .timeOnly => (Time.ofChars? (Text.trim raw.toList)).map time
  | .dateTime => (DateTime.ofChars? (Text.trim raw.toList)).map dateTime
  | .guid => (Guid.ofText? (Text.trimmed raw)).map guid
  | .double => (readDouble? (Text.trimmed raw)).map double
  | .bool => (readBool? (Text.trimmed raw)).map bool
  | .string => some (string raw)
  | .image => (readImage? (Text.trimmed raw)).map image

theorem type_of_ofText? {raw : String} {t : TagType} {v : TagValue} (h : ofText? raw t = some v) :
    v.type = t := by
  cases t with
  | string =>
    cases h
    rfl
  | _ =>
    obtain ⟨_, _, rfl⟩ := Option.map_eq_some_iff.1 h
    rfl

/-- The value of the given type that a text stands for. -/
def parse (raw : String) (t : TagType) : Except ValueError TagValue :=
  match ofText? raw t with
  | some v => .ok v
  | none => .error (.invalid raw t)

theorem parse_eq_ok {raw : String} {t : TagType} {v : TagValue} :
    parse raw t = .ok v ↔ ofText? raw t = some v := by
  unfold parse
  cases ofText? raw t <;> simp

/-- The value of the first type among `candidates`, in the order of all types, that a text has a
value of. -/
def parseFirst (raw : String) (candidates : List TagType) : Except ValueError TagValue :=
  match (TagType.all.filter candidates.contains).findSome? (ofText? raw) with
  | some v => .ok v
  | none => .error (.noCandidate raw)

/-- The value that a JSON value stands for. Text, numbers and truth values are read by their text;
anything else can only be a string, which then holds its JSON text. -/
def parseJson (j : Json) (candidates : List TagType) : Except ValueError TagValue :=
  match j with
  | .string s => parseFirst s candidates
  | .number n => parseFirst (String.ofList (Json.numberChars n)) candidates
  | .bool b => parseFirst (text (bool b)) candidates
  | j =>
    let raw := j.normalize.text
    if candidates.contains .string then .ok (string raw) else .error (.noCandidate raw)

end TagValue

end MailMerge
