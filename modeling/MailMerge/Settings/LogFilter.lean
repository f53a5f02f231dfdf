import MailMerge.Double.Read
import MailMerge.Pattern.Basic
import MailMerge.Text.Blank
import MailMerge.Text.WordChar
/-!
Log filters: directives, apart by commas, that set a level for everything, for a target, or for a
span of a target. A span may be narrowed down by a field, which has a value or a pattern for it.
-/

namespace MailMerge.LogFilter

/-- The names of the levels. -/
def levels : List String := ["trace", "debug", "info", "warn", "error", "off"]

/-- Whether a text is a number from 0 to 5, with an optional plus sign. -/
def isLevelNumber (cs : List Char) : Bool :=
  let ds := match cs with
    | '+' :: ds => ds
    | ds => ds
  !ds.isEmpty && ds.all Char.isDigit && decide (ds.foldl (fun n c => 10 * n + (c.toNat - 48)) 0 ≤ 5)

/-- Whether a text is a level: a name in any case, a number, or nothing. -/
def isLevel (cs : List Char) : Bool :=
  cs.isEmpty || levels.contains (String.ofList (cs.map Char.toLower)) || isLevelNumber cs

/-- Whether a directive may start with a character, if not with a span. -/
def startsTarget (c : Char) : Bool := ['-', ':', '_'].contains c || Text.isAlphanumeric c

/-- Whether a text is a value of a field: a number, or a pattern. -/
def isFieldValue (cs : List Char) : Bool :=
  (Double.ofText? (String.ofList cs)).isSome || Pattern.isValid cs

/-- Whether a text is a field: its name, and behind an equals sign its value. What follows a second
equals sign does not count. -/
def isField (cs : List Char) : Bool :=
  match cs.dropWhile (· != '=') with
  | [] => true
  | _ :: value => isFieldValue (value.takeWhile (· != '='))

/-- The number of bytes of a text. -/
def byteLength (cs : List Char) : Nat := (cs.map Char.utf8Size).foldl (· + ·) 0

/-- The text behind so many bytes. -/
def dropBytes : (count : Nat) → List Char → List Char
  | 0, cs => cs
  | _, [] => []
  | count + 1, c :: cs => dropBytes (count + 1 - c.utf8Size) cs

/-- The text within so many bytes in front. -/
def takeBytes : (count : Nat) → List Char → List Char
  | 0, _ => []
  | _, [] => []
  | count + 1, c :: cs => c :: takeBytes (count + 1 - c.utf8Size) cs

/-- A directive as it is given, and without white space around it. -/
structure Directive where
  given : List Char
  trimmed : List Char

namespace Directive

/-- Whether the directive may set a level: only if no white space stands around it. -/
def allowsLevel (d : Directive) : Bool := d.trimmed.length == d.given.length

/-- Whether a text may stand behind a target or a span: nothing, or a level. -/
def isSetting (d : Directive) : List Char → Bool
  | [] => true
  | '=' :: cs => d.allowsLevel && isLevel cs
  | _ => false

/-- The field that stands in front of `rest` at the end of the directive. Its place is counted
without the white space in front, and looked up in the directive as it is given. -/
def fieldBefore (d : Directive) (field rest : List Char) : List Char :=
  let start := byteLength d.trimmed - byteLength (field ++ rest)
  takeBytes (byteLength field) (dropBytes start d.given)

/-- Whether a text at the end of the directive is the rest of a span: its name, a field in braces,
and a level. -/
def isSpan (d : Directive) (cs : List Char) : Bool :=
  match cs.dropWhile fun c => c != ']' && c != '\x7b' with
  | ']' :: rest => d.isSetting rest
  | '\x7b' :: rest =>
    let field := rest.takeWhile (· != '\x7d')
    match rest.dropWhile (· != '\x7d') with
    | '\x7d' :: ']' :: behind =>
      !field.isEmpty && isField (d.fieldBefore field ('\x7d' :: ']' :: behind)) &&
        d.isSetting behind
    | _ => false
  | _ => false

/-- Whether the directive can be used. A text alone is a level for everything, or a target. -/
def isValid (d : Directive) : Bool :=
  match d.trimmed with
  | [] => false
  | '[' :: span => d.isSpan span
  | c :: _ =>
    startsTarget c &&
      match d.trimmed.dropWhile fun c => c != '=' && c != '[' with
      | '[' :: span => d.isSpan span
      | rest => d.isSetting rest

end Directive

/-- Whether a text is a log filter. Nothing may stand between two commas. -/
def isValid (s : String) : Bool :=
  ((Text.splitAt (· == ',') s.toList).filter fun piece => !piece.isEmpty).all fun piece =>
    (Directive.mk piece (Text.trim piece)).isValid

end MailMerge.LogFilter
