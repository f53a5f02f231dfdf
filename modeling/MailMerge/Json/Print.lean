import MailMerge.Json.Basic
import MailMerge.Text.Digits
/-!
JSON text: without white space between its tokens, or with every item and member on a line of its
own.
-/

namespace MailMerge

namespace Json

/-- A character within a string. Quote, backslash and control characters are escaped. -/
def escapeChar (c : Char) : List Char :=
  match c with
  | '"' => ['\\', '"']
  | '\\' => ['\\', '\\']
  | '\x08' => ['\\', 'b']
  | '\x0c' => ['\\', 'f']
  | '\n' => ['\\', 'n']
  | '\r' => ['\\', 'r']
  | '\t' => ['\\', 't']
  | c => if c.toNat < 0x20 then '\\' :: 'u' :: Text.hexDigits 4 c.toNat else [c]

/-- A string in quotes. -/
def quoted (s : String) : List Char := '"' :: (s.toList.flatMap escapeChar ++ ['"'])

/-- A number; a double has a point or an exponent. -/
def numberChars : JsonNumber → List Char
  | .whole n => (toString n).toList
  | .real x => x.dataText.toList

mutual

/-- The text of a value. -/
def chars : Json → List Char
  | null => ['n', 'u', 'l', 'l']
  | bool true => ['t', 'r', 'u', 'e']
  | bool false => ['f', 'a', 'l', 's', 'e']
  | number n => numberChars n
  | string s => quoted s
  | array items => '[' :: itemsChars items
  | object members => '{' :: membersChars members

/-- The text from the first item of an array to its end. -/
def itemsChars : List Json → List Char
  | [] => [']']
  | [item] => chars item ++ [']']
  | item :: items => chars item ++ ',' :: itemsChars items

/-- The text from the first member of an object to its end. -/
def membersChars : List (String × Json) → List Char
  | [] => ['}']
  | [(name, value)] => quoted name ++ ':' :: (chars value ++ ['}'])
  | (name, value) :: members =>
    quoted name ++ ':' :: (chars value ++ ',' :: membersChars members)

end

/-- The compact text of a value. -/
def text (j : Json) : String := String.ofList j.chars

/-- The start of a line that is indented by two blanks per level. -/
def newLine (level : Nat) : List Char := '\n' :: List.replicate (2 * level) ' '

mutual

/-- The text of a value on lines, of which the first is started already. -/
def lines (level : Nat) : Json → List Char
  | array (item :: items) => '[' :: itemLines (level + 1) (item :: items)
  | object (m :: members) => '\x7b' :: memberLines (level + 1) (m :: members)
  | j => chars j

/-- The lines of the items of an array, to its end. -/
def itemLines (level : Nat) : List Json → List Char
  | [] => newLine (level - 1) ++ [']']
  | item :: items =>
    newLine level ++ lines level item ++
      ((if items.isEmpty then [] else [',']) ++ itemLines level items)

/-- The lines of the members of an object, to its end. -/
def memberLines (level : Nat) : List (String × Json) → List Char
  | [] => newLine (level - 1) ++ ['\x7d']
  | (name, value) :: members =>
    newLine level ++ quoted name ++ ':' :: ' ' :: (lines level value ++
      ((if members.isEmpty then [] else [',']) ++ memberLines level members))

end

/-- The text of a value on lines. -/
def prettyText (j : Json) : String := String.ofList (j.lines 0)

end Json

end MailMerge
