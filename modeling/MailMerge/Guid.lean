import MailMerge.Text.Digits
/-!
Globally unique identifiers: numbers of 128 bits and their textual forms.
-/

namespace MailMerge

/-- A number of 128 bits. -/
structure Guid where
  value : BitVec 128
  deriving DecidableEq

namespace Guid

/-- The bits of an identifier that are random. -/
def randomMask : BitVec 128 := BitVec.ofNat 128 0xFFFFFFFFFFFF0FFF3FFFFFFFFFFFFFFF

/-- The other bits, which tell that an identifier is random. -/
def randomMark : BitVec 128 := BitVec.ofNat 128 0x00000000000040008000000000000000

/-- The identifier made of random bits. -/
def ofRandomBits (n : Nat) : Guid := ⟨BitVec.ofNat 128 n &&& randomMask ||| randomMark⟩

/-- The 32 hexadecimal digits. -/
def hex (g : Guid) : List Char := Text.hexDigits 32 g.value.toNat

/-- Cuts a text into pieces of the given lengths. -/
def cut : List Nat → List Char → List (List Char)
  | [], _ => []
  | n :: ns, cs => cs.take n :: cut ns (cs.drop n)

/-- The lengths of the groups of hexadecimal digits. -/
def groups : List Nat := [8, 4, 4, 4, 12]

/-- Five groups of digits, joined by hyphens. -/
def chars (g : Guid) : List Char := List.intercalate ['-'] (cut groups g.hex)

/-- The canonical text: five groups of lower-case hexadecimal digits, joined by hyphens. -/
def text (g : Guid) : String := String.ofList g.chars

/-- The 32 digits without hyphens. -/
def simpleText (g : Guid) : String := String.ofList g.hex

/-- Reads 32 hexadecimal digits. -/
def ofHex? (cs : List Char) : Option Guid :=
  if cs.length = 32 then (Text.hexDigitsValue? 0 cs).map fun n => ⟨BitVec.ofNat 128 n⟩ else none

/-- Reads five groups of digits joined by hyphens. -/
def ofHyphenated? (cs : List Char) : Option Guid :=
  let plain := cs.filter (· != '-')
  if List.intercalate ['-'] (cut groups plain) = cs then ofHex? plain else none

/-- What may stand in front of the hyphenated form, in any case. -/
def urnLead : List Char := ['u', 'r', 'n', ':', 'u', 'u', 'i', 'd', ':']

/-- Reads an identifier: the plain digits, the hyphenated form, that form in braces, or that form
as a uniform resource name. -/
def ofText? (s : String) : Option Guid :=
  let cs := s.toList
  match cs.length with
  | 32 => ofHex? cs
  | 36 => ofHyphenated? cs
  | 38 =>
    if cs.head? = some '{' ∧ cs.getLast? = some '}' then ofHyphenated? (cs.drop 1).dropLast
    else none
  | 45 =>
    if (cs.take 9).map Char.toLower = urnLead then ofHyphenated? (cs.drop 9) else none
  | _ => none

end Guid

end MailMerge
