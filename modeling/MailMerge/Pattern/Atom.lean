import MailMerge.Pattern.Mode
import MailMerge.Text.Digits
/-!
The atoms of patterns: characters, escapes, and the marks for any character and for places.
-/

namespace MailMerge.Pattern

/-- What a single sign or escape stands for. A character may be written as a byte; a named set is
one of digits, blanks or word characters; a property is one of Unicode. -/
inductive Atom where
  | char (c : Char) (asByte : Bool)
  | anyChar
  | edge
  | wordEdge
  | namedSet (negated : Bool)
  | property
  deriving DecidableEq

namespace Atom

/-- Whether an atom can stand outside of brackets. Word edges are not supported among characters;
without characters nothing may match a part of one. -/
def isAllowed (unicode : Bool) : Atom → Bool
  | char c asByte => unicode || !asByte || decide (c.toNat < 0x80)
  | anyChar => unicode
  | edge => true
  | wordEdge => !unicode
  | namedSet negated => unicode || !negated
  | property => unicode

/-- Whether an atom can stand within brackets. -/
def isAllowedInSet (unicode : Bool) : Atom → Bool
  | char c _ => unicode || decide (c.toNat < 0x80)
  | namedSet negated => unicode || !negated
  | property => unicode
  | _ => false

/-- The character with a code point, if there is one. -/
def charOfCode? (n : Nat) : Option Char :=
  if n < 0xD800 ∨ (0xE000 ≤ n ∧ n < 0x110000) then some (Char.ofNat n) else none

/-- Reads so many hexadecimal digits behind `value`. -/
def hexDigits? (mode : Mode) : (count value : Nat) → List Char → Option (Nat × List Char)
  | 0, value, cs => some (value, cs)
  | count + 1, value, cs =>
    match mode.skip cs with
    | [] => none
    | c :: rest => (Text.hexValue? c).bind fun v => hexDigits? mode count (16 * value + v) rest

/-- Reads a character as so many hexadecimal digits. -/
def hexChar? (mode : Mode) (count : Nat) (cs : List Char) : Option (Atom × List Char) :=
  (hexDigits? mode count 0 cs).bind fun (n, rest) =>
    (charOfCode? n).map fun c => (char c (count == 2), rest)

/-- The properties of one letter, in lower case: the main categories of characters. -/
def propertyNames : List Char := ['c', 'l', 'm', 'n', 'p', 's', 'z']

/-- Reads the letter of a property. -/
def property? (mode : Mode) (cs : List Char) : Option (Atom × List Char) :=
  match mode.skip cs with
  | [] => none
  | c :: rest => if propertyNames.contains c.toLower then some (property, rest) else none

/-- Whether a character stands for itself behind a backslash: ASCII characters do, apart from
letters, digits and angle brackets. -/
def isEscapable (c : Char) : Bool :=
  decide (c.toNat < 0x80) && !c.isAlphanum && c != '<' && c != '>'

/-- What one character stands for behind a backslash. -/
def simpleEscape? : Char → Option Atom
  | 'A' => some edge
  | 'z' => some edge
  | 'b' => some wordEdge
  | 'B' => some wordEdge
  | '<' => some wordEdge
  | '>' => some wordEdge
  | 'd' => some (namedSet false)
  | 's' => some (namedSet false)
  | 'w' => some (namedSet false)
  | 'D' => some (namedSet true)
  | 'S' => some (namedSet true)
  | 'W' => some (namedSet true)
  | 'a' => some (char '\x07' false)
  | 'f' => some (char '\x0c' false)
  | 't' => some (char '\t' false)
  | 'n' => some (char '\n' false)
  | 'r' => some (char '\r' false)
  | 'v' => some (char '\x0b' false)
  | c => if isEscapable c then some (char c false) else none

/-- Reads what follows a backslash. -/
def escape? (mode : Mode) : List Char → Option (Atom × List Char)
  | [] => none
  | 'x' :: rest => hexChar? mode 2 rest
  | 'u' :: rest => hexChar? mode 4 rest
  | 'U' :: rest => hexChar? mode 8 rest
  | 'p' :: rest => property? mode rest
  | 'P' :: rest => property? mode rest
  | c :: rest => (simpleEscape? c).map fun a => (a, rest)

theorem hexDigits?_length {mode : Mode} {count value n : Nat} {cs rest : List Char}
    (h : hexDigits? mode count value cs = some (n, rest)) : rest.length ≤ cs.length := by
  induction count generalizing value cs with
  | zero =>
    simp only [hexDigits?, Option.some.injEq, Prod.mk.injEq] at h
    simp [h.2]
  | succ count ih =>
    have shorter := mode.skip_length cs
    unfold hexDigits? at h
    split at h
    · cases h
    · next found =>
      obtain ⟨v, _, h⟩ := Option.bind_eq_some_iff.1 h
      have := ih h
      rw [found, List.length_cons] at shorter
      omega

theorem hexChar?_length {mode : Mode} {count : Nat} {cs rest : List Char} {a : Atom}
    (h : hexChar? mode count cs = some (a, rest)) : rest.length ≤ cs.length := by
  obtain ⟨⟨n, r⟩, found, h⟩ := Option.bind_eq_some_iff.1 h
  obtain ⟨c, _, same⟩ := Option.map_eq_some_iff.1 h
  simp only [Prod.mk.injEq] at same
  exact same.2 ▸ hexDigits?_length found

theorem property?_length {mode : Mode} {cs rest : List Char} {a : Atom}
    (h : property? mode cs = some (a, rest)) : rest.length ≤ cs.length := by
  have shorter := mode.skip_length cs
  unfold property? at h
  split at h
  · cases h
  · next found =>
    split at h
    · simp only [Option.some.injEq, Prod.mk.injEq] at h
      rw [found, List.length_cons, h.2] at shorter
      omega
    · cases h

theorem escape?_length {mode : Mode} {cs rest : List Char} {a : Atom}
    (h : escape? mode cs = some (a, rest)) : rest.length ≤ cs.length := by
  unfold escape? at h
  split at h
  · cases h
  · exact Nat.le_succ_of_le (hexChar?_length h)
  · exact Nat.le_succ_of_le (hexChar?_length h)
  · exact Nat.le_succ_of_le (hexChar?_length h)
  · exact Nat.le_succ_of_le (property?_length h)
  · exact Nat.le_succ_of_le (property?_length h)
  · obtain ⟨_, _, same⟩ := Option.map_eq_some_iff.1 h
    simp only [Prod.mk.injEq] at same
    simp [same.2]

end Atom

end MailMerge.Pattern
