/-!
Decimal and hexadecimal digits: the value of a run of digits, and the digits of a value with a
least or a fixed width.
-/

namespace MailMerge.Text

/-- The value of a decimal digit. -/
def digitValue (c : Char) : Nat := c.toNat - '0'.toNat

/-- The value of a run of decimal digits, the highest first. -/
def digitsValue (cs : List Char) : Nat := cs.foldl (fun n c => 10 * n + digitValue c) 0

/-- The digits of a number, the highest first. -/
def digits (n : Nat) : List Char := Nat.toDigits 10 n

/-- The digits of a number, filled up with zeros in front to at least `width`. -/
def paddedDigits (width n : Nat) : List Char :=
  List.replicate (width - (digits n).length) '0' ++ digits n

/-- The longest run of digits in front, and the text behind it. -/
def spanDigits (cs : List Char) : List Char × List Char :=
  (cs.takeWhile Char.isDigit, cs.dropWhile Char.isDigit)

/-- A hexadecimal digit of either case. -/
def hexValue? (c : Char) : Option Nat :=
  if c.isDigit then some (c.toNat - '0'.toNat)
  else if 'a' ≤ c ∧ c ≤ 'f' then some (c.toNat - 'a'.toNat + 10)
  else if 'A' ≤ c ∧ c ≤ 'F' then some (c.toNat - 'A'.toNat + 10)
  else none

/-- The value of a run of hexadecimal digits behind `start`. -/
def hexDigitsValue? (start : Nat) : List Char → Option Nat
  | [] => some start
  | c :: cs => (hexValue? c).bind fun v => hexDigitsValue? (16 * start + v) cs

/-- The lower-case hexadecimal digit for a value below 16. -/
def hexDigit (n : Nat) : Char :=
  if n < 10 then Char.ofNat ('0'.toNat + n) else Char.ofNat ('a'.toNat + (n - 10))

/-- The last `width` hexadecimal digits of a number. -/
def hexDigits : (width n : Nat) → List Char
  | 0, _ => []
  | width + 1, n => hexDigits width (n / 16) ++ [hexDigit (n % 16)]

theorem hexValue?_hexDigit : ∀ d, d < 16 → hexValue? (hexDigit d) = some d := by
  decide

theorem hexDigitsValue?_append (start : Nat) (cs : List Char) (c : Char) :
    hexDigitsValue? start (cs ++ [c]) = (hexDigitsValue? start cs).bind fun n =>
      (hexValue? c).map fun v => 16 * n + v := by
  induction cs generalizing start with
  | nil =>
      rw [List.nil_append, hexDigitsValue?, hexDigitsValue?, Option.bind_some]
      cases hexValue? c <;> rfl
  | cons d cs ih =>
      rw [List.cons_append, hexDigitsValue?, hexDigitsValue?, Option.bind_assoc]
      congr 1
      funext v
      exact ih _

/-- The digits of a number are read as the number, as far as they go. -/
theorem hexDigitsValue?_hexDigits (width n : Nat) :
    hexDigitsValue? 0 (hexDigits width n) = some (n % Nat.pow 16 width) := by
  induction width generalizing n with
  | zero =>
      rw [show n % Nat.pow 16 0 = 0 from Nat.mod_one n]
      rfl
  | succ width ih =>
      have last := hexValue?_hexDigit (n % 16) (Nat.mod_lt n (by decide))
      have whole : n % Nat.pow 16 (width + 1) = 16 * (n / 16 % Nat.pow 16 width) + n % 16 := by
        have split : Nat.pow 16 (width + 1) = 16 * Nat.pow 16 width := Nat.mul_comm _ 16
        rw [split, Nat.mod_mul]
        omega
      rw [hexDigits, hexDigitsValue?_append, ih, last, whole]
      rfl

end MailMerge.Text
