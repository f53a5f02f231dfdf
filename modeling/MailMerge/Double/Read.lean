import MailMerge.Double.Basic
import MailMerge.Text.Digits
/-!
Reading doubles from decimal text.
-/

namespace MailMerge.Double

/-- The exponent behind the letter `e`, with an optional sign; it ends the text. -/
def readExponent? : List Char → Option Int
  | '-' :: ds => if !ds.isEmpty && ds.all Char.isDigit then some (-(Text.digitsValue ds)) else none
  | '+' :: ds => if !ds.isEmpty && ds.all Char.isDigit then some (Text.digitsValue ds) else none
  | ds => if !ds.isEmpty && ds.all Char.isDigit then some (Text.digitsValue ds) else none

/-- The digits behind the point, and the text behind them. -/
def spanFraction : List Char → List Char × List Char
  | '.' :: rest => Text.spanDigits rest
  | rest => ([], rest)

/-- Reads digits with an optional point and an optional exponent; one of the sides of the point
may be empty. -/
def readMagnitude? (negative : Bool) (cs : List Char) : Option Double :=
  let (whole, behindWhole) := Text.spanDigits cs
  let (fraction, rest) := spanFraction behindWhole
  if whole.isEmpty && fraction.isEmpty then none
  else
    let n := Text.digitsValue (whole ++ fraction)
    match rest with
    | [] => some (ofDecimal negative n (-fraction.length))
    | c :: exponent =>
      if c = 'e' ∨ c = 'E' then
        (readExponent? exponent).map fun e => ofDecimal negative n (e - fraction.length)
      else none

/-- Reads a number or the name of an infinite or undefined one, in any case. -/
def readUnsigned? (negative : Bool) (cs : List Char) : Option Double :=
  let lower := String.ofList (cs.map Char.toLower)
  if lower = "inf" ∨ lower = "infinity" then some (infinite negative)
  else if lower = "nan" then some nan
  else readMagnitude? negative cs

/-- Reads a double with an optional sign. -/
def ofText? (s : String) : Option Double :=
  match s.toList with
  | '-' :: cs => readUnsigned? true cs
  | '+' :: cs => readUnsigned? false cs
  | cs => readUnsigned? false cs

end MailMerge.Double
