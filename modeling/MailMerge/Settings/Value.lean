import MailMerge.Double.Read
import MailMerge.Double.Shortest
import MailMerge.Settings.Basic
import MailMerge.Text.LowerCase
import MailMerge.Text.Quoted
/-!
The values of environment variables. A value is taken as a truth value, a whole number or a double
if it reads as one, and converted to what a setting needs.
-/

namespace MailMerge

/-- The value of a variable. -/
inductive VariableValue where
  | truth (b : Bool)
  | whole (n : Int)
  | real (x : Double)
  | text (s : String)
  deriving DecidableEq

namespace VariableValue

/-- Reads a whole number of 64 bits with an optional sign. -/
def readWhole? (cs : List Char) : Option Int :=
  let digits? (ds : List Char) : Option Nat :=
    if !ds.isEmpty && ds.all Char.isDigit then some (Text.digitsValue ds) else none
  match cs with
  | '-' :: ds => (digits? ds).bind fun n => if n ≤ Nat.pow 2 63 then some (-(n : Int)) else none
  | '+' :: ds => (digits? ds).bind fun n => if n < Nat.pow 2 63 then some (n : Int) else none
  | ds => (digits? ds).bind fun n => if n < Nat.pow 2 63 then some (n : Int) else none

/-- What the text of a variable stands for. -/
def ofText (s : String) : VariableValue :=
  let lower := Text.lower s.toList
  if lower = "true".toList then truth true
  else if lower = "false".toList then truth false
  else
    match readWhole? s.toList with
    | some n => whole n
    | none =>
      match Double.ofText? s with
      | some x => real x
      | none => text s

/-- The value of the words that switch something on or off, in any case. -/
def switch? (s : String) : Option Bool :=
  let lower := String.ofList (Text.lower s.toList)
  if ["1", "true", "on", "yes"].contains lower then some true
  else if ["0", "false", "off", "no"].contains lower then some false
  else none

/-- The whole number nearest to a double, a half away from zero, within the numbers of 64 bits. -/
def roundedAmount : Double → Nat
  | .finite true _ => 0
  | .finite false rank =>
    min maxSetting
      ((2 * Double.unitsOfRank rank + Double.unitsPerOne) / (2 * Double.unitsPerOne))
  | .infinite true => 0
  | .infinite false => maxSetting
  | .nan => 0

/-- The value as a truth value; a number is true unless it is zero. -/
def truth? : VariableValue → Option Bool
  | truth b => some b
  | whole n => some (n ≠ 0)
  | real (.finite _ rank) => some (rank.val ≠ 0)
  | real _ => some true
  | text s => switch? s

/-- The value as a number from zero up. -/
def amount? : VariableValue → Option Nat
  | truth b => some b.toNat
  | whole n => if 0 ≤ n then some n.toNat else none
  | real x => some (roundedAmount x)
  | text s => (switch? s).map Bool.toNat

/-- The value as a text: numbers are written anew. -/
def asText : VariableValue → String
  | truth true => "true"
  | truth false => "false"
  | whole n => toString n
  | real x => x.text
  | text s => s

end VariableValue

end MailMerge
