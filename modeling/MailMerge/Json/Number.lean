import MailMerge.Json.Basic
import MailMerge.Text.Digits
/-!
Numbers in JSON text. A number without fraction and exponent that fits 64 bits is a whole number.
Any other becomes a double in two rounded steps: as many leading digits as fit 64 bits are rounded
to a double, which is then multiplied or divided by a rounded power of ten. The result may differ
from the nearest double in its last bit.
-/

namespace MailMerge

/-- A number as it is written: its sign, the digits before and behind the point, and the
exponent; `fraction` and `exponent` are `none` if they are not written. -/
structure NumberText where
  negative : Bool
  whole : List Char
  fraction : Option (List Char)
  exponent : Option Int
  deriving DecidableEq

namespace JsonNumber

/-- The largest whole number of 64 bits without a sign. -/
def maxWhole : Nat := Nat.pow 2 64 - 1

/-- The leading digits that fit 64 bits, as their value, and the digits left over. -/
def leadingDigits (value : Nat) : List Char → Nat × List Char
  | [] => (value, [])
  | c :: cs =>
    let next := 10 * value + Text.digitValue c
    if maxWhole < next then (value, c :: cs) else leadingDigits next cs

/-- The digits that count, and the power of ten they are to be multiplied with, without the
written exponent. Digits of the fraction that no longer fit are dropped. -/
def significand (whole fraction : List Char) : Nat × Int :=
  let (value, excess) := leadingDigits 0 whole
  let (value, left) := leadingDigits value fraction
  (value, (excess.length : Int) - ((fraction.length - left.length : Nat) : Int))

/-- The largest power of ten among the doubles. -/
def maxPower : Nat := 308

/-- The rank of the product of two magnitudes. -/
def timesRank (a b : Nat) : Nat :=
  Double.nearestRank (Double.unitsOfRank a * Double.unitsOfRank b)
    (Double.unitsPerOne * Double.unitsPerOne)

/-- The rank of the quotient of two magnitudes. -/
def overRank (a b : Nat) : Nat :=
  Double.nearestRank (Double.unitsOfRank a) (Double.unitsOfRank b)

/-- The rank of a power of ten. -/
def powerRank (k : Nat) : Nat := Double.nearestRank (Nat.pow 10 k) 1

/-- Divides by `10 ^ k`, in steps that are powers among the doubles; a magnitude that has become
zero stays zero. -/
def divideByPower (rank k : Nat) : Nat :=
  if rank = 0 then 0
  else if maxPower < k then divideByPower (overRank rank (powerRank maxPower)) (k - maxPower)
  else overRank rank (powerRank k)
termination_by k
decreasing_by
  simp only [maxPower] at *
  omega

/-- The rank of `value * 10 ^ e`, computed in rounded steps; `none` if it is too large. -/
def scaledRank? (value : Nat) (e : Int) : Option Nat :=
  let rank := Double.nearestRank value 1
  match e with
  | .ofNat k =>
    if rank = 0 then some 0
    else if maxPower < k then none
    else
      let product := timesRank rank (powerRank k)
      if product < finiteRanks then some product else none
  | .negSucc k => some (divideByPower rank (k + 1))

/-- The number that a text stands for, if it is in range. -/
def ofNumberText? (t : NumberText) : Option JsonNumber :=
  let n := Text.digitsValue t.whole
  match t.fraction, t.exponent with
  | none, none =>
    if t.negative then
      if n = 0 ∨ Nat.pow 2 63 < n then real? t else some (whole (-n))
    else if maxWhole < n then real? t
    else some (whole n)
  | _, _ => real? t
where
  /-- The number as a double. -/
  real? (t : NumberText) : Option JsonNumber :=
    let (value, e) := significand t.whole (t.fraction.getD [])
    (scaledRank? value (e + t.exponent.getD 0)).map fun rank =>
      real (Double.ofRank t.negative rank)

end JsonNumber

end MailMerge
