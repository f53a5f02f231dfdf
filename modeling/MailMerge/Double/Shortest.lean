import MailMerge.Double.Basic
/-!
The shortest decimal that reads back to a finite double, and the text forms made of it.
-/

namespace MailMerge.Double

/-- A decimal number `digits * 10 ^ exponent`. -/
structure Decimal where
  digits : Nat
  exponent : Int
  deriving DecidableEq

/-- Which of two equally near decimals is taken. -/
inductive Tie where
  | up
  | toEven
  deriving DecidableEq

/-- Whether the decimal is read as the magnitude of the given rank. -/
def Decimal.readsAs (rank : Nat) (d : Decimal) : Bool := rankOfDecimal d.digits d.exponent == rank

/-- A number of units as a multiple of `10 ^ e`: numerator and denominator of the multiple. -/
def multipleOf (units : Nat) : Int → Nat × Nat
  | .ofNat k => (units, unitsPerOne * Nat.pow 10 k)
  | .negSucc k => (units * Nat.pow 10 (k + 1), unitsPerOne)

/-- The multiple of `10 ^ e` that reads back as the rank and is nearest to its magnitude; only the
two multiples around the magnitude can be it. -/
def onGrid? (tie : Tie) (rank : Nat) (e : Int) : Option Decimal :=
  let (num, den) := multipleOf (unitsOfRank rank) e
  let lower : Decimal := ⟨num / den, e⟩
  let upper : Decimal := ⟨num / den + 1, e⟩
  let upperNearer : Bool :=
    if 2 * (num % den) = den then
      match tie with
      | .up => true
      | .toEven => lower.digits % 2 == 1
    else decide (den < 2 * (num % den))
  match lower.readsAs rank, upper.readsAs rank with
  | true, true => some (if upperNearer then upper else lower)
  | true, false => some lower
  | false, true => some upper
  | false, false => none

/-- The number of digits before the point; negative for zeros behind the point. -/
def pointPlace (rank : Nat) : Int :=
  (Nat.toDigits 10 (unitsOfRank rank * Nat.pow 10 400 / unitsPerOne)).length - 400

/-- Takes the zeros at the end of the digits into the exponent. -/
def Decimal.withoutZeros (d : Decimal) : Decimal :=
  if h : d.digits ≠ 0 ∧ d.digits % 10 = 0 then
    Decimal.withoutZeros ⟨d.digits / 10, d.exponent + 1⟩
  else d
termination_by d.digits
decreasing_by
  show d.digits / 10 < d.digits
  omega

/-- The exact value: every unit is a multiple of `10 ^ -1074`. -/
def exact (rank : Nat) : Decimal := ⟨unitsOfRank rank * Nat.pow 5 1074, -1074⟩

/-- The decimal with the fewest digits that reads back as the rank, the nearest one of these. -/
def shortest (tie : Tie) (rank : Nat) : Decimal :=
  if rank = 0 then ⟨0, 0⟩
  else
    let place := pointPlace rank
    match (List.range 17).findSome? fun n => onGrid? tie rank (place - (n + 1 : Nat)) with
    | some d => d.withoutZeros
    | none => (exact rank).withoutZeros

/-- The decimal without an exponent and without needless zeros. -/
def Decimal.positional (d : Decimal) : List Char :=
  let ds := Nat.toDigits 10 d.digits
  match d.exponent with
  | .ofNat k => ds ++ List.replicate k '0'
  | .negSucc k =>
    let places := k + 1
    if places < ds.length then
      ds.take (ds.length - places) ++ '.' :: ds.drop (ds.length - places)
    else '0' :: '.' :: (List.replicate (places - ds.length) '0' ++ ds)

/-- An exponent with its sign. -/
def signedExponent (e : Int) : List Char :=
  if e < 0 then (toString e).toList else '+' :: (toString e).toList

/-- The decimal with at least one digit on each side of the point, in scientific form unless the
point stands within sixteen digits or behind at most four zeros. -/
def Decimal.scientific (d : Decimal) : List Char :=
  let ds := Nat.toDigits 10 d.digits
  let place : Int := ds.length + d.exponent
  if d.digits = 0 then ['0', '.', '0']
  else if 0 ≤ d.exponent ∧ place ≤ 16 then d.positional ++ ['.', '0']
  else if -5 < place ∧ place ≤ 16 then d.positional
  else
    let mantissa := match ds with
      | [] => []
      | [c] => [c]
      | c :: rest => c :: '.' :: rest
    mantissa ++ 'e' :: signedExponent (place - 1)

/-- A minus sign for negative numbers. -/
def signed (negative : Bool) (cs : List Char) : String :=
  String.ofList (if negative then '-' :: cs else cs)

/-- The shortest decimal that reads back, always without an exponent; zero keeps its sign. -/
def text : Double → String
  | finite negative rank => signed negative (shortest .up rank).positional
  | infinite negative => signed negative ['i', 'n', 'f']
  | nan => "NaN"

/-- The shortest decimal that reads back, as data formats write it: with a point or an exponent. -/
def dataText : Double → String
  | finite negative rank => signed negative (shortest .toEven rank).scientific
  | infinite negative => signed negative ['i', 'n', 'f']
  | nan => "NaN"

end MailMerge.Double
