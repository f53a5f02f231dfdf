/-!
Binary floating-point numbers of double precision, with exact rounding. The finite magnitudes are
numbered from zero upwards; the number is the rank of a magnitude. Every magnitude is a whole
number of units, so rounding is arithmetic on natural numbers.
-/

namespace MailMerge

/-- So many magnitudes have the same distance to their neighbours. -/
def ranksPerStep : Nat := Nat.pow 2 52

/-- There are so many finite magnitudes. -/
def finiteRanks : Nat := 2047 * ranksPerStep

/-- A double. A finite one is its sign and the rank of its magnitude. -/
inductive Double where
  | finite (negative : Bool) (rank : Fin finiteRanks)
  | infinite (negative : Bool)
  | nan
  deriving DecidableEq

namespace Double

/-- One is so many units. -/
def unitsPerOne : Nat := Nat.pow 2 1074

/-- The magnitude of a rank, counted in units. The least ranks count the units themselves; from the
second step on every step doubles the distance of two magnitudes. -/
def unitsOfRank (rank : Nat) : Nat :=
  if rank < ranksPerStep then rank
  else (ranksPerStep + rank % ranksPerStep) * Nat.pow 2 (rank / ranksPerStep - 1)

/-- The quotient rounded to the nearest whole number, a half to the even one. -/
def divRound (num den : Nat) : Nat :=
  let quotient := num / den
  let rest := num % den
  if 2 * rest < den then quotient
  else if den < 2 * rest then quotient + 1
  else quotient + quotient % 2

/-- The rank of the magnitude nearest to `num / den`, a half to the even rank. A rank that is not
below `finiteRanks` stands for a value too large. -/
def nearestRank (num den : Nat) : Nat :=
  let units := num * unitsPerOne
  let spread := Nat.log2 (units / den) - 52
  spread * ranksPerStep + divRound units (den * Nat.pow 2 spread)

/-- The double with the given sign and rank, infinite if there is no such rank. -/
def ofRank (negative : Bool) (rank : Nat) : Double :=
  if h : rank < finiteRanks then finite negative ⟨rank, h⟩ else infinite negative

/-- The rank of the magnitude nearest to `n * 10 ^ e`. -/
def rankOfDecimal (n : Nat) : Int → Nat
  | .ofNat k => nearestRank (n * Nat.pow 10 k) 1
  | .negSucc k => nearestRank n (Nat.pow 10 (k + 1))

/-- The double nearest to `n * 10 ^ e`. Values far beyond the largest and the least magnitude are
told apart first, so that no large power is computed for them. -/
def ofDecimal (negative : Bool) (n : Nat) (e : Int) : Double :=
  if n = 0 then ofRank negative 0
  else if 400 < e then infinite negative
  else if e + (Nat.toDigits 10 n).length < -400 then ofRank negative 0
  else ofRank negative (rankOfDecimal n e)

/-- Neither infinite nor undefined. -/
def isFinite : Double → Bool
  | finite _ _ => true
  | _ => false

end Double

end MailMerge
