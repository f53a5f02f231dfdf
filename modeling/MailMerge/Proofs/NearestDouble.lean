import MailMerge.Double.Shortest
/-!
Rounding to the nearest double. What a decimal is rounded to depends on its value only, not on how
the value is written as a fraction, and the value of a magnitude is rounded to this magnitude. So
the shortest decimal of a double is rounded to it, whichever of the ways to find it was taken.
-/

set_option autoImplicit false

namespace MailMerge.Double

/-! Rounding a fraction. -/

theorem divRound_mul (num den : Nat) {k : Nat} (some : 0 < k) :
    divRound (num * k) (den * k) = divRound num den := by
  have quotient : num * k / (den * k) = num / den := Nat.mul_div_mul_right num den some
  have rest : 2 * (num * k % (den * k)) = 2 * (num % den) * k := by
    rw [Nat.mul_mod_mul_right, Nat.mul_assoc]
  have below : 2 * (num % den) * k < den * k ↔ 2 * (num % den) < den :=
    Nat.mul_lt_mul_right some
  have above : den * k < 2 * (num % den) * k ↔ den < 2 * (num % den) :=
    Nat.mul_lt_mul_right some
  simp only [divRound, quotient, rest, below, above]

theorem divRound_multiple (n : Nat) {den : Nat} (some : 0 < den) : divRound (n * den) den = n := by
  rw [divRound, Nat.mul_mod_left, Nat.mul_div_cancel n some, if_pos (by simpa using some)]

/-- A fraction may be extended. -/
theorem nearestRank_mul (num den : Nat) {k : Nat} (some : 0 < k) :
    nearestRank (num * k) (den * k) = nearestRank num den := by
  have units : num * k * unitsPerOne = num * unitsPerOne * k := Nat.mul_right_comm num k _
  have step (spread : Nat) : den * k * Nat.pow 2 spread = den * Nat.pow 2 spread * k :=
    Nat.mul_right_comm den k _
  simp only [nearestRank, units, step, Nat.mul_div_mul_right _ _ some, divRound_mul _ _ some]

/-- The step of a magnitude can be told from its units. -/
theorem log2_step {m : Nat} (spread : Nat) (low : ranksPerStep ≤ m) (high : m < 2 * ranksPerStep) :
    Nat.log2 (m * Nat.pow 2 spread) = 52 + spread := by
  have some : 0 < Nat.pow 2 spread := Nat.pow_pos (by decide)
  have power : Nat.pow 2 (52 + spread) = ranksPerStep * Nat.pow 2 spread :=
    Nat.pow_add 2 52 spread
  have next : Nat.pow 2 (52 + spread + 1) = 2 * ranksPerStep * Nat.pow 2 spread := by
    rw [Nat.pow_eq, Nat.pow_succ', ← Nat.pow_eq, power, Nat.mul_assoc]
  have least : Nat.pow 2 (52 + spread) ≤ m * Nat.pow 2 spread := by
    rw [power]
    exact Nat.mul_le_mul_right _ low
  have most : m * Nat.pow 2 spread < Nat.pow 2 (52 + spread + 1) := by
    rw [next]
    exact Nat.mul_lt_mul_of_pos_right high some
  have nonzero : m * Nat.pow 2 spread ≠ 0 :=
    Nat.ne_of_gt (Nat.lt_of_lt_of_le (Nat.pow_pos (by decide)) least)
  exact (Nat.log2_eq_iff nonzero).2 ⟨least, most⟩

theorem log2_unitsOfRank (rank : Nat) :
    Nat.log2 (unitsOfRank rank) - 52 = rank / ranksPerStep - 1 := by
  rw [unitsOfRank]
  split
  · next small =>
      rw [Nat.div_eq_of_lt small]
      by_cases zero : rank = 0
      · rw [zero]
        decide
      · have log : Nat.log2 rank < 52 := (Nat.log2_lt zero).2 small
        omega
  · have place : rank % ranksPerStep < ranksPerStep := Nat.mod_lt rank (Nat.pow_pos (by decide))
    rw [log2_step _ (Nat.le_add_right _ _) (by omega), Nat.add_sub_cancel_left]

/-- A magnitude is rounded to itself. -/
theorem nearestRank_unitsOfRank {num den rank : Nat} (some : 0 < den)
    (exact : num * unitsPerOne = unitsOfRank rank * den) : nearestRank num den = rank := by
  have width : 0 < ranksPerStep := Nat.pow_pos (by decide)
  have step : divRound (unitsOfRank rank * den) (den * Nat.pow 2 (rank / ranksPerStep - 1)) =
      divRound (unitsOfRank rank) (Nat.pow 2 (rank / ranksPerStep - 1)) := by
    rw [Nat.mul_comm den, divRound_mul _ _ some]
  simp only [nearestRank, exact, Nat.mul_div_cancel _ some, log2_unitsOfRank, step]
  rw [unitsOfRank]
  split
  · next small =>
      rw [Nat.div_eq_of_lt small]
      simpa using divRound_multiple rank Nat.one_pos
  · next large =>
      have front : 0 < rank / ranksPerStep := Nat.div_pos (Nat.le_of_not_lt large) width
      have whole := Nat.div_add_mod' rank ranksPerStep
      have pred : (rank / ranksPerStep - 1) * ranksPerStep + ranksPerStep =
          rank / ranksPerStep * ranksPerStep := by
        rw [← Nat.succ_mul, Nat.succ_eq_add_one, Nat.sub_add_cancel front]
      have power : 0 < Nat.pow 2 (rank / ranksPerStep - 1) := Nat.pow_pos (by decide)
      rw [divRound_multiple _ power]
      omega

/-! Rounding a decimal. -/

/-- A zero at the end of the digits may be taken into the exponent. -/
theorem rankOfDecimal_succ (n : Nat) (e : Int) :
    rankOfDecimal n (e + 1) = rankOfDecimal (n * 10) e := by
  have step (k : Nat) : Nat.pow 10 (k + 1) = Nat.pow 10 k * 10 := rfl
  -- The decimal becomes a fraction where the exponent turns negative, between the cases.
  match e with
  | .ofNat k =>
      show nearestRank (n * Nat.pow 10 (k + 1)) 1 = nearestRank (n * 10 * Nat.pow 10 k) 1
      rw [step, Nat.mul_comm (Nat.pow 10 k), Nat.mul_assoc]
  | .negSucc 0 =>
      show nearestRank (n * 1) 1 = nearestRank (n * 10) (1 * 10)
      rw [Nat.mul_one, nearestRank_mul _ _ (by decide)]
  | .negSucc (k + 1) =>
      show nearestRank n (Nat.pow 10 (k + 1)) = nearestRank (n * 10) (Nat.pow 10 (k + 1 + 1))
      rw [step (k + 1), nearestRank_mul _ _ (by decide)]

theorem rankOfDecimal_withoutZeros (d : Decimal) :
    rankOfDecimal d.withoutZeros.digits d.withoutZeros.exponent =
      rankOfDecimal d.digits d.exponent := by
  fun_induction Decimal.withoutZeros d with
  | case1 d zero ih =>
      have digits : d.digits / 10 * 10 = d.digits := by omega
      rw [ih, rankOfDecimal_succ, digits]
  | case2 => rfl

/-- Less than half a unit is rounded to zero. -/
theorem nearestRank_small {num den : Nat} (less : 2 * (num * unitsPerOne) < den) :
    nearestRank num den = 0 := by
  have below : num * unitsPerOne < den := by omega
  have spread : Nat.log2 0 - 52 = 0 := by decide
  have one : den * Nat.pow 2 0 = den := Nat.mul_one den
  simp only [nearestRank, Nat.div_eq_of_lt below, spread, one, divRound, Nat.mod_eq_of_lt below,
    if_pos less, Nat.zero_mul, Nat.add_zero]

theorem rankOfDecimal_zero (e : Int) : rankOfDecimal 0 e = 0 := by
  have zero {den : Nat} (some : 0 < den) : nearestRank 0 den = 0 :=
    nearestRank_small (by rwa [Nat.zero_mul])
  match e with
  | .ofNat k =>
      rw [rankOfDecimal, Nat.zero_mul, zero Nat.one_pos]
  | .negSucc k => exact zero (Nat.pow_pos (by decide))

/-- The largest decimal that is told apart as too small is less than half a unit. -/
theorem unitsPerOne_small : 2 * unitsPerOne < Nat.pow 10 400 := by
  decide +kernel

/-- A decimal whose first digit stands far behind the point is rounded to zero. -/
theorem rankOfDecimal_far {n k places : Nat} (unit : 2 * unitsPerOne < Nat.pow 10 places)
    (far : (Nat.toDigits 10 n).length + places ≤ k + 1) : rankOfDecimal n (.negSucc k) = 0 := by
  have digits : n < Nat.pow 10 (Nat.toDigits 10 n).length :=
    (Nat.length_toDigits_le_iff (by decide) Nat.length_toDigits_pos).1 (Nat.le_refl _)
  have power : Nat.pow 10 (Nat.toDigits 10 n).length * Nat.pow 10 places ≤ Nat.pow 10 (k + 1) := by
    have ten (a b : Nat) : Nat.pow 10 a * Nat.pow 10 b = Nat.pow 10 (a + b) :=
      (Nat.pow_add 10 a b).symm
    rw [ten]
    exact Nat.pow_le_pow_right (by decide) far
  apply nearestRank_small
  calc 2 * (n * unitsPerOne) = n * (2 * unitsPerOne) := Nat.mul_left_comm 2 n _
    _ ≤ Nat.pow 10 (Nat.toDigits 10 n).length * (2 * unitsPerOne) :=
        Nat.mul_le_mul_right _ (Nat.le_of_lt digits)
    _ < Nat.pow 10 (Nat.toDigits 10 n).length * Nat.pow 10 places :=
        Nat.mul_lt_mul_of_pos_left unit (Nat.pow_pos (by decide))
    _ ≤ Nat.pow 10 (k + 1) := power

/-- The guards against large powers do not change what a decimal is rounded to, but for the largest
decimals. -/
theorem ofDecimal_eq (negative : Bool) (n : Nat) {e : Int} (bounded : e ≤ 400) :
    ofDecimal negative n e = ofRank negative (rankOfDecimal n e) := by
  rw [ofDecimal]
  split
  · next zero => rw [zero, rankOfDecimal_zero]
  · rw [if_neg (Int.not_lt.2 bounded)]
    split
    · next small =>
        match e with
        | .ofNat k =>
            have natural : Int.ofNat k = (k : Int) := rfl
            omega
        | .negSucc k =>
            have behind : Int.negSucc k = -(k + 1 : Int) := rfl
            rw [rankOfDecimal_far unitsPerOne_small (by omega)]
    · rfl

/-- The units are rounded to their rank where they are given by their exact decimal. -/
theorem rankOfDecimal_units (rank k places : Nat) (behind : places = k + 1)
    (unit : unitsPerOne = Nat.pow 2 places) :
    rankOfDecimal (unitsOfRank rank * Nat.pow 5 places) (.negSucc k) = rank := by
  have ten : Nat.pow 10 places = Nat.pow 2 places * Nat.pow 5 places := Nat.mul_pow 2 5 places
  have some : 0 < Nat.pow 10 places := Nat.pow_pos (by decide)
  rw [rankOfDecimal, ← behind]
  apply nearestRank_unitsOfRank some
  rw [ten, unit, Nat.mul_assoc, Nat.mul_comm (Nat.pow 5 places)]

theorem rankOfDecimal_exact (rank : Nat) :
    rankOfDecimal (exact rank).digits (exact rank).exponent = rank := by
  -- The number of places is a variable here, so that no step computes the powers.
  have unit (places : Nat) (same : places = 1074) : unitsPerOne = Nat.pow 2 places := by
    unfold unitsPerOne
    congr 1
    exact same.symm
  have digits (places : Nat) (same : places = 1074) :
      (exact rank).digits = unitsOfRank rank * Nat.pow 5 places := by
    unfold exact
    dsimp only
    congr 2
    exact same.symm
  have all (places : Nat) (same : places = 1074) :
      rankOfDecimal (exact rank).digits (.negSucc 1073) = rank := by
    rw [digits places same]
    exact rankOfDecimal_units rank 1073 places same (unit places same)
  exact all 1074 rfl

theorem rankOfDecimal_of_onGrid? {tie : Tie} {rank : Nat} {e : Int} {d : Decimal}
    (found : onGrid? tie rank e = some d) : rankOfDecimal d.digits d.exponent = rank := by
  have reads {c : Decimal} (same : c.readsAs rank = true) :
      rankOfDecimal c.digits c.exponent = rank := by simpa [Decimal.readsAs] using same
  have pick {upperNearer : Bool} {lower upper : Decimal} (first : lower.readsAs rank = true)
      (second : upper.readsAs rank = true) :
      (if upperNearer then upper else lower).readsAs rank = true := by
    cases upperNearer
    · exact first
    · exact second
  simp only [onGrid?] at found
  split at found
  · next lower upper =>
      cases found
      exact reads (pick lower upper)
  · next lower _ =>
      cases found
      exact reads lower
  · next _ upper =>
      cases found
      exact reads upper
  · cases found

/-- The two ways to find the shortest decimal. -/
theorem shortest_cases (tie : Tie) {rank : Nat} (nonzero : rank ≠ 0) :
    (∃ e d, onGrid? tie rank e = some d ∧ shortest tie rank = d.withoutZeros) ∨
      shortest tie rank = (exact rank).withoutZeros := by
  rw [shortest, if_neg nonzero]
  cases found : (List.range 17).findSome? fun n =>
      onGrid? tie rank (pointPlace rank - (n + 1 : Nat)) with
  | none =>
      right
      simp only [found]
  | some d =>
      obtain ⟨n, -, grid⟩ := List.exists_of_findSome?_eq_some found
      left
      refine ⟨_, d, grid, ?_⟩
      simp only [found]

/-- The shortest decimal of a rank is rounded to it. -/
theorem rankOfDecimal_shortest (tie : Tie) (rank : Nat) :
    rankOfDecimal (shortest tie rank).digits (shortest tie rank).exponent = rank := by
  by_cases zero : rank = 0
  · rw [shortest, if_pos zero, zero, rankOfDecimal_zero]
  · rcases shortest_cases tie zero with ⟨e, d, grid, same⟩ | same
    · rw [same, rankOfDecimal_withoutZeros, rankOfDecimal_of_onGrid? grid]
    · rw [same, rankOfDecimal_withoutZeros, rankOfDecimal_exact]

end MailMerge.Double
