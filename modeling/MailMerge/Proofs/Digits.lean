import MailMerge.Text.Blank
import MailMerge.Text.Digits
/-!
Decimal digits that are read back. A number is the value of its digits, however many zeros stand in
front of them, and a run of digits ends where the text goes on without one.
-/

set_option autoImplicit false

namespace MailMerge.Text

/-- A text that does not go on with a digit. -/
def NoDigit (rest : List Char) : Prop := ∀ c ∈ rest.head?, c.isDigit = false

theorem noDigit_nil : NoDigit [] := nofun

theorem noDigit_cons {c : Char} (other : c.isDigit = false) (rest : List Char) :
    NoDigit (c :: rest) := by
  rintro d ⟨⟩
  exact other

theorem isBlankChar_of_isDigit {c : Char} (digit : c.isDigit = true) : isBlankChar c = false := by
  simp only [Char.isDigit, Bool.and_eq_true, decide_eq_true_eq, UInt32.le_iff_toNat_le] at digit
  have low : 48 ≤ c.toNat := digit.1
  have high : c.toNat ≤ 57 := digit.2
  simp only [isBlankChar, Bool.or_eq_false_iff, Bool.and_eq_false_iff, decide_eq_false_iff_not,
    beq_eq_false_iff_ne]
  omega

theorem isDigit_of_mem_digits {n : Nat} {c : Char} (inside : c ∈ digits n) : c.isDigit = true :=
  Nat.isDigit_of_mem_toDigits (by decide) (by decide) inside

theorem isDigit_of_mem_zeros {count : Nat} {c : Char} (inside : c ∈ List.replicate count '0') :
    c.isDigit = true := by
  rw [List.eq_of_mem_replicate inside]
  decide

theorem digitsValue_append (front back : List Char) :
    digitsValue (front ++ back) = Nat.pow 10 back.length * digitsValue front + digitsValue back :=
  (Nat.ofDigitChars_append 0).trans Nat.ofDigitChars_eq_ofDigitChars_zero

theorem digitsValue_digits (n : Nat) : digitsValue (digits n) = n := Nat.ofDigitChars_ten_toDigits

theorem digitsValue_zeros (count : Nat) : digitsValue (List.replicate count '0') = 0 := by
  have value : digitsValue (List.replicate count '0') = Nat.pow 10 count * 0 :=
    Nat.ofDigitChars_replicate_zero
  rw [value, Nat.mul_zero]

theorem exists_digits (n : Nat) : ∃ c ds, digits n = c :: ds ∧ c.isDigit = true := by
  cases front : digits n with
  | nil => exact absurd front Nat.toDigits_ne_nil
  | cons c ds => exact ⟨c, ds, rfl, isDigit_of_mem_digits (n := n) (by simp [front])⟩

/-- Only zero is written with a zero in front. -/
theorem head?_digits {n : Nat} (positive : 0 < n) : (digits n).head? ≠ some '0' := by
  induction n using Nat.strongRecOn with
  | ind n ih =>
      by_cases small : n < 10
      · rw [digits, Nat.toDigits_of_lt_base small]
        have nonzero : ∀ d, d < 10 → 0 < d → [Nat.digitChar d].head? ≠ some '0' := by decide
        exact nonzero n small positive
      · have front := ih (n / 10) (by omega) (by omega)
        have some : Nat.toDigits 10 (n / 10) ≠ [] := Nat.toDigits_ne_nil
        rw [digits, Nat.toDigits_of_base_le (by decide) (by omega), List.head?_append,
          Option.or_of_isSome (List.isSome_head?.mpr some)]
        exact front

section Padded

variable {width n : Nat}

theorem isDigit_of_mem_paddedDigits {c : Char} (inside : c ∈ paddedDigits width n) :
    c.isDigit = true := by
  rcases List.mem_append.mp inside with zero | digit
  · exact isDigit_of_mem_zeros zero
  · exact isDigit_of_mem_digits digit

theorem solid_paddedDigits (width n : Nat) :
    ∀ c ∈ paddedDigits width n, isBlankChar c = false := fun _ inside =>
  isBlankChar_of_isDigit (isDigit_of_mem_paddedDigits inside)

theorem digitsValue_paddedDigits (width n : Nat) : digitsValue (paddedDigits width n) = n := by
  rw [paddedDigits, digitsValue_append, digitsValue_zeros, digitsValue_digits, Nat.mul_zero,
    Nat.zero_add]

theorem paddedDigits_ne_nil (width n : Nat) : paddedDigits width n ≠ [] := by
  intro none
  exact Nat.toDigits_ne_nil (List.append_eq_nil_iff.mp none).2

/-- A number that fits the width is written with so many digits. -/
theorem length_paddedDigits (some : 0 < width) (fits : n < Nat.pow 10 width) :
    (paddedDigits width n).length = width := by
  have short : (digits n).length ≤ width := (Nat.length_toDigits_le_iff (by decide) some).mpr fits
  rw [paddedDigits, List.length_append, List.length_replicate]
  omega

end Padded

theorem takeWhile_digits {ds rest : List Char} (all : ∀ c ∈ ds, c.isDigit = true)
    (ends : NoDigit rest) : (ds ++ rest).takeWhile Char.isDigit = ds := by
  rw [List.takeWhile_append_of_pos all]
  cases rest with
  | nil => simp
  | cons c rest => simp [ends c rfl]

theorem spanDigits_append {ds rest : List Char} (all : ∀ c ∈ ds, c.isDigit = true)
    (ends : NoDigit rest) : spanDigits (ds ++ rest) = (ds, rest) := by
  rw [spanDigits, takeWhile_digits all ends, List.dropWhile_append_of_pos all]
  cases rest with
  | nil => rfl
  | cons c rest => rw [List.dropWhile_cons_of_neg (by simp [ends c rfl])]

theorem spanDigits_all {ds : List Char} (all : ∀ c ∈ ds, c.isDigit = true) :
    spanDigits ds = (ds, []) := by
  have span := spanDigits_append all noDigit_nil
  rwa [List.append_nil] at span

end MailMerge.Text
