import MailMerge.Proofs.Digits
import MailMerge.Proofs.JsonText
/-!
Whole numbers in JSON text. The digits of a number start no other token, and what can stand behind a
value goes on with no part of a number, so a number that fits 64 bits is read as it is written.
-/

set_option autoImplicit false

namespace MailMerge

namespace JsonToken

open Text (NoDigit digits)

theorem digitRun?_digits (n : Nat) {rest : List Char} (ends : NoDigit rest) :
    digitRun? (digits n ++ rest) = some (digits n, rest) := by
  have all : ∀ c ∈ digits n, c.isDigit = true := fun c => Text.isDigit_of_mem_digits
  have some : (digits n).isEmpty = false := List.isEmpty_eq_false_iff.mpr Nat.toDigits_ne_nil
  rw [digitRun?, Text.spanDigits_append all ends]
  simp only [some]
  rfl

theorem wholeDigits?_digits (n : Nat) {rest : List Char} (ends : NoDigit rest) :
    wholeDigits? (digits n ++ rest) = some (digits n, rest) := by
  rcases Nat.eq_zero_or_pos n with rfl | positive
  · rfl
  · have first := Text.head?_digits positive
    obtain ⟨c, ds, front, -⟩ := Text.exists_digits n
    rw [← digitRun?_digits n ends, front, List.cons_append, wholeDigits?]
    rintro _ ⟨⟩
    exact first (by rw [front]; rfl)

theorem ends_number {rest : List Char} (ends : Ends rest) :
    NoDigit rest ∧ fraction? rest = some (none, rest) ∧ exponent? rest = some (none, rest) := by
  cases rest with
  | nil => exact ⟨Text.noDigit_nil, rfl, rfl⟩
  | cons c rest =>
      rcases ends c rfl with rfl | rfl | rfl | rfl
      all_goals exact ⟨Text.noDigit_cons (by decide) rest, rfl, rfl⟩

theorem next?_digits {n : Nat} (fits : n ≤ JsonNumber.maxWhole) {rest : List Char}
    (ends : Ends rest) : next? (digits n ++ rest) = some (.number (some (.whole n)), rest) := by
  obtain ⟨noDigit, fraction, exponent⟩ := ends_number ends
  have text : numberText? false (digits n ++ rest) =
      some (⟨false, digits n, none, none⟩, rest) := by
    simp only [numberText?, wholeDigits?_digits n noDigit, fraction, exponent, Option.bind_some,
      Option.map_some]
  have value : JsonNumber.ofNumberText? ⟨false, digits n, none, none⟩ = some (.whole n) := by
    simp only [JsonNumber.ofNumberText?, Text.digitsValue_digits, if_neg (Nat.not_lt.mpr fits)]
    rfl
  obtain ⟨c, ds, front, digit⟩ := Text.exists_digits n
  rw [front] at text value ⊢
  rw [List.cons_append] at text ⊢
  have number : number? (c :: (ds ++ rest)) = some (.number (some (.whole n)), rest) := by
    rw [number?]
    · simp only [text, value, Option.map_some]
    · intro _ same
      exact absurd ((List.cons.inj same).1 ▸ digit) (by decide)
  -- The other tokens start with characters of their own, none of which is a digit.
  rw [next?, number]
  · exact List.cons_ne_nil _ _
  all_goals
    intro _ same
    exact absurd ((List.cons.inj same).1 ▸ digit) (by decide)

theorem isSpace_of_isDigit {c : Char} (digit : c.isDigit = true) : isSpace c = false := by
  rw [Bool.eq_false_iff]
  intro space
  simp only [isSpace, Bool.or_eq_true, beq_iff_eq] at space
  rcases space with ((rfl | rfl) | rfl) | rfl
  all_goals exact absurd digit (by decide)

end JsonToken

/-- A whole number without a sign that fits 64 bits is read as it is written. -/
theorem JsonNumber.rereads_whole {n : Nat} (fits : n ≤ maxWhole) : (whole n).Rereads := by
  intro rest ends
  have chars : Json.numberChars (whole n) = Text.digits n := Nat.toList_repr
  rw [chars]
  apply JsonToken.scan_of_next? (JsonToken.next?_digits fits ends)
  obtain ⟨c, ds, front, digit⟩ := Text.exists_digits n
  rw [front]
  rintro _ ⟨⟩
  exact JsonToken.isSpace_of_isDigit digit

end MailMerge
