import MailMerge.Guid
import MailMerge.Proofs.Lists
import MailMerge.Text.Blank
/-!
Identifiers that are read back from their texts. The 32 digits are cut into groups, and what is left
of the text without the hyphens between the groups are the digits again.
-/

set_option autoImplicit false

namespace MailMerge

namespace Text

theorem length_hexDigits (width n : Nat) : (hexDigits width n).length = width := by
  induction width generalizing n with
  | zero => rfl
  | succ width ih => rw [hexDigits, List.length_append, ih, List.length_singleton]

theorem exists_of_mem_hexDigits {width n : Nat} {c : Char} (inside : c ∈ hexDigits width n) :
    ∃ d, d < 16 ∧ c = hexDigit d := by
  induction width generalizing n with
  | zero => exact absurd inside List.not_mem_nil
  | succ width ih =>
      rcases List.mem_append.1 inside with front | last
      · exact ih front
      · exact ⟨n % 16, Nat.mod_lt n (by decide), List.mem_singleton.1 last⟩

theorem hexDigit_ne_hyphen : ∀ d, d < 16 → hexDigit d ≠ '-' := by
  decide

theorem solid_hexDigit : ∀ d, d < 16 → isBlankChar (hexDigit d) = false := by
  decide

end Text

namespace Guid

theorem flatten_cut (lengths : List Nat) (cs : List Char) :
    (cut lengths cs).flatten = cs.take (lengths.foldr (· + ·) 0) := by
  induction lengths generalizing cs with
  | nil => rfl
  | cons n ns ih => rw [cut, List.flatten_cons, ih, List.foldr_cons, List.take_add]

theorem length_intercalate (pieces : List (List Char)) :
    (List.intercalate ['-'] pieces).length = pieces.flatten.length + (pieces.length - 1) := by
  induction pieces with
  | nil => rfl
  | cons piece pieces ih =>
      cases pieces with
      | nil => simp
      | cons next others =>
          rw [List.intercalate_cons_cons, List.length_append, ih]
          simp only [List.flatten_cons, List.length_append, List.length_cons, List.length_nil]
          omega

theorem length_hex (g : Guid) : g.hex.length = 32 := Text.length_hexDigits 32 _

theorem flatten_cut_hex (g : Guid) : (cut groups g.hex).flatten = g.hex := by
  rw [flatten_cut]
  exact List.take_of_length_le (Nat.le_of_eq (length_hex g))

theorem hyphen_not_mem_hex (g : Guid) : '-' ∉ g.hex := by
  intro inside
  obtain ⟨d, small, same⟩ := Text.exists_of_mem_hexDigits inside
  exact Text.hexDigit_ne_hyphen d small same.symm

/-- The digits are what is left of the groups without the hyphens. -/
theorem filter_chars (g : Guid) : g.chars.filter (· != '-') = g.hex := by
  have kept : g.hex.filter (· != '-') = g.hex := by
    rw [List.filter_eq_self]
    rintro c inside
    rw [bne_iff_ne]
    rintro rfl
    exact hyphen_not_mem_hex g inside
  rw [chars, filter_intercalate (by decide), List.flatMap_def, ← List.filter_flatten, flatten_cut_hex,
    kept]

theorem length_chars (g : Guid) : g.chars.length = 36 := by
  rw [chars, length_intercalate, flatten_cut_hex, length_hex]
  rfl

theorem ofHex?_hex (g : Guid) : ofHex? g.hex = some g := by
  have fits : g.value.toNat < Nat.pow 16 32 := g.value.isLt
  rw [ofHex?, if_pos (length_hex g), hex, Text.hexDigitsValue?_hexDigits, Nat.mod_eq_of_lt fits,
    Option.map_some, BitVec.ofNat_toNat, BitVec.setWidth_eq]

/-- An identifier is read back from its text. -/
theorem ofText?_text (g : Guid) : ofText? g.text = some g := by
  have whole : ofHyphenated? g.chars = some g := by
    simp only [ofHyphenated?, filter_chars, ofHex?_hex]
    exact if_pos rfl
  simp only [ofText?, text, String.toList_ofList, length_chars, whole]

/-- There is no white space in the text of an identifier. -/
theorem solid_chars (g : Guid) : ∀ c ∈ g.chars, Text.isBlankChar c = false := by
  intro c inside
  by_cases hyphen : c = '-'
  · rw [hyphen]
    decide
  · have digit : c ∈ g.hex := by
      rw [← filter_chars g, List.mem_filter]
      exact ⟨inside, by simpa using hyphen⟩
    obtain ⟨d, small, rfl⟩ := Text.exists_of_mem_hexDigits digit
    exact Text.solid_hexDigit d small

end Guid

end MailMerge
