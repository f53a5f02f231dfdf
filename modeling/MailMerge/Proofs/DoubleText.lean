import MailMerge.Double.Read
import MailMerge.Proofs.Digits
import MailMerge.Proofs.NearestDouble
/-!
Doubles that are read back from their texts. The text of a decimal is a run of digits with at most
one point. It spells a decimal of the same value, and so it is read as the same double.
-/

set_option autoImplicit false

namespace MailMerge.Double

/-- Texts of digits, with a point among them or without one, and the decimals they spell. -/
inductive Spelled : List Char → Nat → Int → Prop
  | whole {ds : List Char} (digits : ∀ c ∈ ds, c.isDigit = true) (some : ds ≠ []) :
      Spelled ds (Text.digitsValue ds) 0
  | point {ds fs : List Char} (before : ∀ c ∈ ds, c.isDigit = true)
      (behind : ∀ c ∈ fs, c.isDigit = true) (some : ds ≠ []) :
      Spelled (ds ++ '.' :: fs) (Text.digitsValue (ds ++ fs)) (-fs.length)

namespace Spelled

variable {cs : List Char} {n : Nat} {e : Int}

theorem nonpos (spelled : Spelled cs n e) : e ≤ 0 := by
  cases spelled with
  | whole => exact Int.le_refl 0
  | point => omega

theorem chars (spelled : Spelled cs n e) : ∀ c ∈ cs, c.isDigit = true ∨ c = '.' := by
  intro c inside
  cases spelled with
  | whole digits => exact Or.inl (digits c inside)
  | point before behind =>
      rcases List.mem_append.1 inside with front | back
      · exact Or.inl (before c front)
      · rcases List.mem_cons.1 back with point | later
        · exact Or.inr point
        · exact Or.inl (behind c later)

theorem first (spelled : Spelled cs n e) : ∃ c rest, cs = c :: rest ∧ c.isDigit = true := by
  cases spelled with
  | whole digits some =>
      obtain ⟨c, rest, rfl⟩ := List.exists_cons_of_ne_nil some
      exact ⟨c, rest, rfl, digits c List.mem_cons_self⟩
  | point before _ some =>
      obtain ⟨c, rest, rfl⟩ := List.exists_cons_of_ne_nil some
      exact ⟨c, _, rfl, before c List.mem_cons_self⟩

/-- What is spelled is read. -/
theorem read (spelled : Spelled cs n e) (negative : Bool) :
    readMagnitude? negative cs = some (ofDecimal negative n e) := by
  cases spelled with
  | whole digits some => simp [readMagnitude?, Text.spanDigits_all digits, spanFraction, some]
  | point before behind some =>
      rename_i ds fs
      have run : Text.spanDigits (ds ++ '.' :: fs) = (ds, '.' :: fs) :=
        Text.spanDigits_append before (Text.noDigit_cons (by decide) fs)
      simp [readMagnitude?, run, spanFraction, Text.spanDigits_all behind, some]

/-- No word is spelled with digits. -/
theorem readUnsigned (spelled : Spelled cs n e) (negative : Bool) :
    readUnsigned? negative cs = some (ofDecimal negative n e) := by
  obtain ⟨c, rest, same, digit⟩ := spelled.first
  have lower : c.toLower = c := by
    refine dif_neg ?_
    rintro ⟨upper, -⟩
    simp only [Char.isDigit, Bool.and_eq_true, decide_eq_true_eq] at digit
    have between := UInt32.le_trans upper digit.2
    revert between
    decide
  have other (d : Char) (ds : List Char) (letter : d.isDigit = false) :
      String.ofList (cs.map Char.toLower) ≠ String.ofList (d :: ds) := by
    intro word
    have chars := String.ofList_injective word
    rw [same, List.map_cons, lower] at chars
    rw [(List.cons.inj chars).1, letter] at digit
    cases digit
  have inf : String.ofList (cs.map Char.toLower) ≠ "inf" := other 'i' ['n', 'f'] (by decide)
  have infinity : String.ofList (cs.map Char.toLower) ≠ "infinity" :=
    other 'i' ['n', 'f', 'i', 'n', 'i', 't', 'y'] (by decide)
  have nan : String.ofList (cs.map Char.toLower) ≠ "nan" := other 'n' ['a', 'n'] (by decide)
  rw [readUnsigned?]
  simp only [inf, infinity, nan, or_self, if_false, spelled.read]

end Spelled

/-! The three forms of a decimal without an exponent. -/

section Forms

variable (n : Nat) {places : Nat}

theorem spelled_whole (zeros : Nat) :
    Spelled (Text.digits n ++ List.replicate zeros '0') (n * Nat.pow 10 zeros) 0 := by
  have all : ∀ c ∈ Text.digits n ++ List.replicate zeros '0', c.isDigit = true :=
    List.forall_mem_append.2
      ⟨fun _ => Text.isDigit_of_mem_digits, fun _ => Text.isDigit_of_mem_zeros⟩
  have some : Text.digits n ++ List.replicate zeros '0' ≠ [] := fun none =>
    Nat.toDigits_ne_nil (List.append_eq_nil_iff.1 none).1
  have value : Text.digitsValue (Text.digits n ++ List.replicate zeros '0') =
      n * Nat.pow 10 zeros := by
    rw [Text.digitsValue_append, Text.digitsValue_zeros, Text.digitsValue_digits,
      List.length_replicate, Nat.add_zero, Nat.mul_comm]
  rw [← value]
  exact Spelled.whole all some

theorem spelled_pointed (few : places < (Text.digits n).length) :
    Spelled ((Text.digits n).take ((Text.digits n).length - places) ++
      '.' :: (Text.digits n).drop ((Text.digits n).length - places)) n (-places) := by
  generalize before : (Text.digits n).take ((Text.digits n).length - places) = ds
  generalize behind : (Text.digits n).drop ((Text.digits n).length - places) = fs
  have whole : ds ++ fs = Text.digits n := by
    rw [← before, ← behind, List.take_append_drop]
  have all : ∀ c ∈ ds ++ fs, c.isDigit = true := by
    rw [whole]
    exact fun _ => Text.isDigit_of_mem_digits
  have digits := List.forall_mem_append.1 all
  have length : fs.length = places := by
    rw [← behind, List.length_drop]
    omega
  have some : ds ≠ [] := by
    intro none
    have same : fs = Text.digits n := by rw [← whole, none, List.nil_append]
    rw [same] at length
    omega
  have spelled := Spelled.point digits.1 digits.2 some
  rwa [whole, Text.digitsValue_digits, length] at spelled

theorem spelled_behind (many : (Text.digits n).length ≤ places) :
    Spelled ('0' :: '.' :: (List.replicate (places - (Text.digits n).length) '0' ++ Text.digits n))
      n (-places) := by
  have zero : ∀ c ∈ ['0'], c.isDigit = true := List.forall_mem_singleton.2 (by decide)
  have digits : ∀ c ∈ List.replicate (places - (Text.digits n).length) '0' ++ Text.digits n,
      c.isDigit = true :=
    List.forall_mem_append.2
      ⟨fun _ => Text.isDigit_of_mem_zeros, fun _ => Text.isDigit_of_mem_digits⟩
  have length : (List.replicate (places - (Text.digits n).length) '0' ++ Text.digits n).length =
      places := by
    rw [List.length_append, List.length_replicate]
    omega
  have value : Text.digitsValue (['0'] ++
      (List.replicate (places - (Text.digits n).length) '0' ++ Text.digits n)) = n := by
    rw [Text.digitsValue_append, Text.digitsValue_append, Text.digitsValue_zeros,
      Text.digitsValue_digits]
    simp [Text.digitsValue, Text.digitValue]
  have spelled := Spelled.point zero digits (List.cons_ne_nil _ _)
  rwa [value, length] at spelled

end Forms

/-- The text of a decimal spells a decimal with the same nearest double. -/
theorem spelled_positional (d : Decimal) :
    ∃ n e, Spelled d.positional n e ∧ rankOfDecimal n e = rankOfDecimal d.digits d.exponent := by
  obtain ⟨n, e⟩ := d
  match e with
  | .ofNat k =>
      refine ⟨_, _, spelled_whole n k, ?_⟩
      show nearestRank (n * Nat.pow 10 k * 1) 1 = nearestRank (n * Nat.pow 10 k) 1
      rw [Nat.mul_one]
  | .negSucc k =>
      by_cases few : k + 1 < (Text.digits n).length
      · have text : Decimal.positional ⟨n, .negSucc k⟩ = _ := if_pos few
        exact ⟨_, _, text ▸ spelled_pointed n few, rfl⟩
      · have text : Decimal.positional ⟨n, .negSucc k⟩ = _ := if_neg few
        exact ⟨_, _, text ▸ spelled_behind n (Nat.le_of_not_lt few), rfl⟩

/-- The decimal of a rank is read as its double. -/
theorem readUnsigned?_shortest (negative : Bool) (rank : Fin finiteRanks) :
    readUnsigned? negative (shortest .up rank).positional = some (finite negative rank) := by
  obtain ⟨n, e, spelled, same⟩ := spelled_positional (shortest .up rank)
  have bounded : e ≤ 400 := Int.le_trans spelled.nonpos (by decide)
  rw [spelled.readUnsigned, ofDecimal_eq _ _ bounded, same, rankOfDecimal_shortest, ofRank,
    dif_pos rank.isLt]

/-- A finite double is read back from its text. -/
theorem ofText?_text {x : Double} (some : x.isFinite = true) : ofText? x.text = .some x := by
  cases x with
  | finite negative rank =>
      have read := readUnsigned?_shortest negative rank
      cases negative with
      | true =>
          rw [ofText?, text, signed, String.toList_ofList, if_pos rfl]
          exact read
      | false =>
          obtain ⟨_, _, spelled, _⟩ := spelled_positional (shortest .up rank)
          obtain ⟨c, rest, same, digit⟩ := spelled.first
          rw [ofText?, text, signed, String.toList_ofList, if_neg Bool.false_ne_true]
          rw [same] at read ⊢
          split
          · next minus =>
              rw [(List.cons.inj minus).1] at digit
              exact absurd digit (by decide)
          · next plus =>
              rw [(List.cons.inj plus).1] at digit
              exact absurd digit (by decide)
          · exact read
  | infinite => cases some
  | nan => cases some

/-- There is no white space in the text of a double. -/
theorem solid_text (x : Double) : ∀ c ∈ x.text.toList, Text.isBlankChar c = false := by
  have unsigned {negative : Bool} {cs : List Char}
      (solid : ∀ c ∈ cs, Text.isBlankChar c = false) :
      ∀ c ∈ (signed negative cs).toList, Text.isBlankChar c = false := by
    intro c inside
    rw [signed, String.toList_ofList] at inside
    split at inside
    · rcases List.mem_cons.1 inside with rfl | later
      · decide
      · exact solid c later
    · exact solid c inside
  cases x with
  | finite negative rank =>
      obtain ⟨_, _, spelled, _⟩ := spelled_positional (shortest .up rank)
      apply unsigned
      intro c inside
      rcases spelled.chars c inside with digit | rfl
      · exact Text.isBlankChar_of_isDigit digit
      · decide
  | infinite negative => exact unsigned (Text.solid_of_all (by decide))
  | nan => exact Text.solid_of_all (by decide)

end MailMerge.Double
