import MailMerge.Proofs.Compilation
import MailMerge.Proofs.Scanning
/-!
Templates that are filled in two stages. The second stage scans a text in which values of the first
and literal text stand side by side. As long as the values bring no opening brace, it finds the
candidates that were left and no others: a pair of braces that opens no candidate in the source has
no closing pair on its line, so no value stands behind it there.
-/

set_option autoImplicit false

namespace MailMerge

namespace Dict

variable {β : Type} {name : String}

/-- The values of `top`, and under all other names those of `bottom`. -/
def overriding (top bottom : Dict β) : Dict β :=
  top.toList.foldl (fun d entry => d.set entry.1 entry.2) bottom

theorem get?_foldl_set_others {entries : List (String × β)}
    (others : ∀ entry ∈ entries, entry.1 ≠ name) (d : Dict β) :
    (entries.foldl (fun d entry => d.set entry.1 entry.2) d).get? name = d.get? name := by
  induction entries generalizing d with
  | nil => rfl
  | cons entry entries ih =>
      obtain ⟨differs, later⟩ := List.forall_mem_cons.mp others
      rw [List.foldl_cons, ih later, get?_set, if_neg differs]

theorem get?_overriding (top bottom : Dict β) (name : String) :
    (top.overriding bottom).get? name = (top.get? name).or (bottom.get? name) := by
  cases found : top.get? name with
  | none => exact get?_foldl_set_others (ne_of_get?_none found) bottom
  | some value =>
      obtain ⟨front, back, parts, behind⟩ := split_of_get? found
      rw [overriding, parts, List.foldl_append, List.foldl_cons, get?_foldl_set_others behind,
        get?_set, if_pos rfl, Option.some_or]

end Dict

namespace Mark

/-- A text without opening braces holds no candidate, whatever stands behind it. -/
theorem scan_append {front : List Char} (quiet : '{' ∉ front) (back : List Char) :
    scan (front ++ back) = front.map plain ++ scan back := by
  induction front with
  | nil => rfl
  | cons c front ih =>
      obtain ⟨differs, later⟩ := not_or.mp (mt List.mem_cons.mpr quiet)
      rw [List.cons_append, scan_plain fun same => absurd same.symm differs, ih later]
      rfl

variable {f : Mark → List Char}

theorem head?_flatMap_scan (literal : ∀ c, f (plain c) = [c]) {cs : List Char}
    (unclosed : closing? cs = none) : ((scan cs).flatMap f).head? = cs.head? := by
  fun_cases scan cs with
  | case1 => rfl
  | case2 rest body after found => simp [closing?, found] at unclosed
  | case3 rest none => rw [List.flatMap_cons, literal]; rfl
  | case4 c cs _ => rw [List.flatMap_cons, literal]; rfl

/-- A line that is not closed holds no candidate, so nothing is filled in before its end. -/
theorem closing?_flatMap_scan (literal : ∀ c, f (plain c) = [c]) {cs : List Char}
    (unclosed : closing? cs = none) : closing? ((scan cs).flatMap f) = none := by
  have kept (c : Char) (cs : List Char) (unclosed : closing? (c :: cs) = none)
      (ih : closing? cs = none → closing? ((scan cs).flatMap f) = none) :
      closing? ((plain c :: scan cs).flatMap f) = none := by
    rw [List.flatMap_cons, literal, List.singleton_append, closing?_cons_eq_none]
    rcases closing?_cons_eq_none.mp unclosed with line | ⟨pair, behind⟩
    · exact Or.inl line
    · rw [head?_flatMap_scan literal behind]
      exact Or.inr ⟨pair, ih behind⟩
  fun_induction scan cs with
  | case1 => rfl
  | case2 rest body after found => simp [closing?, found] at unclosed
  | case3 rest _ ih => exact kept '{' ('{' :: rest) unclosed ih
  | case4 c cs _ ih => exact kept c cs unclosed ih

theorem flatMap_plain (literal : ∀ c, f (plain c) = [c]) (cs : List Char) :
    (cs.map plain).flatMap f = cs := by
  rw [List.flatMap_map, funext literal]
  exact List.flatMap_singleton' cs

/-- The pieces that a piece becomes where a short code with a value is filled in. -/
def staged (values : Dict String) (mark : Mark) : List Mark :=
  match mark.code? with
  | some code =>
    match values.get? code.identifier with
    | some value => value.toList.map plain
    | none => [mark]
  | none => [mark]

/-- Filling in without escaping, and keeping what has no value, writes down the new pieces. -/
theorem flatMap_chars_staged (values : Dict String) (mark : Mark) :
    (mark.staged values).flatMap chars = mark.replaced (ShortCode.filling ⟨true, false⟩ values) := by
  rw [staged, replaced]
  cases read : mark.code? with
  | none => exact List.flatMap_singleton chars mark
  | some code =>
      cases given : values.get? code.identifier with
      | none => simp [ShortCode.filling, given, chars_of_code? read]
      | some value => simpa [ShortCode.filling, given] using flatMap_plain (fun _ => rfl) value.toList

theorem staged_plain (values : Dict String) (c : Char) : staged values (plain c) = [plain c] := rfl

section Rescan

variable {values : Dict String} (quiet : ∀ entry ∈ values.toList, '{' ∉ entry.2.toList)
include quiet

/-- A candidate is found again, or its value is told from what stands behind it. -/
theorem scan_staged_candidate {rest body after : List Char}
    (found : closing? rest = some (body, after)) (other : List Char) :
    scan ((staged values (candidate body)).flatMap chars ++ other) =
      staged values (candidate body) ++ scan other := by
  have kept : scan ([candidate body].flatMap chars ++ other) = [candidate body] ++ scan other := by
    have again := scan_candidate (closing?_append found other)
    simpa [chars, ShortCode.inBraces] using again
  rw [staged]
  cases Mark.code? (candidate body) with
  | none => exact kept
  | some code =>
      cases given : values.get? code.identifier with
      | none => simpa [given] using kept
      | some value =>
          have written : (value.toList.map plain).flatMap chars = value.toList :=
            flatMap_plain (fun _ => rfl) value.toList
          have silent := quiet _ ((Dict.mem_iff_get? values code.identifier value).mpr given)
          simpa only [given, written] using scan_append silent other

/-- A text in which values without opening braces are filled in falls into the pieces that were
filled in and those that were left. -/
theorem scan_staged (cs : List Char) :
    scan ((scan cs).flatMap fun mark => (mark.staged values).flatMap chars) =
      (scan cs).flatMap (staged values) := by
  have literal (c : Char) : (staged values (plain c)).flatMap chars = [c] := rfl
  fun_induction scan cs with
  | case1 => rw [List.flatMap_nil, List.flatMap_nil, scan]
  | case2 rest body after found ih =>
      rw [List.flatMap_cons, List.flatMap_cons, scan_staged_candidate quiet found, ih]
  | case3 rest unclosed ih =>
      have behind : closing? ('{' :: rest) = none :=
        closing?_cons_eq_none.mpr (Or.inr ⟨fun same => absurd same (by decide), unclosed⟩)
      have still : closing? ((scan ('{' :: rest)).flatMap fun mark =>
          (mark.staged values).flatMap chars) = none := closing?_flatMap_scan literal behind
      rw [List.flatMap_cons, List.flatMap_cons, literal, staged_plain, List.singleton_append,
        List.singleton_append, scan_plain, ih]
      rintro - filled parts
      rw [parts] at still
      exact ((closing?_cons_eq_none.mp still).resolve_left (by decide)).2
  | case4 c cs notOpening ih =>
      rw [List.flatMap_cons, List.flatMap_cons, literal, staged_plain, List.singleton_append,
        List.singleton_append, scan_plain, ih]
      rintro rfl filled parts
      -- The text behind a single brace does not start with a brace, so it starts as it did.
      cases cs with
      | nil => simp [scan] at parts
      | cons d cs =>
          have differs : d ≠ '{' := fun same => notOpening cs rfl (by rw [same])
          rw [scan_plain fun same => absurd same differs, List.flatMap_cons, literal] at parts
          cases parts
          exact absurd rfl differs

end Rescan

/-- Filling the new pieces in is filling the piece in, where the first values go before the others. -/
theorem replaced_staged (keep : Bool) (first second : Dict String) (mark : Mark) :
    (mark.staged first).flatMap (replaced (ShortCode.filling ⟨keep, false⟩ second)) =
      mark.replaced (ShortCode.filling ⟨keep, false⟩ (first.overriding second)) := by
  rw [staged]
  cases read : mark.code? with
  | none => simp [replaced, read]
  | some code =>
      cases given : first.get? code.identifier with
      | none => simp [replaced, read, ShortCode.filling, Dict.get?_overriding, given]
      | some value =>
          have written := flatMap_plain
            (f := replaced (ShortCode.filling ⟨keep, false⟩ second)) (fun _ => rfl) value.toList
          simp [replaced, read, ShortCode.filling, Dict.get?_overriding, given, written]

/-- The short codes without a value are those that are left. -/
theorem identifiers_staged (values : Dict String) (marks : List Mark) :
    (marks.flatMap (staged values)).filterMap identifier? =
      (marks.filterMap identifier?).filter fun name => (values.get? name).isNone := by
  induction marks with
  | nil => rfl
  | cons mark marks ih =>
      rw [List.flatMap_cons, List.filterMap_append, ih, List.filterMap_cons, staged, identifier?]
      cases read : mark.code? with
      | none => simp [identifier?, read]
      | some code =>
          cases given : values.get? code.identifier with
          | none => simp [identifier?, read, given]
          | some value =>
              have silent : (value.toList.map plain).filterMap identifier? = [] := by
                simp [List.filterMap_map, identifier?, code?]
              simp [silent, given]

end Mark

/-- A template may be filled in two stages: as long as no value of the first brings an opening
brace, what the first leaves is a template of the short codes without a value, and filling it in
comes to filling the source in once, with the values of the first before those of the second. -/
theorem fillTemplate_staged (source : String) {first : Dict String} (second : Dict String)
    (keep : Bool) (quiet : ∀ entry ∈ first.toList, '{' ∉ entry.2.toList) :
    fillTemplate ⟨keep, false⟩
        (compileTemplate (fillTemplate ⟨true, false⟩ (compileTemplate source) first)) second =
      fillTemplate ⟨keep, false⟩ (compileTemplate source) (first.overriding second) ∧
    placeholderIdentifiers
        (compileTemplate (fillTemplate ⟨true, false⟩ (compileTemplate source) first)) =
      (placeholderIdentifiers (compileTemplate source)).filter fun name =>
        (first.get? name).isNone := by
  have scanned :
      Mark.scan (fillTemplate ⟨true, false⟩ (compileTemplate source) first).toList =
        (Mark.scan source.toList).flatMap (Mark.staged first) := by
    rw [toList_fillTemplate, ← funext (Mark.flatMap_chars_staged first)]
    exact Mark.scan_staged quiet source.toList
  constructor
  · rw [← String.toList_inj, toList_fillTemplate ⟨keep, false⟩, scanned, List.flatMap_assoc,
      funext (Mark.replaced_staged keep first second), toList_fillTemplate]
  · rw [placeholderIdentifiers_compileTemplate, placeholderIdentifiers_compileTemplate, scanned,
      Mark.identifiers_staged]

/-- A source with a candidate that is no short code, a brace behind a short code, and a pair of
braces that is not closed on its line. -/
def twoStages : String := "{{ a }}{{a}}\x7d{{b}}\x7b\x7bc\x7d\n{{a}}"

/-- A value that brings closing braces and ends the line. -/
def closingValue : Dict String := Ascending.ofList [("a", "\x7d\x7d\n")]

/-- A value with a short code of the first stage. -/
def openingValue : Dict String := Ascending.ofList [("a", "-"), ("b", "{{a}}")]

theorem twoStages_filled :
    (∀ entry ∈ closingValue.toList, '{' ∉ entry.2.toList) ∧
      fillTemplate ⟨false, false⟩ (compileTemplate
          (fillTemplate ⟨true, false⟩ (compileTemplate twoStages) closingValue)) openingValue =
        "{{ a }}\x7d\x7d\n\x7d{{a}}\x7b\x7bc\x7d\n\x7d\x7d\n" ∧
      placeholderIdentifiers (compileTemplate
          (fillTemplate ⟨true, false⟩ (compileTemplate twoStages) closingValue)) = ["b"] := by
  have quiet : ∀ entry ∈ closingValue.toList, '{' ∉ entry.2.toList := by decide +kernel
  obtain ⟨filled, identifiers⟩ := fillTemplate_staged twoStages openingValue false quiet
  refine ⟨quiet, filled.trans ?_, identifiers.trans ?_⟩
  · decide +kernel
  · decide +kernel

end MailMerge
