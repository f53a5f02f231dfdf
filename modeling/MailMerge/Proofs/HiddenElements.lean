import MailMerge.Proofs.Lists
import MailMerge.Proofs.MarkupPieces
/-!
What is hidden of the head of an HTML text. A hidden element reaches up to the first end tag of a
hidden element, of whichever name: a head that holds a style or a script is hidden up to the end of
that, and what stands behind it is shown.
-/

set_option autoImplicit false

namespace MailMerge

namespace PlainText

variable {cs rest : List Char}

/-- The end tag of a hidden element, as it is written. -/
def IsEndTag (tag : List Char) : Prop :=
  ∃ inner, InEndTag hiddenNames inner ∧ tag = '<' :: '/' :: (inner ++ ['>'])

/-- The end tag of a hidden element stands somewhere in a text. -/
def HasEndTag (cs : List Char) : Prop := ∃ tag, IsEndTag tag ∧ tag <:+: cs

/-- A bracket is not a letter in another case. -/
theorem eq_of_sameLetter {a c : Char} (bracket : c = '<' ∨ c = '>')
    (same : sameLetter a c = true) : a = c := by
  have other : c ≠ '\u017F' := by rcases bracket with rfl | rfl <;> decide
  have lower : c.toLower = c := by rcases bracket with rfl | rfl <;> decide
  simp only [sameLetter, lower, beq_false_of_ne other, Bool.and_false, Bool.or_false,
    beq_iff_eq] at same
  exact same.symm

/-- There is no bracket between those of an end tag. -/
theorem InEndTag.quiet {inner : List Char} (within : InEndTag hiddenNames inner) :
    ∀ c ∈ inner, c ≠ '<' ∧ c ≠ '>' := by
  have letters : ∀ name ∈ hiddenNames, '<' ∉ name ∧ '>' ∉ name := by decide
  obtain ⟨name, known, written, blanks, spells, blank, rfl⟩ := within
  intro c inside
  rw [← not_or]
  intro bracket
  rcases List.mem_append.mp inside with letter | space
  · obtain ⟨a, present, same⟩ := exists_of_forall₂ spells letter
    cases eq_of_sameLetter bracket same
    rcases bracket with rfl | rfl
    · exact (letters name known).1 present
    · exact (letters name known).2 present
  · have white := blank c space
    rcases bracket with rfl | rfl <;> cases white

/-- The first closing bracket tells where a tag ends. -/
theorem behind_bracket {inner : List Char} (quiet : ∀ c ∈ inner, c ≠ '>') :
    (inner ++ '>' :: rest).dropWhile (· != '>') = '>' :: rest := by
  rw [List.dropWhile_append_of_pos (by simpa using quiet), List.dropWhile_cons_of_neg (by decide)]

theorem afterEndTag?_inner {inner : List Char} (within : InEndTag hiddenNames inner) :
    afterEndTag? hiddenNames (inner ++ '>' :: rest) = some rest := by
  obtain ⟨behind, found⟩ : ∃ behind, afterEndTag? hiddenNames (inner ++ '>' :: rest) = some behind := by
    obtain ⟨name, known, written, blanks, spells, blank, rfl⟩ := within
    rw [← Option.isSome_iff_exists, afterEndTag?, List.findSome?_isSome_iff]
    refine ⟨name, known, ?_⟩
    have named : afterName? name (written ++ blanks ++ '>' :: rest) = some (blanks ++ '>' :: rest) :=
      afterName?_eq_some.mpr ⟨written, spells, List.append_assoc _ _ _⟩
    rw [named, Option.bind_some, afterTagEnd?_eq_some.mpr ⟨blanks, blank, rfl⟩]
    rfl
  obtain ⟨other, within', parts⟩ := inEndTag_of_afterEndTag? found
  have same := congrArg (List.dropWhile (· != '>')) parts
  rw [behind_bracket fun c inside => (within.quiet c inside).2,
    behind_bracket fun c inside => (within'.quiet c inside).2] at same
  cases same
  exact found

/-- The text behind the end tag of a hidden element that starts here. -/
def endTag? : List Char → Option (List Char)
  | '<' :: '/' :: rest => afterEndTag? hiddenNames rest
  | _ => none

theorem endTag?_eq_some : endTag? cs = some rest ↔ ∃ tag, IsEndTag tag ∧ cs = tag ++ rest := by
  constructor
  · intro found
    unfold endTag? at found
    split at found
    · obtain ⟨inner, within, rfl⟩ := inEndTag_of_afterEndTag? found
      exact ⟨_, ⟨inner, within, rfl⟩, by simp⟩
    · cases found
  · rintro ⟨_, ⟨inner, within, rfl⟩, rfl⟩
    have parts : '<' :: '/' :: (inner ++ ['>']) ++ rest = '<' :: '/' :: (inner ++ '>' :: rest) := by
      simp
    rw [parts, endTag?, afterEndTag?_inner within]

theorem afterHidden?_cons (c : Char) (cs : List Char) :
    afterHidden? (c :: cs) = (endTag? (c :: cs)).or (afterHidden? cs) := by
  rw [endTag?.eq_def]
  split
  · next rest same =>
      cases same
      rw [afterHidden?]
      cases afterEndTag? hiddenNames rest <;> rfl
  · next other =>
      rw [afterHidden?, Option.none_or]
      rintro rest rfl rfl
      exact other rest rfl

/-- An end tag has its opening bracket in front, and no other one. -/
theorem IsEndTag.opening {tag : List Char} (ends : IsEndTag tag) :
    ∃ inner, tag = '<' :: inner ∧ '<' ∉ inner := by
  obtain ⟨inner, within, rfl⟩ := ends
  refine ⟨_, rfl, ?_⟩
  simp only [List.mem_cons, List.mem_append, List.not_mem_nil, or_false, not_or]
  exact ⟨by decide, fun inside => (within.quiet _ inside).1 rfl, by decide⟩

/-- The first end tag ends what is hidden, whatever stands behind it. -/
theorem afterHidden?_first {front tag : List Char} (clear : ¬HasEndTag front) (ends : IsEndTag tag)
    (rest : List Char) : afterHidden? (front ++ (tag ++ rest)) = some rest := by
  obtain ⟨inner, opening, -⟩ := ends.opening
  induction front with
  | nil =>
      have here : endTag? (tag ++ rest) = some rest := endTag?_eq_some.mpr ⟨tag, ends, rfl⟩
      rw [opening, List.cons_append] at here
      rw [opening, List.nil_append, List.cons_append, afterHidden?_cons, here, Option.some_or]
  | cons c front ih =>
      have absent : endTag? (c :: (front ++ (tag ++ rest))) = none := by
        rw [Option.eq_none_iff_forall_ne_some]
        intro behind found
        obtain ⟨other, ends', parts⟩ := endTag?_eq_some.mp found
        rw [← List.cons_append] at parts
        rcases List.append_eq_append_iff.mp parts with ⟨more, longer, same⟩ | ⟨more, shorter, -⟩
        · -- The other tag goes on to where this one starts, or even beyond its opening bracket.
          cases more with
          | nil => exact clear ⟨other, ends', by simp [longer]⟩
          | cons d more =>
              obtain ⟨inner', rfl, single⟩ := ends'.opening
              rw [opening] at same
              obtain ⟨rfl, -⟩ := List.cons.inj same
              obtain ⟨-, inside⟩ := List.cons.inj longer
              exact single (inside ▸ List.mem_append_right front List.mem_cons_self)
        · exact clear ⟨other, ends', shorter ▸ (List.prefix_append other more).isInfix⟩
      rw [List.cons_append, afterHidden?_cons, absent, Option.none_or]
      exact ih fun ⟨other, ends', inside⟩ => clear ⟨other, ends', List.infix_cons inside⟩

/-- A text with end tags has a first one. -/
theorem HasEndTag.first (has : HasEndTag cs) :
    ∃ front tag back, cs = front ++ (tag ++ back) ∧ IsEndTag tag ∧ ¬HasEndTag front := by
  have none : ¬HasEndTag [] := by
    rintro ⟨tag, ends, inside⟩
    obtain ⟨inner, rfl, -⟩ := ends.opening
    cases List.infix_nil.mp inside
  induction cs with
  | nil => exact absurd has none
  | cons c cs ih =>
      by_cases here : ∃ tag, IsEndTag tag ∧ tag <+: c :: cs
      · obtain ⟨tag, ends, back, parts⟩ := here
        exact ⟨[], tag, back, parts.symm, ends, none⟩
      · have later : HasEndTag cs := by
          obtain ⟨tag, ends, inside⟩ := has
          rcases List.infix_cons_iff.mp inside with start | later
          · exact absurd ⟨tag, ends, start⟩ here
          · exact ⟨tag, ends, later⟩
        obtain ⟨front, tag, back, rfl, ends, clear⟩ := ih later
        refine ⟨c :: front, tag, back, rfl, ends, ?_⟩
        rintro ⟨other, ends', inside⟩
        rcases List.infix_cons_iff.mp inside with start | later
        · exact here ⟨other, ends', start.trans (List.prefix_append (c :: front) _)⟩
        · exact clear ⟨other, ends', later⟩

theorem hasEndTag_iff : HasEndTag cs ↔ (afterHidden? cs).isSome = true := by
  constructor
  · intro has
    obtain ⟨front, tag, back, rfl, ends, clear⟩ := has.first
    rw [afterHidden?_first clear ends]
    rfl
  · intro found
    induction cs with
    | nil => cases found
    | cons c cs ih =>
        rw [afterHidden?_cons, Option.isSome_or, Bool.or_eq_true] at found
        rcases found with here | later
        · obtain ⟨rest, here⟩ := Option.isSome_iff_exists.mp here
          obtain ⟨tag, ends, parts⟩ := endTag?_eq_some.mp here
          exact ⟨tag, ends, parts ▸ (List.prefix_append tag rest).isInfix⟩
        · obtain ⟨tag, ends, inside⟩ := ih later
          exact ⟨tag, ends, List.infix_cons inside⟩

instance (cs : List Char) : Decidable (HasEndTag cs) := decidable_of_iff' _ hasEndTag_iff

/-- A head is hidden up to the first end tag of a hidden element. -/
theorem ofHtml_head {front inner : List Char} (plain : '<' ∉ front)
    (found : afterHidden? inner = some rest) :
    ofHtml (front ++ ("<head>".toList ++ inner)) = ofHtml (front ++ rest) := by
  have named : afterHiddenElement? ("head>".toList ++ inner) = some rest := by
    change afterHidden? ('>' :: inner) = some rest
    rw [afterHidden?_cons]
    exact found
  have taken : replaceTags hiddenElement [] ("<head>".toList ++ inner) =
      replaceTags hiddenElement [] rest := replaceTags_found named
  rw [ofHtml, ofHtml, replaceTags_append plain, taken, ← replaceTags_append plain rest]

end PlainText

open PlainText (IsEndTag HasEndTag)

/-- What is shown of a text with a head. If no end tag of a hidden element stands in the head, the
head is hidden. Otherwise it is hidden up to the first such tag, and the rest of it is shown like any
other text, its own end tag included. -/
theorem plainText_head (front inside behind : String) (plain : '<' ∉ front.toList) :
    (¬HasEndTag inside.toList →
        plainTextOfHtml (front ++ "<head>" ++ inside ++ "</head>" ++ behind) =
          plainTextOfHtml (front ++ behind)) ∧
      (HasEndTag inside.toList → ∃ hidden tag shown, inside = hidden ++ tag ++ shown ∧
        ¬HasEndTag hidden.toList ∧ IsEndTag tag.toList ∧
        plainTextOfHtml (front ++ "<head>" ++ inside ++ "</head>" ++ behind) =
          plainTextOfHtml (front ++ shown ++ "</head>" ++ behind)) := by
  have closing : IsEndTag "</head>".toList := by
    have ended : PlainText.endTag? "</head>".toList = some [] := by decide +kernel
    obtain ⟨tag, ends, same⟩ := PlainText.endTag?_eq_some.mp ended
    rwa [same, List.append_nil]
  simp only [plainTextOfHtml, String.toList_append, List.append_assoc]
  constructor
  · intro clear
    rw [PlainText.ofHtml_head plain (PlainText.afterHidden?_first clear closing _)]
  · intro has
    obtain ⟨hidden, tag, shown, parts, ends, clear⟩ := has.first
    refine ⟨String.ofList hidden, String.ofList tag, String.ofList shown, ?_, ?_, ?_, ?_⟩
    · rw [← String.toList_inj]
      simpa using parts
    · rwa [String.toList_ofList]
    · rwa [String.toList_ofList]
    · rw [parts, List.append_assoc, List.append_assoc,
        PlainText.ofHtml_head plain (PlainText.afterHidden?_first clear ends _)]
      simp only [String.toList_ofList]

/-- What stands in a head with a style and a title. -/
def titledHead : String := "<style>p{}</style><title>Hi</title>"

theorem titledHead_partly_hidden :
    '<' ∉ "A > ".toList ∧ ¬HasEndTag "<title>Hi</title>".toList ∧
      plainTextOfHtml ("A > " ++ "<head>" ++ "<title>Hi</title>" ++ "</head>" ++ "Body") =
        plainTextOfHtml ("A > " ++ "Body") ∧
      HasEndTag titledHead.toList ∧ ∃ hidden tag shown, titledHead = hidden ++ tag ++ shown ∧
        ¬HasEndTag hidden.toList ∧ IsEndTag tag.toList ∧
        plainTextOfHtml ("A > " ++ "<head>" ++ titledHead ++ "</head>" ++ "Body") =
          plainTextOfHtml ("A > " ++ shown ++ "</head>" ++ "Body") := by
  have plain : '<' ∉ "A > ".toList := by decide +kernel
  have clear : ¬HasEndTag "<title>Hi</title>".toList := by decide +kernel
  have has : HasEndTag titledHead.toList := by decide +kernel
  exact ⟨plain, clear, (plainText_head "A > " "<title>Hi</title>" "Body" plain).1 clear, has,
    (plainText_head "A > " titledHead "Body" plain).2 has⟩

/-- The title is shown, although nothing in the head looks like its end. -/
theorem titledHead_shown :
    '<' ∉ "".toList ∧ ¬"</head".toList <:+: titledHead.toList.map Char.toLower ∧
      plainTextOfHtml ("" ++ "<head>" ++ titledHead ++ "</head>" ++ "Body") = "HiBody" ∧
      plainTextOfHtml ("" ++ "Body") = "Body" := by decide +kernel

end MailMerge
