import MailMerge.Proofs.CandidatePlaces
/-!
Short codes behind other text. A short code that stands in a template is a placeholder there, unless
the text in front of it leaves a pair of braces open on the same line. Then the candidate starts at
that pair and is no short code, so everything from it to the end of the short code stays text and no
value is put in.
-/

set_option autoImplicit false

namespace MailMerge

/-- A template has a placeholder for a short code at a place. -/
def HasPlaceholder (source : String) (place : Nat) (code : ShortCode) : Prop :=
  ∃ span ∈ Segment.spansFrom 0 (compileTemplate source), span.start = place ∧ span.text = code.text

instance (source : String) (place : Nat) (code : ShortCode) :
    Decidable (HasPlaceholder source place code) :=
  inferInstanceAs (Decidable (∃ span ∈ Segment.spansFrom 0 (compileTemplate source), _))

theorem hasPlaceholder_iff {source : String} {place : Nat} {code : ShortCode} :
    HasPlaceholder source place code ↔ ∃ span ∈ candidateSpans source,
      span.start = place ∧ span.text = code.text := by
  have read (span : CandidateSpan) (written : span.text = code.text) : span.code?.isSome = true := by
    rw [CandidateSpan.code?, written, ShortCode.ofText?, ShortCode.text, String.toList_ofList,
      ShortCode.ofChars?_inBraces_eq_ok.mpr rfl]
    rfl
  unfold HasPlaceholder compileTemplate
  rw [Segment.spansFrom_foldr_addMark]
  constructor
  · rintro ⟨span, inside, here⟩
    exact ⟨span, (List.mem_filter.mp inside).1, here⟩
  · rintro ⟨span, inside, place, written⟩
    exact ⟨span, List.mem_filter.mpr ⟨inside, read span written⟩, place, written⟩

section Behind

open Mark (LeavesOpen Apart Bridges)

variable {front : String} (code : ShortCode) (back : String)

theorem toList_embedded (front : String) :
    (front ++ code.text ++ back).toList = front.toList ++ (code.text.toList ++ back.toList) := by
  simp

theorem head_embedded : (code.text.toList ++ back.toList).head? = some '{' := by
  rw [ShortCode.text, String.toList_ofList]
  rfl

/-- Behind a text that leaves nothing open a short code is a candidate. -/
theorem scan_embedded (single : front.toList.getLast? ≠ some '{')
    (closed : ¬LeavesOpen front.toList) :
    Mark.scan (front ++ code.text ++ back).toList =
      Mark.scan front.toList ++ .candidate code.identifier.toList :: Mark.scan back.toList := by
  have apart : Apart front.toList (code.text.toList ++ back.toList) :=
    ⟨fun across => single across.1, fun leaves => absurd leaves closed⟩
  rw [toList_embedded, Mark.scan_append_of_apart apart, Mark.scan_code]

/-- Behind a text that leaves a pair open a short code is the end of a candidate. -/
theorem bridges_embedded (leaves : LeavesOpen front.toList) : ∃ before inner,
    Bridges front.toList (code.text.toList ++ back.toList) before inner
      ('{' :: '{' :: code.identifier.toList) back.toList := by
  refine Mark.bridges_of_open leaves (Mark.closing?_code code back.toList) fun across => ?_
  rw [Mark.Across, head_embedded] at across
  exact absurd across.2 (by decide)

/-- A candidate with a character that identifiers do not have is no short code. -/
theorem code?_candidate_eq_none {body : List Char} {c : Char} (inside : c ∈ body)
    (other : isIdentifierChar c = false) : Mark.code? (.candidate body) = none := by
  rw [Mark.code?]
  cases read : ShortCode.ofChars? (ShortCode.inBraces body) with
  | error fault => rfl
  | ok found =>
      rw [← ShortCode.ofChars?_inBraces_eq_ok.mp read] at inside
      rw [found.isIdentifierChar_of_mem inside] at other
      cases other

/-- All candidates of a text stand within it. -/
theorem within_of_mem_spansFrom {span : CandidateSpan} {start : Nat} {marks : List Mark}
    (inside : span ∈ spansFrom start marks) :
    start ≤ span.start ∧ span.start < span.stop ∧
      span.stop ≤ start + byteCount (marks.flatMap Mark.chars) := by
  induction marks generalizing start with
  | nil => cases inside
  | cons mark marks ih =>
      rw [List.flatMap_cons, byteCount_append]
      cases mark with
      | plain c =>
          have later := ih inside
          have size : byteCount (Mark.chars (.plain c)) = c.utf8Size := Nat.add_zero _
          omega
      | candidate body =>
          have size := Mark.byteCount_inBraces body
          rw [Mark.chars]
          rcases List.mem_cons.mp inside with rfl | behind
          · dsimp only
            omega
          · have later := ih behind
            omega

theorem hasPlaceholder_of_closed (single : front.toList.getLast? ≠ some '{')
    (closed : ¬LeavesOpen front.toList) :
    HasPlaceholder (front ++ code.text ++ back) (byteCount front.toList) code := by
  rw [hasPlaceholder_iff, candidateSpans, scan_embedded code back single closed, spansFrom_append,
    Mark.flatMap_chars_scan, Nat.zero_add, spansFrom]
  exact ⟨_, List.mem_append_right _ List.mem_cons_self, rfl, rfl⟩

theorem not_hasPlaceholder_of_open (leaves : LeavesOpen front.toList) :
    ¬HasPlaceholder (front ++ code.text ++ back) (byteCount front.toList) code := by
  obtain ⟨before, inner, bridges⟩ := bridges_embedded code back leaves
  rw [hasPlaceholder_iff, candidateSpans, toList_embedded, bridges.together, spansFrom_append,
    Mark.flatMap_chars_scan, Nat.zero_add, spansFrom]
  rintro ⟨span, inside, place, -⟩
  have size := Mark.byteCount_inBraces (inner ++ '{' :: '{' :: code.identifier.toList)
  have split : byteCount front.toList = byteCount before + (2 + byteCount inner) := by
    rw [bridges.parts, byteCount_append, byteCount_cons, byteCount_cons]
    have one : '{'.utf8Size = 1 := rfl
    omega
  rw [byteCount_append] at size
  -- The candidate starts before the place and ends behind it, so no other one starts there.
  rcases List.mem_append.mp inside with early | late
  · have within := within_of_mem_spansFrom early
    rw [Mark.flatMap_chars_scan] at within
    omega
  · rcases List.mem_cons.mp late with rfl | behind
    · dsimp only at place
      omega
    · have within := within_of_mem_spansFrom behind
      omega

section Filled

variable (options : FillOptions) (values : Dict String)

theorem fill_of_closed (single : front.toList.getLast? ≠ some '{')
    (closed : ¬LeavesOpen front.toList) :
    (fillTemplate options (compileTemplate (front ++ code.text ++ back)) values).toList =
      (fillTemplate options (compileTemplate front) values).toList ++
        (ShortCode.filling options values code ++
          (fillTemplate options (compileTemplate back) values).toList) := by
  have read : Mark.code? (.candidate code.identifier.toList) = some code := by
    rw [Mark.code?, ShortCode.ofChars?_inBraces_eq_ok.mpr rfl]
    rfl
  rw [toList_fillTemplate, scan_embedded code back single closed, List.flatMap_append,
    List.flatMap_cons, Mark.replaced, read, toList_fillTemplate, toList_fillTemplate]

theorem fill_of_bridges {before inner : List Char}
    (bridges : Bridges front.toList (code.text.toList ++ back.toList) before inner
      ('{' :: '{' :: code.identifier.toList) back.toList) :
    (fillTemplate options (compileTemplate (front ++ code.text ++ back)) values).toList =
      (fillTemplate options (compileTemplate (String.ofList before)) values).toList ++
        ('{' :: '{' :: inner ++ (code.text.toList ++
          (fillTemplate options (compileTemplate back) values).toList)) := by
  have none : Mark.code? (.candidate (inner ++ '{' :: '{' :: code.identifier.toList)) = none :=
    code?_candidate_eq_none (c := '{') (by simp) (by decide)
  rw [toList_fillTemplate, toList_embedded, bridges.together, List.flatMap_append,
    List.flatMap_cons, Mark.replaced, none, toList_fillTemplate, toList_fillTemplate,
    String.toList_ofList]
  simp [Mark.chars, ShortCode.inBraces, ShortCode.text]

end Filled

end Behind

/-- A short code behind a text that does not end in a brace is a placeholder where it stands exactly
if the text leaves no pair of braces open. If so, it is filled in, between what stands in front and
behind. If not, all from the open pair to the end of the short code is left as it is, whatever the
values are. -/
theorem placeholder_iff_closed (front : String) (code : ShortCode) (back : String)
    (single : front.toList.getLast? ≠ some '{') :
    (HasPlaceholder (front ++ code.text ++ back) (byteCount front.toList) code ↔
        ¬Mark.LeavesOpen front.toList) ∧
      (¬Mark.LeavesOpen front.toList → ∀ options values,
        (fillTemplate options (compileTemplate (front ++ code.text ++ back)) values).toList =
          (fillTemplate options (compileTemplate front) values).toList ++
            (ShortCode.filling options values code ++
              (fillTemplate options (compileTemplate back) values).toList)) ∧
      (Mark.LeavesOpen front.toList → ∃ before inner,
        front.toList = before ++ '{' :: '{' :: inner ∧ '\n' ∉ inner ∧ ∀ options values,
          (fillTemplate options (compileTemplate (front ++ code.text ++ back)) values).toList =
            (fillTemplate options (compileTemplate (String.ofList before)) values).toList ++
              ('{' :: '{' :: inner ++ (code.text.toList ++
                (fillTemplate options (compileTemplate back) values).toList))) := by
  refine ⟨⟨fun placed leaves => ?_, hasPlaceholder_of_closed code back single⟩, ?_, ?_⟩
  · exact not_hasPlaceholder_of_open code back leaves placed
  · exact fun closed options values => fill_of_closed code back options values single closed
  · intro leaves
    obtain ⟨before, inner, bridges⟩ := bridges_embedded code back leaves
    exact ⟨before, inner, bridges.parts, bridges.line,
      fun options values => fill_of_bridges code back options values bridges⟩

/-- The short code for whoever reads a mail. -/
def readerCode : ShortCode := ⟨"reader", by decide⟩

/-- A value with characters that are escaped. -/
def adaValue : Dict String := Ascending.ofList [("reader", "Ada & Co")]

/-- A short code, and a pair of braces that its line leaves open. -/
def openLine : String := "{{a}} \x7b\x7bb"

/-- An open pair does no harm on the next line. -/
theorem closed_on_next_line :
    (openLine ++ "\n").toList.getLast? ≠ some '{' ∧
      HasPlaceholder (openLine ++ "\n" ++ readerCode.text ++ "!") 10 readerCode ∧
      (fillTemplate .html (compileTemplate (openLine ++ "\n" ++ readerCode.text ++ "!"))
        adaValue).toList = " \x7b\x7bb\nAda &amp; Co!".toList := by
  have single : (openLine ++ "\n").toList.getLast? ≠ some '{' := by decide +kernel
  have closed : ¬Mark.LeavesOpen (openLine ++ "\n").toList := by decide +kernel
  obtain ⟨placed, filled, -⟩ := placeholder_iff_closed (openLine ++ "\n") readerCode "!" single
  refine ⟨single, placed.mpr closed, (filled closed .html adaValue).trans ?_⟩
  decide +kernel

/-- On the same line the short code is no placeholder, and its value is left out. -/
theorem hidden_on_same_line :
    openLine.toList.getLast? ≠ some '{' ∧
      ¬HasPlaceholder (openLine ++ readerCode.text ++ "!") 9 readerCode ∧
      fillTemplate .html (compileTemplate (openLine ++ readerCode.text ++ "!")) adaValue =
        " \x7b\x7bb{{reader}}!" := by
  decide +kernel

end MailMerge
