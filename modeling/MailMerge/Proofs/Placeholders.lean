import MailMerge.Mail.Placeholder
import MailMerge.Proofs.ShortCodes
/-!
Compiled templates as texts. A template is its scanned source with the short codes among the
candidates taken out, so whatever turns segments into text and leaves text alone can be told from
the source. In particular the segments make up the source.
-/

set_option autoImplicit false

namespace MailMerge

namespace Mark

/-- The short code that a candidate is. -/
def code? : Mark → Option ShortCode
  | plain _ => none
  | candidate body => (ShortCode.ofChars? (ShortCode.inBraces body)).toOption

/-- The identifier of a short code. -/
def identifier? (mark : Mark) : Option String := mark.code?.map ShortCode.identifier

/-- The piece with something new in the place of a short code. -/
def replaced (new : ShortCode → List Char) (mark : Mark) : List Char :=
  match mark.code? with
  | some code => new code
  | none => mark.chars

theorem chars_of_code? {mark : Mark} {code : ShortCode} (read : mark.code? = some code) :
    mark.chars = code.text.toList := by
  cases mark with
  | plain c => cases read
  | candidate body =>
      rw [code?] at read
      cases ok : ShortCode.ofChars? (ShortCode.inBraces body) with
      | error fault =>
          rw [ok] at read
          cases read
      | ok found =>
          rw [ok] at read
          cases read
          rw [chars, ShortCode.text, String.toList_ofList, ← ShortCode.ofChars?_eq_ok.mp ok]

theorem replaced_text (mark : Mark) : mark.replaced (fun code => code.text.toList) = mark.chars := by
  rw [replaced]
  split
  · next code read => exact (chars_of_code? read).symm
  · rfl

end Mark

namespace Segment

theorem addMark_eq (mark : Mark) (segments : List Segment) :
    addMark mark segments =
      match mark.code? with
      | some code => placeholder code :: segments
      | none => addText mark.chars segments := by
  cases mark with
  | plain c => rfl
  | candidate body =>
      rw [addMark, Mark.code?]
      cases ShortCode.ofChars? (ShortCode.inBraces body) <;> rfl

variable {f : Segment → List Char}

theorem flatMap_addText (literal : ∀ cs, f (text cs) = cs) (cs : List Char)
    (segments : List Segment) :
    (addText cs segments).flatMap f = cs ++ segments.flatMap f := by
  unfold addText
  split
  · simp [literal]
  · rw [List.flatMap_cons, literal]

theorem flatMap_addMark (literal : ∀ cs, f (text cs) = cs) (mark : Mark)
    (segments : List Segment) :
    (addMark mark segments).flatMap f =
      mark.replaced (fun code => f (placeholder code)) ++ segments.flatMap f := by
  rw [addMark_eq, Mark.replaced]
  split
  · rw [List.flatMap_cons]
  · exact flatMap_addText literal mark.chars segments

theorem filterMap_identifier_addText (cs : List Char) (segments : List Segment) :
    (addText cs segments).filterMap identifier? = segments.filterMap identifier? := by
  unfold addText
  split <;> rfl

end Segment

/-- What is made of a template, as far as text is left alone, is its scanned source with something
new in the place of every short code. -/
theorem flatMap_compileTemplate {f : Segment → List Char} (literal : ∀ cs, f (.text cs) = cs)
    (source : String) :
    (compileTemplate source).flatMap f =
      (Mark.scan source.toList).flatMap (Mark.replaced fun code => f (.placeholder code)) := by
  have folded (marks : List Mark) : (marks.foldr Segment.addMark []).flatMap f =
      marks.flatMap (Mark.replaced fun code => f (.placeholder code)) := by
    induction marks with
    | nil => rfl
    | cons mark marks ih =>
        rw [List.foldr_cons, Segment.flatMap_addMark literal, ih, List.flatMap_cons]
  exact folded (Mark.scan source.toList)

/-- Compiling loses nothing: the segments make up the source. -/
theorem flatMap_source_compileTemplate (source : String) :
    (compileTemplate source).flatMap Segment.source = source.toList := by
  rw [flatMap_compileTemplate fun _ => rfl]
  simp only [Segment.source]
  rw [funext Mark.replaced_text, Mark.flatMap_chars_scan]

/-- The identifiers of a template are those of the short codes among the candidates. -/
theorem placeholderIdentifiers_compileTemplate (source : String) :
    placeholderIdentifiers (compileTemplate source) =
      (Mark.scan source.toList).filterMap Mark.identifier? := by
  have folded (marks : List Mark) :
      (marks.foldr Segment.addMark []).filterMap Segment.identifier? =
        marks.filterMap Mark.identifier? := by
    induction marks with
    | nil => rfl
    | cons mark marks ih =>
        rw [List.foldr_cons, Segment.addMark_eq, List.filterMap_cons, Mark.identifier?]
        cases mark.code? with
        | none => rw [Segment.filterMap_identifier_addText, ih]; rfl
        | some code => rw [List.filterMap_cons, ih]; rfl
  exact folded (Mark.scan source.toList)

end MailMerge
