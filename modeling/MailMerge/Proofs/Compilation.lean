import MailMerge.Proofs.Placeholders
import Mathlib.Data.List.Chain
/-!
Compiled templates and the places in their sources. Segments are made from the end of a scanned
text, while a reader thinks of them from the front: text up to the place of a short code, then the
short code, and so on behind it. Here both are shown to come to the same, with places counted in
bytes.
-/

set_option autoImplicit false

namespace MailMerge

section Bytes

@[simp] theorem byteCount_nil : byteCount [] = 0 := rfl

@[simp] theorem byteCount_cons (c : Char) (cs : List Char) :
    byteCount (c :: cs) = c.utf8Size + byteCount cs := rfl

@[simp] theorem byteCount_append (front back : List Char) :
    byteCount (front ++ back) = byteCount front + byteCount back := by
  induction front with
  | nil => simp
  | cons c front ih =>
      rw [List.cons_append, byteCount_cons, byteCount_cons, ih]
      omega

/-- The text behind its first `n` bytes. -/
def dropBytes : Nat → List Char → List Char
  | _, [] => []
  | n, c :: cs => if c.utf8Size ≤ n then dropBytes (n - c.utf8Size) cs else c :: cs

/-- The first `n` bytes of a text. -/
def takeBytes : Nat → List Char → List Char
  | _, [] => []
  | n, c :: cs => if c.utf8Size ≤ n then c :: takeBytes (n - c.utf8Size) cs else []

/-- The part of a text between two places. -/
def between (start stop : Nat) (cs : List Char) : List Char :=
  takeBytes (stop - start) (dropBytes start cs)

theorem dropBytes_append (front back : List Char) :
    dropBytes (byteCount front) (front ++ back) = back := by
  induction front with
  | nil =>
      cases back with
      | nil => rfl
      | cons c cs =>
          have wide := c.utf8Size_pos
          rw [byteCount_nil, List.nil_append, dropBytes, if_neg (by omega)]
  | cons c front ih =>
      rw [List.cons_append, byteCount_cons, dropBytes, if_pos (by omega), Nat.add_sub_cancel_left,
        ih]

theorem takeBytes_append (front back : List Char) :
    takeBytes (byteCount front) (front ++ back) = front := by
  induction front with
  | nil =>
      cases back with
      | nil => rfl
      | cons c cs =>
          have wide := c.utf8Size_pos
          rw [byteCount_nil, List.nil_append, takeBytes, if_neg (by omega)]
  | cons c front ih =>
      rw [List.cons_append, byteCount_cons, takeBytes, if_pos (by omega), Nat.add_sub_cancel_left,
        ih]

theorem between_append (front middle back : List Char) :
    between (byteCount front) (byteCount (front ++ middle)) (front ++ middle ++ back) = middle := by
  rw [between, List.append_assoc, dropBytes_append, byteCount_append, Nat.add_sub_cancel_left,
    takeBytes_append]

end Bytes

/-- The short code that stands at a place. -/
def CandidateSpan.code? (span : CandidateSpan) : Option ShortCode :=
  (ShortCode.ofText? span.text).toOption

/-- The text behind byte `last` with something new in the place of every short code. A candidate
that is no short code belongs to the text before the next one. -/
def replaceSpans (new : ShortCode → List Char) (source : List Char) (last : Nat) :
    List CandidateSpan → List Char
  | [] => dropBytes last source
  | span :: spans =>
    match span.code? with
    | none => replaceSpans new source last spans
    | some code =>
      between last span.start source ++ (new code ++ replaceSpans new source span.stop spans)

theorem code?_candidate (start stop : Nat) (body : List Char) :
    CandidateSpan.code? ⟨start, stop, String.ofList (ShortCode.inBraces body)⟩ =
      Mark.code? (.candidate body) := by
  rw [CandidateSpan.code?, ShortCode.ofText?, String.toList_ofList, Mark.code?]

/-- Going through the places of the candidates replaces what going through the pieces of the text
replaces. The text `gap` is not copied yet: it stands behind the last short code, and candidates
that are none are collected there. -/
theorem replaceSpans_spansFrom (new : ShortCode → List Char) (front gap : List Char)
    (marks : List Mark) :
    replaceSpans new (front ++ gap ++ marks.flatMap Mark.chars) (byteCount front)
        (spansFrom (byteCount (front ++ gap)) marks) =
      gap ++ marks.flatMap (Mark.replaced new) := by
  induction marks generalizing front gap with
  | nil => simp [spansFrom, replaceSpans, dropBytes_append]
  | cons mark marks ih =>
      cases mark with
      | plain c =>
          have place : byteCount (front ++ gap) + c.utf8Size = byteCount (front ++ (gap ++ [c])) := by
            simp [Nat.add_assoc]
          have later := ih front (gap ++ [c])
          rw [spansFrom, place]
          simpa [Mark.chars, Mark.replaced, Mark.code?] using later
      | candidate body =>
          have place : byteCount (front ++ gap) + byteCount (ShortCode.inBraces body) =
              byteCount (front ++ (gap ++ ShortCode.inBraces body)) := by
            simp [Nat.add_assoc]
          rw [spansFrom, replaceSpans, code?_candidate, place, List.flatMap_cons,
            List.flatMap_cons, Mark.replaced, Mark.chars]
          cases Mark.code? (.candidate body) with
          | none =>
              have later := ih front (gap ++ ShortCode.inBraces body)
              simpa using later
          | some code =>
              have copied := between_append front gap
                (ShortCode.inBraces body ++ marks.flatMap Mark.chars)
              have later := ih (front ++ gap ++ ShortCode.inBraces body) []
              rw [List.append_nil, List.nil_append] at later
              simp only [← List.append_assoc] at copied later ⊢
              rw [copied, later]

namespace Segment

/-- The places of the placeholders among `segments`, the first of which stands at byte `start`. -/
def spansFrom (start : Nat) : List Segment → List CandidateSpan
  | [] => []
  | text cs :: segments => spansFrom (start + byteCount cs) segments
  | placeholder code :: segments =>
    let stop := start + byteCount code.text.toList
    ⟨start, stop, code.text⟩ :: spansFrom stop segments

theorem spansFrom_addText (start : Nat) (cs : List Char) (segments : List Segment) :
    spansFrom start (addText cs segments) = spansFrom (start + byteCount cs) segments := by
  unfold addText
  split
  · rw [spansFrom, spansFrom, byteCount_append, Nat.add_assoc]
  · rw [spansFrom]

/-- The placeholders stand where the short codes among the candidates stand. -/
theorem spansFrom_foldr_addMark (start : Nat) (marks : List Mark) :
    spansFrom start (marks.foldr addMark []) =
      (MailMerge.spansFrom start marks).filter fun span => span.code?.isSome := by
  induction marks generalizing start with
  | nil => rfl
  | cons mark marks ih =>
      rw [List.foldr_cons, addMark_eq]
      cases mark with
      | plain c => simpa [Mark.code?, Mark.chars, MailMerge.spansFrom, spansFrom_addText] using ih _
      | candidate body =>
          rw [MailMerge.spansFrom, List.filter_cons, code?_candidate]
          cases read : Mark.code? (.candidate body) with
          | none => simpa [Mark.chars, spansFrom_addText] using ih _
          | some code =>
              have written := Mark.chars_of_code? read
              rw [Mark.chars] at written
              simp [spansFrom, ih, written]

/-- Text is never empty and never stands beside text. -/
structure Separated (segments : List Segment) : Prop where
  nonempty : text [] ∉ segments
  apart : segments.IsChain fun a b => a.identifier?.isSome ∨ b.identifier?.isSome

theorem Separated.addText {cs : List Char} {segments : List Segment} (separated : Separated segments)
    (some : cs ≠ []) : Separated (addText cs segments) := by
  unfold Segment.addText
  split
  · next more rest =>
      obtain ⟨nonempty, apart⟩ := separated
      rw [List.isChain_cons] at apart
      refine ⟨?_, List.isChain_cons.mpr apart⟩
      have others : text [] ∉ rest := fun inside => nonempty (List.mem_cons_of_mem _ inside)
      simpa [some] using others
  · next first =>
      refine ⟨?_, List.isChain_cons.mpr ⟨?_, separated.apart⟩⟩
      · simpa [Ne.symm some] using separated.nonempty
      · intro next head
        right
        cases next with
        | placeholder code => rfl
        | text more =>
            obtain ⟨rest, parts⟩ := List.head?_eq_some_iff.mp head
            exact absurd parts (first more rest)

theorem Separated.addMark {segments : List Segment} (separated : Separated segments) (mark : Mark) :
    Separated (addMark mark segments) := by
  rw [addMark_eq]
  split
  · next code _ =>
      refine ⟨?_, List.isChain_cons.mpr ⟨?_, separated.apart⟩⟩
      · simpa using separated.nonempty
      · exact fun _ _ => Or.inl rfl
  · apply separated.addText
    cases mark <;> exact List.cons_ne_nil _ _

theorem separated_foldr_addMark (marks : List Mark) : Separated (marks.foldr addMark []) := by
  induction marks with
  | nil => exact ⟨List.not_mem_nil, .nil⟩
  | cons mark marks ih => exact ih.addMark mark

end Segment

/-- What is put in the place of a short code: its value, escaped if that is asked for. A short code
without a value stays or goes. -/
def ShortCode.filling (options : FillOptions) (values : Dict String) (code : ShortCode) :
    List Char :=
  match values.get? code.identifier with
  | some value => if options.escapeHtml then Markup.escape value.toList else value.toList
  | none => if options.keepUnresolved then code.text.toList else []

/-- A filled template is its scanned source with every short code filled in. -/
theorem toList_fillTemplate (options : FillOptions) (source : String) (values : Dict String) :
    (fillTemplate options (compileTemplate source) values).toList =
      (Mark.scan source.toList).flatMap (Mark.replaced (ShortCode.filling options values)) := by
  rw [fillTemplate, String.toList_ofList, flatMap_compileTemplate fun _ => rfl]
  rfl

theorem fillTemplate_empty (escapeHtml : Bool) (source : String) :
    fillTemplate ⟨true, escapeHtml⟩ (compileTemplate source) Ascending.empty = source := by
  have kept : ShortCode.filling ⟨true, escapeHtml⟩ Ascending.empty =
      fun code => code.text.toList := rfl
  rw [← String.toList_inj, toList_fillTemplate, kept, funext Mark.replaced_text,
    Mark.flatMap_chars_scan]

/-- Compiling loses nothing of a source. Its text is cut at the short codes among the candidates and
nowhere else, and they are placeholders where they stand. So a template with all placeholders kept is
its source, and otherwise it is the source with every such candidate filled in, in one go. -/
theorem compileTemplate_lossless_fill_exact (source : String) :
    (compileTemplate source).flatMap Segment.source = source.toList ∧
      Segment.Separated (compileTemplate source) ∧
      Segment.spansFrom 0 (compileTemplate source) =
        (candidateSpans source).filter (fun span => span.code?.isSome) ∧
      (∀ escapeHtml,
        fillTemplate ⟨true, escapeHtml⟩ (compileTemplate source) Ascending.empty = source) ∧
      ∀ options values, (fillTemplate options (compileTemplate source) values).toList =
        replaceSpans (ShortCode.filling options values) source.toList 0 (candidateSpans source) := by
  refine ⟨flatMap_source_compileTemplate source, Segment.separated_foldr_addMark _,
    Segment.spansFrom_foldr_addMark 0 _, fun escapeHtml => fillTemplate_empty escapeHtml source, ?_⟩
  intro options values
  have replaced := replaceSpans_spansFrom (ShortCode.filling options values) [] []
    (Mark.scan source.toList)
  rw [toList_fillTemplate]
  simpa [Mark.flatMap_chars_scan, candidateSpans] using replaced.symm

/-- Candidates that are no short codes, and a stray brace, stay in the text around a short code. -/
example : compileTemplate "{{ä b}}\x7b{{ok}}{{ok}}\x7b" =
    [.text "{{ä b}}\x7b{{ok}}".toList, .placeholder ⟨"ok", by decide⟩, .text ['\x7b']] := by
  decide +kernel

end MailMerge
