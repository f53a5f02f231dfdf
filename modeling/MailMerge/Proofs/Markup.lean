import MailMerge.Proofs.Placeholders
/-!
Values that are filled into HTML add no markup. What marks up a mail is what marks up its template,
whatever the values are, and an ampersand in a mail is either one of the template or the start of an
entity that stands for one character of a value.
-/

set_option autoImplicit false

namespace MailMerge

namespace Markup

/-- The characters that mark up HTML: they open and close tags, and the values of attributes. -/
def isMark (c : Char) : Bool := c == '<' || c == '>' || c == '"' || c == '\''

/-- What stands in HTML for the characters that have a meaning there. -/
def entities : List (List Char) :=
  ["&amp;".toList, "&lt;".toList, "&gt;".toList, "&quot;".toList, "&#39;".toList]

/-- A character is shown as an entity, or it has no meaning in HTML and is shown as it is. -/
theorem escapeChar_cases (c : Char) :
    escapeChar c ∈ entities ∨ escapeChar c = [c] ∧ c ≠ '&' ∧ isMark c = false := by
  unfold escapeChar
  split
  case h_6 ampersand less greater quote apostrophe =>
    refine Or.inr ⟨rfl, ampersand, ?_⟩
    simp only [isMark, Bool.or_eq_false_iff, beq_eq_false_iff_ne]
    exact ⟨⟨⟨less, greater⟩, quote⟩, apostrophe⟩
  all_goals
    left
    decide

theorem filter_escapeChar (c : Char) : (escapeChar c).filter isMark = [] := by
  have quiet : ∀ entity ∈ entities, entity.filter isMark = [] := by decide
  rcases escapeChar_cases c with standard | ⟨same, -, plain⟩
  · exact quiet _ standard
  · simp [same, plain]

theorem filter_escape (cs : List Char) : (escape cs).filter isMark = [] := by
  rw [escape, List.filter_flatMap, List.flatMap_eq_nil_iff]
  exact fun c _ => filter_escapeChar c

/-- An ampersand that a character is shown with is the start of an entity. -/
theorem escapeChar_ampersand {c : Char} {left right : List Char}
    (parts : escapeChar c = left ++ '&' :: right) : escapeChar c ∈ entities ∧ left = [] := by
  have lead : ∀ entity ∈ entities, '&' ∉ entity.tail := by decide
  rcases escapeChar_cases c with standard | ⟨same, notAmpersand, -⟩
  · refine ⟨standard, ?_⟩
    have single := lead _ standard
    cases left with
    | nil => rfl
    | cons d left => simp [parts] at single
  · rw [same] at parts
    have inside : '&' ∈ [c] := by simp [parts]
    exact absurd (List.mem_singleton.mp inside).symm notAmpersand

end Markup

open Markup (isMark entities escape escapeChar)

namespace Segment

variable {keep : Bool} {values : Dict String}

/-- Short codes are written without markup and without ampersands. -/
theorem plain_code (code : ShortCode) :
    ∀ c ∈ code.text.toList, isMark c = false ∧ c ≠ '&' := by
  have plain (c : Char) (inside : isIdentifierChar c = true) : isMark c = false ∧ c ≠ '&' := by
    constructor
    · by_contra mark
      simp only [isMark, Bool.not_eq_false, Bool.or_eq_true, beq_iff_eq] at mark
      rcases mark with ((rfl | rfl) | rfl) | rfl <;> exact absurd inside (by decide)
    · rintro rfl
      exact absurd inside (by decide)
  intro c inside
  rcases ShortCode.mem_text inside with rfl | rfl | inner
  · decide
  · decide
  · exact plain c inner

theorem filter_code (code : ShortCode) : code.text.toList.filter isMark = [] := by
  rw [List.filter_eq_nil_iff]
  intro c inside
  simp [(plain_code code c inside).1]

/-- Filling a segment in leaves the markup of its source. -/
theorem filter_fill (segment : Segment) :
    (segment.fill ⟨keep, true⟩ values).filter isMark = segment.source.filter isMark := by
  cases segment with
  | text cs => rfl
  | placeholder code =>
      rw [source, filter_code, fill]
      split
      · exact Markup.filter_escape _
      · split
        · exact filter_code code
        · rfl

end Segment

/-- Where an ampersand of a filled template comes from, if `front` stands before it and `back`
behind it. It is text of the source, and what stands around it is filled in from what stands around
it there; or it starts the entity for one character of a value. -/
inductive AmpersandOrigin (source : String) (options : FillOptions) (values : Dict String)
    (front back : List Char) : Prop where
  | literal {before after : List Segment} {left right : List Char}
      (segments : compileTemplate source = before ++ .text (left ++ '&' :: right) :: after)
      (inSource : source.toList =
        before.flatMap Segment.source ++ left ++ '&' :: (right ++ after.flatMap Segment.source))
      (inFront : front = before.flatMap (Segment.fill options values) ++ left)
      (behind : back = right ++ after.flatMap (Segment.fill options values))
  | entity {before after : List Segment} {code : ShortCode} {value : String}
      {left right : List Char} {c : Char}
      (segments : compileTemplate source = before ++ .placeholder code :: after)
      (given : values.get? code.identifier = some value)
      (inValue : value.toList = left ++ c :: right) (standard : escapeChar c ∈ entities)
      (inFront : front = before.flatMap (Segment.fill options values) ++ escape left)
      (behind : '&' :: back =
        escapeChar c ++ (escape right ++ after.flatMap (Segment.fill options values)))

section Fill

variable {keep : Bool} {source : String} {values : Dict String}

theorem filter_fillTemplate :
    (fillTemplate ⟨keep, true⟩ (compileTemplate source) values).toList.filter isMark =
      source.toList.filter isMark := by
  rw [fillTemplate, String.toList_ofList, ← flatMap_source_compileTemplate, List.filter_flatMap,
    List.filter_flatMap]
  simp only [Segment.filter_fill]

theorem ampersandOrigin {front back : List Char}
    (filled : (fillTemplate ⟨keep, true⟩ (compileTemplate source) values).toList =
      front ++ '&' :: back) : AmpersandOrigin source ⟨keep, true⟩ values front back := by
  rw [fillTemplate, String.toList_ofList] at filled
  obtain ⟨before, segment, after, left, right, segments, here, rfl, rfl⟩ := split_of_flatMap filled
  cases segment with
  | text cs =>
      rw [Segment.fill] at here
      subst here
      refine .literal segments ?_ rfl rfl
      rw [← flatMap_source_compileTemplate, segments]
      simp [Segment.source]
  | placeholder code =>
      rw [Segment.fill] at here
      split at here
      · next value given =>
          rw [if_pos rfl] at here
          obtain ⟨before', c, after', left', right', inValue, shown, rfl, rfl⟩ :=
            split_of_flatMap here
          obtain ⟨standard, rfl⟩ := Markup.escapeChar_ampersand shown
          refine .entity segments given inValue standard ?_ ?_
          · rw [List.append_nil, escape]
          · rw [shown, escape]
            simp
      · split at here
        · have inside : '&' ∈ code.text.toList := by simp [here]
          exact absurd rfl (Segment.plain_code code _ inside).2
        · cases left <;> cases here

end Fill

/-- Values add no markup to HTML, whatever they hold: the markup of a filled template is that of its
source, so it is the same for all values, and every ampersand is text of the source or starts the
entity for a character of a value. -/
theorem values_add_no_markup (source : String) (keep : Bool) (values : Dict String) :
    (fillTemplate ⟨keep, true⟩ (compileTemplate source) values).toList.filter isMark =
        source.toList.filter isMark ∧
      (∀ front back, (fillTemplate ⟨keep, true⟩ (compileTemplate source) values).toList =
        front ++ '&' :: back → AmpersandOrigin source ⟨keep, true⟩ values front back) ∧
      ∀ others : Dict String,
        (fillTemplate ⟨keep, true⟩ (compileTemplate source) others).toList.filter isMark =
          (fillTemplate ⟨keep, true⟩ (compileTemplate source) values).toList.filter isMark := by
  refine ⟨filter_fillTemplate, fun front back filled => ampersandOrigin filled, ?_⟩
  intro others
  rw [filter_fillTemplate, filter_fillTemplate]

/-- A value with markup and a short code of its own. -/
def hostile : Dict String := Ascending.ofList [("name", "<i>{{url}}")]

theorem hostile_filled :
    (fillTemplate ⟨true, true⟩ (compileTemplate "<b>{{name}} & {{url}}</b>") hostile).toList =
        "<b>".toList ++ '&' :: "lt;i&gt;{{url}} & {{url}}</b>".toList ∧
      AmpersandOrigin "<b>{{name}} & {{url}}</b>" ⟨true, true⟩ hostile "<b>".toList
        "lt;i&gt;{{url}} & {{url}}</b>".toList := by
  have filled :
      (fillTemplate ⟨true, true⟩ (compileTemplate "<b>{{name}} & {{url}}</b>") hostile).toList =
        "<b>".toList ++ '&' :: "lt;i&gt;{{url}} & {{url}}</b>".toList := by decide +kernel
  exact ⟨filled, (values_add_no_markup _ true hostile).2.1 _ _ filled⟩

end MailMerge
