import MailMerge.Proofs.Markup
import MailMerge.Proofs.MarkupPieces
import MailMerge.Proofs.NormalLines
/-!
The plain text of a value that was escaped for HTML is the value, but for white space. Entities are
resolved one kind after the other, and that of the ampersand comes last: until then every ampersand
is the first character of an entity that is still to be resolved, so nothing that a step puts in
can be taken for an entity by a later one.
-/

set_option autoImplicit false

namespace MailMerge

namespace Text

section Replace

variable {first : Char} {more new cs : List Char}

theorem replaceAll_found (rest : List Char) :
    replaceAll first more new (first :: (more ++ rest)) = new ++ replaceAll first more new rest := by
  rw [replaceAll, if_pos rfl]
  split
  · next found =>
      rw [afterPrefix?_append] at found
      cases found
      rfl
  · next absent =>
      rw [afterPrefix?_append] at absent
      cases absent

theorem replaceAll_absent (absent : afterPrefix? more cs = none) :
    replaceAll first more new (first :: cs) = first :: replaceAll first more new cs := by
  rw [replaceAll, if_pos rfl]
  split
  · next found =>
      rw [absent] at found
      cases found
  · rfl

/-- Text without the first character of what is looked for is kept, whatever stands behind it. -/
theorem replaceAll_append {quiet : List Char} (free : first ∉ quiet) (cs : List Char) :
    replaceAll first more new (quiet ++ cs) = quiet ++ replaceAll first more new cs := by
  induction quiet with
  | nil => rfl
  | cons c quiet ih =>
      rw [List.mem_cons, not_or] at free
      rw [List.cons_append, replaceAll, if_neg fun same => free.1 same.symm, ih free.2,
        List.cons_append]

theorem replaceAll_free (free : first ∉ cs) : replaceAll first more new cs = cs := by
  have whole : replaceAll first more new (cs ++ []) = cs ++ replaceAll first more new [] :=
    replaceAll_append free []
  rwa [List.append_nil, replaceAll, List.append_nil] at whole

/-- A text that is made character by character is replaced character by character, if that goes for
each character whatever stands behind it. -/
theorem replaceAll_flatMap {f g : Char → List Char} (each : ∀ c rest,
    replaceAll first more new (f c ++ rest) = g c ++ replaceAll first more new rest)
    (cs : List Char) : replaceAll first more new (cs.flatMap f) = cs.flatMap g := by
  induction cs with
  | nil => rw [List.flatMap_nil, replaceAll, List.flatMap_nil]
  | cons c cs ih => rw [List.flatMap_cons, each, ih, List.flatMap_cons]

end Replace

/-- Two pieces of text, neither of which is the beginning of the other. -/
def Apart (a b : List Char) : Prop := ¬a <+: b ∧ ¬b <+: a

instance (a b : List Char) : Decidable (Apart a b) := inferInstanceAs (Decidable (_ ∧ _))

theorem Apart.afterPrefix? {a b : List Char} (apart : Apart a b) (rest : List Char) :
    afterPrefix? a (b ++ rest) = none := by
  rw [Option.eq_none_iff_forall_ne_some]
  intro behind found
  have start : a <+: b ++ rest := ⟨behind, (afterPrefix?_eq_some found).symm⟩
  rcases List.prefix_or_prefix_of_prefix start (List.prefix_append b rest) with shorter | longer
  · exact apart.1 shorter
  · exact apart.2 longer

end Text

namespace PlainText

open Text (replaceAll Apart)

/-- What an entity is without its ampersand, and what becomes of it. -/
abbrev Entity : Type := List Char × List Char

/-- Entities that can be resolved one after the other: each stands for one character, they can be
told apart, and the last one stands for the ampersand. -/
structure Resolvable (es : List Entity) : Prop where
  single : ∀ e ∈ es, e.2.length = 1
  quiet : ∀ e ∈ es, '&' ∉ e.1
  apart : es.Pairwise fun e other => Apart e.1 other.1 ∧ e.2 ≠ other.2
  last : ∀ e ∈ es.getLast?, e.2 = ['&']

/-- How a character is written as long as the given entities are not resolved. -/
def shownBy (es : List Entity) (c : Char) : List Char :=
  match es.find? fun e => e.2 == [c] with
  | some e => '&' :: e.1
  | none => [c]

section Resolving

variable {e : Entity} {es : List Entity}

theorem Resolvable.tail (resolvable : Resolvable (e :: es)) : Resolvable es where
  single other later := resolvable.single other (List.mem_cons_of_mem e later)
  quiet other later := resolvable.quiet other (List.mem_cons_of_mem e later)
  apart := resolvable.apart.of_cons
  last other final := by
    apply resolvable.last other
    rw [List.getLast?_cons, Option.mem_def.mp final]
    rfl

theorem Resolvable.ampersand (resolvable : Resolvable (e :: es)) :
    ∃ other ∈ e :: es, other.2 = ['&'] :=
  ⟨_, List.getLast_mem (List.cons_ne_nil e es),
    resolvable.last _ (List.getLast?_eq_some_getLast _)⟩

theorem shownBy_head {c : Char} (here : e.2 = [c]) : shownBy (e :: es) c = '&' :: e.1 := by
  simp [shownBy, here]

theorem shownBy_tail {c : Char} (other : e.2 ≠ [c]) : shownBy (e :: es) c = shownBy es c := by
  simp [shownBy, other]

theorem shownBy_fresh {c : Char} (fresh : ∀ e ∈ es, e.2 ≠ [c]) : shownBy es c = [c] := by
  have absent : es.find? (fun e => e.2 == [c]) = none :=
    List.find?_eq_none.mpr fun e inside => by simpa using fresh e inside
  rw [shownBy, absent]

/-- A step leaves the entities of the other characters. -/
theorem replaceAll_shownBy {more new : List Char} {c : Char} (quiet : ∀ e ∈ es, '&' ∉ e.1)
    (apart : ∀ e ∈ es, Apart more e.1) (ampersand : c = '&' → ∃ e ∈ es, e.2 = ['&'])
    (rest : List Char) :
    replaceAll '&' more new (shownBy es c ++ rest) =
      shownBy es c ++ replaceAll '&' more new rest := by
  rw [shownBy]
  cases found : es.find? fun e => e.2 == [c] with
  | some e =>
      have inside := List.mem_of_find?_eq_some found
      change replaceAll '&' more new ('&' :: (e.1 ++ rest)) = '&' :: (e.1 ++ _)
      rw [Text.replaceAll_absent ((apart e inside).afterPrefix? rest),
        Text.replaceAll_append (quiet e inside)]
  | none =>
      have plain : '&' ∉ [c] := by
        rw [List.mem_singleton]
        rintro rfl
        obtain ⟨e, inside, same⟩ := ampersand rfl
        exact List.find?_eq_none.mp found e inside (beq_iff_eq.mpr same)
      exact Text.replaceAll_append plain rest

/-- A step resolves the entities of its own character. -/
theorem replaceAll_step (resolvable : Resolvable (e :: es)) (cs : List Char) :
    replaceAll '&' e.1 e.2 (cs.flatMap (shownBy (e :: es))) = cs.flatMap (shownBy es) := by
  have others := List.pairwise_cons.mp resolvable.apart
  apply Text.replaceAll_flatMap
  intro c rest
  by_cases here : e.2 = [c]
  · have fresh : ∀ other ∈ es, other.2 ≠ [c] :=
      fun other later same => (others.1 other later).2 (here.trans same.symm)
    rw [shownBy_head here, shownBy_fresh fresh, here]
    exact Text.replaceAll_found rest
  · rw [shownBy_tail here]
    refine replaceAll_shownBy resolvable.tail.quiet (fun other later => (others.1 other later).1) ?_
      rest
    rintro rfl
    obtain ⟨other, inside, same⟩ := resolvable.ampersand
    rcases List.mem_cons.mp inside with rfl | later
    · exact absurd same here
    · exact ⟨other, later, same⟩

theorem foldl_resolve (resolvable : Resolvable es) (cs : List Char) :
    es.foldl (fun cs e => replaceAll '&' e.1 e.2 cs) (cs.flatMap (shownBy es)) = cs := by
  induction es with
  | nil => exact List.flatMap_singleton' cs
  | cons e es ih => rw [List.foldl_cons, replaceAll_step resolvable, ih resolvable.tail]

end Resolving

/-- The entities that are resolved behind those of blanks are the ones that escaping writes. -/
theorem escapeChar_eq_shownBy (c : Char) : Markup.escapeChar c = shownBy entities.tail c := by
  unfold Markup.escapeChar
  split
  case h_6 ampersand less greater quote apostrophe =>
    have known : ∀ e ∈ entities.tail, e.2 ∈ [['<'], ['>'], ['"'], ['\''], ['&']] := by decide
    refine (shownBy_fresh ?_).symm
    intro e inside same
    have here := known e inside
    rw [same] at here
    simp only [List.mem_cons, List.cons.injEq, and_true, List.not_mem_nil, or_false] at here
    rcases here with here | here | here | here | here
    exacts [less here, greater here, quote here, apostrophe here, ampersand here]
  all_goals decide

theorem resolvable_tail : Resolvable entities.tail where
  single := by decide
  quiet := by decide
  apart := by decide
  last := by decide

/-- Resolving the entities undoes the escaping. -/
theorem resolveEntities_escape (cs : List Char) : resolveEntities (Markup.escape cs) = cs := by
  have shown : Markup.escape cs = cs.flatMap (shownBy entities.tail) := by
    rw [Markup.escape, funext escapeChar_eq_shownBy]
  have kept : replaceAll '&' "nbsp;".toList [' '] (cs.flatMap (shownBy entities.tail)) =
      cs.flatMap (shownBy entities.tail) := by
    apply Text.replaceAll_flatMap
    intro c
    exact replaceAll_shownBy resolvable_tail.quiet (by decide) fun _ => resolvable_tail.ampersand
  rw [shown]
  change entities.tail.foldl (fun cs e => replaceAll '&' e.1 e.2 cs)
    (replaceAll '&' "nbsp;".toList [' '] (cs.flatMap (shownBy entities.tail))) = cs
  rw [kept, foldl_resolve resolvable_tail]

theorem resolveEntities_free {cs : List Char} (free : '&' ∉ cs) : resolveEntities cs = cs := by
  have all (es : List Entity) : es.foldl (fun cs e => replaceAll '&' e.1 e.2 cs) cs = cs := by
    induction es with
    | nil => rfl
    | cons e es ih => rw [List.foldl_cons, Text.replaceAll_free free, ih]
  exact all entities

/-- Where there are no tags, entities are resolved and white space is normalised. -/
theorem ofHtml_tagFree {cs : List Char} (free : TagFree cs) :
    ofHtml cs = normalized (resolveEntities cs) := by
  rw [ofHtml, replaceTags_tagFree closes_hiddenElement [] free,
    replaceTags_tagFree closes_lineTag ['\n'] free, replaceTags_tagFree closes_anyTag [] free,
    tidyLines_eq_normalized]

end PlainText

open PlainText (normalized)

/-- The plain text of an escaped value is the value with its white space normalised: whatever the
value looks like, nothing of it is taken for markup or for an entity. -/
theorem plainText_escaped (value : String) :
    plainTextOfHtml (String.ofList (Markup.escape value.toList)) =
      String.ofList (normalized value.toList) := by
  have plain : '<' ∉ Markup.escape value.toList := by
    intro inside
    have marks := Markup.filter_escape value.toList
    exact List.filter_eq_nil_iff.mp marks '<' inside rfl
  rw [plainTextOfHtml, String.toList_ofList,
    PlainText.ofHtml_tagFree (PlainText.tagFree_of_no_bracket plain),
    PlainText.resolveEntities_escape]

example : plainTextOfHtml (String.ofList (Markup.escape " a&lt;\t\r\n\n<style>\t b &nbsp;".toList)) =
    "a&lt;\n<style> b &nbsp;" := by decide +kernel

end MailMerge
