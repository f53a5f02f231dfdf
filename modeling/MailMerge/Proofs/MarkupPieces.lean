import Mathlib.Data.List.Forall2
import MailMerge.Mail.PlainText
/-!
The pieces of markup that are taken out of an HTML text. Each starts with an opening bracket and ends
with a closing one, so a text without brackets in that order has no piece to take out.
-/

set_option autoImplicit false

namespace MailMerge

namespace PlainText

open Text (isBlankChar)

variable {cs rest : List Char}

/-- A name as it is written, in any case. -/
def Spells (name written : List Char) : Prop :=
  List.Forall₂ (fun a c => sameLetter a c = true) name written

theorem afterName?_eq_some {name : List Char} :
    afterName? name cs = some rest ↔ ∃ written, Spells name written ∧ cs = written ++ rest := by
  induction name generalizing cs with
  | nil =>
      rw [afterName?, Option.some.injEq]
      constructor
      · rintro rfl
        exact ⟨[], .nil, rfl⟩
      · rintro ⟨_, ⟨⟩, same⟩
        exact same
  | cons a name ih =>
      constructor
      · intro found
        cases cs with
        | nil => cases found
        | cons c cs =>
            rw [afterName?] at found
            split at found
            · next letter =>
                obtain ⟨written, spells, rfl⟩ := ih.mp found
                exact ⟨c :: written, .cons letter spells, rfl⟩
            · cases found
      · rintro ⟨_, spells, rfl⟩
        cases spells with
        | @cons _ c _ written letter spells =>
            rw [List.cons_append, afterName?, if_pos letter]
            exact ih.mpr ⟨written, spells, rfl⟩

theorem afterTagEnd?_eq_some : afterTagEnd? cs = some rest ↔
    ∃ blanks, (∀ b ∈ blanks, isBlankChar b = true) ∧ cs = blanks ++ '>' :: rest := by
  constructor
  · intro found
    rw [afterTagEnd?] at found
    split at found
    · next ended =>
        cases found
        refine ⟨cs.takeWhile isBlankChar, List.all_eq_true.mp List.all_takeWhile, ?_⟩
        rw [← ended, List.takeWhile_append_dropWhile]
    · cases found
  · rintro ⟨blanks, blank, rfl⟩
    rw [afterTagEnd?, List.dropWhile_append_of_pos blank, List.dropWhile_cons_of_neg (by decide)]
    rfl

/-- What stands in an end tag between the stroke and the closing bracket. -/
def InEndTag (names : List (List Char)) (inner : List Char) : Prop :=
  ∃ name ∈ names, ∃ written blanks, Spells name written ∧ (∀ b ∈ blanks, isBlankChar b = true) ∧
    inner = written ++ blanks

theorem inEndTag_of_afterEndTag? {names : List (List Char)} (found : afterEndTag? names cs = some rest) :
    ∃ inner, InEndTag names inner ∧ cs = inner ++ '>' :: rest := by
  obtain ⟨name, known, found⟩ := List.exists_of_findSome?_eq_some found
  obtain ⟨behind, named, ended⟩ := Option.bind_eq_some_iff.mp found
  obtain ⟨written, spells, rfl⟩ := afterName?_eq_some.mp named
  obtain ⟨blanks, blank, rfl⟩ := afterTagEnd?_eq_some.mp ended
  exact ⟨written ++ blanks, ⟨name, known, written, blanks, spells, blank, rfl⟩,
    (List.append_assoc _ _ _).symm⟩

/-- A text is left behind a piece that ends with a closing bracket. -/
def Closed (cs rest : List Char) : Prop := ∃ inner, cs = inner ++ '>' :: rest

theorem Closed.append (front : List Char) (closed : Closed cs rest) :
    Closed (front ++ cs) rest := by
  obtain ⟨inner, rfl⟩ := closed
  exact ⟨front ++ inner, (List.append_assoc _ _ _).symm⟩

theorem Closed.cons (c : Char) (closed : Closed cs rest) : Closed (c :: cs) rest :=
  closed.append [c]

theorem Closed.mem (closed : Closed cs rest) : '>' ∈ cs := by
  obtain ⟨inner, rfl⟩ := closed
  exact List.mem_append_right inner List.mem_cons_self

theorem Closed.suffix (closed : Closed cs rest) : rest <:+ cs := by
  obtain ⟨inner, rfl⟩ := closed
  exact (List.suffix_cons '>' rest).trans (List.suffix_append inner _)

theorem closed_of_afterEndTag? {names : List (List Char)} (found : afterEndTag? names cs = some rest) :
    Closed cs rest := by
  obtain ⟨inner, -, parts⟩ := inEndTag_of_afterEndTag? found
  exact ⟨inner, parts⟩

theorem closed_of_afterHidden? (found : afterHidden? cs = some rest) : Closed cs rest := by
  fun_induction afterHidden? cs with
  | case1 => cases found
  | case2 cs behind ended =>
      cases found
      exact ((closed_of_afterEndTag? ended).cons '/').cons '<'
  | case3 cs _ ih => exact (ih found).cons '<'
  | case4 c cs _ ih => exact (ih found).cons c

theorem closed_of_afterBreak? (found : afterBreak? cs = some rest) : Closed cs rest := by
  rw [afterBreak?] at found
  split at found
  · cases found
  · next behind named =>
      obtain ⟨written, -, rfl⟩ := afterName?_eq_some.mp named
      have parts := List.takeWhile_append_dropWhile (p := isBlankChar) (l := behind)
      split at found
      · next ended =>
          cases found
          rw [← parts, ended]
          exact Closed.append _ ⟨_, rfl⟩
      · next ended =>
          cases found
          rw [← parts, ended]
          exact Closed.append _ (Closed.append _ ⟨['/'], rfl⟩)
      · cases found

namespace Finder

/-- A finder of pieces that end with a closing bracket. -/
def Closes (f : Finder) : Prop := ∀ {cs rest}, f.after? cs = some rest → Closed cs rest

end Finder

theorem closes_hiddenElement : hiddenElement.Closes := by
  intro cs rest found
  change afterHiddenElement? cs = some rest at found
  rw [afterHiddenElement?] at found
  split at found
  · next behind named =>
      obtain ⟨name, -, named⟩ := List.exists_of_findSome?_eq_some named
      obtain ⟨written, -, rfl⟩ := afterName?_eq_some.mp named
      split at found
      · exact (closed_of_afterHidden? found).append written
      · cases found
  · cases found

theorem closes_lineTag : lineTag.Closes := by
  intro cs rest found
  change afterLineTag? cs = some rest at found
  unfold afterLineTag? at found
  split at found
  · next broken =>
      cases found
      exact closed_of_afterBreak? broken
  · split at found
    · exact (closed_of_afterEndTag? found).cons '/'
    · cases found

theorem closes_anyTag : anyTag.Closes := by
  intro cs rest found
  change afterTag? cs = some rest at found
  fun_induction afterTag? cs with
  | case1 => cases found
  | case2 cs =>
      cases found
      exact ⟨[], rfl⟩
  | case3 c cs _ ih => exact (ih found).cons c

theorem afterTag?_eq_none : afterTag? cs = none ↔ '>' ∉ cs := by
  fun_induction afterTag? cs with
  | case1 => simp
  | case2 cs => simp
  | case3 c cs other ih =>
      rw [ih, List.mem_cons, not_or]
      exact ⟨fun absent => ⟨fun same => other same.symm, absent⟩, fun absent => absent.2⟩

section Replacing

variable {f : Finder} {new : List Char}

theorem replaceTags_found (found : f.after? cs = some rest) :
    replaceTags f new ('<' :: cs) = new ++ replaceTags f new rest := by
  rw [replaceTags, if_pos rfl]
  split
  · next found' =>
      rw [found] at found'
      cases found'
      rfl
  · next absent =>
      rw [found] at absent
      cases absent

theorem replaceTags_absent (absent : f.after? cs = none) :
    replaceTags f new ('<' :: cs) = '<' :: replaceTags f new cs := by
  rw [replaceTags, if_pos rfl]
  split
  · next found =>
      rw [absent] at found
      cases found
  · rfl

theorem replaceTags_plain {c : Char} (plain : c ≠ '<') (cs : List Char) :
    replaceTags f new (c :: cs) = c :: replaceTags f new cs := by
  rw [replaceTags, if_neg plain]

/-- Text in front of the first opening bracket is kept. -/
theorem replaceTags_append {front : List Char} (plain : '<' ∉ front) (cs : List Char) :
    replaceTags f new (front ++ cs) = front ++ replaceTags f new cs := by
  induction front with
  | nil => rfl
  | cons c front ih =>
      rw [List.mem_cons, not_or] at plain
      rw [List.cons_append, replaceTags_plain (fun same => plain.1 same.symm), ih plain.2,
        List.cons_append]

theorem mem_replaceTags (closes : f.Closes) {c : Char} (inside : c ∈ replaceTags f new cs) :
    c ∈ new ∨ c ∈ cs := by
  fun_induction replaceTags f new cs with
  | case1 => cases inside
  | case2 cs rest found ih =>
      rcases List.mem_append.mp inside with put | later
      · exact Or.inl put
      · exact (ih later).imp_right fun there =>
          List.mem_cons_of_mem '<' ((closes found).suffix.subset there)
  | case3 cs absent ih =>
      rcases List.mem_cons.mp inside with rfl | later
      · exact Or.inr List.mem_cons_self
      · exact (ih later).imp_right (List.mem_cons_of_mem '<')
  | case4 d cs other ih =>
      rcases List.mem_cons.mp inside with rfl | later
      · exact Or.inr List.mem_cons_self
      · exact (ih later).imp_right (List.mem_cons_of_mem d)

end Replacing

/-- No opening bracket has a closing one behind it. -/
def TagFree (cs : List Char) : Prop := cs.Pairwise fun a b => ¬(a = '<' ∧ b = '>')

theorem tagFree_of_no_bracket (plain : '<' ∉ cs) : TagFree cs := by
  apply List.pairwise_of_forall_mem_list
  rintro a inside b - ⟨rfl, -⟩
  exact plain inside

/-- Nothing is taken out of a text without tags. -/
theorem replaceTags_tagFree {f : Finder} (closes : f.Closes) (new : List Char) (free : TagFree cs) :
    replaceTags f new cs = cs := by
  induction free with
  | nil => rw [replaceTags]
  | @cons c cs first _ ih =>
      by_cases bracket : c = '<'
      · subst bracket
        have absent : f.after? cs = none := by
          rw [Option.eq_none_iff_forall_ne_some]
          intro rest found
          exact first '>' (closes found).mem ⟨rfl, rfl⟩
        rw [replaceTags_absent absent, ih]
      · rw [replaceTags_plain bracket, ih]

/-- When all tags are taken out, no new one comes about. -/
theorem tagFree_replaceTags (cs : List Char) : TagFree (replaceTags anyTag [] cs) := by
  fun_induction replaceTags anyTag [] cs with
  | case1 => exact .nil
  | case2 cs rest found ih => exact ih
  | case3 cs absent ih =>
      refine .cons ?_ ih
      rintro d inside ⟨-, rfl⟩
      rcases mem_replaceTags closes_anyTag inside with put | there
      · cases put
      · exact afterTag?_eq_none.mp absent there
  | case4 c cs plain ih => exact .cons (fun _ _ tag => plain tag.1) ih

end PlainText

end MailMerge
