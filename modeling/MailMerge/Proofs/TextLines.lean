import Mathlib.Data.List.Forall2
import Mathlib.Data.List.TakeWhile
import MailMerge.Text.Blank
/-!
The lines of a text, and what trimming takes off a line.
-/

set_option autoImplicit false

namespace MailMerge

namespace Text

/-- The lines of a text. A line feed ends a line, and so does a carriage return together with the
line feed behind it. What stands behind the last line feed is a line if there is anything. -/
def lines : List Char → List (List Char)
  | [] => []
  | '\n' :: cs => [] :: lines cs
  | '\r' :: '\n' :: cs => [] :: lines cs
  | c :: cs =>
    match lines cs with
    | [] => [[c]]
    | line :: more => (c :: line) :: more

theorem lines_plain {c : Char} (feed : c ≠ '\n') (behind : c ≠ '\r') (cs : List Char) :
    lines (c :: cs) =
      match lines cs with
      | [] => [[c]]
      | line :: more => (c :: line) :: more := by
  rw [lines]
  · exact feed
  · exact fun _ same _ => behind same

theorem lines_ended {line : List Char} (plain : ∀ c ∈ line, c ≠ '\n' ∧ c ≠ '\r')
    (cs : List Char) : lines (line ++ '\n' :: cs) = line :: lines cs := by
  induction line with
  | nil => rfl
  | cons c line ih =>
      obtain ⟨feed, behind⟩ := plain c List.mem_cons_self
      rw [List.cons_append, lines_plain feed behind,
        ih fun d later => plain d (List.mem_cons_of_mem c later)]

theorem lines_last {line : List Char} (plain : ∀ c ∈ line, c ≠ '\n' ∧ c ≠ '\r')
    (some : line ≠ []) : lines line = [line] := by
  induction line with
  | nil => exact absurd rfl some
  | cons c line ih =>
      obtain ⟨feed, behind⟩ := plain c List.mem_cons_self
      rw [lines_plain feed behind]
      cases line with
      | nil => rfl
      | cons d line => rw [ih (fun e later => plain e (List.mem_cons_of_mem c later)) nofun]

/-- Lines that are written one below the other are read back. -/
theorem lines_intercalate {ls : List (List Char)}
    (plain : ∀ line ∈ ls, line ≠ [] ∧ ∀ c ∈ line, c ≠ '\n' ∧ c ≠ '\r') :
    lines (List.intercalate ['\n'] ls) = ls := by
  induction ls with
  | nil => rfl
  | cons line ls ih =>
      obtain ⟨some, solid⟩ := plain line List.mem_cons_self
      cases ls with
      | nil =>
          rw [List.intercalate_singleton]
          exact lines_last solid some
      | cons next ls =>
          rw [List.intercalate_cons_cons, List.append_assoc, List.singleton_append,
            lines_ended solid, ih fun other later => plain other (List.mem_cons_of_mem line later)]

theorem feed_not_mem_lines {cs line : List Char} (inside : line ∈ lines cs) : '\n' ∉ line := by
  fun_induction lines cs generalizing line with
  | case1 => cases inside
  | case2 cs ih =>
      rcases List.mem_cons.mp inside with rfl | later
      · exact nofun
      · exact ih later
  | case3 cs ih =>
      rcases List.mem_cons.mp inside with rfl | later
      · exact nofun
      · exact ih later
  | case4 c cs feed _ _ _ =>
      rw [List.mem_singleton.mp inside, List.mem_singleton]
      exact fun same => feed same.symm
  | case5 c cs feed _ first more found ih =>
      rcases List.mem_cons.mp inside with rfl | later
      · rw [List.mem_cons, not_or]
        exact ⟨fun same => feed same.symm, ih (found ▸ List.mem_cons_self)⟩
      · exact ih (found ▸ List.mem_cons_of_mem first later)

/-- Pieces between line feeds are lines, but for a carriage return that a line ends with and an
empty piece at the end. -/
theorem splitAt_feed (cs : List Char) : ∃ pieces rest,
    splitAt (· == '\n') cs = pieces ++ rest ∧ (rest = [] ∨ rest = [[]]) ∧
      List.Forall₂ (fun piece line => piece = line ∨ piece = line ++ ['\r']) pieces (lines cs) := by
  fun_induction lines cs with
  | case1 => exact ⟨[], [[]], rfl, Or.inr rfl, .nil⟩
  | case2 cs ih =>
      obtain ⟨pieces, rest, parts, last, same⟩ := ih
      refine ⟨[] :: pieces, rest, ?_, last, .cons (Or.inl rfl) same⟩
      rw [splitAt, if_pos (beq_self_eq_true _), parts, List.cons_append]
  | case3 cs ih =>
      obtain ⟨pieces, rest, parts, last, same⟩ := ih
      refine ⟨['\r'] :: pieces, rest, ?_, last, .cons (Or.inr rfl) same⟩
      rw [splitAt, if_neg (by decide), splitAt, if_pos (beq_self_eq_true _), parts,
        List.cons_append]
  | case4 c cs feed _ found ih =>
      obtain ⟨pieces, rest, parts, last, same⟩ := ih
      rw [found] at same
      cases same
      refine ⟨[[c]], [], ?_, Or.inl rfl, .cons (Or.inl rfl) .nil⟩
      rw [splitAt, if_neg (by simpa using feed), parts]
      rcases last with rfl | rfl <;> rfl
  | case5 c cs feed _ line more found ih =>
      obtain ⟨pieces, rest, parts, last, same⟩ := ih
      rw [found] at same
      cases same with
      | @cons piece _ pieces _ first same =>
          refine ⟨(c :: piece) :: pieces, rest, ?_, last, .cons ?_ same⟩
          · rw [splitAt, if_neg (by simpa using feed), parts]
            rfl
          · rcases first with rfl | rfl
            · exact Or.inl rfl
            · exact Or.inr rfl

/-- The same is made of the pieces as of the lines, if nothing is made of an empty line and a carriage
return at the end of a line does not count. -/
theorem map_splitAt_feed {f : List Char → List Char} (empty : f [] = [])
    (ended : ∀ line, f (line ++ ['\r']) = f line) (cs : List Char) :
    ((splitAt (· == '\n') cs).map f).filter (fun line => !line.isEmpty) =
      ((lines cs).map f).filter fun line => !line.isEmpty := by
  obtain ⟨pieces, rest, parts, last, same⟩ := splitAt_feed cs
  have alike : pieces.map f = (lines cs).map f := by
    clear parts
    generalize lines cs = ls at same
    induction same with
    | nil => rfl
    | cons first _ ih =>
        rw [List.map_cons, List.map_cons, ih]
        rcases first with rfl | rfl
        · rfl
        · rw [ended]
  rw [parts, List.map_append, List.filter_append, alike]
  rcases last with rfl | rfl
  · rw [List.map_nil, List.filter_nil, List.append_nil]
  · simp [empty]

/-! Trimming takes something off the ends, and leaves what is between. -/

theorem prefix_trimEnd (cs : List Char) : trimEnd cs <+: cs := by
  induction cs with
  | nil => exact List.prefix_rfl
  | cons c cs ih =>
      rw [trimEnd]
      split
      · exact List.nil_prefix
      · exact List.cons_prefix_cons.mpr ⟨rfl, ih⟩

theorem infix_trim (cs : List Char) : trim cs <:+: cs :=
  (prefix_trimEnd _).isInfix.trans (List.dropWhile_suffix isBlankChar).isInfix

theorem trimEnd_concat {b : Char} (blank : isBlankChar b = true) (cs : List Char) :
    trimEnd (cs ++ [b]) = trimEnd cs := by
  induction cs with
  | nil => simp [trimEnd, blank]
  | cons c cs ih => simp [trimEnd, ih, blank]

theorem trim_concat {b : Char} (blank : isBlankChar b = true) (cs : List Char) :
    trim (cs ++ [b]) = trim cs := by
  by_cases none : cs.all isBlankChar = true
  · rw [(trim_eq_nil_iff cs).mpr none, trim_eq_nil_iff, List.all_append, none]
    simpa using blank
  · have front : trimStart (cs ++ [b]) = trimStart cs ++ [b] := by
      obtain ⟨c, inside, solid⟩ : ∃ c ∈ cs, isBlankChar c = false := by
        simpa using none
      rw [trimStart, trimStart, List.dropWhile_append, if_neg]
      rw [List.isEmpty_iff, List.dropWhile_eq_nil_iff]
      exact fun all => by simpa [solid] using all c inside
    rw [trim, front, trimEnd_concat blank, trim]

end Text

end MailMerge
