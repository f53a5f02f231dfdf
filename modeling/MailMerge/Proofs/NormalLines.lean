import Mathlib.Data.List.SplitBy
import MailMerge.Mail.PlainText
import MailMerge.Proofs.Lists
import MailMerge.Proofs.TextLines
/-!
Tidying a text normalises its white space and does nothing else: within a line each run of blanks
becomes one space and the ends are trimmed, and lines of which nothing is left are dropped. What is
left is a list of normal lines, which a second tidying leaves alone.
-/

set_option autoImplicit false

namespace MailMerge

namespace PlainText

open Text (lines trim)

/-- Both characters are blanks, or neither is. -/
def sameKind (a b : Char) : Bool := isSpacing a == isSpacing b

/-- A run of blanks becomes one space; other characters are kept. -/
def squeezeRun (run : List Char) : List Char := if run.all isSpacing then [' '] else run

/-- A line with one space in the place of each run of blanks. -/
def squeeze (line : List Char) : List Char := (line.splitBy sameKind).flatMap squeezeRun

/-- What is shown of a line. -/
def shownLine (line : List Char) : List Char := trim (squeeze line)

/-- What is shown of the lines of a text, without the lines of which nothing is left. -/
def shownLines (cs : List Char) : List (List Char) :=
  ((lines cs).map shownLine).filter fun line => !line.isEmpty

/-- A text after its white space is normalised, and nothing else: runs of blanks within a line are
one space, lines are trimmed, and lines of which nothing is left are dropped. -/
def normalized (cs : List Char) : List Char := List.intercalate ['\n'] (shownLines cs)

theorem collapse_blank {c : Char} (blank : isSpacing c = true) {cs : List Char}
    (last : ∀ d ∈ cs.head?, isSpacing d = false) : collapse (c :: cs) = ' ' :: collapse cs := by
  cases cs with
  | nil => simp [collapse, blank]
  | cons d cs => rw [collapse, if_pos blank, if_neg (by simp [last d rfl])]

theorem collapse_solid {c : Char} (solid : isSpacing c = false) (cs : List Char) :
    collapse (c :: cs) = c :: collapse cs := by
  rw [collapse.eq_def]
  simp [solid]

/-- A run of blanks becomes one space. -/
theorem collapse_run {run cs : List Char} (some : run ≠ [])
    (blank : ∀ c ∈ run, isSpacing c = true) (last : ∀ d ∈ cs.head?, isSpacing d = false) :
    collapse (run ++ cs) = ' ' :: collapse cs := by
  induction run with
  | nil => exact absurd rfl some
  | cons c run ih =>
      have first := blank c List.mem_cons_self
      cases run with
      | nil => exact collapse_blank first last
      | cons d run =>
          have second := blank d (List.mem_cons_of_mem c List.mem_cons_self)
          rw [List.cons_append, List.cons_append, collapse, if_pos first, if_pos second,
            ← List.cons_append, ih nofun fun e later => blank e (List.mem_cons_of_mem c later)]

theorem collapse_word {word : List Char} (solid : ∀ c ∈ word, isSpacing c = false)
    (cs : List Char) : collapse (word ++ cs) = word ++ collapse cs := by
  induction word with
  | nil => rfl
  | cons c word ih =>
      rw [List.cons_append, collapse_solid (solid c List.mem_cons_self),
        ih fun d later => solid d (List.mem_cons_of_mem c later), List.cons_append]

theorem alike_of_isChain {run : List Char}
    (chain : run.IsChain fun a b => sameKind a b = true) :
    (∀ c ∈ run, isSpacing c = true) ∨ ∀ c ∈ run, isSpacing c = false := by
  have same : ∀ b, ∀ c ∈ run.head?, isSpacing c = b → ∀ d ∈ run, isSpacing d = b := by
    intro b
    induction chain with
    | nil => exact nofun
    | singleton c => simp
    | @cons_cons c d run first _ ih =>
        rintro _ ⟨⟩ here e inside
        rcases List.mem_cons.mp inside with rfl | later
        · exact here
        · exact ih d rfl ((beq_iff_eq.mp first).symm.trans here) e later
  cases run with
  | nil => exact Or.inl nofun
  | cons c run =>
      cases kind : isSpacing c with
      | true => exact Or.inl (same true c rfl kind)
      | false => exact Or.inr (same false c rfl kind)

/-- Runs of blanks and runs of other characters, which take turns, are collapsed one by one. -/
theorem collapse_flatten {runs : List (List Char)} (some : [] ∉ runs)
    (alike : ∀ run ∈ runs, run.IsChain fun a b => sameKind a b = true)
    (apart : runs.IsChain fun a b => ∃ ha hb, sameKind (a.getLast ha) (b.head hb) = false) :
    collapse runs.flatten = runs.flatMap squeezeRun := by
  induction runs with
  | nil => rfl
  | cons run runs ih =>
      rw [List.mem_cons, not_or] at some
      have rest := ih some.2 (fun other later => alike other (List.mem_cons_of_mem run later))
        apart.tail
      rw [List.flatten_cons, List.flatMap_cons, ← rest]
      rcases alike_of_isChain (alike run List.mem_cons_self) with blank | solid
      · have last : ∀ d ∈ runs.flatten.head?, isSpacing d = false := by
          cases runs with
          | nil => exact nofun
          | cons next runs =>
              obtain ⟨hrun, hnext, differ⟩ := (List.isChain_cons_cons.mp apart).1
              rw [sameKind, blank _ (List.getLast_mem hrun)] at differ
              intro d first
              rw [List.flatten_cons, List.head?_append_of_ne_nil _ hnext,
                List.head?_eq_some_head hnext] at first
              cases first
              simpa using differ
        rw [collapse_run (fun none => some.1 none.symm) blank last, squeezeRun,
          if_pos (List.all_eq_true.mpr blank), List.singleton_append]
      · have visible : ¬run.all isSpacing = true := by
          obtain ⟨c, inside⟩ := List.exists_mem_of_ne_nil run fun none => some.1 none.symm
          exact fun all => by simpa [solid c inside] using List.all_eq_true.mp all c inside
        rw [collapse_word solid, squeezeRun, if_neg visible]

theorem collapse_eq_squeeze (line : List Char) : collapse line = squeeze line := by
  conv_lhs => rw [← List.flatten_splitBy sameKind line]
  exact collapse_flatten (List.nil_notMem_splitBy sameKind line)
    (fun run inside => List.isChain_of_mem_splitBy inside)
    (List.isChain_getLast_head_splitBy sameKind line)

/-- A carriage return at the end of a line is not shown. -/
theorem shownLine_ended (line : List Char) : shownLine (line ++ ['\r']) = shownLine line := by
  have ended : collapse (line ++ ['\r']) = collapse line ∨
      collapse (line ++ ['\r']) = collapse line ++ [' '] := by
    fun_induction collapse line with
    | case1 => exact Or.inr rfl
    | case2 c blank => exact Or.inl (by simp [collapse, blank]; decide)
    | case3 c blank d cs blank' ih =>
        rw [List.cons_append, List.cons_append, collapse, if_pos blank, if_pos blank',
          ← List.cons_append]
        exact ih
    | case4 c blank d cs solid ih =>
        rw [List.cons_append, List.cons_append, collapse, if_pos blank, if_neg solid,
          ← List.cons_append]
        simpa using ih
    | case5 c cs solid ih =>
        rw [List.cons_append, collapse_solid (by simpa using solid)]
        simpa using ih
  rw [shownLine, shownLine, ← collapse_eq_squeeze, ← collapse_eq_squeeze]
  rcases ended with same | spaced
  · rw [same]
  · rw [spaced, Text.trim_concat (by decide)]

theorem tidyLines_eq_normalized (cs : List Char) : tidyLines cs = normalized cs := by
  simp only [tidyLines, normalized, shownLines, collapse_eq_squeeze]
  rw [← Text.map_splitAt_feed rfl shownLine_ended]
  rfl

/-! What is left of a line is normal, and stays as it is when the text is tidied once more. -/

theorem mem_collapse {line : List Char} {c : Char} (inside : c ∈ collapse line) :
    c = ' ' ∨ c ∈ line ∧ isSpacing c = false := by
  have cons {d : Char} {cs : List Char} (found : c = ' ' ∨ c ∈ cs ∧ isSpacing c = false) :
      c = ' ' ∨ c ∈ d :: cs ∧ isSpacing c = false :=
    found.imp_right fun ⟨later, solid⟩ => ⟨List.mem_cons_of_mem d later, solid⟩
  fun_induction collapse line with
  | case1 => cases inside
  | case2 d blank => exact Or.inl (List.mem_singleton.mp inside)
  | case3 d blank e cs blank' ih => exact cons (ih inside)
  | case4 d blank e cs solid ih =>
      rcases List.mem_cons.mp inside with same | later
      · exact Or.inl same
      · exact cons (ih later)
  | case5 d cs solid ih =>
      rcases List.mem_cons.mp inside with rfl | later
      · exact Or.inr ⟨List.mem_cons_self, by simpa using solid⟩
      · exact cons (ih later)

theorem collapse_single (line : List Char) : ¬[' ', ' '] <:+: collapse line := by
  have apart {c : Char} {cs : List Char} (here : ¬[' ', ' '] <+: c :: cs)
      (later : ¬[' ', ' '] <:+: cs) : ¬[' ', ' '] <:+: c :: cs := by
    rw [List.infix_cons_iff, not_or]
    exact ⟨here, later⟩
  fun_induction collapse line with
  | case1 => decide
  | case2 => decide
  | case3 c blank d cs blank' ih => exact ih
  | case4 c blank d cs solid ih =>
      refine apart ?_ ih
      rw [collapse_solid (by simpa using solid)]
      rintro ⟨rest, parts⟩
      cases parts
      exact solid rfl
  | case5 c cs solid ih =>
      refine apart ?_ ih
      rintro ⟨rest, parts⟩
      obtain ⟨rfl, -⟩ := List.cons.inj parts
      exact solid rfl

theorem collapse_fixed {line : List Char} (spaces : ∀ c ∈ line, isSpacing c = true → c = ' ')
    (single : ¬[' ', ' '] <:+: line) : collapse line = line := by
  induction line with
  | nil => rfl
  | cons c line ih =>
      rw [List.infix_cons_iff, not_or] at single
      have rest := ih (fun d later => spaces d (List.mem_cons_of_mem c later)) single.2
      by_cases blank : isSpacing c = true
      · obtain rfl := spaces c List.mem_cons_self blank
        have last : ∀ d ∈ line.head?, isSpacing d = false := by
          intro d first
          rw [← Bool.not_eq_true]
          intro blank'
          obtain ⟨more, rfl⟩ := List.head?_eq_some_iff.mp first
          obtain rfl := spaces d (List.mem_cons_of_mem _ List.mem_cons_self) blank'
          exact single.1 ⟨more, rfl⟩
        rw [collapse_blank blank last, rest]
      · rw [collapse_solid (by simpa using blank), rest]

/-- A line that is shown as it is. -/
structure NormalLine (line : List Char) : Prop where
  some : line ≠ []
  trimmed : trim line = line
  plain : ∀ c ∈ line, c ≠ '\n' ∧ c ≠ '\t' ∧ c ≠ '\r' ∧ c ≠ '\x0c'
  single : ¬[' ', ' '] <:+: line

theorem NormalLine.shown {line : List Char} (normal : NormalLine line) : shownLine line = line := by
  have spaces : ∀ c ∈ line, isSpacing c = true → c = ' ' := by
    intro c inside blank
    obtain ⟨-, tab, behind, feed⟩ := normal.plain c inside
    simpa [isSpacing, tab, behind, feed] using blank
  rw [shownLine, ← collapse_eq_squeeze, collapse_fixed spaces normal.single, normal.trimmed]

theorem normalLine_of_mem {cs line : List Char} (inside : line ∈ shownLines cs) :
    NormalLine line := by
  obtain ⟨shown, some⟩ := List.mem_filter.mp inside
  obtain ⟨source, present, rfl⟩ := List.mem_map.mp shown
  have part : shownLine source <:+: collapse source := by
    rw [shownLine, collapse_eq_squeeze]
    exact Text.infix_trim _
  refine ⟨by simpa using some, Text.trim_trim _, ?_, ?_⟩
  · intro c inside
    rcases mem_collapse (part.subset inside) with rfl | ⟨original, solid⟩
    · decide
    · refine ⟨?_, ?_, ?_, ?_⟩
      · rintro rfl
        exact Text.feed_not_mem_lines present original
      all_goals
        rintro rfl
        cases solid
  · exact fun double => collapse_single source (double.trans part)

section Normal

variable {ls : List (List Char)}

theorem lines_of_normal (normal : ∀ line ∈ ls, NormalLine line) :
    lines (List.intercalate ['\n'] ls) = ls := by
  apply Text.lines_intercalate
  intro line inside
  exact ⟨(normal line inside).some, fun c here =>
    ⟨((normal line inside).plain c here).1, ((normal line inside).plain c here).2.2.1⟩⟩

theorem normalized_of_normal (normal : ∀ line ∈ ls, NormalLine line) :
    normalized (List.intercalate ['\n'] ls) = List.intercalate ['\n'] ls := by
  have same : ls.map shownLine = ls :=
    (List.map_congr_left fun line inside => (normal line inside).shown).trans (List.map_id ls)
  have kept : ls.filter (fun line => !line.isEmpty) = ls :=
    List.filter_eq_self.mpr fun line inside => by simpa using (normal line inside).some
  rw [normalized, shownLines, lines_of_normal normal, same, kept]

end Normal

theorem lines_normalized (cs : List Char) : lines (normalized cs) = shownLines cs :=
  lines_of_normal fun _ => normalLine_of_mem

theorem normalized_normalized (cs : List Char) : normalized (normalized cs) = normalized cs :=
  normalized_of_normal fun _ => normalLine_of_mem

/-! Characters that are neither blanks nor line feeds are kept in their order. -/

section Visible

variable {visible : Char → Bool} (feed : visible '\n' = false)
  (blank : ∀ c, isSpacing c = true → visible c = false)

include feed blank in
theorem flatMap_filter_lines (cs : List Char) :
    (lines cs).flatMap (List.filter visible) = cs.filter visible := by
  fun_induction lines cs with
  | case1 => rfl
  | case2 cs ih => simp [feed, ih]
  | case3 cs ih => simp [feed, blank '\r' rfl, ih]
  | case4 c cs _ _ found ih =>
      rw [found] at ih
      rw [List.filter_cons, ← ih]
      simp [List.filter_cons]
  | case5 c cs _ _ line more found ih =>
      rw [found] at ih
      rw [List.filter_cons, ← ih]
      split <;> simp_all

include blank in
theorem filter_collapse (line : List Char) :
    (collapse line).filter visible = line.filter visible := by
  fun_induction collapse line with
  | case1 => rfl
  | case2 c space => simp [blank c space, blank ' ' rfl]
  | case3 c space d cs space' ih => rw [ih, List.filter_cons_of_neg (a := c) (by simp [blank c space])]
  | case4 c space d cs solid ih =>
      rw [List.filter_cons_of_neg (by simp [blank ' ' rfl]), ih,
        List.filter_cons_of_neg (a := c) (by simp [blank c space])]
  | case5 c cs solid ih => rw [List.filter_cons, List.filter_cons, ih]

include feed blank in
theorem filter_normalized (cs : List Char) :
    ((normalized cs).filter visible).Sublist (cs.filter visible) := by
  have part (line : List Char) : ((shownLine line).filter visible).Sublist (line.filter visible) := by
    rw [← filter_collapse blank line, shownLine, collapse_eq_squeeze]
    exact (Text.infix_trim _).sublist.filter visible
  have all (ls : List (List Char)) :
      (((ls.map shownLine).filter fun line => !line.isEmpty).flatMap (List.filter visible)).Sublist
        (ls.flatMap (List.filter visible)) := by
    induction ls with
    | nil => exact .slnil
    | cons line ls ih =>
        rw [List.map_cons, List.filter_cons, List.flatMap_cons]
        split
        · rw [List.flatMap_cons]
          exact (part line).append ih
        · exact ih.trans (List.sublist_append_right _ _)
  rw [normalized, filter_intercalate feed, ← flatMap_filter_lines feed blank cs]
  exact all (lines cs)

end Visible

end PlainText

end MailMerge
