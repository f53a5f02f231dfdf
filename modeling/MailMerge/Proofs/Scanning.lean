import MailMerge.Proofs.ShortCodes
import Mathlib.Data.List.Infix
/-!
How a text is scanned for candidates, told from its parts. Where a text is cut in two, both parts are
scanned on their own, unless the first leaves a pair of braces open and the second closes its line:
then a candidate starts in the one and ends in the other, and hides what the second starts with.
-/

set_option autoImplicit false

namespace MailMerge

namespace Mark

theorem scan_candidate {rest body after : List Char} (found : closing? rest = some (body, after)) :
    scan ('{' :: '{' :: rest) = candidate body :: scan after := by
  rw [scan]
  split
  · next body' after' found' =>
      rw [found] at found'
      cases found'
      rfl
  · next none =>
      rw [found] at none
      cases none

/-- A character starts no candidate where this text stands behind it. -/
def Literal (c : Char) (cs : List Char) : Prop :=
  c = '{' → ∀ rest, cs = '{' :: rest → closing? rest = none

/-- A character that does not start a candidate is plain. -/
theorem scan_plain {c : Char} {cs : List Char} (literal : Literal c cs) :
    scan (c :: cs) = plain c :: scan cs := by
  by_cases opening : c = '{' ∧ ∃ rest, cs = '{' :: rest
  · obtain ⟨rfl, rest, rfl⟩ := opening
    have unclosed := literal rfl rest rfl
    rw [scan]
    split
    · next body after found =>
        rw [unclosed] at found
        cases found
    · rfl
  · rw [scan]
    rintro rest rfl rfl
    exact opening ⟨rfl, rest, rfl⟩

theorem closing?_cons {c : Char} {cs : List Char} (line : c ≠ '\n')
    (single : c = '}' → cs.head? ≠ some '}') :
    closing? (c :: cs) = (closing? cs).map fun found => (c :: found.1, found.2) := by
  rw [closing?]
  · rintro rest rfl rfl
    exact single rfl rfl
  · exact line

/-- The closing pair that ends a candidate does not depend on what stands behind it. -/
theorem closing?_append {cs body rest : List Char} (found : closing? cs = some (body, rest))
    (other : List Char) : closing? (body ++ '}' :: '}' :: other) = some (body, other) := by
  fun_induction closing? cs generalizing body rest with
  | case1 => cases found
  | case2 =>
      cases found
      rfl
  | case3 => cases found
  | case4 c cs pair line ih =>
      obtain ⟨⟨inner, behind⟩, nearest, same⟩ := Option.map_eq_some_iff.mp found
      cases same
      have head : (inner ++ '}' :: '}' :: other).head? = cs.head? := by
        rw [closing?_eq_some nearest]
        cases inner <;> rfl
      rw [List.cons_append, closing?_cons line, ih nearest]
      · rfl
      · rintro rfl closes
        rw [head] at closes
        obtain ⟨more, rfl⟩ := List.head?_eq_some_iff.mp closes
        exact pair more rfl rfl

/-- A line is not closed if it ends here, or if no closing pair stands here nor behind. -/
theorem closing?_cons_eq_none {c : Char} {cs : List Char} :
    closing? (c :: cs) = none ↔
      c = '\n' ∨ (c = '}' → cs.head? ≠ some '}') ∧ closing? cs = none := by
  by_cases line : c = '\n'
  · subst line
    exact ⟨fun _ => Or.inl rfl, fun _ => rfl⟩
  · rw [or_iff_right line]
    by_cases pair : c = '}' ∧ cs.head? = some '}'
    · obtain ⟨rfl, head⟩ := pair
      obtain ⟨rest, rfl⟩ := List.head?_eq_some_iff.mp head
      simp [closing?]
    · rw [closing?_cons line fun brace head => pair ⟨brace, head⟩, Option.map_eq_none_iff]
      exact (and_iff_right fun brace head => pair ⟨brace, head⟩).symm

/-- Where a pair closes a line, the nearest one does so no later. -/
theorem closing?_of_pair {body : List Char} (line : '\n' ∉ body) (rest : List Char) :
    ∃ nearest after, closing? (body ++ '}' :: '}' :: rest) = some (nearest, after) ∧
      nearest <+: body := by
  induction body with
  | nil => exact ⟨[], rest, rfl, List.nil_prefix⟩
  | cons c body ih =>
      obtain ⟨differs, later⟩ := not_or.mp (mt List.mem_cons.mpr line)
      by_cases pair : c = '}' ∧ (body ++ '}' :: '}' :: rest).head? = some '}'
      · obtain ⟨rfl, head⟩ := pair
        obtain ⟨after, parts⟩ := List.head?_eq_some_iff.mp head
        refine ⟨[], after, ?_, List.nil_prefix⟩
        rw [List.cons_append, parts, closing?]
      · obtain ⟨nearest, after, found, early⟩ := ih later
        refine ⟨c :: nearest, after, ?_, (List.prefix_cons_inj c).mpr early⟩
        rw [List.cons_append, closing?_cons (Ne.symm differs) fun brace head => pair ⟨brace, head⟩,
          found, Option.map_some]

/-- The nearest closing pair: the line does not end before it, and no pair stands before it. -/
theorem closing?_nearest {cs body rest : List Char} (found : closing? cs = some (body, rest)) :
    '\n' ∉ body ∧ ¬['}', '}'] <:+: body ++ ['}'] := by
  fun_induction closing? cs generalizing body rest with
  | case1 => cases found
  | case2 =>
      cases found
      decide
  | case3 => cases found
  | case4 c cs pair line ih =>
      obtain ⟨⟨inner, behind⟩, nearest, same⟩ := Option.map_eq_some_iff.mp found
      cases same
      obtain ⟨inLine, first⟩ := ih nearest
      refine ⟨by simp [inLine, Ne.symm line], ?_⟩
      rw [List.cons_append, List.infix_cons_iff]
      rintro (here | later)
      · obtain ⟨more, parts⟩ := here
        obtain ⟨rfl, parts⟩ := List.cons.inj parts
        have head : cs.head? = some '}' := by
          rw [closing?_eq_some nearest]
          cases inner with
          | nil => rfl
          | cons d inner =>
              have same : '}' = d := (List.cons.inj (List.cons.inj parts).2).1
              rw [← same]
              rfl
        obtain ⟨more, rfl⟩ := List.head?_eq_some_iff.mp head
        exact pair more rfl rfl
      · exact first later

/-- An opening pair of braces with neither a closing pair nor the end of its line behind it. -/
def LeavesOpen (cs : List Char) : Prop :=
  ∃ tail, tail <:+ cs ∧ ['{', '{'] <+: tail ∧ '\n' ∉ tail ∧ ¬['}', '}'] <:+: tail

theorem LeavesOpen.of_suffix {tail cs : List Char} (stands : tail <:+ cs) (leaves : LeavesOpen tail) :
    LeavesOpen cs := by
  obtain ⟨opening, last, rest⟩ := leaves
  exact ⟨opening, last.trans stands, rest⟩

theorem leavesOpen_cons {cs : List Char} (line : '\n' ∉ cs) (unclosed : ¬['}', '}'] <:+: cs) :
    LeavesOpen ('{' :: '{' :: cs) :=
  ⟨'{' :: '{' :: cs, List.suffix_rfl, ⟨cs, rfl⟩, by simpa using line,
    by simpa [List.infix_cons_iff] using unclosed⟩

/-- An open pair stands in front or further behind. -/
theorem LeavesOpen.cons {c : Char} {cs : List Char} (leaves : LeavesOpen (c :: cs)) :
    (∃ rest, c = '{' ∧ cs = '{' :: rest ∧ '\n' ∉ rest ∧ ¬['}', '}'] <:+: rest) ∨ LeavesOpen cs := by
  obtain ⟨tail, stands, ⟨rest, rfl⟩, line, unclosed⟩ := leaves
  rcases List.suffix_cons_iff.mp stands with here | later
  · obtain ⟨rfl, rfl⟩ := List.cons.inj here
    refine Or.inl ⟨rest, rfl, rfl, fun inside => line (by simp [inside]), fun inside => unclosed ?_⟩
    exact List.infix_cons (List.infix_cons inside)
  · exact Or.inr ⟨_, later, ⟨rest, rfl⟩, line, unclosed⟩

/-- A pair that is open stands behind every closing pair. -/
theorem LeavesOpen.behind_pair {front back : List Char}
    (leaves : LeavesOpen (front ++ '}' :: '}' :: back)) : LeavesOpen back := by
  induction front with
  | nil =>
      obtain ⟨_, differs, -⟩ | later := leaves.cons
      · cases differs
      · obtain ⟨_, differs, -⟩ | later := later.cons
        · cases differs
        · exact later
  | cons c front ih =>
      obtain ⟨rest, -, parts, -, unclosed⟩ | later := leaves.cons
      · cases front with
        | nil => cases parts
        | cons d front =>
            refine absurd ?_ unclosed
            rw [← (List.cons.inj parts).2]
            exact ⟨front, back, by simp⟩
      · exact ih later

instance (cs : List Char) : Decidable (LeavesOpen cs) :=
  decidable_of_iff
    (∃ tail ∈ cs.tails, ['{', '{'] <+: tail ∧ '\n' ∉ tail ∧ ¬['}', '}'] <:+: tail)
    (by simp only [List.mem_tails, LeavesOpen])

/-- A text without a closing pair on its first line is not closed. -/
theorem closing?_unclosed {cs : List Char} (unclosed : ¬['}', '}'] <:+: cs) : closing? cs = none := by
  cases found : closing? cs with
  | none => rfl
  | some pair =>
      refine absurd ?_ unclosed
      rw [closing?_eq_some found]
      exact ⟨pair.1, pair.2, by simp⟩

theorem unclosed_of_closing? {cs : List Char} (line : '\n' ∉ cs) (unclosed : closing? cs = none) :
    ¬['}', '}'] <:+: cs := by
  rintro ⟨body, rest, rfl⟩
  have inLine : '\n' ∉ body := fun inside => line (by simp [inside])
  obtain ⟨nearest, after, found, -⟩ := closing?_of_pair inLine rest
  simp [found] at unclosed

/-- A character ends a text and starts the one behind it. -/
def Across (c : Char) (front back : List Char) : Prop :=
  front.getLast? = some c ∧ back.head? = some c

theorem Across.of_suffix {c : Char} {tail front back : List Char} (stands : tail <:+ front)
    (across : Across c tail back) : Across c front back := by
  obtain ⟨before, rfl⟩ := stands
  refine ⟨?_, across.2⟩
  rw [List.getLast?_append, across.1, Option.some_or]

/-- A closing pair behind a text closes a line that the text neither closes nor ends. -/
theorem closing?_append_left {front back : List Char} (line : '\n' ∉ front)
    (unclosed : ¬['}', '}'] <:+: front) (apart : ¬Across '}' front back) :
    closing? (front ++ back) = (closing? back).map fun found => (front ++ found.1, found.2) := by
  induction front with
  | nil => simp
  | cons c front ih =>
      obtain ⟨differs, later⟩ := not_or.mp (mt List.mem_cons.mpr line)
      have single : c = '}' → (front ++ back).head? ≠ some '}' := by
        rintro rfl head
        cases front with
        | nil => exact apart ⟨rfl, head⟩
        | cons d front =>
            cases head
            exact unclosed ⟨[], front, rfl⟩
      have behind := ih later (fun inside => unclosed (List.infix_cons inside))
        fun across => apart (across.of_suffix (List.suffix_cons c front))
      rw [List.cons_append, closing?_cons (Ne.symm differs) single, behind, Option.map_map]
      rfl

/-- Nothing behind a text closes a line that ends in the text. -/
theorem closing?_append_ended {front : List Char} (line : '\n' ∈ front)
    (unclosed : closing? front = none) (back : List Char) : closing? (front ++ back) = none := by
  induction front with
  | nil => cases line
  | cons c front ih =>
      rw [List.cons_append, closing?_cons_eq_none]
      rcases closing?_cons_eq_none.mp unclosed with ends | ⟨single, behind⟩
      · exact Or.inl ends
      · rcases List.mem_cons.mp line with ends | later
        · exact Or.inl ends.symm
        · refine Or.inr ⟨?_, ih later behind⟩
          cases front with
          | nil => cases later
          | cons d front => exact single

theorem scan_inBraces {cs body rest : List Char} (found : closing? cs = some (body, rest))
    (other : List Char) :
    scan (ShortCode.inBraces body ++ other) = candidate body :: scan other := by
  have again := scan_candidate (closing?_append found other)
  simpa [ShortCode.inBraces] using again

theorem closing?_append_right {front body rest : List Char}
    (found : closing? front = some (body, rest)) (back : List Char) :
    closing? (front ++ back) = some (body, rest ++ back) := by
  have again := closing?_append found (rest ++ back)
  rw [closing?_eq_some found]
  simpa using again

/-- A text without a closing pair holds no candidate. -/
theorem scan_unclosed {cs : List Char} (unclosed : ¬['}', '}'] <:+: cs) : scan cs = cs.map plain := by
  induction cs with
  | nil => rw [scan, List.map_nil]
  | cons c cs ih =>
      have behind : ¬['}', '}'] <:+: cs := fun inside => unclosed (List.infix_cons inside)
      rw [scan_plain, ih behind, List.map_cons]
      rintro - rest rfl
      exact closing?_unclosed fun inside => behind (List.infix_cons inside)

/-- A short code is closed by its own braces. -/
theorem closing?_identifier (code : ShortCode) (rest : List Char) :
    closing? (code.identifier.toList ++ '}' :: '}' :: rest) =
      some (code.identifier.toList, rest) := by
  have line : '\n' ∉ code.identifier.toList := fun inside =>
    absurd (code.isIdentifierChar_of_mem inside) (by decide)
  have brace : '}' ∉ code.identifier.toList := fun inside =>
    absurd (code.isIdentifierChar_of_mem inside) (by decide)
  have unclosed : ¬['}', '}'] <:+: code.identifier.toList := fun inside =>
    brace (inside.subset List.mem_cons_self)
  rw [closing?_append_left line unclosed fun across => brace (List.mem_of_getLast? across.1),
    closing?, Option.map_some, List.append_nil]

theorem closing?_code (code : ShortCode) (rest : List Char) :
    closing? (code.text.toList ++ rest) = some ('{' :: '{' :: code.identifier.toList, rest) := by
  have written : code.text.toList ++ rest =
      '{' :: '{' :: (code.identifier.toList ++ '}' :: '}' :: rest) := by
    simp [ShortCode.text, ShortCode.inBraces]
  have brace : '{' ≠ '}' := by decide
  rw [written, closing?_cons (by decide) fun same => absurd same brace,
    closing?_cons (by decide) fun same => absurd same brace, closing?_identifier]
  rfl

theorem scan_code (code : ShortCode) (rest : List Char) :
    scan (code.text.toList ++ rest) = candidate code.identifier.toList :: scan rest := by
  rw [ShortCode.text, String.toList_ofList]
  exact scan_inBraces (closing?_identifier code rest) rest

/-- What starts no candidate in a text starts none where the text breaks off. -/
theorem Literal.of_append {c : Char} {front back : List Char} (literal : Literal c (front ++ back)) :
    Literal c front := by
  rintro rfl rest rfl
  have unclosed := literal rfl (rest ++ back) rfl
  cases found : closing? rest with
  | none => rfl
  | some pair => simp [closing?_append_right found] at unclosed

variable {front back : List Char}

/-- No candidate starts in a text and ends in the one behind it. -/
structure Apart (front back : List Char) : Prop where
  opening : ¬Across '{' front back
  closed : LeavesOpen front → closing? back = none ∧ ¬Across '}' front back

theorem Apart.of_suffix {tail : List Char} (stands : tail <:+ front) (apart : Apart front back) :
    Apart tail back := by
  refine ⟨fun across => apart.opening (across.of_suffix stands), fun leaves => ?_⟩
  obtain ⟨unclosed, single⟩ := apart.closed (leaves.of_suffix stands)
  exact ⟨unclosed, fun across => single (across.of_suffix stands)⟩

/-- Texts that are apart are scanned on their own. -/
theorem scan_append_of_apart (apart : Apart front back) :
    scan (front ++ back) = scan front ++ scan back := by
  fun_induction scan front with
  | case1 => rfl
  | case2 rest body after found ih =>
      have behind : after <:+ '{' :: '{' :: rest :=
        ⟨ShortCode.inBraces body, by simp [ShortCode.inBraces, closing?_eq_some found]⟩
      rw [List.cons_append, List.cons_append, scan_candidate (closing?_append_right found back),
        ih (apart.of_suffix behind), List.cons_append]
  | case3 rest unclosed ih =>
      have literal : closing? (rest ++ back) = none := by
        by_cases line : '\n' ∈ rest
        · exact closing?_append_ended line unclosed back
        · have free := unclosed_of_closing? line unclosed
          obtain ⟨none, single⟩ := apart.closed (leavesOpen_cons line free)
          have behind : rest <:+ '{' :: '{' :: rest := ⟨['{', '{'], rfl⟩
          rw [closing?_append_left line free fun across => single (across.of_suffix behind), none]
          rfl
      rw [List.cons_append, List.cons_append, scan_plain, ← List.cons_append,
        ih (apart.of_suffix (List.suffix_cons _ _)), List.cons_append]
      rintro - more same
      cases same
      exact literal
  | case4 c cs notOpening ih =>
      rw [List.cons_append, scan_plain, ih (apart.of_suffix (List.suffix_cons _ _)),
        List.cons_append]
      rintro rfl more same
      cases cs with
      | nil => exact absurd ⟨rfl, congrArg List.head? same⟩ apart.opening
      | cons d cs =>
          obtain ⟨rfl, -⟩ := List.cons.inj same
          exact (notOpening cs rfl rfl).elim

/-- The pair of braces before `inner` is open at the end of a text, and starts a candidate that ends
with `body` in the text behind it. -/
structure Bridges (front back before inner body after : List Char) : Prop where
  parts : front = before ++ '{' :: '{' :: inner
  line : '\n' ∉ inner
  alone : scan front = scan before ++ ('{' :: '{' :: inner).map plain
  together : scan (front ++ back) = scan before ++ candidate (inner ++ body) :: scan after

theorem Bridges.cons {before inner body after : List Char} {c : Char}
    (bridges : Bridges front back before inner body after) (literal : Literal c (front ++ back)) :
    Bridges (c :: front) back (c :: before) inner body after := by
  obtain ⟨parts, line, alone, together⟩ := bridges
  have inFront : Literal c front := literal.of_append
  have inBefore : Literal c before := by
    rw [parts] at inFront
    exact inFront.of_append
  refine ⟨by rw [parts, List.cons_append], line, ?_, ?_⟩
  · rw [scan_plain inFront, scan_plain inBefore, alone, List.cons_append]
  · rw [List.cons_append, scan_plain literal, scan_plain inBefore, together, List.cons_append]

theorem Bridges.candidate {rest before inner body after text : List Char}
    (bridges : Bridges rest back before inner body after)
    (again : ∀ other, scan (ShortCode.inBraces text ++ other) = .candidate text :: scan other) :
    Bridges (ShortCode.inBraces text ++ rest) back (ShortCode.inBraces text ++ before) inner body
      after := by
  obtain ⟨parts, line, alone, together⟩ := bridges
  refine ⟨by rw [parts, List.append_assoc], line, ?_, ?_⟩
  · rw [again, again, alone, List.cons_append]
  · rw [List.append_assoc, again, again, together, List.cons_append]

/-- A pair of braces that a text leaves open starts a candidate where the line is closed behind the
text. -/
theorem bridges_of_open {body after : List Char} (leaves : LeavesOpen front)
    (closes : closing? back = some (body, after)) (apart : ¬Across '}' front back) :
    ∃ before inner, Bridges front back before inner body after := by
  fun_induction scan front with
  | case1 => exact absurd leaves (by decide)
  | case2 rest inner behind found ih =>
      have parts : '{' :: '{' :: rest = ShortCode.inBraces inner ++ behind := by
        simp [ShortCode.inBraces, closing?_eq_some found]
      have stands : behind <:+ '{' :: '{' :: rest := ⟨ShortCode.inBraces inner, parts.symm⟩
      have later : LeavesOpen behind := by
        rw [closing?_eq_some found] at leaves
        exact @LeavesOpen.behind_pair ('{' :: '{' :: inner) behind leaves
      obtain ⟨before, more, bridges⟩ := ih later fun across => apart (across.of_suffix stands)
      rw [parts]
      exact ⟨_, more, bridges.candidate (scan_inBraces found)⟩
  | case3 rest unclosed ih =>
      by_cases line : '\n' ∈ rest
      · have later : LeavesOpen ('{' :: rest) := by
          obtain ⟨_, -, same, inLine, -⟩ | later := leaves.cons
          · cases same
            exact absurd line inLine
          · exact later
        obtain ⟨before, more, bridges⟩ :=
          ih later fun across => apart (across.of_suffix (List.suffix_cons _ _))
        refine ⟨'{' :: before, more, bridges.cons ?_⟩
        rintro - _ ⟨⟩
        exact closing?_append_ended line unclosed back
      · have free := unclosed_of_closing? line unclosed
        have whole : ¬['}', '}'] <:+: '{' :: '{' :: rest := by
          simpa [List.infix_cons_iff] using free
        have behind : rest <:+ '{' :: '{' :: rest := ⟨['{', '{'], rfl⟩
        have goesOn := closing?_append_left line free fun across => apart (across.of_suffix behind)
        rw [closes, Option.map_some] at goesOn
        refine ⟨[], rest, rfl, line, ?_, ?_⟩
        · rw [scan_unclosed whole, scan]
          rfl
        · rw [List.cons_append, List.cons_append, scan_candidate goesOn, scan]
          rfl
  | case4 c cs notOpening ih =>
      have later : LeavesOpen cs := by
        obtain ⟨rest, rfl, rfl, -⟩ | later := leaves.cons
        · exact (notOpening rest rfl rfl).elim
        · exact later
      obtain ⟨before, more, bridges⟩ :=
        ih later fun across => apart (across.of_suffix (List.suffix_cons _ _))
      refine ⟨c :: before, more, bridges.cons ?_⟩
      rintro rfl rest same
      cases cs with
      | nil => exact absurd later (by decide)
      | cons d cs =>
          obtain ⟨rfl, -⟩ := List.cons.inj same
          exact (notOpening cs rfl rfl).elim

end Mark

end MailMerge
