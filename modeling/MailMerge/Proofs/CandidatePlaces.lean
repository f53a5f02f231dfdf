import MailMerge.Proofs.Compilation
import MailMerge.Proofs.Scanning
/-!
The candidates of a text, told by their places alone. From where the last candidate ended, the next
one starts at the leftmost opening pair that is closed on its line, and ends with the nearest closing
pair. This determines the places of all candidates, and they are the places that a scan finds.
-/

set_option autoImplicit false

namespace MailMerge

/-- A piece of text stands in a text at a place, counted in bytes. -/
def StandsAt (piece cs : List Char) (place : Nat) : Prop :=
  ∃ front back, cs = front ++ (piece ++ back) ∧ byteCount front = place

/-- An opening pair of braces stands at one place, and behind it a closing pair at another, with no
end of a line between them. -/
structure CandidateAt (cs : List Char) (start stop : Nat) : Prop where
  opening : StandsAt ['{', '{'] cs start
  behind : start + 2 ≤ stop
  closing : StandsAt ['}', '}'] cs stop
  line : ∀ place, start + 2 ≤ place → place < stop → ¬StandsAt ['\n'] cs place

/-- The places that are found from `place` on, if each time the leftmost opening pair is taken that
is closed, and the nearest pair that closes it. The search goes on behind the closing pair. -/
inductive LeftmostShortest (cs : List Char) : (place : Nat) → List (Nat × Nat) → Prop where
  | done {place : Nat} (absent : ∀ start stop, place ≤ start → ¬CandidateAt cs start stop) :
      LeftmostShortest cs place []
  | found {place start stop : Nat} {more : List (Nat × Nat)} (behind : place ≤ start)
      (here : CandidateAt cs start stop)
      (leftmost : ∀ early other, place ≤ early → early < start → ¬CandidateAt cs early other)
      (shortest : ∀ near, near < stop → ¬CandidateAt cs start near)
      (rest : LeftmostShortest cs (stop + 2) more) :
      LeftmostShortest cs place ((start, stop + 2) :: more)

namespace LeftmostShortest

variable {cs : List Char} {place : Nat} {places others : List (Nat × Nat)}

/-- The rule leaves no choice. -/
theorem unique (left : LeftmostShortest cs place places) (right : LeftmostShortest cs place others) :
    places = others := by
  induction left generalizing others with
  | done absent =>
      cases right with
      | done _ => rfl
      | found behind here _ _ _ => exact absurd here (absent _ _ behind)
  | found behind here leftmost shortest _ ih =>
      cases right with
      | done absent => exact absurd here (absent _ _ behind)
      | found behind' here' leftmost' shortest' rest' =>
          obtain rfl := Nat.le_antisymm
            (Nat.le_of_not_lt fun before => leftmost _ _ behind' before here')
            (Nat.le_of_not_lt fun before => leftmost' _ _ behind before here)
          obtain rfl := Nat.le_antisymm
            (Nat.le_of_not_lt fun nearer => shortest _ nearer here')
            (Nat.le_of_not_lt fun nearer => shortest' _ nearer here)
          rw [ih rest']

/-- Places at which no candidate starts can be passed over. -/
theorem skip {later : Nat} (order : place ≤ later)
    (absent : ∀ start stop, place ≤ start → start < later → ¬CandidateAt cs start stop)
    (rest : LeftmostShortest cs later places) : LeftmostShortest cs place places := by
  have missing (start stop : Nat) (behind : place ≤ start)
      (later' : later ≤ start → ¬CandidateAt cs start stop) : ¬CandidateAt cs start stop := by
    by_cases before : start < later
    · exact absent start stop behind before
    · exact later' (Nat.le_of_not_lt before)
  cases rest with
  | done none => exact .done fun start stop behind => missing start stop behind (none start stop)
  | found behind here leftmost shortest rest =>
      refine .found (order.trans behind) here ?_ shortest rest
      intro early other behind' before
      exact missing early other behind' fun late => leftmost early other late before

theorem behind_all (found : LeftmostShortest cs place places) : ∀ at' ∈ places, place ≤ at'.1 := by
  induction found with
  | done _ => exact nofun
  | @found place start stop more behind here _ _ _ ih =>
      intro at' inside
      rcases List.mem_cons.mp inside with rfl | later
      · exact behind
      · have next := ih at' later
        have closes := here.behind
        omega

/-- Candidates stand in order, and do not overlap. -/
theorem pairwise (found : LeftmostShortest cs place places) :
    places.Pairwise fun a b => a.2 ≤ b.1 := by
  induction found with
  | done _ => exact .nil
  | found _ _ _ _ rest ih => exact .cons rest.behind_all ih

/-- No candidate starts between two candidates. -/
theorem gaps (found : LeftmostShortest cs place places) :
    places.IsChain fun a b => ∀ start stop, a.2 ≤ start → start < b.1 →
      ¬CandidateAt cs start stop := by
  induction found with
  | done _ => exact .nil
  | found _ _ _ _ rest ih =>
      refine List.isChain_cons.mpr ⟨?_, ih⟩
      intro next first
      cases rest with
      | done _ => cases first
      | found _ _ leftmost _ _ =>
          cases first
          exact leftmost

end LeftmostShortest

section Places

/-- Of two ways to cut a text, the one with the shorter front cuts the front of the other. -/
theorem exists_append_of_byteCount {front back front' back' : List Char}
    (same : front ++ back = front' ++ back') (order : byteCount front ≤ byteCount front') :
    ∃ between, front' = front ++ between ∧ back = between ++ back' := by
  rcases List.append_eq_append_iff.mp same with longer | ⟨more, rfl, rest⟩
  · exact longer
  · cases more with
    | nil => exact ⟨[], by simp, rest.symm⟩
    | cons c more =>
        have wide := c.utf8Size_pos
        rw [byteCount_append, byteCount_cons] at order
        omega

theorem standsAt_append {piece front back : List Char} {place : Nat}
    (behind : byteCount front ≤ place) : StandsAt piece (front ++ back) place ↔
      ∃ between more, back = between ++ (piece ++ more) ∧
        place = byteCount front + byteCount between := by
  constructor
  · rintro ⟨front', more, parts, rfl⟩
    obtain ⟨between, rfl, rest⟩ := exists_append_of_byteCount parts behind
    exact ⟨between, more, rest, byteCount_append front between⟩
  · rintro ⟨between, more, rfl, rfl⟩
    exact ⟨front ++ between, more, by rw [List.append_assoc], byteCount_append front between⟩

theorem eq_nil_of_byteCount {cs : List Char} (none : byteCount cs = 0) : cs = [] := by
  cases cs with
  | nil => rfl
  | cons c cs =>
      have wide := c.utf8Size_pos
      rw [byteCount_cons] at none
      omega

/-- What it means that a candidate starts behind a text. -/
theorem candidateAt_append {front back : List Char} {stop : Nat} :
    CandidateAt (front ++ back) (byteCount front) stop ↔ ∃ body after,
      back = '{' :: '{' :: (body ++ '}' :: '}' :: after) ∧ '\n' ∉ body ∧
        stop = byteCount front + 2 + byteCount body := by
  have opened (rest : List Char) : front ++ '{' :: '{' :: rest = (front ++ ['{', '{']) ++ rest := by
    rw [List.append_assoc]
    rfl
  have place : byteCount (front ++ ['{', '{']) = byteCount front + 2 := byteCount_append _ _
  constructor
  · rintro ⟨opening, behind, closing, line⟩
    obtain ⟨between, rest, rfl, here⟩ := (standsAt_append (Nat.le_refl _)).mp opening
    obtain rfl := eq_nil_of_byteCount (Nat.left_eq_add.mp here)
    rw [List.nil_append, List.cons_append, List.singleton_append, opened] at closing
    rw [List.nil_append, List.cons_append, List.singleton_append, opened] at line
    obtain ⟨body, after, rfl, rfl⟩ := (standsAt_append (by omega)).mp closing
    refine ⟨body, after, rfl, ?_, by omega⟩
    intro ends
    obtain ⟨early, late, rfl⟩ := List.append_of_mem ends
    refine line (byteCount front + 2 + byteCount early) (by omega) ?_ ?_
    · have wide := Char.utf8Size_pos '\n'
      rw [place, byteCount_append early, byteCount_cons]
      omega
    · exact (standsAt_append (by omega)).mpr ⟨early, late ++ '}' :: '}' :: after, by simp, by omega⟩
  · rintro ⟨body, after, rfl, line, rfl⟩
    refine ⟨⟨front, _, rfl, rfl⟩, by omega, ?_, ?_⟩
    · rw [opened]
      exact (standsAt_append (by omega)).mpr ⟨body, after, rfl, by omega⟩
    · intro other behind before ends
      rw [opened] at ends
      obtain ⟨early, late, parts, rfl⟩ := (standsAt_append (by omega)).mp ends
      obtain ⟨between, rfl, rest⟩ := exists_append_of_byteCount parts.symm (by omega)
      cases between with
      | nil =>
          rw [List.append_nil] at before
          omega
      | cons c between =>
          obtain ⟨rfl, -⟩ := List.cons.inj rest
          exact line (by simp)

end Places

namespace Mark

theorem byteCount_inBraces (body : List Char) :
    byteCount (ShortCode.inBraces body) = byteCount body + 4 := by
  rw [ShortCode.inBraces, byteCount_cons, byteCount_cons, byteCount_append]
  have two : byteCount ['}', '}'] = 2 := rfl
  have one : '{'.utf8Size = 1 := rfl
  omega

/-- Behind a text that starts no candidate the search goes on with the next character. -/
theorem leftmostShortest_plain {front cs : List Char} {c : Char} {places : List (Nat × Nat)}
    (literal : Literal c cs)
    (rest : LeftmostShortest (front ++ c :: cs) (byteCount front + byteCount [c]) places) :
    LeftmostShortest (front ++ c :: cs) (byteCount front) places := by
  refine rest.skip (by simp) ?_
  intro start stop behind before here
  obtain ⟨between, more, parts, rfl⟩ := (standsAt_append behind).mp here.opening
  cases between with
  | cons d between =>
      obtain ⟨rfl, -⟩ := List.cons.inj parts
      rw [byteCount_cons, byteCount_cons, byteCount_nil] at before
      omega
  | nil =>
      rw [byteCount_nil, Nat.add_zero] at here
      obtain ⟨body, after, same, line, -⟩ := candidateAt_append.mp here
      obtain ⟨rfl, rfl⟩ := List.cons.inj same
      obtain ⟨nearest, rest', found, -⟩ := closing?_of_pair line after
      rw [literal rfl _ rfl] at found
      cases found

/-- The places that a scan finds are the leftmost and shortest ones. -/
theorem leftmostShortest_spansFrom (front back : List Char) :
    LeftmostShortest (front ++ back) (byteCount front)
      ((spansFrom (byteCount front) (scan back)).map fun span => (span.start, span.stop)) := by
  fun_induction scan back generalizing front with
  | case1 =>
      refine .done ?_
      intro start stop behind here
      obtain ⟨between, more, parts, -⟩ := (standsAt_append behind).mp here.opening
      simp at parts
  | case2 rest body after found ih =>
      have here : CandidateAt (front ++ '{' :: '{' :: rest) (byteCount front)
          (byteCount front + 2 + byteCount body) := by
        rw [closing?_eq_some found]
        exact candidateAt_append.mpr ⟨body, after, rfl, (closing?_nearest found).1, rfl⟩
      have behind : byteCount front + byteCount (ShortCode.inBraces body) =
          byteCount front + 2 + byteCount body + 2 := by
        rw [byteCount_inBraces]
        omega
      have later := ih (front ++ ShortCode.inBraces body)
      have whole : front ++ ShortCode.inBraces body ++ after = front ++ '{' :: '{' :: rest := by
        simp [ShortCode.inBraces, closing?_eq_some found]
      rw [whole, byteCount_append, behind] at later
      rw [spansFrom, List.map_cons, behind]
      refine .found (Nat.le_refl _) here ?_ ?_ later
      · exact fun early other late before => absurd late (Nat.not_le.mpr before)
      · intro near nearer other
        obtain ⟨body', after', same, line, rfl⟩ := candidateAt_append.mp other
        cases same
        obtain ⟨nearest, _, found', early⟩ := closing?_of_pair line after'
        rw [found] at found'
        cases found'
        obtain ⟨more, rfl⟩ := early
        rw [byteCount_append] at nearer
        omega
  | case3 rest unclosed ih =>
      have later := ih (front ++ ['{'])
      rw [List.append_assoc, byteCount_append] at later
      rw [spansFrom]
      refine leftmostShortest_plain ?_ later
      rintro - _ ⟨⟩
      exact unclosed
  | case4 c cs notOpening ih =>
      have later := ih (front ++ [c])
      rw [List.append_assoc, byteCount_append] at later
      rw [spansFrom]
      refine leftmostShortest_plain ?_ later
      exact fun brace rest same => (notOpening rest brace same).elim

/-- A candidate ends with the nearest closing pair of its line. -/
theorem nearest_of_mem_scan {cs body : List Char} (inside : candidate body ∈ scan cs) :
    '\n' ∉ body ∧ ¬['}', '}'] <:+: body ++ ['}'] := by
  fun_induction scan cs with
  | case1 => cases inside
  | case2 rest body' after found ih =>
      rcases List.mem_cons.mp inside with same | later
      · cases same
        exact closing?_nearest found
      · exact ih later
  | case3 rest _ ih => exact ih (by simpa using inside)
  | case4 c cs _ ih => exact ih (by simpa using inside)

/-- The end of a line ends all candidates. -/
theorem scan_lines (first second : List Char) :
    scan (first ++ '\n' :: second) = scan first ++ plain '\n' :: scan second := by
  have apart : Apart first ('\n' :: second) :=
    ⟨fun across => absurd across.2 (by simp), fun _ => ⟨rfl, fun across => absurd across.2 (by simp)⟩⟩
  rw [scan_append_of_apart apart, scan_plain]
  exact fun brace => absurd brace (by decide)

end Mark

/-- The same candidate with more text in front. -/
def CandidateSpan.shifted (n : Nat) (span : CandidateSpan) : CandidateSpan :=
  ⟨n + span.start, n + span.stop, span.text⟩

section Spans

variable {marks : List Mark}

theorem spansFrom_shifted (n start : Nat) (marks : List Mark) :
    spansFrom (n + start) marks = (spansFrom start marks).map (CandidateSpan.shifted n) := by
  induction marks generalizing start with
  | nil => rfl
  | cons mark marks ih =>
      cases mark with
      | plain c => rw [spansFrom, spansFrom, ← ih, Nat.add_assoc]
      | candidate body =>
          rw [spansFrom, spansFrom, List.map_cons, ← ih]
          simp only [CandidateSpan.shifted, Nat.add_assoc]

theorem spansFrom_append (start : Nat) (marks more : List Mark) :
    spansFrom start (marks ++ more) =
      spansFrom start marks ++ spansFrom (start + byteCount (marks.flatMap Mark.chars)) more := by
  induction marks generalizing start with
  | nil => rfl
  | cons mark marks ih =>
      rw [List.cons_append, List.flatMap_cons, byteCount_append, ← Nat.add_assoc]
      cases mark with
      | plain c => rw [spansFrom, spansFrom, ih]; rfl
      | candidate body => rw [spansFrom, spansFrom, ih]; rfl

theorem map_text_spansFrom (start : Nat) (marks : List Mark) :
    (spansFrom start marks).map CandidateSpan.text =
      (marks.filterMap Mark.body?).map fun body => String.ofList (ShortCode.inBraces body) := by
  induction marks generalizing start with
  | nil => rfl
  | cons mark marks ih =>
      cases mark with
      | plain c => exact ih _
      | candidate body => exact congrArg (_ :: ·) (ih _)

/-- A candidate stands where its span says. -/
theorem standsAt_of_mem_spansFrom {span : CandidateSpan} {front : List Char}
    (inside : span ∈ spansFrom (byteCount front) marks) :
    ∃ body, Mark.candidate body ∈ marks ∧ span.text = String.ofList (ShortCode.inBraces body) ∧
      StandsAt (ShortCode.inBraces body) (front ++ marks.flatMap Mark.chars) span.start ∧
      span.stop = span.start + byteCount (ShortCode.inBraces body) := by
  induction marks generalizing front with
  | nil => cases inside
  | cons mark marks ih =>
      have whole : front ++ (mark :: marks).flatMap Mark.chars =
        (front ++ mark.chars) ++ marks.flatMap Mark.chars := by simp
      have later (inside : span ∈ spansFrom (byteCount (front ++ mark.chars)) marks) :
          ∃ body, Mark.candidate body ∈ mark :: marks ∧
            span.text = String.ofList (ShortCode.inBraces body) ∧
            StandsAt (ShortCode.inBraces body) (front ++ (mark :: marks).flatMap Mark.chars)
              span.start ∧
            span.stop = span.start + byteCount (ShortCode.inBraces body) := by
        obtain ⟨body, stands, rest⟩ := ih inside
        rw [whole]
        exact ⟨body, List.mem_cons_of_mem mark stands, rest⟩
      rw [byteCount_append] at later
      cases mark with
      | plain c => exact later inside
      | candidate body =>
          rcases List.mem_cons.mp inside with rfl | behind
          · exact ⟨body, List.mem_cons_self, rfl, ⟨front, _, rfl, rfl⟩, rfl⟩
          · exact later behind

end Spans

theorem candidateTexts_eq (s : String) :
    candidateTexts s = (candidateSpans s).map CandidateSpan.text :=
  (map_text_spansFrom 0 _).symm

theorem candidateSpans_lines (first second : String) :
    candidateSpans (first ++ "\n" ++ second) = candidateSpans first ++
      (candidateSpans second).map (CandidateSpan.shifted (byteCount first.toList + 1)) := by
  have cut : (first ++ "\n" ++ second).toList = first.toList ++ '\n' :: second.toList := by simp
  rw [candidateSpans, cut, Mark.scan_lines, spansFrom_append, Mark.flatMap_chars_scan, spansFrom,
    candidateSpans, candidateSpans, ← spansFrom_shifted, Nat.zero_add, Nat.add_zero]
  rfl

/-- A scan finds the candidates by the rule, and the rule leaves no choice: leftmost opening pair that
is closed on its line, nearest closing pair, on from there. So the candidates stand in order and do not
overlap, each is braces around a text of one line without a closing pair, none starts between two
others, and every line has its own. -/
theorem candidateSpans_leftmost_shortest (s : String) :
    (∀ places, LeftmostShortest s.toList 0 places ↔
        places = (candidateSpans s).map fun span => (span.start, span.stop)) ∧
      (∀ span ∈ candidateSpans s, ∃ body,
        span.text = String.ofList (ShortCode.inBraces body) ∧
        StandsAt (ShortCode.inBraces body) s.toList span.start ∧
        span.stop = span.start + byteCount (ShortCode.inBraces body) ∧
        '\n' ∉ body ∧ ¬['}', '}'] <:+: body ++ ['}']) ∧
      (candidateSpans s).Pairwise (fun a b => a.stop ≤ b.start) ∧
      (candidateSpans s).IsChain (fun a b => ∀ start stop, a.stop ≤ start → start < b.start →
        ¬CandidateAt s.toList start stop) ∧
      candidateTexts s = (candidateSpans s).map CandidateSpan.text ∧
      ∀ next, candidateSpans (s ++ "\n" ++ next) = candidateSpans s ++
          (candidateSpans next).map (CandidateSpan.shifted (byteCount s.toList + 1)) ∧
        candidateTexts (s ++ "\n" ++ next) = candidateTexts s ++ candidateTexts next := by
  have found : LeftmostShortest s.toList 0
      ((candidateSpans s).map fun span => (span.start, span.stop)) :=
    Mark.leftmostShortest_spansFrom [] s.toList
  refine ⟨fun places => ⟨fun rule => rule.unique found, ?_⟩, ?_, ?_, ?_, candidateTexts_eq s, ?_⟩
  · rintro rfl
    exact found
  · intro span inside
    obtain ⟨body, marked, text, stands, stop⟩ := @standsAt_of_mem_spansFrom _ span [] inside
    rw [List.nil_append, Mark.flatMap_chars_scan] at stands
    exact ⟨body, text, stands, stop, Mark.nearest_of_mem_scan marked⟩
  · exact List.pairwise_map.mp found.pairwise
  · exact (List.isChain_map _).mp found.gaps
  · intro next
    have spans := candidateSpans_lines s next
    refine ⟨spans, ?_⟩
    rw [candidateTexts_eq, spans, List.map_append, List.map_map, candidateTexts_eq,
      candidateTexts_eq]
    rfl

/-- Braces in a row, a closing pair with one brace more, and a pair that its line does not close. -/
def ragged : String := "\x7b{{a}}\x7d\x7b\x7bb\n{{c}} {{}}"

theorem ragged_places :
    LeftmostShortest ragged.toList 0 [(0, 6), (11, 16), (17, 21)] ∧
      ∀ places, LeftmostShortest ragged.toList 0 places → places = [(0, 6), (11, 16), (17, 21)] := by
  have scanned : (candidateSpans ragged).map (fun span => (span.start, span.stop)) =
      [(0, 6), (11, 16), (17, 21)] := by decide +kernel
  obtain ⟨rule, -⟩ := candidateSpans_leftmost_shortest ragged
  rw [← scanned]
  exact ⟨(rule _).mpr rfl, fun places => (rule places).mp⟩

end MailMerge
