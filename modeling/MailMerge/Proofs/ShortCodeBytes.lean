import MailMerge.Proofs.CandidatePlaces
/-!
Short codes that are read by places in bytes. Such a reader looks for the first opening and the last
closing pair of braces and cuts out what lies between them, where a cut can fail: at a place inside
a character, beyond the text, or before the place where the piece starts. It gives the answers of
the reader that goes character by character, for every text, and none of its cuts fails.
-/

set_option autoImplicit false

namespace MailMerge

section Search

variable {piece cs : List Char} {place : Nat}

/-- The place of the first `piece` in a text. -/
def firstPlace? (piece : List Char) : List Char → Option Nat
  | [] => if piece.isEmpty then some 0 else none
  | c :: cs =>
    if piece.isPrefixOf (c :: cs) then some 0
    else (firstPlace? piece cs).map (c.utf8Size + ·)

/-- The place of the last `piece` in a text. -/
def lastPlace? (piece : List Char) : List Char → Option Nat
  | [] => if piece.isEmpty then some 0 else none
  | c :: cs =>
    match lastPlace? piece cs with
    | some place => some (c.utf8Size + place)
    | none => if piece.isPrefixOf (c :: cs) then some 0 else none

theorem standsAt_nil : StandsAt piece [] place ↔ piece = [] ∧ place = 0 := by
  constructor
  · rintro ⟨front, back, parts, rfl⟩
    obtain ⟨rfl, rest⟩ := List.append_eq_nil_iff.mp parts.symm
    exact ⟨(List.append_eq_nil_iff.mp rest).1, rfl⟩
  · rintro ⟨rfl, rfl⟩
    exact ⟨[], [], rfl, rfl⟩

/-- A piece stands in front of a text, or somewhere behind its first character. -/
theorem standsAt_cons {c : Char} : StandsAt piece (c :: cs) place ↔
    (piece.isPrefixOf (c :: cs) = true ∧ place = 0) ∨
      ∃ later, StandsAt piece cs later ∧ place = c.utf8Size + later := by
  rw [List.isPrefixOf_iff_prefix]
  constructor
  · rintro ⟨front, back, parts, rfl⟩
    cases front with
    | nil => exact Or.inl ⟨⟨back, parts.symm⟩, rfl⟩
    | cons d front =>
        obtain ⟨rfl, rest⟩ := List.cons.inj parts
        exact Or.inr ⟨byteCount front, ⟨front, back, rest, rfl⟩, rfl⟩
  · rintro (⟨⟨back, parts⟩, rfl⟩ | ⟨later, ⟨front, back, rest, rfl⟩, rfl⟩)
    · exact ⟨[], back, parts.symm, rfl⟩
    · exact ⟨c :: front, back, by rw [rest, List.cons_append], rfl⟩

/-- A piece for which no first place is found stands nowhere. -/
theorem not_standsAt_of_firstPlace? (missing : firstPlace? piece cs = none) :
    ∀ place, ¬StandsAt piece cs place := by
  induction cs with
  | nil =>
      intro place here
      have empty := (standsAt_nil.mp here).1
      simp [firstPlace?, empty] at missing
  | cons c cs ih =>
      rw [firstPlace?] at missing
      split at missing
      · cases missing
      · next other =>
          intro place here
          rcases standsAt_cons.mp here with ⟨front, -⟩ | ⟨later, stands, -⟩
          · exact other front
          · exact ih (Option.map_eq_none_iff.mp missing) later stands

/-- A piece for which no last place is found stands nowhere. -/
theorem not_standsAt_of_lastPlace? (missing : lastPlace? piece cs = none) :
    ∀ place, ¬StandsAt piece cs place := by
  induction cs with
  | nil =>
      intro place here
      have empty := (standsAt_nil.mp here).1
      simp [lastPlace?, empty] at missing
  | cons c cs ih =>
      rw [lastPlace?] at missing
      split at missing
      · cases missing
      · next absent =>
          split at missing
          · cases missing
          · next other =>
              intro place here
              rcases standsAt_cons.mp here with ⟨front, -⟩ | ⟨later, stands, -⟩
              · exact other front
              · exact ih absent later stands

/-- The first place is the least one where the piece stands. -/
theorem firstPlace?_eq_some : firstPlace? piece cs = some place ↔
    StandsAt piece cs place ∧ ∀ other, StandsAt piece cs other → place ≤ other := by
  have least {place : Nat} (found : firstPlace? piece cs = some place) :
      StandsAt piece cs place ∧ ∀ other, StandsAt piece cs other → place ≤ other := by
    induction cs generalizing place with
    | nil =>
        rw [firstPlace?] at found
        split at found
        · next empty =>
            cases found
            exact ⟨standsAt_nil.mpr ⟨List.isEmpty_iff.mp empty, rfl⟩, fun _ _ => Nat.zero_le _⟩
        · cases found
    | cons c cs ih =>
        rw [firstPlace?] at found
        split at found
        · next front =>
            cases found
            exact ⟨standsAt_cons.mpr (Or.inl ⟨front, rfl⟩), fun _ _ => Nat.zero_le _⟩
        · next other =>
            obtain ⟨later, inner, rfl⟩ := Option.map_eq_some_iff.mp found
            obtain ⟨stands, least⟩ := ih inner
            refine ⟨standsAt_cons.mpr (Or.inr ⟨later, stands, rfl⟩), ?_⟩
            intro place here
            rcases standsAt_cons.mp here with ⟨front, -⟩ | ⟨more, stands', rfl⟩
            · exact absurd front other
            · exact Nat.add_le_add_left (least more stands') _
  refine ⟨least, ?_⟩
  rintro ⟨stands, lower⟩
  cases found : firstPlace? piece cs with
  | none => exact absurd stands (not_standsAt_of_firstPlace? found place)
  | some first =>
      obtain ⟨here, lower'⟩ := least found
      rw [Nat.le_antisymm (lower' place stands) (lower first here)]

/-- The last place is the greatest one where the piece stands. -/
theorem lastPlace?_eq_some : lastPlace? piece cs = some place ↔
    StandsAt piece cs place ∧ ∀ other, StandsAt piece cs other → other ≤ place := by
  have greatest {place : Nat} (found : lastPlace? piece cs = some place) :
      StandsAt piece cs place ∧ ∀ other, StandsAt piece cs other → other ≤ place := by
    induction cs generalizing place with
    | nil =>
        rw [lastPlace?] at found
        split at found
        · next empty =>
            cases found
            refine ⟨standsAt_nil.mpr ⟨List.isEmpty_iff.mp empty, rfl⟩, ?_⟩
            intro other here
            exact Nat.le_of_eq (standsAt_nil.mp here).2
        · cases found
    | cons c cs ih =>
        rw [lastPlace?] at found
        split at found
        · next later inner =>
            cases found
            obtain ⟨stands, greatest⟩ := ih inner
            refine ⟨standsAt_cons.mpr (Or.inr ⟨later, stands, rfl⟩), ?_⟩
            intro other here
            rcases standsAt_cons.mp here with ⟨-, rfl⟩ | ⟨more, stands', rfl⟩
            · exact Nat.zero_le _
            · exact Nat.add_le_add_left (greatest more stands') _
        · next absent =>
            split at found
            · next front =>
                cases found
                refine ⟨standsAt_cons.mpr (Or.inl ⟨front, rfl⟩), ?_⟩
                intro other here
                rcases standsAt_cons.mp here with ⟨-, rfl⟩ | ⟨more, stands', -⟩
                · exact Nat.le_refl 0
                · exact absurd stands' (not_standsAt_of_lastPlace? absent more)
            · cases found
  refine ⟨greatest, ?_⟩
  rintro ⟨stands, upper⟩
  cases found : lastPlace? piece cs with
  | none => exact absurd stands (not_standsAt_of_lastPlace? found place)
  | some last =>
      obtain ⟨here, upper'⟩ := greatest found
      rw [Nat.le_antisymm (upper last here) (upper' place stands)]

end Search

section Cuts

variable {cs front back part : List Char} {start stop n : Nat}

/-- Cuts a text behind its first `n` bytes. There is no cut inside a character or beyond the
text. -/
def cutAt? : Nat → List Char → Option (List Char × List Char)
  | 0, cs => some ([], cs)
  | _ + 1, [] => none
  | n + 1, c :: cs =>
    if c.utf8Size ≤ n + 1 then
      (cutAt? (n + 1 - c.utf8Size) cs).map fun cut => (c :: cut.1, cut.2)
    else none

/-- The piece of a text between two places. There is none if a place is no cut of the text, or if
the piece would end before it starts. -/
def slice? (start stop : Nat) (cs : List Char) : Option (List Char) :=
  if start ≤ stop then do
    let (_, rest) ← cutAt? start cs
    let (piece, _) ← cutAt? (stop - start) rest
    return piece
  else none

/-- A text is cut exactly where its front has so many bytes. -/
theorem cutAt?_eq_some :
    cutAt? n cs = some (front, back) ↔ cs = front ++ back ∧ byteCount front = n := by
  constructor
  · intro cut
    fun_induction cutAt? n cs generalizing front with
    | case1 =>
        cases cut
        exact ⟨rfl, rfl⟩
    | case2 => cases cut
    | case3 n c cs fits ih =>
        obtain ⟨⟨more, rest⟩, inner, ⟨⟩⟩ := Option.map_eq_some_iff.mp cut
        obtain ⟨rfl, size⟩ := ih inner
        exact ⟨rfl, by rw [byteCount_cons, size, Nat.add_sub_cancel' fits]⟩
    | case4 => cases cut
  · rintro ⟨rfl, rfl⟩
    induction front with
    | nil => rw [byteCount_nil, cutAt?, List.nil_append]
    | cons c front ih =>
        have wide := c.utf8Size_pos
        obtain ⟨n, size⟩ : ∃ n, byteCount (c :: front) = n + 1 :=
          Nat.exists_eq_succ_of_ne_zero (by rw [byteCount_cons]; omega)
        rw [size, List.cons_append, cutAt?]
        rw [byteCount_cons] at size
        have rest : n + 1 - c.utf8Size = byteCount front := by omega
        rw [if_pos (by omega), rest, ih, Option.map_some]

/-- The piece between two places is cut out exactly if they are the places in front of it and
behind it. -/
theorem slice?_eq_some : slice? start stop cs = some part ↔ ∃ front back,
    cs = front ++ (part ++ back) ∧ byteCount front = start ∧
      byteCount (front ++ part) = stop := by
  rw [slice?]
  constructor
  · intro cut
    split at cut
    · next order =>
        obtain ⟨⟨front, rest⟩, first, cut⟩ := Option.bind_eq_some_iff.mp cut
        obtain ⟨⟨piece, back⟩, second, ⟨⟩⟩ := Option.bind_eq_some_iff.mp cut
        obtain ⟨rfl, rfl⟩ := cutAt?_eq_some.mp first
        obtain ⟨rfl, size⟩ := cutAt?_eq_some.mp second
        exact ⟨front, back, rfl, rfl, by rw [byteCount_append]; omega⟩
    · cases cut
  · rintro ⟨front, back, rfl, rfl, rfl⟩
    have first : cutAt? (byteCount front) (front ++ (part ++ back)) = some (front, part ++ back) :=
      cutAt?_eq_some.mpr ⟨rfl, rfl⟩
    have second : cutAt? (byteCount part) (part ++ back) = some (part, back) :=
      cutAt?_eq_some.mpr ⟨rfl, rfl⟩
    rw [byteCount_append, if_pos (Nat.le_add_right _ _), Nat.add_sub_cancel_left]
    simp only [first, second, Option.bind_eq_bind, Option.bind_some, Option.pure_def]

end Cuts

namespace ShortCode

/-- The identifier between the first two and the last two bytes of a text. -/
def identifierBytes? (cs : List Char) : Option (List Char) :=
  if 2 ≤ byteCount cs then slice? 2 (byteCount cs - 2) cs else none

/-- The fault of a text that shall be a short code, told by places. There is no answer if the
identifier cannot be cut out. -/
def checkBytes? (cs : List Char) : Option (Except Fault Unit) :=
  if firstPlace? ['{', '{'] cs ≠ some 0 then some (.error .badStart)
  else
    let stop := byteCount cs - 2
    if lastPlace? ['}', '}'] cs = some stop ∧ 2 ≤ stop then
      (slice? 2 stop cs).map fun body =>
        if body.isEmpty then .error .emptyIdentifier
        else
          match body.find? (fun c => !isIdentifierChar c) with
          | some c => .error (.badCharacter c)
          | none => .ok ()
    else some (.error .badEnd)

theorem firstPlace?_opening {rest : List Char} :
    firstPlace? ['{', '{'] ('{' :: '{' :: rest) = some 0 := by
  have front : ['{', '{'].isPrefixOf ('{' :: '{' :: rest) = true := rfl
  rw [firstPlace?, if_pos front]

/-- Only a text with two braces in front has its first opening pair there. -/
theorem exists_opening {cs : List Char} (found : firstPlace? ['{', '{'] cs = some 0) :
    ∃ rest, cs = '{' :: '{' :: rest := by
  obtain ⟨⟨front, rest, rfl, none⟩, -⟩ := firstPlace?_eq_some.mp found
  obtain rfl := eq_nil_of_byteCount none
  exact ⟨rest, rfl⟩

/-- The last closing pair ends the text exactly if the text is written with one at its end. -/
theorem lastPlace?_closing {cs : List Char} (room : 2 ≤ byteCount cs) :
    lastPlace? ['}', '}'] cs = some (byteCount cs - 2) ↔ ∃ body, cs = body ++ ['}', '}'] := by
  have two : byteCount ['}', '}'] = 2 := rfl
  rw [lastPlace?_eq_some]
  constructor
  · rintro ⟨⟨body, back, rfl, place⟩, -⟩
    rw [byteCount_append, byteCount_append, two] at place room
    have none : back = [] := eq_nil_of_byteCount (by omega)
    exact ⟨body, by rw [none, List.append_nil]⟩
  · rintro ⟨body, rfl⟩
    rw [byteCount_append, two, Nat.add_sub_cancel]
    refine ⟨⟨body, [], by rw [List.append_nil], rfl⟩, ?_⟩
    rintro other ⟨front, back, parts, rfl⟩
    have size := congrArg byteCount parts
    rw [byteCount_append, byteCount_append, byteCount_append, two] at size
    omega

/-- Two braces, a body and two braces are cut apart at the places before and behind the body. -/
theorem slice?_inBraces (body : List Char) :
    slice? 2 (byteCount (inBraces body) - 2) (inBraces body) = some body := by
  refine slice?_eq_some.mpr ⟨['{', '{'], ['}', '}'], rfl, rfl, ?_⟩
  have two : byteCount ['{', '{'] = 2 := rfl
  rw [Mark.byteCount_inBraces, byteCount_append, two]
  omega

/-- The checks of an identifier, one after the other. -/
theorem map_ofIdentifier? (body : List Char) : (ofIdentifier? body).map (fun _ => ()) =
    if body.isEmpty then .error .emptyIdentifier
    else
      match body.find? (fun c => !isIdentifierChar c) with
      | some c => .error (.badCharacter c)
      | none => .ok () := by
  rw [ofIdentifier?]
  split
  · next identifier =>
      obtain ⟨present, all⟩ := isIdentifier_iff.mp identifier
      have none : body.find? (fun c => !isIdentifierChar c) = none := by
        rw [List.find?_eq_none]
        intro c inside
        simp [all c inside]
      rw [if_neg (by simpa using present), none]
      rfl
  · next other =>
      cases found : body.find? (fun c => !isIdentifierChar c) with
      | some c =>
          have present : body ≠ [] := List.ne_nil_of_mem (List.mem_of_find?_eq_some found)
          rw [if_neg (by simpa using present)]
          rfl
      | none =>
          have all : ∀ c ∈ body, isIdentifierChar c = true := by
            intro c inside
            simpa using List.find?_eq_none.mp found c inside
          have empty : body.isEmpty = true := by
            rw [isIdentifier_iff, not_and] at other
            exact List.isEmpty_iff.mpr (of_not_not fun present => other present all)
          rw [if_pos empty]
          rfl

theorem firstPlace?_inBraces (body : List Char) :
    firstPlace? ['{', '{'] (inBraces body) = some 0 := firstPlace?_opening

theorem lastPlace?_inBraces (body : List Char) :
    lastPlace? ['}', '}'] (inBraces body) = some (byteCount (inBraces body) - 2) := by
  refine (lastPlace?_closing ?_).mpr ⟨'{' :: '{' :: body, rfl⟩
  rw [Mark.byteCount_inBraces]
  omega

theorem checkBytes?_inBraces (body : List Char) :
    checkBytes? (inBraces body) = some ((ofChars? (inBraces body)).map fun _ => ()) := by
  have behind : 2 ≤ byteCount (inBraces body) - 2 := by
    rw [Mark.byteCount_inBraces]
    omega
  have read : ofChars? (inBraces body) = ofIdentifier? body := by
    rw [inBraces, ofChars?, beforeBraces?_append]
  rw [checkBytes?, if_neg (not_not_intro (firstPlace?_inBraces body)),
    if_pos ⟨lastPlace?_inBraces body, behind⟩, slice?_inBraces, Option.map_some, read,
    map_ofIdentifier?]

/-- An opening pair and the pair that ends the text do not overlap, since they are made of different
braces. -/
theorem exists_body {rest before : List Char}
    (ends : '{' :: '{' :: rest = before ++ ['}', '}']) : ∃ body, rest = body ++ ['}', '}'] := by
  cases before with
  | nil => simp at ends
  | cons c before =>
      cases before with
      | nil => simp at ends
      | cons d body =>
          simp only [List.cons_append, List.cons.injEq] at ends
          exact ⟨body, ends.2.2⟩

/-- Told by places, a text has the fault that it has character by character, and where there is an
identifier to look at it can be cut out. -/
theorem checkBytes?_eq (cs : List Char) :
    checkBytes? cs = some ((ofChars? cs).map fun _ => ()) := by
  by_cases opened : ∃ rest, cs = '{' :: '{' :: rest
  · obtain ⟨rest, rfl⟩ := opened
    by_cases closed : ∃ body, rest = body ++ ['}', '}']
    · obtain ⟨body, rfl⟩ := closed
      exact checkBytes?_inBraces body
    · have unread : beforeBraces? rest = none := by
        cases found : beforeBraces? rest with
        | none => rfl
        | some body => exact absurd ⟨body, beforeBraces?_eq_some found⟩ closed
      have room : 2 ≤ byteCount ('{' :: '{' :: rest) := by
        have one : '{'.utf8Size = 1 := rfl
        rw [byteCount_cons, byteCount_cons]
        omega
      rw [checkBytes?, if_neg (not_not_intro firstPlace?_opening), if_neg, ofChars?, unread]
      · rfl
      · rintro ⟨last, -⟩
        obtain ⟨before, ends⟩ := (lastPlace?_closing room).mp last
        exact closed (exists_body ends)
  · have start : firstPlace? ['{', '{'] cs ≠ some 0 := fun found => opened (exists_opening found)
    rw [checkBytes?, if_pos start, ofChars?]
    · rfl
    · exact fun rest same => opened ⟨rest, same⟩

/-- The identifier of a short code can be cut out of its text. -/
theorem identifierBytes?_text (code : ShortCode) :
    identifierBytes? code.text.toList = some code.identifier.toList := by
  have room : 2 ≤ byteCount (inBraces code.identifier.toList) := by
    rw [Mark.byteCount_inBraces]
    omega
  rw [text, String.toList_ofList, identifierBytes?, if_pos room, slice?_inBraces]

/-- An identifier in double braces is read as the short code with this identifier. -/
theorem parse_inBraces {body : String} (present : body ≠ "")
    (grammar : ∀ c ∈ body.toList, IsCodeChar c) :
    ∃ code : ShortCode, ShortCode.parse ("\x7b\x7b" ++ body ++ "\x7d\x7d") = .ok code ∧
      code.identifier = body := by
  have some : body.toList ≠ [] := by simpa using present
  let code : ShortCode := ⟨body, isIdentifier_iff.mpr ⟨some, fun c inside =>
    isIdentifierChar_iff.mpr (grammar c inside)⟩⟩
  have written : code.text = "\x7b\x7b" ++ body ++ "\x7d\x7d" := ofList_inBraces body
  exact ⟨code, written ▸ parse_text code, rfl⟩

theorem exists_parse {s : String} : (∃ code, ShortCode.parse s = .ok code) ↔
    ∃ body : String, body ≠ "" ∧ (∀ c ∈ body.toList, IsCodeChar c) ∧
      s = "\x7b\x7b" ++ body ++ "\x7d\x7d" := by
  constructor
  · rintro ⟨code, read⟩
    have present := code.identifier_ne_nil
    refine ⟨code.identifier, by simpa using present, ?_, ?_⟩
    · exact fun c inside => isIdentifierChar_iff.mp (code.isIdentifierChar_of_mem inside)
    · rw [← parse_eq_ok.mp read, text, ofList_inBraces]
  · rintro ⟨body, present, grammar, rfl⟩
    obtain ⟨code, read, -⟩ := parse_inBraces present grammar
    exact ⟨code, read⟩

/-- A text is read as a short code exactly if it is written as a non-empty identifier in double
braces, and then that is the identifier, in the case in which it is written. The reader that works
by places in bytes gives the same answer for every text and never fails to cut, neither while it
checks a text nor where it cuts the identifier out of a short code. -/
theorem grammar_exact :
    (∀ s : String, (∃ code, ShortCode.parse s = .ok code) ↔
      ∃ body : String, body ≠ "" ∧ (∀ c ∈ body.toList, IsCodeChar c) ∧
        s = "\x7b\x7b" ++ body ++ "\x7d\x7d") ∧
    (∀ body : String, body ≠ "" → (∀ c ∈ body.toList, IsCodeChar c) →
      ∃ code : ShortCode, ShortCode.parse ("\x7b\x7b" ++ body ++ "\x7d\x7d") = .ok code ∧
        code.identifier = body ∧ identifierBytes? code.text.toList = some body.toList) ∧
    (∀ s : String, checkBytes? s.toList = some ((ofText? s).map fun _ => ())) ∧
    ∀ code : ShortCode, identifierBytes? code.text.toList = some code.identifier.toList := by
  refine ⟨fun s => exists_parse, ?_, fun s => checkBytes?_eq s.toList, identifierBytes?_text⟩
  intro body present grammar
  obtain ⟨code, read, rfl⟩ := parse_inBraces present grammar
  exact ⟨code, read, rfl, identifierBytes?_text code⟩

/-- An identifier keeps its case, and a character of two bytes beside the braces is no place to cut
at. -/
theorem orderTotal_read :
    (∃ code : ShortCode, ShortCode.parse "\x7b\x7bOrder.Total\x7d\x7d" = .ok code ∧
      code.identifier = "Order.Total" ∧
        identifierBytes? code.text.toList = some "Order.Total".toList) ∧
    checkBytes? "\x7b\x7bä\x7d\x7d".toList = some (.error (.badCharacter 'ä')) ∧
    slice? 2 3 "\x7b\x7bä\x7d\x7d".toList = none := by
  have body := isIdentifier_iff.mp (show isIdentifier "Order.Total".toList = true by decide)
  have grammar (c : Char) (inside : c ∈ "Order.Total".toList) : IsCodeChar c :=
    isIdentifierChar_iff.mp (body.2 c inside)
  refine ⟨grammar_exact.2.1 "Order.Total" (by decide) grammar, ?_, by decide⟩
  rw [grammar_exact.2.2.1]
  decide

end ShortCode

end MailMerge
