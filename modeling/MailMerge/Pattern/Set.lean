import MailMerge.Pattern.Atom
/-!
Sets of characters in brackets. A set has items, which may be sets again, and may be put together by
operators from the left. What counts of a set that can be used is how deep it is nested.
-/

namespace MailMerge.Pattern

/-- A set that is still open: whether it holds nothing but minus signs in front, the number of items
behind the last operator and their greatest depth, and the depth of what stands before that
operator. -/
structure OpenSet where
  fresh : Bool
  items : Nat
  depth : Nat
  left : Option Nat

namespace OpenSet

/-- A set that has just been opened. -/
def empty : OpenSet := ⟨true, 0, 0, none⟩

/-- The set with an item of the given depth. -/
def add (fresh : Bool) (depth : Nat) (set : OpenSet) : OpenSet :=
  ⟨fresh, set.items + 1, max set.depth depth, set.left⟩

/-- The depth of the items behind the last operator; several items are one level above each. -/
def operandDepth (set : OpenSet) : Nat := if set.items ≤ 1 then set.depth else set.depth + 1

/-- The depth of what has been read. -/
def innerDepth (set : OpenSet) : Nat :=
  match set.left with
  | none => set.operandDepth
  | some left => max left set.operandDepth + 1

/-- The set behind an operator. -/
def operator (set : OpenSet) : OpenSet := ⟨false, 0, 0, some set.innerDepth⟩

/-- The depth of the set when it is closed. -/
def closed (set : OpenSet) : Nat := set.innerDepth + 1

end OpenSet

/-- A part of a set: a minus sign in front, an item without depth, a bracket, or an operator. -/
inductive SetPart where
  | dash
  | leaf
  | opening
  | closing
  | operator
  deriving DecidableEq

namespace SetPart

/-- The names of ASCII sets. -/
def setNames : List String :=
  ["alnum", "alpha", "ascii", "blank", "cntrl", "digit", "graph", "lower", "print", "punct",
    "space", "upper", "word", "xdigit"]

/-- Reads the name of a set and its end, from behind the first colon. -/
def afterName? (cs : List Char) : Option (List Char) :=
  match cs.dropWhile (· != ':') with
  | ':' :: ']' :: rest =>
    if setNames.contains (String.ofList (cs.takeWhile (· != ':'))) then some rest else none
  | _ => none

/-- Reads a set that is given by its name between colons, from behind its bracket. -/
def namedSet? : List Char → Option (Bool × List Char)
  | ':' :: '^' :: rest => (afterName? rest).map fun behind => (true, behind)
  | ':' :: rest => (afterName? rest).map fun behind => (false, behind)
  | _ => none

/-- Reads what may follow the bracket that opens a set: the sign that negates it, where characters
are matched. -/
def afterOpening? (mode : Mode) (cs : List Char) : Option (List Char) :=
  match mode.skip cs with
  | '^' :: rest => if mode.unicode then some rest else none
  | rest => some rest

/-- Reads an atom within brackets. -/
def atom? (mode : Mode) : List Char → Option (Atom × List Char)
  | [] => none
  | '\\' :: rest => Atom.escape? mode rest
  | c :: rest => some (.char c false, rest)

/-- Whether two atoms are the ends of a range. -/
def areEnds (unicode : Bool) (a b : Atom) : Bool :=
  match a, b with
  | .char first _, .char last _ =>
    a.isAllowedInSet unicode && b.isAllowedInSet unicode && decide (first ≤ last)
  | _, _ => false

/-- Whether a minus sign makes a range with what is ahead: it does not before the end of the set and
before another minus sign. -/
def joins (ahead : Option Char) : Bool := ahead != some ']' && ahead != some '-'

/-- Reads an atom or a range of characters. -/
def item? (mode : Mode) (cs : List Char) : Option (List Char) :=
  (atom? mode cs).bind fun (a, rest) =>
    match mode.skip rest with
    | '-' :: behind =>
      if joins (mode.ahead? behind) then
        (atom? mode (mode.skip behind)).bind fun (b, last) =>
          if areEnds mode.unicode a b then some last else none
      else if a.isAllowedInSet mode.unicode then some ('-' :: behind)
      else none
    | rest => if a.isAllowedInSet mode.unicode then some rest else none

/-- Whether a character, written twice, is an operator. -/
def isOperator (c : Char) : Bool := c == '&' || c == '-' || c == '~'

/-- Reads the part of an open set that comes first. -/
def next? (mode : Mode) (set : OpenSet) : List Char → Option (SetPart × List Char)
  | [] => none
  | c :: rest =>
    if set.fresh && c == '-' then some (dash, rest)
    else if c == ']' then some (if set.fresh && set.items == 0 then leaf else closing, rest)
    else if c == '[' then
      match namedSet? rest with
      | some (negated, behind) => if mode.unicode || !negated then some (leaf, behind) else none
      | none => (afterOpening? mode rest).map fun behind => (opening, behind)
    else if isOperator c && rest.head? == some c then some (operator, rest.drop 1)
    else (item? mode (c :: rest)).map fun behind => (leaf, behind)

theorem afterName?_length {cs rest : List Char} (h : afterName? cs = some rest) :
    rest.length ≤ cs.length := by
  have drop := (List.dropWhile_sublist (l := cs) (· != ':')).length_le
  unfold afterName? at h
  split at h
  · next found =>
    split at h
    · cases h
      rw [found] at drop
      simp only [List.length_cons] at drop
      omega
    · cases h
  · cases h

theorem namedSet?_length {cs rest : List Char} {negated : Bool}
    (h : namedSet? cs = some (negated, rest)) : rest.length ≤ cs.length := by
  unfold namedSet? at h
  split at h
  · obtain ⟨_, found, same⟩ := Option.map_eq_some_iff.1 h
    simp only [Prod.mk.injEq] at same
    have := afterName?_length found
    simp only [List.length_cons, ← same.2]
    omega
  · obtain ⟨_, found, same⟩ := Option.map_eq_some_iff.1 h
    simp only [Prod.mk.injEq] at same
    have := afterName?_length found
    simp only [List.length_cons, ← same.2]
    omega
  · cases h

theorem afterOpening?_length {mode : Mode} {cs rest : List Char}
    (h : afterOpening? mode cs = some rest) : rest.length ≤ cs.length := by
  have shorter := mode.skip_length cs
  unfold afterOpening? at h
  split at h
  · next found =>
    split at h
    · cases h
      rw [found, List.length_cons] at shorter
      omega
    · cases h
  · cases h
    exact shorter

theorem atom?_length {mode : Mode} {cs rest : List Char} {a : Atom}
    (h : atom? mode cs = some (a, rest)) : rest.length < cs.length := by
  unfold atom? at h
  split at h
  · cases h
  · exact Nat.lt_succ_of_le (Atom.escape?_length h)
  · simp only [Option.some.injEq, Prod.mk.injEq] at h
    simp [h.2]

theorem item?_length {mode : Mode} {cs rest : List Char} (h : item? mode cs = some rest) :
    rest.length < cs.length := by
  obtain ⟨⟨a, behind⟩, found, h⟩ := Option.bind_eq_some_iff.1 h
  have first := atom?_length found
  have shorter := mode.skip_length behind
  simp only at h
  split at h
  · next behind' dash =>
    rw [dash, List.length_cons] at shorter
    split at h
    · obtain ⟨⟨b, last⟩, found', h⟩ := Option.bind_eq_some_iff.1 h
      have second := atom?_length found'
      have shorter' := mode.skip_length behind'
      simp only at h
      split at h
      · cases h
        omega
      · cases h
    · split at h
      · cases h
        simp only [List.length_cons]
        omega
      · cases h
  · split at h
    · cases h
      omega
    · cases h

theorem next?_length {mode : Mode} {set : OpenSet} {cs rest : List Char} {part : SetPart}
    (h : next? mode set cs = some (part, rest)) : rest.length < cs.length := by
  cases cs with
  | nil => cases h
  | cons c cs =>
    simp only [next?] at h
    split at h
    · simp only [Option.some.injEq, Prod.mk.injEq] at h
      simp [h.2]
    split at h
    · simp only [Option.some.injEq, Prod.mk.injEq] at h
      simp [h.2]
    split at h
    · split at h
      · next found =>
        split at h
        · simp only [Option.some.injEq, Prod.mk.injEq] at h
          exact h.2 ▸ Nat.lt_succ_of_le (namedSet?_length found)
        · cases h
      · obtain ⟨_, found, same⟩ := Option.map_eq_some_iff.1 h
        simp only [Prod.mk.injEq] at same
        exact same.2 ▸ Nat.lt_succ_of_le (afterOpening?_length found)
    split at h
    · simp only [Option.some.injEq, Prod.mk.injEq] at h
      simp only [← h.2, List.length_drop, List.length_cons]
      omega
    · obtain ⟨_, found, same⟩ := Option.map_eq_some_iff.1 h
      simp only [Prod.mk.injEq] at same
      exact same.2 ▸ item?_length found

end SetPart

/-- Reads the rest of a set that stands within others; its depth is given, and the text behind
it. -/
def readSet? (mode : Mode) (set : OpenSet) (outer : List OpenSet) (cs : List Char) :
    Option (Nat × List Char) :=
  match _found : SetPart.next? mode set (mode.skip cs) with
  | none => none
  | some (.dash, rest) => readSet? mode (set.add true 0) outer rest
  | some (.leaf, rest) => readSet? mode (set.add false 0) outer rest
  | some (.opening, rest) => readSet? mode .empty (set :: outer) rest
  | some (.operator, rest) => readSet? mode set.operator outer rest
  | some (.closing, rest) =>
    match outer with
    | [] => some (set.closed, rest)
    | above :: outer => readSet? mode (above.add false set.closed) outer rest
termination_by cs.length
decreasing_by
  all_goals
    have := SetPart.next?_length _found
    have := mode.skip_length cs
    omega

theorem readSet?_length {mode : Mode} {set : OpenSet} {outer : List OpenSet} {depth : Nat}
    {cs rest : List Char} (h : readSet? mode set outer cs = some (depth, rest)) :
    rest.length < cs.length := by
  fun_induction readSet? mode set outer cs with
  | case1 => cases h
  | case2 _ _ cs _ found ih | case3 _ _ cs _ found ih | case4 _ _ cs _ found ih
  | case5 _ _ cs _ found ih | case7 _ cs _ found _ _ ih =>
    have := ih h
    have := SetPart.next?_length found
    have := mode.skip_length cs
    omega
  | case6 set cs behind found =>
    simp only [Option.some.injEq, Prod.mk.injEq] at h
    have := SetPart.next?_length found
    have := mode.skip_length cs
    rw [← h.2]
    omega

/-- Reads a set from behind the bracket that opens it. -/
def set? (mode : Mode) (cs : List Char) : Option (Nat × List Char) :=
  (SetPart.afterOpening? mode cs).bind fun rest => readSet? mode .empty [] rest

theorem set?_length {mode : Mode} {depth : Nat} {cs rest : List Char}
    (h : set? mode cs = some (depth, rest)) : rest.length < cs.length := by
  obtain ⟨behind, found, h⟩ := Option.bind_eq_some_iff.1 h
  exact Nat.lt_of_lt_of_le (readSet?_length h) (SetPart.afterOpening?_length found)

end MailMerge.Pattern
