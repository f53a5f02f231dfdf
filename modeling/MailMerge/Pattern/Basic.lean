import MailMerge.Pattern.Group
import MailMerge.Pattern.Set
/-!
Which texts are patterns that values can be compared with: they are well formed, stay within what is
supported, and are not nested too deep.
-/

namespace MailMerge.Pattern

/-- A group that is still open, or the whole pattern: the number of items of its current
alternative and their greatest depth, the depth of the last item if it can be repeated, the greatest
depth of the alternatives before, and the mode outside. -/
structure Level where
  items : Nat
  depth : Nat
  last : Option Nat
  alternatives : Option Nat
  outside : Mode

namespace Level

/-- A group that has just been opened. -/
def opened (outside : Mode) : Level := ⟨0, 0, none, none, outside⟩

/-- The group with an item of the given depth. -/
def add (depth : Nat) (level : Level) : Level :=
  { level with items := level.items + 1, depth := max level.depth depth, last := some depth }

/-- The group with flags. -/
def addFlags (level : Level) : Level := { level with items := level.items + 1, last := none }

/-- The group with its last item repeated. -/
def repeated? (level : Level) : Option Level :=
  level.last.map fun depth =>
    { level with depth := max level.depth (depth + 1), last := some (depth + 1) }

/-- The depth of the current alternative; several items are one level above each. -/
def currentDepth (level : Level) : Nat := if level.items ≤ 1 then level.depth else level.depth + 1

/-- The group behind the sign that starts another alternative. -/
def alternative (level : Level) : Level :=
  ⟨0, 0, none, some (max (level.alternatives.getD 0) level.currentDepth), level.outside⟩

/-- The depth of what has been read. -/
def innerDepth (level : Level) : Nat :=
  match level.alternatives with
  | none => level.currentDepth
  | some before => max before level.currentDepth + 1

/-- The depth of the group when it is closed. -/
def closed (level : Level) : Nat := level.innerDepth + 1

end Level

/-- A part of a pattern. -/
inductive Part where
  | item (depth : Nat)
  | repeats
  | bar
  | opening (start : GroupStart)
  | closing

namespace Part

/-- The part that an atom is, if it can stand here. -/
def ofAtom? (mode : Mode) (a : Atom) (rest : List Char) : Option (Part × List Char) :=
  if a.isAllowed mode.unicode then some (item 0, rest) else none

/-- Drops the sign behind a repetition that makes it match as little as it can. -/
def dropLazy : List Char → List Char
  | '?' :: rest => rest
  | rest => rest

/-- Reads the part that comes first. -/
def next? (mode : Mode) (names : List (List Char)) : List Char → Option (Part × List Char)
  | [] => none
  | '(' :: rest => (GroupStart.start? mode names rest).map fun found => (opening found.1, found.2)
  | ')' :: rest => some (closing, rest)
  | '|' :: rest => some (bar, rest)
  | '[' :: rest => (set? mode rest).map fun found => (item found.1, found.2)
  | '{' :: _ => none
  | '?' :: rest => some (repeats, dropLazy rest)
  | '*' :: rest => some (repeats, dropLazy rest)
  | '+' :: rest => some (repeats, dropLazy rest)
  | '\\' :: rest => (Atom.escape? mode rest).bind fun found => ofAtom? mode found.1 found.2
  | '.' :: rest => ofAtom? mode .anyChar rest
  | '^' :: rest => ofAtom? mode .edge rest
  | '$' :: rest => ofAtom? mode .edge rest
  | _ :: rest => some (item 0, rest)

theorem dropLazy_length (cs : List Char) : (dropLazy cs).length ≤ cs.length := by
  unfold dropLazy
  split
  · simp
  · exact Nat.le_refl _

theorem ofAtom?_length {mode : Mode} {a : Atom} {cs rest : List Char} {part : Part}
    (h : ofAtom? mode a cs = some (part, rest)) : rest.length ≤ cs.length := by
  unfold ofAtom? at h
  split at h
  · simp only [Option.some.injEq, Prod.mk.injEq] at h
    simp [h.2]
  · cases h

theorem next?_length {mode : Mode} {names : List (List Char)} {cs rest : List Char} {part : Part}
    (h : next? mode names cs = some (part, rest)) : rest.length < cs.length := by
  unfold next? at h
  split at h
  case h_1 => cases h
  case h_2 =>
    obtain ⟨_, found, same⟩ := Option.map_eq_some_iff.1 h
    simp only [Prod.mk.injEq] at same
    exact same.2 ▸ Nat.lt_succ_of_le (GroupStart.start?_length found)
  case h_5 =>
    obtain ⟨_, found, same⟩ := Option.map_eq_some_iff.1 h
    simp only [Prod.mk.injEq] at same
    exact same.2 ▸ Nat.lt_succ_of_lt (set?_length found)
  case h_6 => cases h
  case h_7 | h_8 | h_9 =>
    simp only [Option.some.injEq, Prod.mk.injEq] at h
    exact h.2 ▸ Nat.lt_succ_of_le (dropLazy_length _)
  case h_10 =>
    obtain ⟨_, found, h⟩ := Option.bind_eq_some_iff.1 h
    exact Nat.lt_succ_of_le (Nat.le_trans (ofAtom?_length h) (Atom.escape?_length found))
  case h_11 | h_12 | h_13 => exact Nat.lt_succ_of_le (ofAtom?_length h)
  case h_3 | h_4 | h_14 =>
    simp only [Option.some.injEq, Prod.mk.injEq] at h
    simp [h.2]

end Part

/-- Reads the rest of a group within others; the depth of the whole pattern is given. -/
def readLevel? (mode : Mode) (names : List (List Char)) (level : Level) (outer : List Level)
    (cs : List Char) : Option Nat :=
  if (mode.skip cs).isEmpty then if outer.isEmpty then some level.innerDepth else none
  else
    match _found : Part.next? mode names (mode.skip cs) with
    | none => none
    | some (.item depth, rest) => readLevel? mode names (level.add depth) outer rest
    | some (.repeats, rest) =>
      match level.repeated? with
      | some level => readLevel? mode names level outer rest
      | none => none
    | some (.bar, rest) => readLevel? mode names level.alternative outer rest
    | some (.opening (.flags behind), rest) => readLevel? behind names level.addFlags outer rest
    | some (.opening (.group inside names), rest) =>
      readLevel? inside names (.opened mode) (level :: outer) rest
    | some (.closing, rest) =>
      match outer with
      | [] => none
      | above :: outer => readLevel? level.outside names (above.add level.closed) outer rest
termination_by cs.length
decreasing_by
  all_goals
    have := Part.next?_length _found
    have := mode.skip_length cs
    omega

/-- A pattern may be nested so deep. -/
def maxDepth : Nat := 250

/-- Whether a text is a pattern. -/
def isValid (cs : List Char) : Bool :=
  match readLevel? .initial [] (.opened .initial) [] cs with
  | some depth => decide (depth ≤ maxDepth)
  | none => false

end MailMerge.Pattern
