import MailMerge.Pattern.Mode
import MailMerge.Text.WordChar
/-!
The starts of groups: a plain one, one with a name, one with flags, or flags alone, which hold up to
the end of the group around them.
-/

namespace MailMerge.Pattern

/-- What a round bracket starts, and the mode behind it; a group comes with the names that are
taken from then on. -/
inductive GroupStart where
  | flags (mode : Mode)
  | group (mode : Mode) (names : List (List Char))

/-- The letters of flags. -/
def flagLetters : List Char := ['i', 'm', 's', 'U', 'u', 'R', 'x']

/-- The mode behind a flag. -/
def Mode.withFlag (mode : Mode) (flag : Char) (on : Bool) : Mode :=
  if flag = 'x' then { mode with spaced := on }
  else if flag = 'u' then { mode with unicode := on }
  else mode

namespace GroupStart

/-- Reads flags behind others, the last first, up to a colon or a closing bracket. A flag behind a
minus sign is switched off; no sign may stand twice. -/
def flags? (mode : Mode) (names : List (List Char)) (seen : List Char) :
    List Char → Option (GroupStart × List Char)
  | [] => none
  | c :: rest =>
    if c == ':' || c == ')' then
      if seen.head? == some '-' then none
      else if c == ':' then some (group mode names, rest)
      else if seen.isEmpty then none
      else some (flags mode, rest)
    else if seen.contains c then none
    else if c == '-' || flagLetters.contains c then
      flags? (mode.withFlag c (!seen.contains '-')) names (c :: seen) rest
    else none

/-- Whether a text is a name: it starts with a letter or an underscore, and goes on with letters,
numbers, underscores, points and square brackets. -/
def isName : List Char → Bool
  | [] => false
  | c :: cs =>
    (c == '_' || Text.isAlphabetic c) &&
      cs.all fun c => ['_', '.', '[', ']'].contains c || Text.isAlphanumeric c

/-- Reads the name of a group, which must be new. -/
def named? (mode : Mode) (names : List (List Char)) (cs : List Char) :
    Option (GroupStart × List Char) :=
  let name := cs.takeWhile (· != '>')
  match cs.dropWhile (· != '>') with
  | [] => none
  | _ :: rest =>
    if isName name && !names.contains name then some (group mode (name :: names), rest) else none

/-- Reads the start of a group from behind its round bracket. -/
def start? (mode : Mode) (names : List (List Char)) (cs : List Char) :
    Option (GroupStart × List Char) :=
  match mode.skip cs with
  | '?' :: 'P' :: '<' :: rest => named? mode names rest
  | '?' :: '<' :: rest => named? mode names rest
  | '?' :: rest => flags? mode names [] rest
  | rest => some (group mode names, rest)

theorem flags?_length {mode : Mode} {names : List (List Char)} {seen cs rest : List Char}
    {start : GroupStart} (h : flags? mode names seen cs = some (start, rest)) :
    rest.length ≤ cs.length := by
  induction cs generalizing mode seen with
  | nil => cases h
  | cons c cs ih =>
    simp only [flags?] at h
    split at h
    · split at h
      · cases h
      split at h
      · cases h
        simp
      split at h
      · cases h
      · cases h
        simp
    split at h
    · cases h
    split at h
    · exact Nat.le_succ_of_le (ih h)
    · cases h

theorem named?_length {mode : Mode} {names : List (List Char)} {cs rest : List Char}
    {start : GroupStart} (h : named? mode names cs = some (start, rest)) :
    rest.length ≤ cs.length := by
  have drop := (List.dropWhile_sublist (l := cs) (· != '>')).length_le
  simp only [named?] at h
  split at h
  · cases h
  · next found =>
    split at h
    · simp only [Option.some.injEq, Prod.mk.injEq] at h
      rw [found, List.length_cons, h.2] at drop
      omega
    · cases h

theorem start?_length {mode : Mode} {names : List (List Char)} {cs rest : List Char}
    {start : GroupStart} (h : start? mode names cs = some (start, rest)) :
    rest.length ≤ cs.length := by
  have shorter := mode.skip_length cs
  unfold start? at h
  split at h
  · next found =>
    have := named?_length h
    rw [found] at shorter
    simp only [List.length_cons] at shorter
    omega
  · next found =>
    have := named?_length h
    rw [found] at shorter
    simp only [List.length_cons] at shorter
    omega
  · next found =>
    have := flags?_length h
    rw [found] at shorter
    simp only [List.length_cons] at shorter
    omega
  · simp only [Option.some.injEq, Prod.mk.injEq] at h
    exact h.2 ▸ shorter

end GroupStart

end MailMerge.Pattern
