import MailMerge.Text.Blank
/-!
The mode in which a part of a pattern is read. A pattern is a regular expression that the values of
a field are compared with; flags within it change the mode for what follows.
-/

namespace MailMerge.Pattern

/-- How a part of a pattern is read: whether white space and comments in it count for nothing, and
whether it matches characters rather than bytes. -/
structure Mode where
  spaced : Bool
  unicode : Bool
  deriving DecidableEq

/-- The mode at the start of a pattern. -/
def Mode.initial : Mode := ⟨false, true⟩

/-- Drops white space and comments in front; a comment runs from `#` to the end of its line. -/
def dropSpace (inComment : Bool) : List Char → List Char
  | [] => []
  | c :: cs =>
    if inComment then dropSpace (c != '\n') cs
    else if Text.isBlankChar c then dropSpace false cs
    else if c = '#' then dropSpace true cs
    else c :: cs

theorem dropSpace_length (inComment : Bool) (cs : List Char) :
    (dropSpace inComment cs).length ≤ cs.length := by
  induction cs generalizing inComment with
  | nil => simp [dropSpace]
  | cons c cs ih =>
    unfold dropSpace
    split
    · exact Nat.le_succ_of_le (ih _)
    · split
      · exact Nat.le_succ_of_le (ih _)
      · split
        · exact Nat.le_succ_of_le (ih _)
        · exact Nat.le_refl _

namespace Mode

/-- Drops what counts for nothing in front. -/
def skip (mode : Mode) (cs : List Char) : List Char :=
  if mode.spaced then dropSpace false cs else cs

theorem skip_length (mode : Mode) (cs : List Char) : (mode.skip cs).length ≤ cs.length := by
  unfold skip
  split
  · exact dropSpace_length false cs
  · exact Nat.le_refl _

/-- The character that a look ahead finds. It passes over white space and over the sign of one
comment, but not over what the comment says. -/
def ahead? (mode : Mode) (cs : List Char) : Option Char :=
  if mode.spaced then
    match cs.dropWhile Text.isBlankChar with
    | '#' :: rest => (rest.dropWhile Text.isBlankChar).head?
    | rest => rest.head?
  else cs.head?

end Mode

end MailMerge.Pattern
