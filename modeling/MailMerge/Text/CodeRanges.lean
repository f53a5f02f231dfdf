/-!
Sets of characters as ranges of code points.
-/

namespace MailMerge.Text

/-- Ranges of code points, each from its first to its last. -/
abbrev CodeRanges := List (Nat × Nat)

/-- Whether a character lies in one of the ranges. -/
def CodeRanges.covers (ranges : CodeRanges) (c : Char) : Bool :=
  ranges.any fun range => range.1 ≤ c.toNat && c.toNat ≤ range.2

end MailMerge.Text
