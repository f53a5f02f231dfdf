/-!
Replacement of a fixed piece of text, from left to right and without looking at what was put in.
-/

namespace MailMerge.Text

/-- The text behind `lead`, if the text starts with it. -/
def afterPrefix? : List Char → List Char → Option (List Char)
  | [], cs => some cs
  | _ :: _, [] => none
  | a :: as, c :: cs => if a = c then afterPrefix? as cs else none

theorem afterPrefix?_eq_some {lead cs rest : List Char} (h : afterPrefix? lead cs = some rest) :
    cs = lead ++ rest := by
  induction lead generalizing cs with
  | nil => simpa [afterPrefix?] using h
  | cons a as ih =>
    cases cs with
    | nil => simp [afterPrefix?] at h
    | cons c cs =>
      simp only [afterPrefix?] at h
      split at h
      · next same => simp [same, ih h]
      · cases h

theorem afterPrefix?_append (lead rest : List Char) :
    afterPrefix? lead (lead ++ rest) = some rest := by
  induction lead with
  | nil => simp [afterPrefix?]
  | cons a as ih => simp [afterPrefix?, ih]

/-- Whether the text starts with `lead`. -/
def startsWith (lead cs : List Char) : Bool := (afterPrefix? lead cs).isSome

/-- Whether `piece` stands somewhere in the text. -/
def contains (piece : List Char) : List Char → Bool
  | [] => piece.isEmpty
  | c :: cs => startsWith piece (c :: cs) || contains piece cs

/-- Puts `new` in the place of every `first :: more` that stands in the text, leftmost first. -/
def replaceAll (first : Char) (more new : List Char) : List Char → List Char
  | [] => []
  | c :: cs =>
    if c = first then
      match _found : afterPrefix? more cs with
      | some rest => new ++ replaceAll first more new rest
      | none => c :: replaceAll first more new cs
    else c :: replaceAll first more new cs
termination_by cs => cs.length
decreasing_by
  · have := congrArg List.length (afterPrefix?_eq_some _found)
    rw [List.length_append] at this
    simp only [List.length_cons]
    omega
  · simp
  · simp

end MailMerge.Text
