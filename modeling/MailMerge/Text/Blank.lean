/-!
White space, and the operations that cut a text at it. White space is the set of characters with
the Unicode property White_Space; the functions work on lists of characters, and their `String`
forms stand beside them.
-/

namespace MailMerge.Text

/-- The 25 characters with the Unicode property White_Space. -/
def isBlankChar (c : Char) : Bool :=
  let n := c.toNat
  (9 ≤ n && n ≤ 13) || n == 0x20 || n == 0x85 || n == 0xA0 || n == 0x1680 ||
    (0x2000 ≤ n && n ≤ 0x200A) || n == 0x2028 || n == 0x2029 || n == 0x202F || n == 0x205F ||
    n == 0x3000

/-- Drops white space in front. -/
def trimStart (cs : List Char) : List Char := cs.dropWhile isBlankChar

/-- Drops white space at the end. -/
def trimEnd : List Char → List Char
  | [] => []
  | c :: cs => if (c :: cs).all isBlankChar then [] else c :: trimEnd cs

/-- Drops white space at both ends. -/
def trim (cs : List Char) : List Char := trimEnd (trimStart cs)

/-! Nothing is left of a text exactly if it is white space, and trimming a second time changes
nothing. -/

theorem all_trimStart (cs : List Char) : (trimStart cs).all isBlankChar = cs.all isBlankChar := by
  induction cs with
  | nil => rfl
  | cons c cs ih =>
    rw [trimStart, List.dropWhile_cons]
    split
    · next blank => rw [List.all_cons, blank, Bool.true_and, ← ih, trimStart]
    · rfl

theorem all_trimEnd (cs : List Char) : (trimEnd cs).all isBlankChar = cs.all isBlankChar := by
  induction cs with
  | nil => rfl
  | cons c cs ih =>
    rw [trimEnd]
    split
    · next blank => rw [blank, List.all_nil]
    · rw [List.all_cons, ih, List.all_cons]

theorem trimEnd_eq_nil_iff (cs : List Char) : trimEnd cs = [] ↔ cs.all isBlankChar = true := by
  cases cs with
  | nil => simp [trimEnd]
  | cons c cs =>
    rw [trimEnd]
    split
    · next blank => simp only [blank]
    · next solid => simp [solid]

theorem trim_eq_nil_iff (cs : List Char) : trim cs = [] ↔ cs.all isBlankChar = true := by
  rw [trim, trimEnd_eq_nil_iff, all_trimStart]

theorem trimEnd_trimEnd (cs : List Char) : trimEnd (trimEnd cs) = trimEnd cs := by
  induction cs with
  | nil => rfl
  | cons c cs ih =>
    rw [trimEnd]
    split
    · rfl
    · next solid =>
      have still : (c :: trimEnd cs).all isBlankChar ≠ true := by
        rwa [List.all_cons, all_trimEnd, ← List.all_cons]
      rw [trimEnd, if_neg still, ih]

/-- Only white space at the end is dropped behind a character that is none. -/
theorem trimStart_trimEnd {c : Char} {cs : List Char} (solid : isBlankChar c = false) :
    trimStart (trimEnd (c :: cs)) = trimEnd (c :: cs) := by
  have some : (c :: cs).all isBlankChar ≠ true := by simp [solid]
  rw [trimEnd, if_neg some, trimStart, List.dropWhile_cons, if_neg (by simp [solid])]

theorem trim_trim (cs : List Char) : trim (trim cs) = trim cs := by
  have front : trimStart (trim cs) = trim cs := by
    rw [trim]
    cases left : trimStart cs with
    | nil => rfl
    | cons c rest =>
      have solid : isBlankChar c = false := by
        have head := List.head?_dropWhile_not isBlankChar cs
        rw [← trimStart, left] at head
        simpa using head
      exact trimStart_trimEnd solid
  rw [trim, front, trim, trimEnd_trimEnd]

/-- A text that starts with another character has no white space in front. -/
theorem trimStart_cons {c : Char} (solid : isBlankChar c = false) (cs : List Char) :
    trimStart (c :: cs) = c :: cs := by
  rw [trimStart, List.dropWhile_cons_of_neg (by simp [solid])]

theorem solid_of_all {cs : List Char} (all : cs.all (fun c => !isBlankChar c) = true) :
    ∀ c ∈ cs, isBlankChar c = false := by
  intro c inside
  simpa using List.all_eq_true.1 all c inside

/-- There is nothing to trim where nothing is white space. -/
theorem trim_of_solid {cs : List Char} (solid : ∀ c ∈ cs, isBlankChar c = false) :
    trim cs = cs := by
  cases cs with
  | nil => rfl
  | cons c cs =>
    have ends (ds : List Char) (inside : ∀ d ∈ ds, isBlankChar d = false) : trimEnd ds = ds := by
      induction ds with
      | nil => rfl
      | cons d ds ih =>
        have here := inside d List.mem_cons_self
        rw [trimEnd, if_neg (by simp [here]), ih fun e later => inside e (List.mem_cons_of_mem d later)]
    rw [trim, trimStart_cons (solid c List.mem_cons_self), ends _ solid]

/-- A text without a character other than white space. -/
def isBlank (s : String) : Bool := s.toList.all isBlankChar

/-- The text without white space at its ends. -/
def trimmed (s : String) : String := String.ofList (trim s.toList)

theorem trimmed_trimmed (s : String) : trimmed (trimmed s) = trimmed s := by
  rw [trimmed, trimmed, String.toList_ofList, trim_trim]

theorem trimmed_of_solid {s : String} (solid : ∀ c ∈ s.toList, isBlankChar c = false) :
    trimmed s = s := by
  rw [trimmed, trim_of_solid solid, String.ofList_toList]

theorem trimmed_eq_empty_iff (s : String) : trimmed s = "" ↔ isBlank s = true := by
  rw [isBlank, ← trim_eq_nil_iff, trimmed, ← String.toList_inj, String.toList_ofList]
  rfl

/-- Cuts a text at every character that satisfies `cut`; the pieces between are kept, also empty
ones, so that there is one piece more than there are cuts. -/
def splitAt (cut : Char → Bool) : List Char → List (List Char)
  | [] => [[]]
  | c :: cs =>
    if cut c then [] :: splitAt cut cs
    else
      match splitAt cut cs with
      | [] => [[c]]
      | piece :: pieces => (c :: piece) :: pieces

/-- The longest runs of characters that are not white space. -/
def words (cs : List Char) : List (List Char) :=
  (splitAt isBlankChar cs).filter (fun piece => !piece.isEmpty)

end MailMerge.Text
