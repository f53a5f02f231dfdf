import MailMerge.Text.Blank
import MailMerge.Text.Replace
import MailMerge.Text.WordChar
/-!
The plain text of an HTML mail. Style, script and head blocks are dropped, line breaks and the ends
of paragraphs become line ends, all other tags are dropped, entities become characters, and blanks
are collapsed. Each step looks for its pieces from left to right.
-/

namespace MailMerge.PlainText

/-- Whether `c` is the lower-case ASCII letter or the digit `lower`, in any case. The long s is an s
without regard to case. -/
def sameLetter (lower c : Char) : Bool := c.toLower == lower || (lower == 's' && c == '\u017F')

/-- The text behind a name, in any case, if the text starts with it. -/
def afterName? : List Char → List Char → Option (List Char)
  | [], cs => some cs
  | _ :: _, [] => none
  | a :: as, c :: cs => if sameLetter a c then afterName? as cs else none

/-- The text behind the first name of a list that the text starts with. -/
def afterAnyName? (names : List (List Char)) (cs : List Char) : Option (List Char) :=
  names.findSome? fun name => afterName? name cs

/-- The elements whose content is not shown. -/
def hiddenNames : List (List Char) := ["style".toList, "script".toList, "head".toList]

/-- The elements whose end is a line end. -/
def lineNames : List (List Char) :=
  ["p", "div", "tr", "h1", "h2", "h3", "h4", "h5", "h6", "li"].map String.toList

/-- The text behind the rest of an end tag: white space and the closing bracket. -/
def afterTagEnd? (cs : List Char) : Option (List Char) :=
  match cs.dropWhile Text.isBlankChar with
  | '>' :: rest => some rest
  | _ => none

/-- The text behind the first name of a list that the text starts with as an end tag, from behind
its bracket and stroke. -/
def afterEndTag? (names : List (List Char)) (cs : List Char) : Option (List Char) :=
  names.findSome? fun name => (afterName? name cs).bind afterTagEnd?

/-- Whether a name ends here: no word character follows. -/
def atBoundary : List Char → Bool
  | [] => true
  | c :: _ => !Text.isWordChar c

/-- The text behind the first end tag of a hidden element, of whichever name. -/
def afterHidden? : List Char → Option (List Char)
  | [] => none
  | '<' :: '/' :: rest =>
    match afterEndTag? hiddenNames rest with
    | some behind => some behind
    | none => afterHidden? ('/' :: rest)
  | _ :: rest => afterHidden? rest

/-- The text behind the hidden element that starts here, from behind its bracket. An element that
is not closed does not count. -/
def afterHiddenElement? (cs : List Char) : Option (List Char) :=
  match afterAnyName? hiddenNames cs with
  | some behind => if atBoundary behind then afterHidden? behind else none
  | none => none

/-- The text behind a line break that starts here, from behind its bracket. -/
def afterBreak? (cs : List Char) : Option (List Char) :=
  match afterName? ['b', 'r'] cs with
  | none => none
  | some behind =>
    match behind.dropWhile Text.isBlankChar with
    | '>' :: rest => some rest
    | '/' :: '>' :: rest => some rest
    | _ => none

/-- The text behind a line break or the end of a paragraph that starts here, from behind its
bracket. -/
def afterLineTag? (cs : List Char) : Option (List Char) :=
  match afterBreak? cs with
  | some rest => some rest
  | none =>
    match cs with
    | '/' :: rest => afterEndTag? lineNames rest
    | _ => none

/-- The text behind the first closing bracket. -/
def afterTag? : List Char → Option (List Char)
  | [] => none
  | '>' :: rest => some rest
  | _ :: rest => afterTag? rest

theorem afterName?_length {name cs rest : List Char} (h : afterName? name cs = some rest) :
    rest.length ≤ cs.length := by
  induction name generalizing cs with
  | nil =>
    simp only [afterName?, Option.some.injEq] at h
    simp [h]
  | cons a as ih =>
    cases cs with
    | nil => simp [afterName?] at h
    | cons c cs =>
      simp only [afterName?] at h
      split at h
      · exact Nat.le_succ_of_le (ih h)
      · cases h

theorem length_dropWhile_le (p : Char → Bool) (cs : List Char) :
    (cs.dropWhile p).length ≤ cs.length := (List.dropWhile_sublist p).length_le

theorem afterTagEnd?_length {cs rest : List Char} (h : afterTagEnd? cs = some rest) :
    rest.length ≤ cs.length := by
  have drop := length_dropWhile_le Text.isBlankChar cs
  unfold afterTagEnd? at h
  split at h
  · next found =>
    cases h
    rw [found, List.length_cons] at drop
    omega
  · cases h

theorem afterEndTag?_length {names : List (List Char)} {cs rest : List Char}
    (h : afterEndTag? names cs = some rest) : rest.length ≤ cs.length := by
  obtain ⟨name, _, found⟩ := List.exists_of_findSome?_eq_some h
  obtain ⟨behind, named, ended⟩ := Option.bind_eq_some_iff.1 found
  exact Nat.le_trans (afterTagEnd?_length ended) (afterName?_length named)

theorem afterHidden?_length {cs rest : List Char} (h : afterHidden? cs = some rest) :
    rest.length ≤ cs.length := by
  fun_induction afterHidden? cs with
  | case1 => cases h
  | case2 cs behind found =>
    cases h
    have := afterEndTag?_length found
    simp only [List.length_cons]
    omega
  | case3 cs _ ih =>
    have := ih h
    simp only [List.length_cons] at this ⊢
    omega
  | case4 c cs _ ih =>
    have := ih h
    simp only [List.length_cons]
    omega

/-- A way to find what starts with an opening bracket: from the text behind the bracket to the text
behind the piece. -/
structure Finder where
  after? : List Char → Option (List Char)
  shrinks : ∀ {cs rest}, after? cs = some rest → rest.length ≤ cs.length

/-- Finds hidden elements. -/
def hiddenElement : Finder where
  after? := afterHiddenElement?
  shrinks := by
    intro cs rest h
    unfold afterHiddenElement? at h
    split at h
    · next behind found =>
      split at h
      · obtain ⟨name, _, named⟩ := List.exists_of_findSome?_eq_some found
        exact Nat.le_trans (afterHidden?_length h) (afterName?_length named)
      · cases h
    · cases h

/-- Finds line breaks and the ends of paragraphs. -/
def lineTag : Finder where
  after? := afterLineTag?
  shrinks := by
    intro cs rest h
    unfold afterLineTag? at h
    split at h
    · next behind found =>
      cases h
      unfold afterBreak? at found
      split at found
      · cases found
      · next text named =>
        have drop := length_dropWhile_le Text.isBlankChar text
        have name := afterName?_length named
        split at found
        · next same =>
          cases found
          rw [same, List.length_cons] at drop
          omega
        · next same =>
          cases found
          rw [same, List.length_cons, List.length_cons] at drop
          omega
        · cases found
    · split at h
      · exact Nat.le_succ_of_le (afterEndTag?_length h)
      · cases h

/-- Finds tags of any kind. -/
def anyTag : Finder where
  after? := afterTag?
  shrinks := by
    intro cs rest h
    fun_induction afterTag? cs with
    | case1 => cases h
    | case2 => cases h; simp
    | case3 c cs _ ih => exact Nat.le_succ_of_le (ih h)

/-- Puts `new` in the place of every piece that is found. -/
def replaceTags (finder : Finder) (new : List Char) : List Char → List Char
  | [] => []
  | c :: cs =>
    if c = '<' then
      match _found : finder.after? cs with
      | some rest => new ++ replaceTags finder new rest
      | none => c :: replaceTags finder new cs
    else c :: replaceTags finder new cs
termination_by cs => cs.length
decreasing_by
  · have := finder.shrinks _found
    simp only [List.length_cons]
    omega
  · simp
  · simp

/-- The entities that become characters, in the order in which they are looked for, each without
its ampersand. -/
def entities : List (List Char × List Char) :=
  [("nbsp;".toList, [' ']), ("lt;".toList, ['<']), ("gt;".toList, ['>']),
    ("quot;".toList, ['"']), ("#39;".toList, ['\'']), ("amp;".toList, ['&'])]

/-- Turns entities into characters, one entity after the other. -/
def resolveEntities (cs : List Char) : List Char :=
  entities.foldl (fun cs entity => Text.replaceAll '&' entity.1 entity.2 cs) cs

/-- The blanks that are collapsed: space, tab, carriage return and form feed. -/
def isSpacing (c : Char) : Bool := c == ' ' || c == '\t' || c == '\r' || c == '\x0c'

/-- Puts one space in the place of each run of blanks. -/
def collapse : List Char → List Char
  | [] => []
  | c :: cs =>
    if isSpacing c then
      match cs with
      | [] => [' ']
      | d :: rest => if isSpacing d then collapse (d :: rest) else ' ' :: collapse (d :: rest)
    else c :: collapse cs

/-- Collapses the blanks of each line and drops empty lines. -/
def tidyLines (cs : List Char) : List Char :=
  List.intercalate ['\n']
    (((Text.splitAt (· == '\n') cs).map fun line => Text.trim (collapse line)).filter
      fun line => !line.isEmpty)

/-- The plain text of an HTML text. -/
def ofHtml (html : List Char) : List Char :=
  tidyLines (resolveEntities (replaceTags anyTag []
    (replaceTags lineTag ['\n'] (replaceTags hiddenElement [] html))))

end MailMerge.PlainText

namespace MailMerge

/-- The plain text of an HTML text. -/
def plainTextOfHtml (html : String) : String := String.ofList (PlainText.ofHtml html.toList)

end MailMerge
