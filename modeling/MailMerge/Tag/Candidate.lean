import MailMerge.Tag.ShortCode
/-!
Candidates for short codes in a text: from an opening pair of braces to the nearest closing pair,
within one line. `marks` cuts a text into candidates and the single characters between them, and
loses nothing of it.
-/

namespace MailMerge

/-- A piece of a scanned text: a character that belongs to no candidate, or the text between the
braces of a candidate. -/
inductive Mark where
  | plain (c : Char)
  | candidate (body : List Char)
  deriving DecidableEq

namespace Mark

/-- The piece as it stands in the text. -/
def chars : Mark → List Char
  | plain c => [c]
  | candidate body => ShortCode.inBraces body

/-- The text up to the first closing pair of braces on the line, and the text behind the pair. -/
def closing? : List Char → Option (List Char × List Char)
  | [] => none
  | '}' :: '}' :: rest => some ([], rest)
  | '\n' :: _ => none
  | c :: rest => (closing? rest).map fun found => (c :: found.1, found.2)

theorem closing?_eq_some {cs body rest : List Char} (h : closing? cs = some (body, rest)) :
    cs = body ++ '}' :: '}' :: rest := by
  fun_induction closing? cs generalizing body rest with
  | case1 => simp at h
  | case2 rest' =>
    simp only [Option.some.injEq, Prod.mk.injEq] at h
    obtain ⟨rfl, rfl⟩ := h
    rfl
  | case3 => simp at h
  | case4 c cs' _ _ ih =>
    obtain ⟨⟨b, r⟩, inner, same⟩ := Option.map_eq_some_iff.1 h
    simp only [Prod.mk.injEq] at same
    obtain ⟨rfl, rfl⟩ := same
    simp [ih inner]

/-- Cuts a text into candidates and the characters between them. At an opening pair the candidate
ends with the nearest closing pair of the line; a pair that is never closed is plain text. -/
def scan : List Char → List Mark
  | [] => []
  | '{' :: '{' :: rest =>
    match _found : closing? rest with
    | some (body, after) => candidate body :: scan after
    | none => plain '{' :: scan ('{' :: rest)
  | c :: cs => plain c :: scan cs
termination_by cs => cs.length
decreasing_by
  · have := congrArg List.length (closing?_eq_some _found)
    simp only [List.length_append, List.length_cons] at this ⊢
    omega
  · simp
  · simp

/-- Scanning loses nothing: the pieces make up the text. -/
theorem flatMap_chars_scan (cs : List Char) : (scan cs).flatMap chars = cs := by
  fun_induction scan cs with
  | case1 => rfl
  | case2 rest body after found ih =>
    simp [chars, ShortCode.inBraces, ih, closing?_eq_some found]
  | case3 rest _ ih => simp [chars, ih]
  | case4 c cs _ ih => simp [chars, ih]

/-- The text between the braces of a candidate. -/
def body? : Mark → Option (List Char)
  | plain _ => none
  | candidate body => some body

end Mark

/-- The bodies of the candidates of a text, in order. -/
def candidates (s : String) : List (List Char) := (Mark.scan s.toList).filterMap Mark.body?

/-- The candidates of a text as they are written, in order. -/
def candidateTexts (s : String) : List String :=
  (candidates s).map fun body => String.ofList (ShortCode.inBraces body)

/-- A candidate and the places in a text, counted in bytes, where it starts and ends. -/
structure CandidateSpan where
  start : Nat
  stop : Nat
  text : String

/-- The number of bytes of a text in UTF-8. -/
def byteCount (cs : List Char) : Nat := cs.foldr (fun c n => c.utf8Size + n) 0

/-- The candidates among `marks`, the first of which stands at byte `start`. -/
def spansFrom (start : Nat) : List Mark → List CandidateSpan
  | [] => []
  | .plain c :: marks => spansFrom (start + c.utf8Size) marks
  | .candidate body :: marks =>
    let stop := start + byteCount (ShortCode.inBraces body)
    ⟨start, stop, String.ofList (ShortCode.inBraces body)⟩ :: spansFrom stop marks

/-- The candidates of a text with their places. -/
def candidateSpans (s : String) : List CandidateSpan := spansFrom 0 (Mark.scan s.toList)

end MailMerge
