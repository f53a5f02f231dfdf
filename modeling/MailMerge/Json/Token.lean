import MailMerge.Json.Number
/-!
The tokens of JSON text. White space between tokens is dropped. In strings the escapes are
resolved: `\u` escapes stand for 16-bit units, and two of them that form a surrogate pair stand for
one character. A string with any other surrogate and a number out of range are tokens without a
value.
-/

namespace MailMerge

/-- A token of JSON text; `broken` stands for a rest that starts with no token. -/
inductive JsonToken where
  | openArray
  | closeArray
  | openObject
  | closeObject
  | colon
  | comma
  | null
  | bool (b : Bool)
  | number (n : Option JsonNumber)
  | string (s : Option String)
  | broken
  deriving DecidableEq

namespace JsonToken

/-- A part of a string: a character, or a 16-bit unit that was written as an escape. -/
inductive Part where
  | char (c : Char)
  | unit (n : Nat)
  deriving DecidableEq

/-- The character that a one-letter escape stands for. -/
def shortEscape? (c : Char) : Option Char :=
  match c with
  | '"' => some '"'
  | '\\' => some '\\'
  | '/' => some '/'
  | 'b' => some '\x08'
  | 'f' => some '\x0c'
  | 'n' => some '\n'
  | 'r' => some '\r'
  | 't' => some '\t'
  | _ => none

/-- Reads the parts of a string up to the closing quote, and the text behind it. -/
def stringParts? : List Char → Option (List Part × List Char)
  | [] => none
  | '"' :: rest => some ([], rest)
  | '\\' :: 'u' :: a :: b :: c :: d :: rest =>
    match Text.hexDigitsValue? 0 [a, b, c, d], stringParts? rest with
    | some n, some (parts, behind) => some (.unit n :: parts, behind)
    | _, _ => none
  | '\\' :: e :: rest =>
    match shortEscape? e, stringParts? rest with
    | some c, some (parts, behind) => some (.char c :: parts, behind)
    | _, _ => none
  | c :: rest =>
    if c.toNat < 0x20 ∨ c = '\\' then none
    else (stringParts? rest).map fun found => (.char c :: found.1, found.2)

/-- The characters of a string's parts; a surrogate must stand in a pair. -/
def joinParts? : List Part → Option (List Char)
  | [] => some []
  | .char c :: rest => (joinParts? rest).map (c :: ·)
  | .unit n :: rest =>
    if 0xD800 ≤ n ∧ n < 0xDC00 then
      match rest with
      | .unit m :: rest =>
        if 0xDC00 ≤ m ∧ m < 0xE000 then
          (joinParts? rest).map
            (Char.ofNat (0x10000 + (n - 0xD800) * 0x400 + (m - 0xDC00)) :: ·)
        else none
      | _ => none
    else if 0xDC00 ≤ n ∧ n < 0xE000 then none
    else (joinParts? rest).map (Char.ofNat n :: ·)

/-- Reads one digit or more. -/
def digitRun? (cs : List Char) : Option (List Char × List Char) :=
  let (run, behind) := Text.spanDigits cs
  if run.isEmpty then none else some (run, behind)

/-- Reads the digits before the point; a zero in front is the only one. -/
def wholeDigits? : List Char → Option (List Char × List Char)
  | '0' :: rest => some (['0'], rest)
  | cs => digitRun? cs

/-- Reads a fraction, if there is one. -/
def fraction? : List Char → Option (Option (List Char) × List Char)
  | '.' :: cs => (digitRun? cs).map fun found => (some found.1, found.2)
  | cs => some (none, cs)

/-- Reads the digits of an exponent. -/
def exponentDigits? (negative : Bool) (cs : List Char) : Option (Option Int × List Char) :=
  (digitRun? cs).map fun found =>
    let n : Int := Text.digitsValue found.1
    (some (if negative then -n else n), found.2)

/-- Reads an exponent, if there is one. -/
def exponent? : List Char → Option (Option Int × List Char)
  | [] => some (none, [])
  | e :: cs =>
    if e = 'e' ∨ e = 'E' then
      match cs with
      | '-' :: rest => exponentDigits? true rest
      | '+' :: rest => exponentDigits? false rest
      | rest => exponentDigits? false rest
    else some (none, e :: cs)

/-- Reads a number without its sign. -/
def numberText? (negative : Bool) (cs : List Char) : Option (NumberText × List Char) :=
  (wholeDigits? cs).bind fun whole =>
    (fraction? whole.2).bind fun fraction =>
      (exponent? fraction.2).map fun exponent =>
        (⟨negative, whole.1, fraction.1, exponent.1⟩, exponent.2)

/-- Reads the number in front of a text. -/
def number? (cs : List Char) : Option (JsonToken × List Char) :=
  let found := match cs with
    | '-' :: rest => numberText? true rest
    | rest => numberText? false rest
  found.map fun (t, behind) => (number (JsonNumber.ofNumberText? t), behind)

/-- Reads the token in front of a text that starts with none of the white space of JSON. -/
def next? : List Char → Option (JsonToken × List Char)
  | [] => none
  | '[' :: rest => some (openArray, rest)
  | ']' :: rest => some (closeArray, rest)
  | '{' :: rest => some (openObject, rest)
  | '}' :: rest => some (closeObject, rest)
  | ':' :: rest => some (colon, rest)
  | ',' :: rest => some (comma, rest)
  | 'n' :: 'u' :: 'l' :: 'l' :: rest => some (null, rest)
  | 't' :: 'r' :: 'u' :: 'e' :: rest => some (bool true, rest)
  | 'f' :: 'a' :: 'l' :: 's' :: 'e' :: rest => some (bool false, rest)
  | '"' :: rest =>
    (stringParts? rest).map fun (parts, behind) =>
      (string ((joinParts? parts).map String.ofList), behind)
  | cs => number? cs

theorem stringParts?_length {cs behind : List Char} {parts : List Part}
    (h : stringParts? cs = some (parts, behind)) : behind.length < cs.length := by
  fun_induction stringParts? cs generalizing parts behind with
  | case1 => simp at h
  | case2 rest =>
    simp only [Option.some.injEq, Prod.mk.injEq] at h
    simp [← h.2]
  | case3 a b c d rest n found parts' behind' hn ih =>
    simp only [Option.some.injEq, Prod.mk.injEq] at h
    have := ih ‹_›
    simp only [List.length_cons, ← h.2]
    omega
  | case4 => simp at h
  | case5 e rest _ c found parts' behind' hc ih =>
    simp only [Option.some.injEq, Prod.mk.injEq] at h
    have := ih ‹_›
    simp only [List.length_cons, ← h.2]
    omega
  | case6 => simp at h
  | case7 => simp at h
  | case8 c rest _ _ _ _ ih =>
    obtain ⟨⟨p, r⟩, inner, same⟩ := Option.map_eq_some_iff.1 h
    simp only [Prod.mk.injEq] at same
    have := ih inner
    simp only [List.length_cons, ← same.2]
    omega

theorem digitRun?_length {cs run behind : List Char} (h : digitRun? cs = some (run, behind)) :
    behind.length < cs.length := by
  simp only [digitRun?, Text.spanDigits, List.isEmpty_iff] at h
  split at h
  · cases h
  · next nonempty =>
    simp only [Option.some.injEq, Prod.mk.injEq] at h
    have parts := congrArg List.length
      (List.takeWhile_append_dropWhile (p := Char.isDigit) (l := cs))
    have := List.length_pos_iff.2 nonempty
    rw [List.length_append] at parts
    rw [← h.2]
    omega

theorem wholeDigits?_length {cs run behind : List Char}
    (h : wholeDigits? cs = some (run, behind)) : behind.length < cs.length := by
  unfold wholeDigits? at h
  split at h
  · simp only [Option.some.injEq, Prod.mk.injEq] at h
    simp [h.2]
  · exact digitRun?_length h

theorem fraction?_length {cs behind : List Char} {fraction : Option (List Char)}
    (h : fraction? cs = some (fraction, behind)) : behind.length ≤ cs.length := by
  unfold fraction? at h
  split at h
  · obtain ⟨⟨run, r⟩, found, same⟩ := Option.map_eq_some_iff.1 h
    simp only [Prod.mk.injEq] at same
    have := digitRun?_length found
    simp only [List.length_cons, ← same.2]
    omega
  · simp only [Option.some.injEq, Prod.mk.injEq] at h
    simp [h.2]

theorem exponentDigits?_length {negative : Bool} {cs behind : List Char} {exponent : Option Int}
    (h : exponentDigits? negative cs = some (exponent, behind)) :
    behind.length < cs.length := by
  obtain ⟨⟨run, r⟩, found, same⟩ := Option.map_eq_some_iff.1 h
  simp only [Prod.mk.injEq] at same
  exact same.2 ▸ digitRun?_length found

theorem exponent?_length {cs behind : List Char} {exponent : Option Int}
    (h : exponent? cs = some (exponent, behind)) : behind.length ≤ cs.length := by
  unfold exponent? at h
  split at h
  · simp only [Option.some.injEq, Prod.mk.injEq] at h
    simp [← h.2]
  · split at h
    · split at h
      all_goals
        have := exponentDigits?_length h
        simp only [List.length_cons] at this ⊢
        omega
    · simp only [Option.some.injEq, Prod.mk.injEq] at h
      simp [← h.2]

theorem numberText?_length {negative : Bool} {cs behind : List Char} {t : NumberText}
    (h : numberText? negative cs = some (t, behind)) : behind.length < cs.length := by
  obtain ⟨⟨whole, r₁⟩, hw, h⟩ := Option.bind_eq_some_iff.1 h
  obtain ⟨⟨fraction, r₂⟩, hf, h⟩ := Option.bind_eq_some_iff.1 h
  obtain ⟨⟨exponent, r₃⟩, he, h⟩ := Option.map_eq_some_iff.1 h
  simp only [Prod.mk.injEq] at h
  have := wholeDigits?_length hw
  have := fraction?_length hf
  have := exponent?_length he
  simp only [← h.2] at *
  omega

theorem next?_length {cs behind : List Char} {t : JsonToken}
    (h : next? cs = some (t, behind)) : behind.length < cs.length := by
  have number {cs : List Char} (h : number? cs = some (t, behind)) : behind.length < cs.length := by
    obtain ⟨⟨n, r⟩, found, h⟩ := Option.map_eq_some_iff.1 h
    simp only [Prod.mk.injEq] at h
    rw [← h.2]
    split at found
    · have := numberText?_length found
      simp only [List.length_cons]
      omega
    · exact numberText?_length found
  unfold next? at h
  split at h
  case h_11 rest =>
    obtain ⟨⟨parts, r⟩, found, h⟩ := Option.map_eq_some_iff.1 h
    simp only [Prod.mk.injEq] at h
    have := stringParts?_length found
    simp only [List.length_cons, ← h.2]
    omega
  case h_12 => exact number h
  case h_1 => cases h
  all_goals
    simp only [Option.some.injEq, Prod.mk.injEq] at h
    simp only [List.length_cons, ← h.2]
    omega

/-- The white space of JSON. -/
def isSpace (c : Char) : Bool := c == ' ' || c == '\t' || c == '\r' || c == '\n'

/-- Cuts a text into tokens, up to its end or to where it is broken. -/
def scan : List Char → List JsonToken
  | [] => []
  | c :: cs =>
    if isSpace c then scan cs
    else
      match _found : next? (c :: cs) with
      | some (t, rest) => t :: scan rest
      | none => [broken]
termination_by cs => cs.length
decreasing_by
  · simp
  · exact next?_length _found

end JsonToken

end MailMerge
