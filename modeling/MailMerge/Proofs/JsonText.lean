import MailMerge.Json.Print
import MailMerge.Json.Shape
/-!
JSON text that is read back. Printing cuts into the tokens of a value, and the tokens are read as
its tree, whatever stands around the value. What the numbers in it ask for is said once, by
`JsonNumber.Rereads`.
-/

set_option autoImplicit false

namespace MailMerge

namespace JsonToken

theorem stringParts?_unit {n : Nat} (small : n < 0x20) (rest : List Char) :
    stringParts? ('\\' :: 'u' :: (Text.hexDigits 4 n ++ rest)) =
      (stringParts? rest).map fun found => (.unit n :: found.1, found.2) := by
  have value := Text.hexDigitsValue?_hexDigits 4 n
  rw [Nat.mod_eq_of_lt (by simp only [Nat.pow_eq]; omega)] at value
  simp only [Text.hexDigits, List.nil_append, List.cons_append] at value ⊢
  rw [stringParts?, value]
  cases stringParts? rest <;> rfl

theorem joinParts?_unit {n : Nat} (small : n < 0x20) (parts : List Part) :
    joinParts? (.unit n :: parts) = (joinParts? parts).map (Char.ofNat n :: ·) := by
  have notHigh : ¬(0xD800 ≤ n ∧ n < 0xDC00) := by omega
  have notLow : ¬(0xDC00 ≤ n ∧ n < 0xE000) := by omega
  rw [joinParts?.eq_def]
  simp only [notHigh, notLow, ↓reduceIte]

/-- A character is read back from the way it is written in a string. -/
theorem stringParts?_escapeChar (c : Char) :
    ∃ part, (∀ parts, joinParts? (part :: parts) = (joinParts? parts).map (c :: ·)) ∧
      ∀ rest, stringParts? (Json.escapeChar c ++ rest) =
        (stringParts? rest).map fun found => (part :: found.1, found.2) := by
  have short {e : Char} (escape : shortEscape? e = some c) (notUnit : e ≠ 'u') (rest : List Char) :
      stringParts? ('\\' :: e :: rest) =
        (stringParts? rest).map fun found => (.char c :: found.1, found.2) := by
    rw [stringParts?, escape]
    · cases stringParts? rest <;> rfl
    · intro a b c d rest same
      exact absurd same notUnit
  unfold Json.escapeChar
  split
  case h_8 notQuote notBackslash _ _ _ _ _ =>
    split
    · next control =>
        refine ⟨.unit c.toNat, fun parts => ?_, fun rest => ?_⟩
        · rw [joinParts?_unit control, Char.ofNat_toNat]
        · exact stringParts?_unit control rest
    · next plain =>
        refine ⟨.char c, fun parts => rfl, fun rest => ?_⟩
        have ordinary : ¬(c.toNat < 0x20 ∨ c = '\\') := by
          rintro (control | backslash)
          · exact plain control
          · exact notBackslash backslash
        rw [List.singleton_append, stringParts?, if_neg ordinary]
        · exact notQuote
        · exact fun _ _ _ _ _ backslash => absurd backslash notBackslash
        · exact fun _ _ backslash => absurd backslash notBackslash
  all_goals exact ⟨.char _, fun parts => rfl, short rfl (by decide)⟩

theorem stringParts?_escaped (cs rest : List Char) :
    ∃ parts, joinParts? parts = some cs ∧
      stringParts? (cs.flatMap Json.escapeChar ++ '"' :: rest) = some (parts, rest) := by
  induction cs with
  | nil => exact ⟨[], rfl, rfl⟩
  | cons c cs ih =>
      obtain ⟨parts, joined, read⟩ := ih
      obtain ⟨part, join, step⟩ := stringParts?_escapeChar c
      refine ⟨part :: parts, ?_, ?_⟩
      · rw [join, joined, Option.map_some]
      · rw [List.flatMap_cons, List.append_assoc, step, read, Option.map_some]

theorem next?_quoted (s : String) (rest : List Char) :
    next? (Json.quoted s ++ rest) = some (.string (some s), rest) := by
  obtain ⟨parts, joined, read⟩ := stringParts?_escaped s.toList rest
  rw [Json.quoted, List.cons_append, List.append_assoc, List.singleton_append, next?, read]
  simp [joined]

theorem scan_of_next? {cs rest : List Char} {t : JsonToken} (token : next? cs = some (t, rest))
    (solid : ∀ c ∈ cs.head?, isSpace c = false) : scan cs = t :: scan rest := by
  cases cs with
  | nil => cases token
  | cons c cs =>
      have dark : isSpace c = false := solid c rfl
      rw [scan, dark, if_neg Bool.false_ne_true]
      split
      · next found =>
          rw [token] at found
          cases found
          rfl
      · next absent =>
          rw [token] at absent
          cases absent

theorem scan_quoted (s : String) (rest : List Char) :
    scan (Json.quoted s ++ rest) = .string (some s) :: scan rest := by
  apply scan_of_next? (next?_quoted s rest)
  rintro c ⟨⟩
  decide

/-- What can stand behind a value: a mark, or the next line. -/
def Ends (rest : List Char) : Prop := ∀ c ∈ rest.head?, c = ',' ∨ c = ']' ∨ c = '\x7d' ∨ c = '\n'

end JsonToken

/-- A number that is read as it is written. -/
def JsonNumber.Rereads (n : JsonNumber) : Prop :=
  ∀ rest, JsonToken.Ends rest →
    JsonToken.scan (Json.numberChars n ++ rest) = .number (some n) :: JsonToken.scan rest

namespace Json

mutual

/-- The tokens of a value. -/
def tokens : Json → List JsonToken
  | null => [.null]
  | bool b => [.bool b]
  | number n => [.number (some n)]
  | string s => [.string (some s)]
  | array items => .openArray :: itemsTokens items
  | object members => .openObject :: membersTokens members

/-- The tokens from the first item of an array to its end. -/
def itemsTokens : List Json → List JsonToken
  | [] => [.closeArray]
  | [item] => tokens item ++ [.closeArray]
  | item :: items => tokens item ++ .comma :: itemsTokens items

/-- The tokens from the first member of an object to its end. -/
def membersTokens : List (String × Json) → List JsonToken
  | [] => [.closeObject]
  | [(name, value)] => .string (some name) :: .colon :: (tokens value ++ [.closeObject])
  | (name, value) :: members =>
    .string (some name) :: .colon :: (tokens value ++ .comma :: membersTokens members)

end

mutual

/-- A value with so many arrays and objects within each other at most, whose numbers are read as
they are written. -/
def Readable : Json → Nat → Prop
  | number n, _ => n.Rereads
  | array _, 0 => False
  | array items, depth + 1 => ItemsReadable items depth
  | object _, 0 => False
  | object members, depth + 1 => MembersReadable members depth
  | _, _ => True

def ItemsReadable : List Json → Nat → Prop
  | [], _ => True
  | item :: items, depth => item.Readable depth ∧ ItemsReadable items depth

def MembersReadable : List (String × Json) → Nat → Prop
  | [], _ => True
  | (_, value) :: members, depth => value.Readable depth ∧ MembersReadable members depth

end

section Scan

open JsonToken (scan Ends)

theorem scan_mark {mark : Char} {t : JsonToken} (rest : List Char)
    (token : ∀ cs, JsonToken.next? (mark :: cs) = some (t, cs))
    (solid : JsonToken.isSpace mark = false) : scan (mark :: rest) = t :: scan rest := by
  apply JsonToken.scan_of_next? (token rest)
  rintro c ⟨⟩
  exact solid

theorem scan_closeArray (rest : List Char) : scan (']' :: rest) = .closeArray :: scan rest :=
  scan_mark rest (fun _ => rfl) rfl

theorem scan_closeObject (rest : List Char) : scan ('\x7d' :: rest) = .closeObject :: scan rest :=
  scan_mark rest (fun _ => rfl) rfl

theorem scan_comma (rest : List Char) : scan (',' :: rest) = .comma :: scan rest :=
  scan_mark rest (fun _ => rfl) rfl

theorem scan_colon (rest : List Char) : scan (':' :: rest) = .colon :: scan rest :=
  scan_mark rest (fun _ => rfl) rfl

theorem ends_comma (rest : List Char) : Ends (',' :: rest) := by
  rintro c ⟨⟩
  exact Or.inl rfl

theorem ends_closeArray (rest : List Char) : Ends (']' :: rest) := by
  rintro c ⟨⟩
  exact Or.inr (Or.inl rfl)

theorem ends_closeObject (rest : List Char) : Ends ('\x7d' :: rest) := by
  rintro c ⟨⟩
  exact Or.inr (Or.inr (Or.inl rfl))

mutual

/-- The text of a value is cut into its tokens, whatever follows it. -/
theorem scan_chars (j : Json) {depth : Nat} (readable : j.Readable depth) {rest : List Char}
    (ends : Ends rest) : scan (chars j ++ rest) = tokens j ++ scan rest := by
  cases j with
  | null => exact JsonToken.scan_of_next? rfl (by rintro c ⟨⟩; rfl)
  | bool b =>
      cases b
      · exact JsonToken.scan_of_next? rfl (by rintro c ⟨⟩; rfl)
      · exact JsonToken.scan_of_next? rfl (by rintro c ⟨⟩; rfl)
  | number n => exact readable rest ends
  | string s => exact JsonToken.scan_quoted s rest
  | array items =>
      cases depth with
      | zero => exact readable.elim
      | succ depth =>
          rw [chars, tokens, List.cons_append, List.cons_append,
            ← scan_itemsChars items readable rest]
          exact scan_mark _ (fun _ => rfl) rfl
  | object members =>
      cases depth with
      | zero => exact readable.elim
      | succ depth =>
          rw [chars, tokens, List.cons_append, List.cons_append,
            ← scan_membersChars members readable rest]
          exact scan_mark _ (fun _ => rfl) rfl

theorem scan_itemsChars (items : List Json) {depth : Nat} (readable : ItemsReadable items depth)
    (rest : List Char) : scan (itemsChars items ++ rest) = itemsTokens items ++ scan rest := by
  match items, readable with
  | [], _ => exact scan_closeArray rest
  | [item], readable =>
      rw [itemsChars, itemsTokens, List.append_assoc, List.append_assoc, List.singleton_append,
        scan_chars item readable.1 (ends_closeArray _), scan_closeArray, List.singleton_append]
  | item :: next :: items, readable =>
      rw [itemsChars, itemsTokens, List.append_assoc, List.append_assoc, List.cons_append,
        List.cons_append, scan_chars item readable.1 (ends_comma _), scan_comma,
        scan_itemsChars (next :: items) readable.2 rest]
      · exact fun h => by cases h
      · exact fun h => by cases h

theorem scan_membersChars (members : List (String × Json)) {depth : Nat}
    (readable : MembersReadable members depth) (rest : List Char) :
    scan (membersChars members ++ rest) = membersTokens members ++ scan rest := by
  match members, readable with
  | [], _ => exact scan_closeObject rest
  | [(name, value)], readable =>
      rw [membersChars, membersTokens, List.append_assoc, JsonToken.scan_quoted, List.cons_append,
        scan_colon, List.append_assoc, List.singleton_append,
        scan_chars value readable.1 (ends_closeObject _), scan_closeObject]
      simp
  | (name, value) :: next :: members, readable =>
      rw [membersChars, membersTokens, List.append_assoc, JsonToken.scan_quoted, List.cons_append,
        scan_colon, List.append_assoc, List.cons_append, scan_chars value readable.1 (ends_comma _),
        scan_comma, scan_membersChars (next :: members) readable.2 rest]
      · simp
      · exact fun h => by cases h
      · exact fun h => by cases h

end

end Scan

section Read

open JsonDocument (Open readValue readBehind closed maxDepth)

theorem closed_of_room (stack : List Open) (t : JsonTree) (room : stack.length < maxDepth) :
    closed stack t = t := by
  have none : stack.drop (maxDepth - 1) = [] := List.drop_eq_nil_of_le (by omega)
  rw [closed, none]
  rfl

theorem readValue_openArray (stack : List Open) {t : JsonToken} (ts : List JsonToken)
    (other : t ≠ .closeArray) :
    readValue stack (.openArray :: t :: ts) = readValue (.array [] :: stack) (t :: ts) := by
  cases t with
  | closeArray => exact absurd rfl other
  | _ => rfl

theorem readBehind_item (stack : List Open) (done : List JsonTree) (t : JsonTree)
    (ts : List JsonToken) :
    readBehind (.array done :: stack) t (.comma :: ts) =
      readValue (.array (t :: done) :: stack) ts := rfl

theorem readBehind_lastItem (stack : List Open) (done : List JsonTree) (t : JsonTree)
    (ts : List JsonToken) :
    readBehind (.array done :: stack) t (.closeArray :: ts) =
      readBehind stack (closed stack (.array (t :: done).reverse)) ts := rfl

theorem readBehind_member (stack : List Open) (done : List (Option String × JsonTree))
    (name next : Option String) (t : JsonTree) (ts : List JsonToken) :
    readBehind (.object done name :: stack) t (.comma :: .string next :: .colon :: ts) =
      readValue (.object ((name, t) :: done) next :: stack) ts := rfl

theorem readBehind_lastMember (stack : List Open) (done : List (Option String × JsonTree))
    (name : Option String) (t : JsonTree) (ts : List JsonToken) :
    readBehind (.object done name :: stack) t (.closeObject :: ts) =
      readBehind stack (closed stack (.object ((name, t) :: done).reverse)) ts := rfl

theorem tokens_head (j : Json) : ∃ t ts, tokens j = t :: ts ∧ t ≠ .closeArray := by
  cases j <;> exact ⟨_, _, rfl, nofun⟩

theorem itemsTokens_head {items : List Json} (present : items ≠ []) :
    ∃ t ts, itemsTokens items = t :: ts ∧ t ≠ .closeArray := by
  match items, present with
  | [item], _ =>
      obtain ⟨t, ts, first, other⟩ := tokens_head item
      exact ⟨t, _, by rw [itemsTokens, first, List.cons_append], other⟩
  | item :: next :: items, _ =>
      obtain ⟨t, ts, first, other⟩ := tokens_head item
      refine ⟨t, ts ++ .comma :: itemsTokens (next :: items), ?_, other⟩
      rw [itemsTokens, first, List.cons_append]
      exact nofun

mutual

/-- The tokens of a value are read as the tree of the value, wherever it stands. -/
theorem readValue_tokens (j : Json) {depth : Nat} (readable : j.Readable depth)
    (stack : List Open) (fits : stack.length + depth ≤ maxDepth) (ts : List JsonToken) :
    readValue stack (tokens j ++ ts) = readBehind stack j.tree ts := by
  cases j with
  | null => rfl
  | bool b => rfl
  | number n => rfl
  | string s => rfl
  | array items =>
      cases depth with
      | zero => exact readable.elim
      | succ depth =>
          have room := closed_of_room stack (.array (trees items)) (by omega)
          by_cases none : items = []
          · subst none
            have empty : readValue stack (.openArray :: .closeArray :: ts) =
              readBehind stack (closed stack (.array [])) ts := rfl
            rw [trees] at room
            rw [tokens, itemsTokens, tree, trees, ← room]
            exact empty
          · obtain ⟨t, rest, first, other⟩ := itemsTokens_head none
            have inner := readValue_itemsTokens items readable none stack [] (by omega) ts
            rw [List.reverse_nil, List.nil_append, room, first] at inner
            rw [tokens, first, List.cons_append, List.cons_append, readValue_openArray _ _ other]
            exact inner
  | object members =>
      cases depth with
      | zero => exact readable.elim
      | succ depth =>
          have room := closed_of_room stack (.object (memberTrees members)) (by omega)
          by_cases none : members = []
          · subst none
            have empty : readValue stack (.openObject :: .closeObject :: ts) =
              readBehind stack (closed stack (.object [])) ts := rfl
            rw [memberTrees] at room
            rw [tokens, membersTokens, tree, memberTrees, ← room]
            exact empty
          · obtain ⟨name, rest, first, read⟩ :=
              readValue_membersTokens members readable none stack (by omega) ts
            have inner := read []
            rw [List.reverse_nil, List.nil_append, room] at inner
            rw [tokens, first, tree, ← inner]
            rfl

/-- The items of an array are read behind those that have been read. -/
theorem readValue_itemsTokens (items : List Json) {depth : Nat}
    (readable : ItemsReadable items depth) (present : items ≠ []) (stack : List Open)
    (done : List JsonTree) (fits : stack.length + depth < maxDepth) (ts : List JsonToken) :
    readValue (.array done :: stack) (itemsTokens items ++ ts) =
      readBehind stack (closed stack (.array (done.reverse ++ trees items))) ts := by
  have deeper : (Open.array done :: stack).length + depth ≤ maxDepth := by
    rw [List.length_cons]
    omega
  match items, readable, present with
  | [item], readable, _ =>
      rw [itemsTokens, List.append_assoc, List.singleton_append,
        readValue_tokens item readable.1 _ deeper, readBehind_lastItem, List.reverse_cons]
      rfl
  | item :: next :: items, readable, _ =>
      have rest := readValue_itemsTokens (next :: items) readable.2 nofun stack (item.tree :: done)
        fits ts
      rw [List.reverse_cons, List.append_assoc] at rest
      rw [itemsTokens, List.append_assoc, List.cons_append,
        readValue_tokens item readable.1 _ deeper, readBehind_item]
      · exact rest
      · exact nofun

/-- The members of an object are read behind those that have been read. -/
theorem readValue_membersTokens (members : List (String × Json)) {depth : Nat}
    (readable : MembersReadable members depth) (present : members ≠ []) (stack : List Open)
    (fits : stack.length + depth < maxDepth) (ts : List JsonToken) :
    ∃ name rest, membersTokens members = .string (some name) :: .colon :: rest ∧
      ∀ done, readValue (.object done (some name) :: stack) (rest ++ ts) =
        readBehind stack (closed stack (.object (done.reverse ++ memberTrees members))) ts := by
  have deeper (o : Open) : (o :: stack).length + depth ≤ maxDepth := by
    rw [List.length_cons]
    omega
  match members, readable, present with
  | [(name, value)], readable, _ =>
      refine ⟨name, _, rfl, fun done => ?_⟩
      rw [List.append_assoc, List.singleton_append, readValue_tokens value readable.1 _ (deeper _),
        readBehind_lastMember, List.reverse_cons]
      rfl
  | (name, value) :: next :: members, readable, _ =>
      obtain ⟨other, rest, first, read⟩ :=
        readValue_membersTokens (next :: members) readable.2 nofun stack fits ts
      refine ⟨name, tokens value ++ .comma :: membersTokens (next :: members), ?_, fun done => ?_⟩
      · rw [membersTokens]
        exact nofun
      · have behind := read ((some name, value.tree) :: done)
        rw [List.reverse_cons, List.append_assoc] at behind
        rw [List.append_assoc, readValue_tokens value readable.1 _ (deeper _), first,
          List.cons_append, List.cons_append, List.cons_append, readBehind_member]
        exact behind

end

/-- Any text that is cut into the tokens of a value is read as the tree of the value. -/
theorem ofText_of_scan {j : Json} (readable : j.Readable maxDepth) {s : String}
    (cut : JsonToken.scan s.toList = j.tokens) : JsonDocument.ofText s = ⟨j.tree, true⟩ := by
  have read := readValue_tokens j readable [] (by simp) []
  rw [List.append_nil] at read
  rw [JsonDocument.ofText, cut, read]
  rfl

/-- Reading the text of a value gives the tree of the value. -/
theorem ofText_text {j : Json} (readable : j.Readable maxDepth) :
    JsonDocument.ofText j.text = ⟨j.tree, true⟩ := by
  have whole : JsonToken.scan (j.chars ++ []) = j.tokens ++ JsonToken.scan [] :=
    scan_chars j readable nofun
  rw [List.append_nil, JsonToken.scan, List.append_nil] at whole
  apply ofText_of_scan readable
  rwa [text, String.toList_ofList]

theorem readDocument_of_ofText {α : Type} {read : Reader α} {a : α} {s : String} {t : JsonTree}
    (document : JsonDocument.ofText s = ⟨t, true⟩) (done : read t = .ok a) :
    readDocument read s = .ok a := by
  rw [readDocument, document]
  simp only [done, ↓reduceIte]

end Read

end Json

end MailMerge
