import MailMerge.Proofs.Extraction
import MailMerge.Proofs.JsonLexemes
import MailMerge.Proofs.Scanning
/-!
Extraction and the layout of a JSON text. A structure is searched as text, so a string that leaves a
pair of braces open may be closed by the marks behind it, or not, as the layout has it: then the
candidate reaches beyond the string and is no short code. There is no other way in which white space
between the tokens matters.
-/

set_option autoImplicit false

namespace MailMerge

open JsonToken (Orderly isSpace lexemes)
open Mark (LeavesOpen Across Apart)

/-- A text that consists of lexemes with white space around them. -/
inductive Layout : List Lexeme → List Char → Prop where
  | done : Layout [] []
  | space {ls : List Lexeme} {c : Char} {cs : List Char} (blank : isSpace c = true)
      (rest : Layout ls cs) : Layout ls (c :: cs)
  | lexeme {l : Lexeme} {ls : List Lexeme} {cs : List Char} (written : l.WellWritten)
      (rest : Layout ls cs) : Layout (l :: ls) (l.chars ++ cs)

theorem layout_lexemes (cs : List Char) : Layout (lexemes cs) cs := by
  fun_induction lexemes cs with
  | case1 => exact .done
  | case2 c cs blank ih => exact .space blank ih
  | case3 c cs dark t rest read ih =>
      obtain ⟨written, parts, wellWritten⟩ := JsonToken.next?_written read
      have taken : (c :: cs).take ((c :: cs).length - rest.length) = written := by
        rw [parts, List.length_append, Nat.add_sub_cancel, List.take_left]
      rw [taken, parts]
      exact .lexeme wellWritten ih
  | case4 c cs dark absent =>
      have alone : Layout [⟨.broken, c :: cs⟩] ((c :: cs) ++ []) := .lexeme trivial .done
      rwa [List.append_nil] at alone

namespace Lexeme

variable {l : Lexeme}

/-- Only strings have two opening braces. -/
theorem string_of_braces (written : l.WellWritten) (sound : l.token ≠ .broken)
    (braces : ['{', '{'] <:+: l.chars) : ∃ s, l.token = .string s := by
  have brace : '{' ∈ l.chars := braces.subset List.mem_cons_self
  rw [WellWritten] at written
  split at written
  · next s string => exact ⟨s, string⟩
  · rw [written] at braces
    exact absurd braces.length_le (by decide)
  · next broken => exact absurd broken sound
  · exact absurd brace written.2

theorem string_of_open (written : l.WellWritten) (sound : l.token ≠ .broken)
    (leaves : LeavesOpen l.chars) : ∃ s, l.token = .string s := by
  obtain ⟨tail, stands, opening, -⟩ := leaves
  exact string_of_braces written sound (opening.isInfix.trans stands.isInfix)

theorem ends_in_quote (written : l.WellWritten) (string : ∃ s, l.token = .string s) :
    l.chars.getLast? = some '"' := by
  obtain ⟨s, string⟩ := string
  rw [WellWritten, string] at written
  obtain ⟨inner, same⟩ := written
  rw [same, ← List.cons_append, List.getLast?_concat]

theorem opens_of_getLast? (written : l.WellWritten) (sound : l.token ≠ .broken)
    (last : l.chars.getLast? = some '{') : l.token = .openObject := by
  have brace := List.mem_of_getLast? last
  rw [WellWritten] at written
  split at written
  · next s string =>
      obtain ⟨inner, same⟩ := written
      rw [same, ← List.cons_append, List.getLast?_concat] at last
      cases last
  · next opens => exact opens
  · next broken => exact absurd broken sound
  · exact absurd brace written.2

end Lexeme

namespace Layout

variable {ls : List Lexeme} {cs : List Char}

theorem orderly_tail {l : Lexeme} (orderly : Orderly ((l :: ls).map Lexeme.token)) :
    Orderly (ls.map Lexeme.token) :=
  ⟨orderly.apart.tail, fun inside => orderly.sound (List.mem_cons_of_mem _ inside)⟩

theorem sound_head {l : Lexeme} (orderly : Orderly ((l :: ls).map Lexeme.token)) :
    l.token ≠ .broken := by
  intro broken
  exact orderly.sound (by rw [List.map_cons, broken]; exact List.mem_cons_self)

/-- An opening brace at the start of a text opens an object. -/
theorem opens_of_head? (layout : Layout ls cs) (orderly : Orderly (ls.map Lexeme.token))
    (head : cs.head? = some '{') : (ls.map Lexeme.token).head? = some .openObject := by
  cases layout with
  | done => cases head
  | space blank rest =>
      cases head
      cases blank
  | @lexeme l ls cs written rest =>
      rw [Lexeme.WellWritten] at written
      rw [List.map_cons, List.head?_cons]
      split at written
      · next s string =>
          obtain ⟨inner, same⟩ := written
          rw [same] at head
          cases head
      · next opens => rw [opens]
      · next broken => exact absurd broken (sound_head orderly)
      · obtain ⟨c, more, same⟩ := List.exists_cons_of_ne_nil written.1
        rw [same] at head
        cases head
        exact absurd (by rw [same]; exact List.mem_cons_self) written.2

/-- Two opening braces side by side stand in one lexeme. -/
theorem not_across {l : Lexeme} (written : l.WellWritten) (layout : Layout ls cs)
    (orderly : Orderly ((l :: ls).map Lexeme.token)) : ¬Across '{' l.chars cs := by
  rintro ⟨last, head⟩
  have next := layout.opens_of_head? (orderly_tail orderly) head
  refine (List.isChain_cons.mp orderly.apart).1 _ next ?_ rfl
  exact Lexeme.opens_of_getLast? written (sound_head orderly) last

/-- No part of a short code stands in a lexeme and the rest behind it: it would start with a brace,
and go on behind a quotation mark or with a second brace. -/
theorem not_straddled {l : Lexeme} (written : l.WellWritten) (layout : Layout ls cs)
    (orderly : Orderly ((l :: ls).map Lexeme.token)) {code : ShortCode} {first second : List Char}
    (parts : code.text.toList = first ++ second) (left : first <:+ l.chars) (right : second <+: cs)
    (starts : first ≠ []) (goesOn : second ≠ []) : False := by
  have apart := not_across written layout orderly
  have opening : code.text.toList = '{' :: '{' :: (code.identifier.toList ++ ['\x7d', '\x7d']) := by
    rw [ShortCode.text, String.toList_ofList, ShortCode.inBraces]
  obtain ⟨c, first, rfl⟩ := List.exists_cons_of_ne_nil starts
  obtain ⟨rfl, rest⟩ := List.cons.inj (opening.symm.trans parts)
  have brace : '{' ∈ l.chars := left.subset List.mem_cons_self
  rw [Lexeme.WellWritten] at written
  split at written
  · next s string =>
      -- The part within a string would end with its quotation mark.
      obtain ⟨inner, same⟩ := written
      obtain ⟨before, whole⟩ := left
      have last : ('{' :: first).getLast? = some '"' := by
        have joined := congrArg List.getLast? (whole.trans same)
        rw [← List.cons_append, List.getLast?_concat, List.getLast?_append] at joined
        simpa using joined
      have quote : '"' ∈ code.text.toList := by
        rw [parts]
        exact List.mem_append_left _ (List.mem_of_getLast? last)
      rcases ShortCode.mem_text quote with same | same | same
      · cases same
      · cases same
      · exact absurd same (by decide)
  · next opens =>
      -- Behind the brace that opens an object the second brace of the short code would open another.
      rw [written] at left
      obtain rfl : first = [] := by
        have short := left.length_le
        rw [List.length_cons, List.length_singleton] at short
        exact List.eq_nil_of_length_eq_zero (by omega)
      obtain ⟨d, second, rfl⟩ := List.exists_cons_of_ne_nil goesOn
      obtain ⟨rfl, -⟩ := List.cons.inj rest
      obtain ⟨behind, rfl⟩ := right
      exact apart ⟨by rw [written]; rfl, rfl⟩
  · next broken => exact sound_head orderly broken
  · exact written.2 brace

/-- A short code in an orderly text stands in a string. -/
theorem code_within (layout : Layout ls cs) (orderly : Orderly (ls.map Lexeme.token))
    (code : ShortCode) (occurs : code.text.toList <:+: cs) :
    ∃ l ∈ ls, (∃ s, l.token = .string s) ∧ code.text.toList <:+: l.chars := by
  have opening : ['{', '{'] <+: code.text.toList := by
    rw [ShortCode.text, String.toList_ofList]
    exact ⟨_, rfl⟩
  induction layout with
  | done =>
      rw [List.infix_nil.mp occurs] at opening
      exact absurd opening.length_le (by decide)
  | @space ls c cs blank rest ih =>
      rcases List.infix_cons_iff.mp occurs with here | behind
      · obtain ⟨more, same⟩ := opening.trans here
        obtain ⟨rfl, -⟩ := List.cons.inj same
        cases blank
      · exact ih orderly behind
  | @lexeme l ls cs written rest ih =>
      have within (inside : code.text.toList <:+: l.chars) :
          ∃ l' ∈ l :: ls, (∃ s, l'.token = .string s) ∧ code.text.toList <:+: l'.chars := by
        have string := Lexeme.string_of_braces written (sound_head orderly)
          (opening.isInfix.trans inside)
        exact ⟨l, List.mem_cons_self, string, inside⟩
      have later (inside : code.text.toList <:+: cs) :
          ∃ l' ∈ l :: ls, (∃ s, l'.token = .string s) ∧ code.text.toList <:+: l'.chars := by
        obtain ⟨l', behind, found⟩ := ih (orderly_tail orderly) inside
        exact ⟨l', List.mem_cons_of_mem _ behind, found⟩
      rcases List.infix_append_iff.mp occurs with inside | inside | ⟨first, second, parts, left, right⟩
      · exact within inside
      · exact later inside
      · by_cases starts : first = []
        · rw [starts, List.nil_append] at parts
          exact later (parts ▸ right.isInfix)
        · by_cases goesOn : second = []
          · rw [goesOn, List.append_nil] at parts
            exact within (parts ▸ left.isInfix)
          · exact (not_straddled written rest orderly parts left right starts goesOn).elim

end Layout

/-- The bodies of the candidates of a lexeme. -/
def Lexeme.bodies (l : Lexeme) : List (List Char) := (Mark.scan l.chars).filterMap Mark.body?

/-- A candidate starts at a pair of braces that a string leaves open and ends behind the string: it
holds all the rest of the string, with the closing quotation mark. -/
structure Lexeme.Overrun (l : Lexeme) (body : List Char) : Prop where
  string : ∃ s, l.token = .string s
  leaves : LeavesOpen l.chars
  parts : ∃ before inner more, l.chars = before ++ '{' :: '{' :: inner ∧
    inner.getLast? = some '"' ∧ body = inner ++ more

theorem Lexeme.Overrun.quote {l : Lexeme} {body : List Char} (beyond : l.Overrun body) :
    '"' ∈ body := by
  obtain ⟨-, inner, more, -, last, rfl⟩ := beyond.parts
  exact List.mem_append_left more (List.mem_of_getLast? last)

/-- One of the candidates reaches beyond a string, and those before it stand in lexemes. -/
def Leaks (ls : List Lexeme) (found : List (List Char)) : Prop :=
  ∃ l ∈ ls, ∃ front body back, l.Overrun body ∧ found = front ++ body :: back ∧
    front <+: ls.flatMap Lexeme.bodies

theorem Leaks.cons {ls : List Lexeme} {found : List (List Char)} (leaks : Leaks ls found)
    (l : Lexeme) : Leaks (l :: ls) (l.bodies ++ found) := by
  obtain ⟨other, inside, front, body, back, beyond, rfl, early⟩ := leaks
  refine ⟨other, List.mem_cons_of_mem _ inside, l.bodies ++ front, body, back, beyond, ?_, ?_⟩
  · rw [List.append_assoc]
  · rw [List.flatMap_cons]
    exact (List.prefix_append_right_inj _).mpr early

namespace Layout

variable {ls : List Lexeme} {cs : List Char}

/-- A pair that a string leaves open and the text behind closes is a candidate. -/
theorem leaks_of_closing {l : Lexeme} (written : l.WellWritten) (sound : l.token ≠ .broken)
    (leaves : LeavesOpen l.chars) {body after : List Char}
    (closes : Mark.closing? cs = some (body, after)) :
    Leaks (l :: ls) ((Mark.scan (l.chars ++ cs)).filterMap Mark.body?) := by
  have string := Lexeme.string_of_open written sound leaves
  have last := Lexeme.ends_in_quote written string
  obtain ⟨before, inner, bridges⟩ := Mark.bridges_of_open leaves closes fun across => by
    rw [Across, last] at across
    cases across.1
  have alone : l.bodies = (Mark.scan before).filterMap Mark.body? := by
    have plain : (('{' :: '{' :: inner).map Mark.plain).filterMap Mark.body? = [] := by
      rw [List.filterMap_map]
      exact List.filterMap_eq_nil_iff.mpr fun _ _ => rfl
    rw [Lexeme.bodies, bridges.alone, List.filterMap_append, plain, List.append_nil]
  have beyond : l.Overrun (inner ++ body) := by
    refine ⟨string, leaves, before, inner, body, bridges.parts, ?_, rfl⟩
    rw [bridges.parts, List.getLast?_append] at last
    cases inner with
    | nil => cases last
    | cons c inner => simpa using last
  refine ⟨l, List.mem_cons_self, l.bodies, inner ++ body,
    (Mark.scan after).filterMap Mark.body?, beyond, ?_, ?_⟩
  · rw [bridges.together, List.filterMap_append, alone]
    rfl
  · rw [List.flatMap_cons]
    exact List.prefix_append _ _

/-- The candidates of an orderly text are those of its lexemes, unless one reaches beyond a string. -/
theorem candidates_or_leaks (layout : Layout ls cs) (orderly : Orderly (ls.map Lexeme.token)) :
    (Mark.scan cs).filterMap Mark.body? = ls.flatMap Lexeme.bodies ∨
      Leaks ls ((Mark.scan cs).filterMap Mark.body?) := by
  induction layout with
  | done =>
      rw [Mark.scan]
      exact Or.inl rfl
  | @space ls c cs blank rest ih =>
      rw [Mark.scan_plain]
      · exact ih orderly
      · rintro rfl
        cases blank
  | @lexeme l ls cs written rest ih =>
      have sound := sound_head orderly
      have single := not_across written rest orderly
      have together (apart : Apart l.chars cs) :
          (Mark.scan (l.chars ++ cs)).filterMap Mark.body? =
            l.bodies ++ (Mark.scan cs).filterMap Mark.body? := by
        rw [Mark.scan_append_of_apart apart, List.filterMap_append, Lexeme.bodies]
      have goesOn (apart : Apart l.chars cs) :
          (Mark.scan (l.chars ++ cs)).filterMap Mark.body? = (l :: ls).flatMap Lexeme.bodies ∨
            Leaks (l :: ls) ((Mark.scan (l.chars ++ cs)).filterMap Mark.body?) := by
        rw [together apart, List.flatMap_cons]
        rcases ih (orderly_tail orderly) with same | leaks
        · exact Or.inl (by rw [same])
        · exact Or.inr (leaks.cons l)
      -- Only a string that leaves a pair open can reach into what stands behind it, and only if that
      -- closes the line.
      by_cases leaves : LeavesOpen l.chars
      · cases closes : Mark.closing? cs with
        | none =>
            refine goesOn ⟨single, fun _ => ⟨closes, fun across => ?_⟩⟩
            have string := Lexeme.string_of_open written sound leaves
            rw [Across, Lexeme.ends_in_quote written string] at across
            cases across.1
        | some found => exact Or.inr (leaks_of_closing written sound leaves closes)
      · exact goesOn ⟨single, fun leaves' => absurd leaves' leaves⟩

end Layout

section Resolved

variable {a b : String} {accepted : List MergeTag}

theorem isValid_congr (same : lexemes a.toList = lexemes b.toList) :
    Json.isValid a = Json.isValid b := by
  have tokens : JsonToken.scan a.toList = JsonToken.scan b.toList := by
    rw [← JsonToken.map_token_lexemes, same, JsonToken.map_token_lexemes]
  rw [Json.isValid, Json.ofText?, JsonDocument.ofText, tokens]
  rfl

theorem resolveTags_congr (valid : Json.isValid a = Json.isValid b)
    (same : candidates a = candidates b) : resolveTags a accepted = resolveTags b accepted := by
  rw [resolveTags, resolveTags, valid, referencedIdentifiers, referencedIdentifiers, same]

theorem orderly_lexemes (valid : Json.isValid a = true) :
    Orderly ((lexemes a.toList).map Lexeme.token) := by
  rw [JsonToken.map_token_lexemes]
  exact Json.orderly_of_isValid valid

theorem candidates_lexemes (valid : Json.isValid a = true) :
    candidates a = (lexemes a.toList).flatMap Lexeme.bodies ∨
      Leaks (lexemes a.toList) (candidates a) :=
  (layout_lexemes a.toList).candidates_or_leaks (orderly_lexemes valid)

theorem candidates_of_closed (valid : Json.isValid a = true)
    (closed : ∀ l ∈ lexemes a.toList, ¬LeavesOpen l.chars) :
    candidates a = (lexemes a.toList).flatMap Lexeme.bodies := by
  refine (candidates_lexemes valid).resolve_right ?_
  rintro ⟨l, inside, _, _, _, beyond, -⟩
  exact closed l inside beyond.leaves

theorem quote_ne_code {body : List Char} (quote : '"' ∈ body) (code : ShortCode) :
    code.identifier.toList ≠ body := by
  rintro rfl
  exact absurd (code.isIdentifierChar_of_mem quote) (by decide)

/-- A text that tags are resolved in has the candidates of its lexemes, all of them short codes. -/
theorem candidates_of_resolved {tags : TagSet} (resolved : resolveTags a accepted = .ok tags) :
    candidates a = (lexemes a.toList).flatMap Lexeme.bodies ∧
      ∀ body ∈ candidates a, ∃ code : ShortCode, code.identifier.toList = body := by
  obtain ⟨json, codes, candidate⟩ := readable_of_resolveTags resolved
  have read : ∀ body ∈ candidates a, ∃ code : ShortCode, code.identifier.toList = body := by
    intro body inside
    rw [candidate] at inside
    obtain ⟨code, -, same⟩ := List.mem_map.mp inside
    exact ⟨code, same⟩
  refine ⟨(candidates_lexemes json).resolve_right ?_, read⟩
  rintro ⟨l, -, front, body, back, beyond, parts, -⟩
  obtain ⟨code, same⟩ := read body (by rw [parts]; simp)
  exact quote_ne_code beyond.quote code same

/-- Where all candidates of the lexemes are short codes, the one that reaches beyond a string is the
first that is none. -/
theorem malformed_of_leaks {ls : List Lexeme} {e : ReferenceError}
    (codes : ∀ body ∈ ls.flatMap Lexeme.bodies, ∃ code : ShortCode, code.identifier.toList = body)
    (leaks : Leaks ls (candidates b)) (failed : shortCodes (candidates b) = .error e) :
    ∃ l ∈ ls, ∃ body fault, l.Overrun body ∧
      e = .malformed (String.ofList (ShortCode.inBraces body)) fault := by
  obtain ⟨l, inside, front, body, back, beyond, parts, early⟩ := leaks
  refine ⟨l, inside, body, ?_⟩
  cases read : ShortCode.ofChars? (ShortCode.inBraces body) with
  | ok code =>
      exact absurd (ShortCode.ofChars?_inBraces_eq_ok.mp read) (quote_ne_code beyond.quote code)
  | error fault =>
      have first : shortCodes (candidates b) =
          .error (.malformed (String.ofList (ShortCode.inBraces body)) fault) :=
        shortCodes_eq_error.mpr ⟨front, body, back, fault, parts,
          fun other inside => codes other (early.subset inside), read, rfl⟩
      cases first.symm.trans failed
      exact ⟨fault, beyond, rfl⟩

theorem infix_of_mem_candidateTexts {text : String} (inside : text ∈ candidateTexts a) :
    text.toList <:+: a.toList := by
  obtain ⟨body, found, rfl⟩ := List.mem_map.mp inside
  obtain ⟨mark, stands, same⟩ := List.mem_filterMap.mp found
  cases mark with
  | plain c => cases same
  | candidate body =>
      cases same
      have part := List.infix_of_mem_flatten (List.mem_map_of_mem (f := Mark.chars) stands)
      rw [← List.flatMap_def, Mark.flatMap_chars_scan] at part
      rwa [String.toList_ofList]

/-- What white space between the tokens of a JSON text can do to extraction. If it succeeds on two
layouts of one document, it gives the same tags. If no string leaves a pair of braces open, all
layouts are alike. If it succeeds on one and fails on the other, some string does, and the failing one
has a candidate there that reaches beyond the string. The marks of JSON are no part of a short code:
all short codes stand in strings. -/
theorem resolveTags_layout (a b : String) (accepted : List MergeTag)
    (same : lexemes a.toList = lexemes b.toList) :
    (∀ tags more, resolveTags a accepted = .ok tags → resolveTags b accepted = .ok more →
        tags = more) ∧
      ((∀ l ∈ lexemes a.toList, ¬LeavesOpen l.chars) →
        resolveTags a accepted = resolveTags b accepted) ∧
      (∀ tags e, resolveTags a accepted = .ok tags → resolveTags b accepted = .error e →
        ∃ l ∈ lexemes a.toList, ∃ body fault, l.Overrun body ∧
          e = .malformed (String.ofList (ShortCode.inBraces body)) fault) ∧
      (Json.isValid a = true → ∀ code : ShortCode, code.text ∈ candidateTexts a →
        ∃ l ∈ lexemes a.toList, (∃ s, l.token = .string s) ∧
          code.text.toList <:+: l.chars) := by
  have valid := isValid_congr same
  refine ⟨?_, ?_, ?_, ?_⟩
  · intro tags more first second
    have found : candidates a = candidates b := by
      rw [(candidates_of_resolved first).1, (candidates_of_resolved second).1, same]
    rw [resolveTags_congr valid found, second] at first
    cases first
    rfl
  · intro closed
    by_cases json : Json.isValid a = true
    · refine resolveTags_congr valid ?_
      rw [candidates_of_closed json closed, candidates_of_closed (valid ▸ json) (same ▸ closed),
        same]
    · rw [resolveTags, resolveTags, if_neg json, if_neg (valid ▸ json)]
  · intro tags e resolved failed
    have json := (readable_of_resolveTags resolved).1
    obtain ⟨found, codes⟩ := candidates_of_resolved resolved
    rcases resolveTags_eq_error.mp failed with ⟨broken, -⟩ | ⟨json', failed'⟩
    · rw [← valid, json] at broken
      cases broken
    · rcases candidates_lexemes json' with found' | leaks
      · rw [resolveTags_congr valid (by rw [found, found', same]), failed] at resolved
        cases resolved
      · rw [← same] at leaks
        exact malformed_of_leaks (found ▸ codes) leaks failed'
  · intro json code inside
    exact (layout_lexemes a.toList).code_within (orderly_lexemes json) code
      (infix_of_mem_candidateTexts inside)

end Resolved

/-- A document whose only string leaves a pair of braces open, without white space. -/
def compactLetter : String := "\x7b\"to\":\x7b\"name\":\"{{customer}} \x7b\x7b\"\x7d\x7d"

/-- The same document with white space between the marks. -/
def spacedLetter : String := "\x7b \"to\": \x7b\n\"name\" :\"{{customer}} \x7b\x7b\" \x7d\t\x7d\n"

theorem letter_layouts :
    lexemes spacedLetter.toList = lexemes compactLetter.toList ∧
      resolveTags spacedLetter [customerTag] = .ok (Ascending.ofList [customerTag]) ∧
      resolveTags compactLetter [customerTag] =
        .error (.malformed "\x7b\x7b\"\x7d\x7d" (.badCharacter '"')) ∧
      (∃ l ∈ lexemes spacedLetter.toList, ∃ body, l.Overrun body ∧
        "\x7b\x7b\"\x7d\x7d" = String.ofList (ShortCode.inBraces body)) ∧
      (∃ l ∈ lexemes spacedLetter.toList, "{{customer}}".toList <:+: l.chars) ∧
      resolveTags "[\"{{customer}}\"]" [customerTag] =
        resolveTags " [\n\"{{customer}}\" ]" [customerTag] := by
  have same : lexemes spacedLetter.toList = lexemes compactLetter.toList := by decide +kernel
  have found : resolveTags spacedLetter [customerTag] = .ok (Ascending.ofList [customerTag]) := by
    decide +kernel
  have failed : resolveTags compactLetter [customerTag] =
      .error (.malformed "\x7b\x7b\"\x7d\x7d" (.badCharacter '"')) := by decide +kernel
  obtain ⟨-, -, split, within⟩ := resolveTags_layout spacedLetter compactLetter [customerTag] same
  obtain ⟨string, open', body, fault, beyond, malformed⟩ := split _ _ found failed
  obtain ⟨l, inside, -, stands⟩ := within (by decide +kernel) ⟨"customer", by decide⟩
    (by decide +kernel)
  refine ⟨same, found, failed, ⟨string, open', body, beyond, ?_⟩, ⟨l, inside, stands⟩, ?_⟩
  · exact (ReferenceError.malformed.inj malformed).1
  · obtain ⟨-, alike, -⟩ := resolveTags_layout "[\"{{customer}}\"]" " [\n\"{{customer}}\" ]"
      [customerTag] (by decide +kernel)
    exact alike (by decide +kernel)

/-- Without the white space extraction fails. -/
theorem letter_not_alike :
    lexemes spacedLetter.toList = lexemes compactLetter.toList ∧
      resolveTags spacedLetter [] = .ok (Ascending.ofList []) ∧
      resolveTags compactLetter [] = .error (.malformed "\x7b\x7b\"\x7d\x7d" (.badCharacter '"')) := by
  decide +kernel

end MailMerge
