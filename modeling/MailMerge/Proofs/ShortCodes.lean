import MailMerge.Proofs.Lists
import MailMerge.Tag.Reference
/-!
Short codes and where they are found. A text is read as a short code exactly if it is the text of
that short code, and an accepted tag is resolved from a structure exactly if its short code is one
of the candidates there, as long as tags are named after their short codes.
-/

set_option autoImplicit false

namespace MailMerge

namespace ShortCode

/-- The characters `A` to `Z`, `a` to `z`, `0` to `9`, `_` and `.`. -/
def IsCodeChar (c : Char) : Prop :=
  ('A' ≤ c ∧ c ≤ 'Z') ∨ ('a' ≤ c ∧ c ≤ 'z') ∨ ('0' ≤ c ∧ c ≤ '9') ∨ c = '_' ∨ c = '.'

instance : DecidablePred IsCodeChar := fun c =>
  inferInstanceAs (Decidable (('A' ≤ c ∧ c ≤ 'Z') ∨ ('a' ≤ c ∧ c ≤ 'z') ∨ ('0' ≤ c ∧ c ≤ '9') ∨
    c = '_' ∨ c = '.'))

theorem isUpper_iff {c : Char} : c.isUpper = true ↔ 'A' ≤ c ∧ c ≤ 'Z' :=
  decide_eq_true_iff

theorem isLower_iff {c : Char} : c.isLower = true ↔ 'a' ≤ c ∧ c ≤ 'z' :=
  (Bool.and_eq_true_iff).trans (and_congr decide_eq_true_iff decide_eq_true_iff)

theorem isIdentifierChar_iff {c : Char} : isIdentifierChar c = true ↔ IsCodeChar c := by
  have letter : c.isAlpha = (c.isUpper || c.isLower) := rfl
  simp only [isIdentifierChar, IsCodeChar, Char.isAlphanum, letter, Char.isDigit, isUpper_iff,
    isLower_iff, Bool.or_eq_true, Bool.and_eq_true, decide_eq_true_eq, beq_iff_eq, or_assoc,
    Char.le_def]

theorem isIdentifier_iff {body : List Char} :
    isIdentifier body = true ↔ body ≠ [] ∧ ∀ c ∈ body, isIdentifierChar c = true := by
  simp only [isIdentifier, Bool.and_eq_true, Bool.not_eq_true', List.isEmpty_eq_false_iff,
    List.all_eq_true]

theorem beforeBraces?_append (body : List Char) :
    beforeBraces? (body ++ ['\x7d', '\x7d']) = some body := by
  induction body with
  | nil => rfl
  | cons c body ih =>
      rw [List.cons_append, beforeBraces?, ih, Option.map_some]
      intro _ same
      have length := congrArg List.length same
      simp at length

theorem beforeBraces?_eq_some {cs body : List Char} (found : beforeBraces? cs = some body) :
    cs = body ++ ['\x7d', '\x7d'] := by
  fun_induction beforeBraces? cs generalizing body with
  | case1 => cases found
  | case2 =>
      cases found
      rfl
  | case3 c cs _ ih =>
      obtain ⟨rest, inner, rfl⟩ := Option.map_eq_some_iff.mp found
      rw [List.cons_append, ← ih inner]

theorem ofIdentifier?_eq_ok {body : List Char} {code : ShortCode} :
    ofIdentifier? body = .ok code ↔ code.identifier.toList = body := by
  rw [ofIdentifier?]
  constructor
  · intro read
    split at read
    · cases read
      exact String.toList_ofList
    · split at read <;> cases read
  · rintro rfl
    rw [dif_pos code.wellFormed]
    simp

/-- A text is read as a short code exactly if the short code is written so. -/
theorem ofChars?_eq_ok {cs : List Char} {code : ShortCode} :
    ofChars? cs = .ok code ↔ cs = inBraces code.identifier.toList := by
  constructor
  · intro read
    unfold ofChars? at read
    split at read
    · next rest =>
        split at read
        · next body found =>
            rw [ofIdentifier?_eq_ok.mp read, beforeBraces?_eq_some found]
            rfl
        · cases read
    · cases read
  · rintro rfl
    rw [inBraces, ofChars?, beforeBraces?_append]
    exact ofIdentifier?_eq_ok.mpr rfl

theorem ofChars?_inBraces_eq_ok {body : List Char} {code : ShortCode} :
    ofChars? (inBraces body) = .ok code ↔ code.identifier.toList = body := by
  rw [ofChars?_eq_ok, eq_comm]
  simp [inBraces]

theorem parse_text (code : ShortCode) : ShortCode.parse code.text = .ok code := by
  have read : ofText? code.text = .ok code := by
    rw [ofText?, text, String.toList_ofList]
    exact ofChars?_eq_ok.mpr rfl
  rw [ShortCode.parse, read]

theorem parse_eq_ok {s : String} {code : ShortCode} :
    ShortCode.parse s = .ok code ↔ code.text = s := by
  constructor
  · intro read
    unfold ShortCode.parse at read
    split at read
    · next found =>
        cases read
        rw [text, ← ofChars?_eq_ok.mp found, String.ofList_toList]
    · cases read
  · rintro rfl
    exact parse_text code

/-- An identifier as it is written in double braces. -/
theorem ofList_inBraces (body : String) :
    String.ofList (inBraces body.toList) = "\x7b\x7b" ++ body ++ "\x7d\x7d" := by
  rw [← String.toList_inj]
  simp [inBraces]

theorem text_injective {a b : ShortCode} (same : a.text = b.text) : a = b := by
  have left := parse_text a
  rw [same, parse_text b] at left
  exact (Except.ok.inj left).symm

theorem isIdentifierChar_of_mem (code : ShortCode) {c : Char}
    (inside : c ∈ code.identifier.toList) : isIdentifierChar c = true :=
  (isIdentifier_iff.mp code.wellFormed).2 c inside

theorem identifier_ne_nil (code : ShortCode) : code.identifier.toList ≠ [] :=
  (isIdentifier_iff.mp code.wellFormed).1

theorem mem_text {code : ShortCode} {c : Char} (inside : c ∈ code.text.toList) :
    c = '\x7b' ∨ c = '\x7d' ∨ isIdentifierChar c = true := by
  rw [text, String.toList_ofList, inBraces] at inside
  simp only [List.mem_cons, List.mem_append, List.not_mem_nil, or_false] at inside
  rcases inside with brace | brace | inner | brace | brace
  · exact Or.inl brace
  · exact Or.inl brace
  · exact Or.inr (Or.inr (code.isIdentifierChar_of_mem inner))
  · exact Or.inr (Or.inl brace)
  · exact Or.inr (Or.inl brace)

end ShortCode

theorem TagType.digit_injective {a b : TagType} (same : a.digit = b.digit) : a = b := by
  cases a <;> cases b <;> first | rfl | exact absurd same (by decide)

/-- Merge tags that stand at the same place in their order are the same. -/
theorem MergeTag.key_injective (a b : MergeTag) (same : a.key = b.key) : a = b := by
  obtain ⟨⟨name, _⟩, code, type⟩ := a
  obtain ⟨⟨name', _⟩, code', type'⟩ := b
  simp only [key, List.cons.injEq, and_true] at same
  obtain ⟨rfl, codes, types⟩ := same
  rw [ShortCode.text_injective codes, TagType.digit_injective types]

/-- Short codes are found exactly if all candidates are short codes. -/
theorem shortCodes_eq_ok {bodies : List (List Char)} {codes : List ShortCode} :
    shortCodes bodies = .ok codes ↔ bodies = codes.map fun code => code.identifier.toList := by
  rw [shortCodes, mapM_eq_ok_iff]
  constructor
  · intro all
    rw [← List.forall₂_eq_eq_eq, List.forall₂_map_right_iff]
    apply all.imp
    intro body code read
    split at read
    · next found =>
        cases read
        exact (ShortCode.ofChars?_inBraces_eq_ok.mp found).symm
    · cases read
  · rintro rfl
    rw [List.forall₂_map_left_iff, List.forall₂_same]
    intro code _
    rw [ShortCode.ofChars?_inBraces_eq_ok.mpr rfl]

/-- Reading short codes fails at the first text that is none. -/
theorem shortCodes_eq_error {bodies : List (List Char)} {e : ReferenceError} :
    shortCodes bodies = .error e ↔ ∃ front body back fault, bodies = front ++ body :: back ∧
      (∀ early ∈ front, ∃ code : ShortCode, code.identifier.toList = early) ∧
      ShortCode.ofChars? (ShortCode.inBraces body) = .error fault ∧
      e = .malformed (String.ofList (ShortCode.inBraces body)) fault := by
  rw [shortCodes, mapM_eq_error_iff]
  constructor
  · rintro ⟨front, body, back, parts, before, failed⟩
    split at failed
    · cases failed
    · next fault read =>
        cases failed
        refine ⟨front, body, back, fault, parts, ?_, read, rfl⟩
        intro early inside
        obtain ⟨_, good⟩ := before early inside
        split at good
        · next code found => exact ⟨code, ShortCode.ofChars?_inBraces_eq_ok.mp found⟩
        · cases good
  · rintro ⟨front, body, back, fault, parts, before, read, rfl⟩
    refine ⟨front, body, back, parts, ?_, by rw [read]⟩
    intro early inside
    obtain ⟨code, same⟩ := before early inside
    exact ⟨code, by rw [ShortCode.ofChars?_inBraces_eq_ok.mpr same]⟩

/-- The candidates of a source are written as short codes, if they are short codes. -/
theorem candidateTexts_codes {source : String} {codes : List ShortCode}
    (candidate : candidates source = codes.map fun code => code.identifier.toList) :
    candidateTexts source = codes.map ShortCode.text := by
  rw [candidateTexts, candidate, List.map_map]
  rfl

/-- A short code is referred to by its identifier exactly if it is one of the candidates. -/
theorem mem_referencedIdentifiers {source : String} {identifiers : TextSet}
    (read : referencedIdentifiers source = .ok identifiers) (code : ShortCode) :
    code.identifier ∈ identifiers.toList ↔ code.text ∈ candidateTexts source := by
  obtain ⟨codes, found, rfl⟩ := map_eq_ok.mp read
  rw [candidateTexts_codes (shortCodes_eq_ok.mp found),
    Ascending.mem_ofList (fun _ _ same => same), List.mem_map, List.mem_map]
  constructor
  · rintro ⟨other, inside, same⟩
    exact ⟨other, inside, by rw [ShortCode.text, ShortCode.text, same]⟩
  · rintro ⟨other, inside, same⟩
    exact ⟨other, inside, by rw [ShortCode.text_injective same]⟩

/-- Every tag has the identifier of its short code as its name. -/
def NamedByCode (tags : List MergeTag) : Prop :=
  ∀ tag ∈ tags, tag.shortCode.identifier = tag.name.text

theorem NamedByCode.append {tags : List MergeTag} {tag : MergeTag} (named : NamedByCode tags)
    (written : tag.shortCode.identifier = tag.name.text) : NamedByCode (tags ++ [tag]) := by
  intro other inside
  rcases List.mem_append.mp inside with old | new
  · exact named other old
  · rw [List.mem_singleton.mp new]
    exact written

/-- A source that tags can be resolved in: it is JSON, and all its candidates are short codes. -/
def ReadableSource (source : String) : Prop :=
  Json.isValid source = true ∧
    ∃ codes : List ShortCode, candidates source = codes.map fun code => code.identifier.toList

theorem ReadableSource.candidates {source : String} (readable : ReadableSource source) :
    ∀ text ∈ candidateTexts source, ∃ code : ShortCode, code.text = text := by
  obtain ⟨-, codes, candidate⟩ := readable
  intro text inside
  rw [candidateTexts_codes candidate, List.mem_map] at inside
  obtain ⟨code, -, same⟩ := inside
  exact ⟨code, same⟩

theorem resolveTags_eq_ok {source : String} {accepted : List MergeTag} {tags : TagSet} :
    resolveTags source accepted = .ok tags ↔ Json.isValid source = true ∧ ∃ identifiers,
      referencedIdentifiers source = .ok identifiers ∧ Ascending.ofList
        (accepted.filter fun tag => identifiers.toList.contains tag.name.text) = tags := by
  rw [resolveTags]
  split
  · next json => simp only [json, map_eq_ok, true_and]
  · next broken => simp [broken]

/-- Whether tags can be resolved in a source does not depend on the accepted tags. -/
theorem readable_of_resolveTags {source : String} {accepted : List MergeTag} {tags : TagSet}
    (resolved : resolveTags source accepted = .ok tags) : ReadableSource source := by
  obtain ⟨json, identifiers, read, -⟩ := resolveTags_eq_ok.mp resolved
  obtain ⟨codes, found, -⟩ := map_eq_ok.mp read
  exact ⟨json, codes, shortCodes_eq_ok.mp found⟩

/-- The accepted tags whose short codes are candidates in a source. -/
def mentioned (source : String) (accepted : List MergeTag) : TagSet :=
  Ascending.ofList (accepted.filter fun tag => decide (tag.shortCode.text ∈ candidateTexts source))

/-- Tags are looked up by name, yet among tags that are named by their short codes those are found
whose short codes stand in the source. -/
theorem resolveTags_readable {source : String} {accepted : List MergeTag}
    (readable : ReadableSource source) (named : NamedByCode accepted) :
    resolveTags source accepted = .ok (mentioned source accepted) := by
  obtain ⟨json, codes, candidate⟩ := readable
  have read : referencedIdentifiers source =
      .ok (Ascending.ofList (codes.map ShortCode.identifier)) := by
    rw [referencedIdentifiers, shortCodes_eq_ok.mpr candidate]
    rfl
  refine resolveTags_eq_ok.mpr ⟨json, _, read, ?_⟩
  rw [mentioned]
  congr 1
  apply List.filter_congr
  intro tag inside
  rw [← named tag inside, Bool.eq_iff_iff, List.contains_iff_mem, decide_eq_true_iff]
  exact mem_referencedIdentifiers read tag.shortCode

theorem mem_mentioned {source : String} {accepted : List MergeTag} (tag : MergeTag) :
    tag ∈ (mentioned source accepted).toList ↔
      tag ∈ accepted ∧ tag.shortCode.text ∈ candidateTexts source := by
  rw [mentioned, Ascending.mem_ofList MergeTag.key_injective, List.mem_filter, decide_eq_true_iff]

end MailMerge
