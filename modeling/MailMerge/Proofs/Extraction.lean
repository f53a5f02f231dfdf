import MailMerge.Proofs.Placeholders
import Mathlib.Data.Set.List
/-!
Which merge tags are extracted from a structure, and when extraction fails. The verdict depends on
the structure alone: it has to be JSON, and all its candidates short codes. A compiled template
reads the same candidates and passes over those that are none, so both find the same identifiers.
-/

set_option autoImplicit false

namespace MailMerge

section Verdict

variable {source : String} {accepted : List MergeTag}

/-- A candidate is a short code exactly if there is one that is written so. -/
theorem exists_code_text {body : List Char} :
    (∃ code : ShortCode, code.text = String.ofList (ShortCode.inBraces body)) ↔
      ∃ code : ShortCode, code.identifier.toList = body := by
  have written (code : ShortCode) : code.text = String.ofList (ShortCode.inBraces body) ↔
      code.identifier.toList = body := by
    rw [ShortCode.text, ← String.toList_inj, String.toList_ofList, String.toList_ofList]
    simp [ShortCode.inBraces]
  simp only [written]

theorem readableSource_iff : ReadableSource source ↔ Json.isValid source = true ∧
    ∀ text ∈ candidateTexts source, ∃ code : ShortCode, code.text = text := by
  constructor
  · intro readable
    exact ⟨readable.1, readable.candidates⟩
  · rintro ⟨json, codes⟩
    have made : candidates source ∈
        Set.range (List.map fun code : ShortCode => code.identifier.toList) := by
      rw [Set.range_list_map]
      intro body inside
      exact exists_code_text.mp (codes _ (List.mem_map_of_mem inside))
    obtain ⟨found, same⟩ := made
    exact ⟨json, found, same.symm⟩

theorem isOk_resolveTags_iff :
    (∃ tags, resolveTags source accepted = .ok tags) ↔ ReadableSource source := by
  constructor
  · rintro ⟨tags, resolved⟩
    exact readable_of_resolveTags resolved
  · rintro ⟨json, codes, candidate⟩
    have read : referencedIdentifiers source = .ok _ :=
      map_eq_ok.mpr ⟨codes, shortCodes_eq_ok.mpr candidate, rfl⟩
    exact ⟨_, resolveTags_eq_ok.mpr ⟨json, _, read, rfl⟩⟩

theorem resolveTags_eq_error {e : ReferenceError} : resolveTags source accepted = .error e ↔
    Json.isValid source = false ∧ e = .notJson ∨
      Json.isValid source = true ∧ shortCodes (candidates source) = .error e := by
  rw [resolveTags]
  split
  · next json => simp [json, referencedIdentifiers, map_eq_error]
  · next broken => simp [broken, eq_comm]

theorem resolveTags_eq_notJson :
    resolveTags source accepted = .error .notJson ↔ Json.isValid source = false := by
  rw [resolveTags_eq_error]
  constructor
  · rintro (⟨broken, -⟩ | ⟨-, failed⟩)
    · exact broken
    · obtain ⟨_, _, _, _, _, _, _, differs⟩ := shortCodes_eq_error.mp failed
      cases differs
  · intro broken
    exact Or.inl ⟨broken, rfl⟩

/-- The error names the first candidate that is no short code. -/
theorem resolveTags_eq_malformed {text : String} {fault : ShortCode.Fault} :
    resolveTags source accepted = .error (.malformed text fault) ↔ Json.isValid source = true ∧
      ∃ front back, candidateTexts source = front ++ text :: back ∧
        (∀ early ∈ front, ∃ code : ShortCode, code.text = early) ∧
        ShortCode.ofText? text = .error fault := by
  rw [resolveTags_eq_error, shortCodes_eq_error]
  constructor
  · rintro (⟨-, ⟨⟩⟩ | ⟨json, front, body, back, _, parts, before, read, ⟨⟩⟩)
    have texts : candidateTexts source = _ := congrArg (List.map _) parts
    rw [List.map_append, List.map_cons] at texts
    refine ⟨json, _, _, texts, ?_, ?_⟩
    · intro early inside
      obtain ⟨first, earlier, rfl⟩ := List.mem_map.mp inside
      exact exists_code_text.mpr (before first earlier)
    · rw [ShortCode.ofText?, String.toList_ofList, read]
  · rintro ⟨json, front, back, parts, before, read⟩
    obtain ⟨front, rest, cut, rfl, others⟩ := List.map_eq_append_iff.mp parts
    obtain ⟨body, back, rfl, rfl, rfl⟩ := List.map_eq_cons_iff.mp others
    rw [ShortCode.ofText?, String.toList_ofList] at read
    refine Or.inr ⟨json, front, body, back, fault, cut, ?_, read, rfl⟩
    intro early inside
    exact exists_code_text.mp (before _ (List.mem_map_of_mem inside))

end Verdict

section Result

variable {source : String} {accepted : List MergeTag} {tags : TagSet}

theorem mem_resolveTags (resolved : resolveTags source accepted = .ok tags) (tag : MergeTag) :
    tag ∈ tags.toList ↔ tag ∈ accepted ∧
      ∃ code : ShortCode, code.text ∈ candidateTexts source ∧ code.identifier = tag.name.text := by
  obtain ⟨-, identifiers, read, rfl⟩ := resolveTags_eq_ok.mp resolved
  have found (name : String) : name ∈ identifiers.toList ↔
      ∃ code : ShortCode, code.text ∈ candidateTexts source ∧ code.identifier = name := by
    constructor
    · intro inside
      have named : ∃ code : ShortCode, code.identifier = name := by
        obtain ⟨codes, -, rfl⟩ := map_eq_ok.mp read
        rw [Ascending.mem_ofList fun _ _ same => same] at inside
        obtain ⟨code, -, same⟩ := List.mem_map.mp inside
        exact ⟨code, same⟩
      obtain ⟨code, rfl⟩ := named
      exact ⟨code, (mem_referencedIdentifiers read code).mp inside, rfl⟩
    · rintro ⟨code, inside, rfl⟩
      exact (mem_referencedIdentifiers read code).mpr inside
  rw [Ascending.mem_ofList MergeTag.key_injective, List.mem_filter, List.contains_iff_mem, found]

/-- A compiled template has the identifiers that are referred to, if its source is readable. -/
theorem referencedIdentifiers_readable (readable : ReadableSource source) :
    referencedIdentifiers source =
      .ok (Ascending.ofList (placeholderIdentifiers (compileTemplate source))) := by
  obtain ⟨-, codes, candidate⟩ := readable
  have read : placeholderIdentifiers (compileTemplate source) = codes.map ShortCode.identifier := by
    have bodies : (Mark.scan source.toList).filterMap Mark.identifier? =
        (candidates source).filterMap fun body => Mark.identifier? (.candidate body) := by
      rw [candidates, List.filterMap_filterMap]
      congr 1
      funext mark
      cases mark <;> rfl
    have code (code : ShortCode) :
        Mark.identifier? (.candidate code.identifier.toList) = some code.identifier := by
      rw [Mark.identifier?, Mark.code?, ShortCode.ofChars?_inBraces_eq_ok.mpr rfl]
      rfl
    rw [placeholderIdentifiers_compileTemplate, bodies, candidate, List.filterMap_map]
    simp [code]
  rw [referencedIdentifiers, shortCodes_eq_ok.mpr candidate, read]
  rfl

/-- Extraction is exact. It succeeds exactly for JSON in which all candidates are short codes,
whatever tags are accepted, and otherwise names the first candidate that is none. It gives the
accepted tags that are named by a candidate, so more accepted tags add their own; and what it goes by
are the identifiers of the compiled template. -/
theorem resolveTags_exact (source : String) (accepted : List MergeTag) :
    ((∃ tags, resolveTags source accepted = .ok tags) ↔ Json.isValid source = true ∧
        ∀ text ∈ candidateTexts source, ∃ code : ShortCode, code.text = text) ∧
      (∀ tags, resolveTags source accepted = .ok tags →
        (∀ tag, tag ∈ tags.toList ↔ tag ∈ accepted ∧ ∃ code : ShortCode,
          code.text ∈ candidateTexts source ∧ code.identifier = tag.name.text) ∧
        (∀ others, ∃ more all, resolveTags source others = .ok more ∧
          resolveTags source (accepted ++ others) = .ok all ∧
          ∀ tag, tag ∈ all.toList ↔ tag ∈ tags.toList ∨ tag ∈ more.toList) ∧
        referencedIdentifiers source =
          .ok (Ascending.ofList (placeholderIdentifiers (compileTemplate source)))) ∧
      (resolveTags source accepted = .error .notJson ↔ Json.isValid source = false) ∧
      ∀ text fault, resolveTags source accepted = .error (.malformed text fault) ↔
        Json.isValid source = true ∧ ∃ front back, candidateTexts source = front ++ text :: back ∧
          (∀ early ∈ front, ∃ code : ShortCode, code.text = early) ∧
          ShortCode.ofText? text = .error fault := by
  refine ⟨isOk_resolveTags_iff.trans readableSource_iff, ?_, resolveTags_eq_notJson,
    fun text fault => resolveTags_eq_malformed⟩
  intro tags resolved
  have readable := readable_of_resolveTags resolved
  refine ⟨mem_resolveTags resolved, ?_, referencedIdentifiers_readable readable⟩
  intro others
  obtain ⟨more, alone⟩ : ∃ more, resolveTags source others = .ok more :=
    isOk_resolveTags_iff.mpr readable
  obtain ⟨all, together⟩ : ∃ all, resolveTags source (accepted ++ others) = .ok all :=
    isOk_resolveTags_iff.mpr readable
  refine ⟨more, all, alone, together, ?_⟩
  intro tag
  rw [mem_resolveTags resolved, mem_resolveTags alone, mem_resolveTags together, List.mem_append,
    or_and_right]

end Result

/-- The tag of a customer. -/
def customerTag : MergeTag := ⟨⟨"customer", by decide +kernel⟩, ⟨"customer", by decide⟩, .string⟩

/-- The tag of a sum, under a short code that is not named after it. -/
def sumTag : MergeTag := ⟨⟨"sum", by decide +kernel⟩, ⟨"total", by decide⟩, .double⟩

/-- A structure that refers to a customer twice and to two things that no tag is declared for. -/
def invoice : String := "[\"{{customer}} {{total}}\", [\"{{customer}} {{city}}\"]]"

theorem invoice_extracted :
    resolveTags invoice [customerTag, sumTag, customerTag] =
        .ok (Ascending.ofList [customerTag]) ∧
      (∃ code : ShortCode,
        code.text ∈ candidateTexts invoice ∧ code.identifier = customerTag.name.text) ∧
      referencedIdentifiers invoice =
        .ok (Ascending.ofList ["customer", "total", "customer", "city"]) ∧
      resolveTags "[\"{{sum}} {{a b}} {{}}\"]" [sumTag] =
        .error (.malformed "{{a b}}" (.badCharacter ' ')) := by
  have resolved : resolveTags invoice [customerTag, sumTag, customerTag] =
      .ok (Ascending.ofList [customerTag]) := by decide +kernel
  obtain ⟨-, result, -⟩ := resolveTags_exact invoice [customerTag, sumTag, customerTag]
  obtain ⟨members, -, identifiers⟩ := result _ resolved
  obtain ⟨-, -, -, malformed⟩ := resolveTags_exact "[\"{{sum}} {{a b}} {{}}\"]" [sumTag]
  refine ⟨resolved, ((members customerTag).mp (by decide +kernel)).2, identifiers.trans ?_,
    (malformed _ _).mpr ⟨by decide +kernel, ["{{sum}}"], ["{{}}"], by decide +kernel, ?_, ?_⟩⟩
  · decide +kernel
  · intro early inside
    rw [List.mem_singleton.mp inside]
    exact ⟨⟨"sum", by decide⟩, by decide +kernel⟩
  · decide +kernel

end MailMerge
