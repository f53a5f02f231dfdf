import MailMerge.Proofs.EscapedText
/-!
What the plain text of an HTML text looks like: it has no tags, its lines are normal, and it is its
own plain text. Taking pieces out never brings an opening bracket in front of a closing one, and
normalising white space moves no bracket past another.
-/

set_option autoImplicit false

namespace MailMerge

namespace PlainText

variable {cs : List Char}

/-- The brackets of tags. -/
def isBracket (c : Char) : Bool := c == '<' || c == '>'

/-- Whether there are tags depends on the brackets alone. -/
theorem tagFree_filter : TagFree (cs.filter isBracket) ↔ TagFree cs := by
  rw [TagFree, TagFree, List.pairwise_filter]
  constructor
  · intro brackets
    refine brackets.imp ?_
    rintro a b apart ⟨rfl, rfl⟩
    exact apart rfl rfl ⟨rfl, rfl⟩
  · exact fun free => free.imp fun apart _ _ => apart

theorem tagFree_normalized (free : TagFree cs) : TagFree (normalized cs) := by
  have blank (c : Char) (spacing : isSpacing c = true) : isBracket c = false := by
    simp only [isSpacing, Bool.or_eq_true, beq_iff_eq] at spacing
    rcases spacing with ((rfl | rfl) | rfl) | rfl <;> rfl
  rw [← tagFree_filter] at free ⊢
  exact free.sublist (filter_normalized rfl blank cs)

/-- Normalising white space puts nothing in but blanks and line feeds. -/
theorem mem_of_mem_normalized {c : Char} (feed : c ≠ '\n') (solid : isSpacing c = false)
    (inside : c ∈ normalized cs) : c ∈ cs := by
  have here : c ∈ (normalized cs).filter (· == c) := List.mem_filter.mpr ⟨inside, beq_self_eq_true c⟩
  have kept : ((normalized cs).filter (· == c)).Sublist (cs.filter (· == c)) := by
    refine filter_normalized (by simpa using feed.symm) ?_ cs
    rintro d spacing
    rw [beq_eq_false_iff_ne]
    rintro rfl
    rw [spacing] at solid
    cases solid
  exact (List.mem_filter.mp (kept.subset here)).1

/-- What is left of a text when all pieces of markup are taken out. -/
def stripped (cs : List Char) : List Char :=
  replaceTags anyTag [] (replaceTags lineTag ['\n'] (replaceTags hiddenElement [] cs))

theorem free_stripped (free : '&' ∉ cs) : '&' ∉ stripped cs := by
  intro inside
  rcases mem_replaceTags closes_anyTag inside with put | inside
  · cases put
  · rcases mem_replaceTags closes_lineTag inside with put | inside
    · exact absurd put (by decide)
    · rcases mem_replaceTags closes_hiddenElement inside with put | inside
      · cases put
      · exact free inside

theorem ofHtml_free (free : '&' ∉ cs) : ofHtml cs = normalized (stripped cs) := by
  rw [ofHtml, ← stripped, resolveEntities_free (free_stripped free), tidyLines_eq_normalized]

theorem free_ofHtml (free : '&' ∉ cs) : '&' ∉ ofHtml cs := by
  rw [ofHtml_free free]
  exact fun inside => free_stripped free (mem_of_mem_normalized (by decide) (by decide) inside)

theorem tagFree_ofHtml (free : '&' ∉ cs) : TagFree (ofHtml cs) := by
  rw [ofHtml_free free]
  exact tagFree_normalized (tagFree_replaceTags _)

/-- The texts that are their own plain text are those without tags that consist of normal lines. -/
theorem ofHtml_eq_self_iff (free : '&' ∉ cs) : ofHtml cs = cs ↔ TagFree cs ∧
    ∃ ls, (∀ line ∈ ls, NormalLine line) ∧ cs = List.intercalate ['\n'] ls := by
  constructor
  · intro same
    refine ⟨same ▸ tagFree_ofHtml free, shownLines (stripped cs), fun _ => normalLine_of_mem, ?_⟩
    rw [← normalized, ← ofHtml_free free, same]
  · rintro ⟨tagFree, ls, normal, rfl⟩
    rw [ofHtml_tagFree tagFree, resolveEntities_free free, normalized_of_normal normal]

theorem ofHtml_ofHtml (free : '&' ∉ cs) : ofHtml (ofHtml cs) = ofHtml cs := by
  rw [ofHtml_tagFree (tagFree_ofHtml free), resolveEntities_free (free_ofHtml free),
    ofHtml_free free, normalized_normalized]

end PlainText

open PlainText (TagFree NormalLine)

/-- The plain text of a text without ampersands has no tags, its lines are normal, and it is its own
plain text, as is every text without tags that consists of normal lines. -/
theorem plainText_tagFree_stable (html : String) (free : '&' ∉ html.toList) :
    TagFree (plainTextOfHtml html).toList ∧
      (∀ line ∈ Text.lines (plainTextOfHtml html).toList, NormalLine line) ∧
      plainTextOfHtml (plainTextOfHtml html) = plainTextOfHtml html ∧
      (plainTextOfHtml html = html ↔ TagFree html.toList ∧
        ∃ ls, (∀ line ∈ ls, NormalLine line) ∧ html.toList = List.intercalate ['\n'] ls) := by
  simp only [plainTextOfHtml, String.toList_ofList]
  refine ⟨PlainText.tagFree_ofHtml free, ?_, ?_, ?_⟩
  · rw [PlainText.ofHtml_free free, PlainText.lines_normalized]
    exact fun line => PlainText.normalLine_of_mem
  · rw [PlainText.ofHtml_ofHtml free]
  · rw [← PlainText.ofHtml_eq_self_iff free, ← String.toList_inj, String.toList_ofList]

/-- Markup with tags that are nested, not closed and written over several lines. -/
def tangled : String := "a > <<b\n>c\t\t</p\r\n> \u000B<style>d</style <i>e <br\n/>\r\n\r\nf  g<"

theorem tangled_stable :
    '&' ∉ tangled.toList ∧ plainTextOfHtml tangled = "a > c\nde\nf g<" ∧
      TagFree "a > c\nde\nf g<".toList ∧
      (∀ line ∈ Text.lines "a > c\nde\nf g<".toList, NormalLine line) ∧
      plainTextOfHtml "a > c\nde\nf g<" = "a > c\nde\nf g<" := by
  have free : '&' ∉ tangled.toList := by decide +kernel
  have shown : plainTextOfHtml tangled = "a > c\nde\nf g<" := by decide +kernel
  obtain ⟨tagFree, normal, stable, -⟩ := plainText_tagFree_stable tangled free
  rw [shown] at tagFree normal stable
  exact ⟨free, shown, tagFree, normal, stable⟩

end MailMerge
