import MailMerge.Text.Blank
/-!
Texts that hold more than white space.
-/

namespace MailMerge

/-- A text with at least one character that is not white space; white space around it is kept. -/
structure NonBlank where
  text : String
  not_blank : Text.isBlank text = false
  deriving DecidableEq

namespace NonBlank

/-- The text as it is, unless it is blank. -/
def ofString? (s : String) : Option NonBlank :=
  if h : Text.isBlank s = false then some ⟨s, h⟩ else none

theorem ofString?_text (t : NonBlank) : ofString? t.text = some t := by
  simp [ofString?, t.not_blank]

theorem text_of_ofString? {s : String} {t : NonBlank} (h : ofString? s = some t) : t.text = s := by
  simp only [ofString?] at h
  split at h
  · cases h
    rfl
  · cases h

end NonBlank

end MailMerge
