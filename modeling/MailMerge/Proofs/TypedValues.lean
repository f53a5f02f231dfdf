import MailMerge.Proofs.Base64Text
import MailMerge.Proofs.CalendarText
import MailMerge.Proofs.DoubleText
import MailMerge.Proofs.GuidText
import MailMerge.Tag.Value
/-!
Typed values that are read back from their canonical texts. Each kind of value has a law of its own
for its text; what they share is that there is no white space to trim. Everything that is read from
a text has such a value, so reading a second time, from the canonical text, changes nothing.
-/

set_option autoImplicit false

namespace MailMerge.TagValue

/-- The values that texts stand for: a number is finite, and an image has bytes. -/
def Readable : TagValue → Prop
  | double x => x.isFinite = true
  | image bytes => bytes ≠ []
  | _ => True

theorem readDouble?_text {x : Double} (some : x.isFinite = true) :
    readDouble? x.text = .some x := by
  rw [readDouble?, Double.ofText?_text some, Option.filter_some, if_pos some]

theorem readBool?_text (b : Bool) : readBool? (text (bool b)) = some b := by
  cases b <;> decide

theorem readImage?_text {bytes : List UInt8} (some : bytes ≠ []) :
    readImage? (Base64.encodeText bytes) = .some bytes := by
  have present : (!bytes.isEmpty) = true := by simpa using some
  rw [readImage?, Base64.decodeText_encodeText]
  exact if_pos present

/-- A value is read back from its canonical text. -/
theorem ofText?_text (v : TagValue) (readable : v.Readable) : ofText? v.text v.type = some v := by
  cases v with
  | date d =>
      simp only [ofText?, text, type, String.toList_ofList, Text.trim_of_solid d.solid_chars,
        Date.ofChars?_chars, Option.map_some]
  | time t =>
      simp only [ofText?, text, type, String.toList_ofList, Text.trim_of_solid t.solid_chars,
        Time.ofChars?_chars, Option.map_some]
  | dateTime dt =>
      simp only [ofText?, text, type, String.toList_ofList, Text.trim_of_solid dt.solid_chars,
        DateTime.ofChars?_chars, Option.map_some]
  | guid g =>
      have solid : ∀ c ∈ g.text.toList, Text.isBlankChar c = false := by
        rw [Guid.text, String.toList_ofList]
        exact g.solid_chars
      simp only [ofText?, text, type, Text.trimmed_of_solid solid, Guid.ofText?_text,
        Option.map_some]
  | double x =>
      simp only [ofText?, text, type, Text.trimmed_of_solid x.solid_text, readDouble?_text readable,
        Option.map_some]
  | bool b =>
      have solid : ∀ c ∈ (text (bool b)).toList, Text.isBlankChar c = false :=
        Text.solid_of_all (by cases b <;> decide)
      simp only [ofText?, type, Text.trimmed_of_solid solid, readBool?_text, Option.map_some]
  | string s => rfl
  | image bytes =>
      simp only [ofText?, text, type, Text.trimmed_of_solid (Base64.solid_encodeText bytes),
        readImage?_text readable, Option.map_some]

/-- Neither infinite numbers nor empty images are read. -/
theorem readable_of_ofText? {raw : String} {t : TagType} {v : TagValue}
    (found : ofText? raw t = some v) : v.Readable := by
  cases t with
  | double =>
      obtain ⟨x, read, rfl⟩ := Option.map_eq_some_iff.1 found
      exact (Option.filter_eq_some_iff.1 read).2
  | image =>
      obtain ⟨bytes, read, rfl⟩ := Option.map_eq_some_iff.1 found
      have present := (Option.filter_eq_some_iff.1 read).2
      simpa [Readable] using present
  | string =>
      cases found
      trivial
  | _ =>
      obtain ⟨_, _, rfl⟩ := Option.map_eq_some_iff.1 found
      trivial

/-- What was read from a text is read again from its canonical text. -/
theorem ofText?_canonical {raw : String} {t : TagType} {v : TagValue}
    (found : ofText? raw t = some v) : ofText? v.text t = some v := by
  have again := ofText?_text v (readable_of_ofText? found)
  rwa [type_of_ofText? found] at again

/-- White space around a text counts in strings only. -/
theorem ofText?_trimmed (raw : String) {t : TagType} (other : t ≠ .string) :
    ofText? (Text.trimmed raw) t = ofText? raw t := by
  have chars : Text.trim (Text.trimmed raw).toList = Text.trim raw.toList := by
    rw [Text.trimmed, String.toList_ofList, Text.trim_trim]
  cases t with
  | string => exact absurd rfl other
  | _ => simp only [ofText?, chars, Text.trimmed_trimmed]

/-- The empty text is a string and nothing else. -/
theorem ofText?_empty {t : TagType} (other : t ≠ .string) : ofText? "" t = none := by
  cases t with
  | string => exact absurd rfl other
  | image =>
      have bytes : Base64.decodeText "" = .ok [] := Base64.decodeText_encodeText []
      have blank : Text.trimmed "" = "" := by decide
      simp only [ofText?, readImage?, blank, bytes]
      rfl
  | _ => decide

/-- A blank text stands for no value but itself. -/
theorem text_of_blank {raw : String} {t : TagType} {v : TagValue}
    (blank : Text.isBlank raw = true) (found : ofText? raw t = some v) : v.text = raw := by
  by_cases typed : t = .string
  · subst typed
    cases found
    rfl
  · rw [← ofText?_trimmed raw typed, (Text.trimmed_eq_empty_iff raw).2 blank,
      ofText?_empty typed] at found
    cases found

/-- Every value that a text can stand for is read back from its canonical text, and what is read
from any text does not change when it is read from its canonical text. -/
theorem parse_canonical_text :
    (∀ v : TagValue, v.Readable → parse v.text v.type = .ok v) ∧
      ∀ (raw : String) (t : TagType) (v : TagValue),
        parse raw t = .ok v → parse v.text t = .ok v := by
  constructor
  · intro v readable
    exact parse_eq_ok.2 (ofText?_text v readable)
  · intro raw t v found
    exact parse_eq_ok.2 (ofText?_canonical (parse_eq_ok.1 found))

/-- A leap second of the first year of the calendar. -/
def earlyLeapSecond : DateTime :=
  ⟨⟨-262143, 12, 31, by decide⟩, ⟨23, 59, 59, 1500000000, by decide⟩⟩

/-- The zero with a sign. -/
def minusZero : Double := .finite true ⟨0, by decide⟩

theorem parse_canonical_samples :
    text (dateTime earlyLeapSecond) = "-262143-12-31T23:59:60.500" ∧
      parse (text (dateTime earlyLeapSecond)) .dateTime = .ok (dateTime earlyLeapSecond) ∧
      parse (text (double minusZero)) .double = .ok (double minusZero) ∧
      parse (text (image [0])) .image = .ok (image [0]) ∧
      parse " TRUE" .bool = .ok (bool true) ∧ parse (text (bool true)) .bool = .ok (bool true) := by
  have read : parse " TRUE" .bool = .ok (bool true) := parse_eq_ok.2 (by decide)
  exact ⟨by decide, parse_canonical_text.1 (dateTime earlyLeapSecond) trivial,
    parse_canonical_text.1 (double minusZero) rfl,
    parse_canonical_text.1 (image [0]) (List.cons_ne_nil 0 []), read,
    parse_canonical_text.2 " TRUE" .bool (bool true) read⟩

end MailMerge.TagValue
