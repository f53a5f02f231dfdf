import MailMerge.Ascending
import MailMerge.Mail.Markup
import MailMerge.Tag.Candidate
/-!
Templates: texts in which short codes are placeholders for values. Compiling a text loses nothing
of it, and filling in puts each value in once, without looking for short codes in it.
-/

namespace MailMerge

/-- A part of a compiled template. -/
inductive Segment where
  | text (cs : List Char)
  | placeholder (code : ShortCode)
  deriving DecidableEq

/-- What is done with values, and with placeholders without a value. -/
structure FillOptions where
  keepUnresolved : Bool
  escapeHtml : Bool
  deriving DecidableEq

/-- The options for HTML. -/
def FillOptions.html : FillOptions := ⟨false, true⟩

/-- The options for plain text. -/
def FillOptions.plain : FillOptions := ⟨false, false⟩

namespace Segment

/-- Puts text in front of segments; text that would stand before text is joined with it. -/
def addText (cs : List Char) (segments : List Segment) : List Segment :=
  match segments with
  | text more :: rest => text (cs ++ more) :: rest
  | segments => text cs :: segments

/-- Puts a piece of a scanned text in front of segments. A candidate that is no short code stays
text. -/
def addMark (mark : Mark) (segments : List Segment) : List Segment :=
  match mark with
  | .plain c => addText [c] segments
  | .candidate body =>
    match ShortCode.ofChars? (ShortCode.inBraces body) with
    | .ok code => placeholder code :: segments
    | .error _ => addText (ShortCode.inBraces body) segments

/-- The segment as it stands in the source. -/
def source : Segment → List Char
  | text cs => cs
  | placeholder code => code.text.toList

/-- The identifier of a placeholder. -/
def identifier? : Segment → Option String
  | text _ => none
  | placeholder code => some code.identifier

/-- The segment with the value of its placeholder filled in. -/
def fill (options : FillOptions) (values : Dict String) : Segment → List Char
  | text cs => cs
  | placeholder code =>
    match values.get? code.identifier with
    | some value => if options.escapeHtml then Markup.escape value.toList else value.toList
    | none => if options.keepUnresolved then code.text.toList else []

end Segment

/-- Cuts a template into text and placeholders. -/
def compileTemplate (source : String) : List Segment :=
  (Mark.scan source.toList).foldr Segment.addMark []

/-- The identifiers of the placeholders, in order. -/
def placeholderIdentifiers (segments : List Segment) : List String :=
  segments.filterMap Segment.identifier?

/-- The text of a template with values filled in. -/
def fillTemplate (options : FillOptions) (segments : List Segment) (values : Dict String) :
    String :=
  String.ofList (segments.flatMap (Segment.fill options values))

end MailMerge
