/-!
Text within HTML: the five characters that have a meaning there are written as entities.
-/

namespace MailMerge.Markup

/-- A character as HTML shows it. -/
def escapeChar (c : Char) : List Char :=
  match c with
  | '&' => "&amp;".toList
  | '<' => "&lt;".toList
  | '>' => "&gt;".toList
  | '"' => "&quot;".toList
  | '\'' => "&#39;".toList
  | c => [c]

/-- A text as HTML shows it, in text and in attribute values. -/
def escape (cs : List Char) : List Char := cs.flatMap escapeChar

end MailMerge.Markup
