import MailMerge.Ascending
/-!
What the service counts: mails, failures by their code, resources, and what became of contents.
-/

namespace MailMerge

/-- The counters of the service. -/
structure Counters where
  rendered : Nat
  renderFailures : Dict Nat
  inlineResources : Nat
  savedContents : Nat
  rejectedContents : Nat
  referenceFailures : Nat
  deriving DecidableEq

namespace Counters

/-- Counters that have counted nothing. -/
def zero : Counters := ⟨0, Ascending.empty, 0, 0, 0, 0⟩

/-- Counts a mail and its resources. -/
def countRendered (resources : Nat) (c : Counters) : Counters :=
  { c with rendered := c.rendered + 1, inlineResources := c.inlineResources + resources }

/-- Counts a mail that could not be rendered. -/
def countFailure (code : String) (c : Counters) : Counters :=
  { c with renderFailures :=
      c.renderFailures.set code ((c.renderFailures.get? code).getD 0 + 1) }

/-- Counts a content that was saved. -/
def countSaved (c : Counters) : Counters := { c with savedContents := c.savedContents + 1 }

/-- Counts a content that was not accepted. -/
def countRejected (c : Counters) : Counters :=
  { c with rejectedContents := c.rejectedContents + 1 }

/-- Counts a content whose references could not be told. -/
def countReferenceFailure (c : Counters) : Counters :=
  { c with referenceFailures := c.referenceFailures + 1 }

/-- A sample of a counter that is kept apart by the value of a label. -/
def labelled (name label value : String) (count : Nat) : String × Nat :=
  (name ++ "\x7b" ++ label ++ "=\"" ++ value ++ "\"\x7d", count)

/-- The counters as samples with the names that monitoring knows them by. Every mail that is
rendered adds to the latencies. -/
def samples (c : Counters) : List (String × Nat) :=
  [("ara_emails_rendered_total", c.rendered)] ++
    c.renderFailures.toList.map (fun f => labelled "ara_render_failures_total" "reason" f.1 f.2) ++
    [("ara_inline_resources_total", c.inlineResources),
      ("ara_render_latency_seconds_count", c.rendered),
      labelled "ara_content_upserts_total" "outcome" "saved" c.savedContents,
      labelled "ara_content_upserts_total" "outcome" "rejected" c.rejectedContents,
      ("ara_merge_tag_extraction_failures_total", c.referenceFailures)]

end Counters

end MailMerge
