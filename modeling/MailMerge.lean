import MailMerge.Ascending
import MailMerge.Base64
import MailMerge.Calendar.Date
import MailMerge.Calendar.Read
import MailMerge.Calendar.Time
import MailMerge.CommandLine.Fixture
import MailMerge.CommandLine.Run
import MailMerge.Deflate.Bits
import MailMerge.Deflate.Huffman
import MailMerge.Deflate.Inflate
import MailMerge.Deflate.Stored
import MailMerge.Double.Basic
import MailMerge.Double.Read
import MailMerge.Double.Shortest
import MailMerge.Guid
import MailMerge.Json.Basic
import MailMerge.Json.Number
import MailMerge.Json.Print
import MailMerge.Json.Read
import MailMerge.Json.Shape
import MailMerge.Json.Token
import MailMerge.Json.Tree
import MailMerge.Mail.Json
import MailMerge.Mail.Markup
import MailMerge.Mail.MediaType
import MailMerge.Mail.Partition
import MailMerge.Mail.Placeholder
import MailMerge.Mail.PlainText
import MailMerge.Mail.Render
import MailMerge.Mail.Resource
import MailMerge.Main
import MailMerge.Outcome
import MailMerge.Pattern.Atom
import MailMerge.Pattern.Basic
import MailMerge.Pattern.Group
import MailMerge.Pattern.Mode
import MailMerge.Pattern.Set
import MailMerge.Proofs.Atomicity
import MailMerge.Proofs.Base64Text
import MailMerge.Proofs.CalendarText
import MailMerge.Proofs.CandidatePlaces
import MailMerge.Proofs.Commutation
import MailMerge.Proofs.Compilation
import MailMerge.Proofs.ContentChanges
import MailMerge.Proofs.ContentCounters
import MailMerge.Proofs.CustomTags
import MailMerge.Proofs.Digits
import MailMerge.Proofs.DoubleText
import MailMerge.Proofs.EmbeddedCodes
import MailMerge.Proofs.EscapedText
import MailMerge.Proofs.Extraction
import MailMerge.Proofs.GeneratedCodes
import MailMerge.Proofs.GuidText
import MailMerge.Proofs.HiddenElements
import MailMerge.Proofs.ImageTexts
import MailMerge.Proofs.InlineImages
import MailMerge.Proofs.JsonLexemes
import MailMerge.Proofs.JsonLines
import MailMerge.Proofs.JsonNumbers
import MailMerge.Proofs.JsonRecords
import MailMerge.Proofs.JsonText
import MailMerge.Proofs.Layouts
import MailMerge.Proofs.Lists
import MailMerge.Proofs.Loading
import MailMerge.Proofs.Lookup
import MailMerge.Proofs.Markup
import MailMerge.Proofs.MarkupPieces
import MailMerge.Proofs.NamesAndCultures
import MailMerge.Proofs.NearestDouble
import MailMerge.Proofs.NormalLines
import MailMerge.Proofs.OwnerData
import MailMerge.Proofs.OwnerHistory
import MailMerge.Proofs.Placeholders
import MailMerge.Proofs.Precedence
import MailMerge.Proofs.ProbeOrder
import MailMerge.Proofs.Rendering
import MailMerge.Proofs.Repositories
import MailMerge.Proofs.Revisions
import MailMerge.Proofs.RoundTrips
import MailMerge.Proofs.Scanning
import MailMerge.Proofs.ServiceCalls
import MailMerge.Proofs.ServiceRefinement
import MailMerge.Proofs.ShortCodeBytes
import MailMerge.Proofs.ShortCodes
import MailMerge.Proofs.SingleDefault
import MailMerge.Proofs.Skeletons
import MailMerge.Proofs.StagedFilling
import MailMerge.Proofs.Storage
import MailMerge.Proofs.StoredImages
import MailMerge.Proofs.TagChanges
import MailMerge.Proofs.TagCoherence
import MailMerge.Proofs.TagFreeText
import MailMerge.Proofs.TagRecords
import MailMerge.Proofs.TemplateCalls
import MailMerge.Proofs.TextLines
import MailMerge.Proofs.TypeCalls
import MailMerge.Proofs.TypedValues
import MailMerge.Proofs.WellFormed
import MailMerge.Proofs.WellFormedStore
import MailMerge.Service.Basic
import MailMerge.Service.Counters
import MailMerge.Service.Error
import MailMerge.Settings.Basic
import MailMerge.Settings.Environment
import MailMerge.Settings.LogFilter
import MailMerge.Settings.Tree
import MailMerge.Settings.Value
import MailMerge.Store.Error
import MailMerge.Store.Json
import MailMerge.Store.Record
import MailMerge.Store.Repository
import MailMerge.Tag.Basic
import MailMerge.Tag.Candidate
import MailMerge.Tag.Custom
import MailMerge.Tag.Json
import MailMerge.Tag.Reference
import MailMerge.Tag.ShortCode
import MailMerge.Tag.Type
import MailMerge.Tag.Value
import MailMerge.Template.Basic
import MailMerge.Template.Content
import MailMerge.Template.Draft
import MailMerge.Template.Error
import MailMerge.Template.Json
import MailMerge.Template.Owner
import MailMerge.Template.Type
import MailMerge.Text.Alphabetic
import MailMerge.Text.Blank
import MailMerge.Text.CodeRanges
import MailMerge.Text.Digits
import MailMerge.Text.LowerCase
import MailMerge.Text.Mark
import MailMerge.Text.NonBlank
import MailMerge.Text.Numeric
import MailMerge.Text.Quoted
import MailMerge.Text.Replace
import MailMerge.Text.WordChar
