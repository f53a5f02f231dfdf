import MailMerge.Store.Error
import MailMerge.Template.Error
/-!
What can go wrong with a request to the service, and the code that programs tell it by.
-/

namespace MailMerge

/-- What the service itself refuses. -/
inductive Refusal where
  | subjectTooLong (length limit : Nat)
  | described (text : String)
  deriving DecidableEq

/-- The refusal in words. -/
def Refusal.words : Refusal → String
  | subjectTooLong length limit => s!"Subject is {length} characters, the limit is {limit}"
  | described text => text

/-- Why a request fails. -/
inductive ServiceError where
  | refused (refusal : Refusal)
  | template (error : TemplateError)
  | store (error : StoreError)
  deriving DecidableEq

namespace ServiceError

/-- The error in words. -/
def message : ServiceError → String
  | refused refusal => "Validation error: " ++ refusal.words
  | template error => error.message
  | store error => error.message

/-- The stable code of the error. -/
def code : ServiceError → String
  | refused _ => "VALIDATION_ERROR"
  | template (.notFound _) => "NOT_FOUND"
  | template (.alreadyExists _) => "CONFLICT"
  | template (.duplicateTag _) => "CONFLICT"
  | template (.invalid _) => "VALIDATION_ERROR"
  | template (.invalidCulture _) => "VALIDATION_ERROR"
  | template (.defaultRequired _) => "DEFAULT_CONTENT_REQUIRED"
  | template (.references _) => "EXTRACTION_ERROR"
  | template (.tag _) => "INVALID_MERGE_TAG"
  | template (.render _) => "MERGE_ERROR"
  | store (.notFound _) => "NOT_FOUND"
  | store _ => "STORAGE_ERROR"

/-- Whether something addressed does not exist. -/
def isNotFound (e : ServiceError) : Bool := e.code == "NOT_FOUND"

end ServiceError

end MailMerge
