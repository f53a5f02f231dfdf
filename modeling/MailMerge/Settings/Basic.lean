import MailMerge.Json.Shape
import MailMerge.Mail.Render
import MailMerge.Template.Draft
/-!
Settings, in three sections, and their JSON form. What is not set has a value of its own.
-/

namespace MailMerge

/-- How mails are merged. -/
structure MergeSettings where
  keepUnresolved : Bool
  maxInlineBytes : Nat
  deriving DecidableEq

/-- Merging where nothing is set. -/
def MergeSettings.default : MergeSettings := ⟨false, defaultMaxInlineBytes⟩

/-- How templates are handled. -/
structure TemplateSettings where
  defaultCulture : String
  maxSubjectLength : Nat
  deriving DecidableEq

/-- Handling of templates where nothing is set. -/
def TemplateSettings.default : TemplateSettings := ⟨"en-US", MailMerge.maxSubjectLength⟩

/-- What is logged, and how. -/
structure LogSettings where
  json : Bool
  level : String
  deriving DecidableEq

/-- Logging where nothing is set. -/
def LogSettings.default : LogSettings := ⟨false, "info"⟩

/-- All settings. -/
structure Settings where
  merge : MergeSettings
  templates : TemplateSettings
  telemetry : LogSettings
  deriving DecidableEq

/-- The settings where nothing is set. -/
def Settings.default : Settings :=
  ⟨MergeSettings.default, TemplateSettings.default, LogSettings.default⟩

/-- The options of merging that the settings ask for; values are always escaped. -/
def MergeSettings.options (s : MergeSettings) : MergeOptions :=
  ⟨s.keepUnresolved, true, s.maxInlineBytes⟩

/-- The largest number of 64 bits. -/
def maxSetting : Nat := Nat.pow 2 64 - 1

namespace MergeSettings

/-- The section as a record. -/
def shape : Json.Shape MergeSettings :=
  MergeSettings.mk
    <$> .orElse "keep_unresolved_placeholders" Json.readBool default.keepUnresolved
    <*> .orElse "max_inline_image_bytes" (Json.readNat maxSetting) default.maxInlineBytes

/-- The record of the section. -/
def toJson (s : MergeSettings) : Json :=
  .object
    [("keep_unresolved_placeholders", .bool s.keepUnresolved),
      ("max_inline_image_bytes", .number (.whole s.maxInlineBytes))]

end MergeSettings

namespace TemplateSettings

/-- The section as a record. -/
def shape : Json.Shape TemplateSettings :=
  TemplateSettings.mk <$> .orElse "default_culture" Json.readString default.defaultCulture
    <*> .orElse "max_subject_length" (Json.readNat maxSetting) default.maxSubjectLength

/-- The record of the section. -/
def toJson (s : TemplateSettings) : Json :=
  .object
    [("default_culture", .string s.defaultCulture),
      ("max_subject_length", .number (.whole s.maxSubjectLength))]

end TemplateSettings

namespace LogSettings

/-- The section as a record. -/
def shape : Json.Shape LogSettings :=
  LogSettings.mk <$> .orElse "json" Json.readBool default.json
    <*> .orElse "level" Json.readString default.level

/-- The record of the section. -/
def toJson (s : LogSettings) : Json :=
  .object [("json", .bool s.json), ("level", .string s.level)]

end LogSettings

namespace Settings

/-- All settings as a record of records. -/
def shape : Json.Shape Settings :=
  Settings.mk <$> .orElse "merge" MergeSettings.shape.read MergeSettings.default
    <*> .orElse "templates" TemplateSettings.shape.read TemplateSettings.default
    <*> .orElse "telemetry" LogSettings.shape.read LogSettings.default

/-- The members of the record of all settings. -/
def members (s : Settings) : List (String × Json) :=
  [("merge", s.merge.toJson), ("templates", s.templates.toJson),
    ("telemetry", s.telemetry.toJson)]

end Settings

end MailMerge
