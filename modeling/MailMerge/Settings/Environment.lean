import MailMerge.Settings.Tree
/-!
Settings from environment variables. A section is read from a group, by the names of its settings,
or from a list, by their order.
-/

namespace MailMerge

/-- What a setting needs. -/
inductive SettingKind where
  | truth
  | amount
  | text
  deriving DecidableEq

/-- What stands in the place of a setting. -/
inductive FoundSetting where
  | unset
  | value (v : VariableValue)
  | list
  | group
  deriving DecidableEq

/-- The sections of the settings. -/
inductive SettingSection where
  | merge
  | templates
  | telemetry
  deriving DecidableEq

/-- The name of a section. -/
def SettingSection.name : SettingSection → String
  | merge => "merge"
  | templates => "templates"
  | telemetry => "telemetry"

/-- What a section is called in messages. -/
def SettingSection.words : SettingSection → String
  | merge => "struct MergeConfig"
  | templates => "struct TemplatesConfig"
  | telemetry => "struct TelemetryConfig"

/-- Why there are no settings: something stands in the place of a section, or cannot be converted to
what the setting at a place needs. -/
inductive SettingsError where
  | noSection (found : FoundSetting) (expected : SettingSection)
  | noSetting (place : String) (found : FoundSetting) (needed : SettingKind)
  deriving DecidableEq

namespace FoundSetting

/-- What stands at a place. -/
def ofTree : SettingTree → FoundSetting
  | .unset => unset
  | .value v => value v
  | .list _ => list
  | .group _ => group

/-- A finite double with a point, also where it has no fraction; others have no digits to point
at. -/
def withPoint (x : Double) : String :=
  match x with
  | .finite _ _ => if x.text.toList.contains '.' then x.text else x.text ++ ".0"
  | _ => x.text

/-- What stands in the place of a section, in words. -/
def sectionWords : FoundSetting → String
  | unset => "unit value"
  | value (.truth b) => "boolean `" ++ (VariableValue.truth b).asText ++ "`"
  | value (.whole n) => "integer `" ++ toString n ++ "`"
  | value (.real x) => "floating point `" ++ withPoint x ++ "`"
  | value (.text s) => "string " ++ Text.quoted s
  | list => "sequence"
  | group => "map"

/-- What stands in the place of a setting, in words. A text in the place of a truth value is shown
in lower case. -/
def settingWords (needed : SettingKind) : FoundSetting → String
  | unset => "unit value"
  | value (.truth b) => "boolean `" ++ (VariableValue.truth b).asText ++ "`"
  | value (.whole n) => "64-bit integer `" ++ toString n ++ "`"
  | value (.real x) => "floating point `" ++ x.text ++ "`"
  | value (.text s) =>
    "string " ++
      Text.quoted (if needed = .truth then String.ofList (Text.lower s.toList) else s)
  | list => "sequence"
  | group => "map"

/-- Where something comes from, if it is a value that a variable gives. -/
def origin : FoundSetting → String
  | value _ => " in the environment"
  | _ => ""

end FoundSetting

/-- What a setting needs, in words; a number below zero is told what amounts are. -/
def SettingKind.words (found : FoundSetting) : SettingKind → String
  | truth => "a boolean"
  | text => "a string"
  | amount =>
    match found with
    | .value (.whole _) => "an unsigned 64 bit or less integer"
    | _ => "an integer"

/-- The error in words. -/
def SettingsError.message : SettingsError → String
  | noSection found expected =>
    "invalid type: " ++ found.sectionWords ++ ", expected " ++ expected.words
  | noSetting place found needed =>
    "invalid type: " ++ found.settingWords needed ++ ", expected " ++ needed.words found ++
      " for key `" ++ place ++ "`" ++ found.origin

/-- The settings of a section, as variables give them. -/
inductive SectionTree where
  | named (members : List (String × SettingTree))
  | listed (items : List SettingTree)

namespace SectionTree

/-- The settings of a section; a section that is not there has none. -/
def find (settings : List (String × SettingTree)) (s : SettingSection) :
    Except SettingsError SectionTree :=
  match settings.lookup s.name with
  | none => .ok (named [])
  | some (.group members) => .ok (named members)
  | some (.list items) => .ok (listed items)
  | some t => .error (.noSection (.ofTree t) s)

/-- A setting of a section, by its name or by its number, with the words for its place. -/
def setting? (t : SectionTree) (s : SettingSection) (number : Nat) (name : String) :
    Option (String × SettingTree) :=
  match t with
  | named members => (members.lookup name).map fun t => (s.name ++ "." ++ name, t)
  | listed items => items[number]?.map fun t => (s.name ++ "[" ++ toString number ++ "]", t)

/-- Converts what stands at a place, if anything does. -/
def convert {α : Type} (needed : SettingKind) (value? : VariableValue → Option α) (missing : α) :
    Option (String × SettingTree) → Except SettingsError α
  | none => .ok missing
  | some (place, t) =>
    let failed : Except SettingsError α := .error (.noSetting place (.ofTree t) needed)
    match t with
    | .value v =>
      match value? v with
      | some a => .ok a
      | none => failed
    | _ => failed

/-- A truth value. -/
def truth (missing : Bool) : Option (String × SettingTree) → Except SettingsError Bool :=
  convert .truth VariableValue.truth? missing

/-- A number from zero up. -/
def amount (missing : Nat) : Option (String × SettingTree) → Except SettingsError Nat :=
  convert .amount VariableValue.amount? missing

/-- A text. -/
def text (missing : String) : Option (String × SettingTree) → Except SettingsError String :=
  convert .text (fun v => some v.asText) missing

end SectionTree

/-- The section on merging. -/
def MergeSettings.ofTree (t : SectionTree) : Except SettingsError MergeSettings := do
  let keepUnresolved ← SectionTree.truth default.keepUnresolved
    (t.setting? .merge 0 "keep_unresolved_placeholders")
  let maxInlineBytes ← SectionTree.amount default.maxInlineBytes
    (t.setting? .merge 1 "max_inline_image_bytes")
  return ⟨keepUnresolved, maxInlineBytes⟩

/-- The section on templates. -/
def TemplateSettings.ofTree (t : SectionTree) : Except SettingsError TemplateSettings := do
  let defaultCulture ← SectionTree.text default.defaultCulture
    (t.setting? .templates 0 "default_culture")
  let maxSubjectLength ← SectionTree.amount default.maxSubjectLength
    (t.setting? .templates 1 "max_subject_length")
  return ⟨defaultCulture, maxSubjectLength⟩

/-- The section on logging. -/
def LogSettings.ofTree (t : SectionTree) : Except SettingsError LogSettings := do
  let json ← SectionTree.truth default.json (t.setting? .telemetry 0 "json")
  let level ← SectionTree.text default.level (t.setting? .telemetry 1 "level")
  return ⟨json, level⟩

/-- The settings that environment variables ask for. -/
def Settings.ofEnvironment (environment : List (String × String)) :
    Except SettingsError Settings := do
  let settings := (SettingTree.ofEnvironment environment).members
  let merge ← MergeSettings.ofTree (← SectionTree.find settings .merge)
  let templates ← TemplateSettings.ofTree (← SectionTree.find settings .templates)
  let telemetry ← LogSettings.ofTree (← SectionTree.find settings .telemetry)
  return ⟨merge, templates, telemetry⟩

end MailMerge
