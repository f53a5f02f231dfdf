import MailMerge.CommandLine.Fixture
import MailMerge.Settings.LogFilter
/-!
The command: it reads the settings, checks the log filter, and renders the mail of a fixture.
-/

namespace MailMerge.CommandLine

/-- Checks the log filter. A filter that is given apart from the settings goes before their level,
unless it is none. -/
def checkFilter (filter : Option String) (settings : Settings) : Except CommandError Unit :=
  if (filter.map LogFilter.isValid).getD false then .ok ()
  else if LogFilter.isValid settings.telemetry.level then .ok ()
  else .error (.logFilter settings.telemetry.level)

/-- The settings of the command, from the variables of its environment. -/
def start (environment : List (String × String)) (filter : Option String) :
    Except CommandError Settings := do
  let settings ← (Settings.ofEnvironment environment).mapError CommandError.settings
  checkFilter filter settings
  return settings

/-- Renders the mail of the fixture at a path, of which `text` is what the file holds, if it can be
read. -/
def run (settings : Settings) (ids : FixtureIds) (now : DateTime) (path : String)
    (text : Option String) : Except CommandError RenderedEmail :=
  match text with
  | none => .error (.unreadable path)
  | some text =>
    match Fixture.ofText? text with
    | none => .error (.invalidFixture path)
    | some fixture => fixture.render settings ids now

end MailMerge.CommandLine
