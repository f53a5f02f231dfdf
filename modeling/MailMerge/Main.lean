import MailMerge.CommandLine.Run
import MailMerge.Json.Print
/-!
The command line: the command reads the environment and the fixture, and prints the mail as JSON, or
an error.
-/

namespace MailMerge.CommandLine

/-- Cuts bytes at every zero. -/
def splitZeros (bytes : List UInt8) : List (List UInt8) :=
  bytes.foldr (fun b pieces =>
    if b = 0 then [] :: pieces
    else
      match pieces with
      | [] => [[b]]
      | piece :: rest => (b :: piece) :: rest) []

/-- A variable as the environment holds it: its name, an equals sign, and its value. -/
def assignment? (bytes : List UInt8) : Option (String × String) :=
  (String.fromUTF8? ⟨bytes.toArray⟩).map fun s =>
    (String.ofList (s.toList.takeWhile (· != '=')),
      String.ofList ((s.toList.dropWhile (· != '=')).drop 1))

/-- The variable with a log filter that goes before the level of the settings. -/
def filterVariable : String := "RUST_LOG"

/-- The variables of the environment. -/
def readVariables : IO (List (String × String)) := do
  try
    let bytes ← IO.FS.readBinFile "/proc/self/environ"
    return (splitZeros bytes.toList).filterMap assignment?
  catch _ => return []

/-- What the file at a path holds, if it can be read. -/
def readText? (path : String) : IO (Option String) := do
  try
    return some (← IO.FS.readFile path)
  catch _ => return none

/-- A number of 128 random bits. -/
def randomBits : IO Nat := do
  let bytes ← IO.getRandomBytes 16
  return bytes.toList.foldl (fun n b => 256 * n + b.toNat) 0

/-- Identifiers that follow a random number. -/
def idsFrom (start : Nat) : FixtureIds where
  templateType := Guid.ofRandomBits start
  template := Guid.ofRandomBits (start + 1)
  owner := Guid.ofRandomBits (start + 2)
  content n := Guid.ofRandomBits (start + 3 + 2 * n)
  resource n := (Guid.ofRandomBits (start + 4 + 2 * n)).simpleText

/-- Prints an error and tells that the command failed. -/
def fail (e : CommandError) : IO UInt32 := do
  IO.eprintln ("Error: " ++ e.message)
  return 1

/-- Renders the mail of the fixture that the first argument names. A mail does not show when its
template was made, so any time will do for that. -/
def renderFixture (arguments : List String) : IO UInt32 := do
  let environment ← readVariables
  match start environment (environment.lookup filterVariable), arguments with
  | .error e, _ => fail e
  | .ok _, [] => fail .usage
  | .ok settings, path :: _ =>
    let ids := idsFrom (← randomBits)
    match run settings ids DateTime.epoch path (← readText? path) with
    | .error e => fail e
    | .ok mail =>
      IO.println mail.toJson.prettyText
      return 0

end MailMerge.CommandLine

/-- The command. -/
def main (arguments : List String) : IO UInt32 := MailMerge.CommandLine.renderFixture arguments
