import MailMerge.Ascending
import MailMerge.Json.Read
/-!
Reading typed data out of JSON. A shape describes a record by its fields; a record is read from an
object with members in any order, or from an array with the fields in the order of the shape. Of
several faults the first in the order of the text counts, and a text that is no JSON has its fault
where it breaks off. Members that are no fields are skipped, whatever they hold.
-/

namespace MailMerge

namespace Json

/-- Why something cannot be read: it has another shape, or a text in it is refused for the given
reason. -/
inductive Fault where
  | shape
  | refused (message : String)
  deriving DecidableEq

/-- A way to read something from the tree of a text. -/
abbrev Reader (α : Type) := JsonTree → Except Fault α

/-- Reads any value. -/
def readAny : Reader Json := fun t =>
  match t.value? with
  | some j => .ok j
  | none => .error .shape

/-- Reads a string. -/
def readString : Reader String
  | .string s => .ok s
  | _ => .error .shape

/-- Reads true or false. -/
def readBool : Reader Bool
  | .bool b => .ok b
  | _ => .error .shape

/-- Reads a whole number from 0 to `limit`. -/
def readNat (limit : Nat) : Reader Nat
  | .number (.whole n) => if 0 ≤ n ∧ n.toNat ≤ limit then .ok n.toNat else .error .shape
  | _ => .error .shape

/-- Reads a byte, as a number. -/
def readByte : Reader UInt8 := fun t => (readNat 255 t).map UInt8.ofNat

/-- Reads what `read` reads, or null. -/
def readNullable {α : Type} (read : Reader α) : Reader (Option α)
  | .null => .ok none
  | t => (read t).map some

/-- Reads an array of values. -/
def readList {α : Type} (read : Reader α) : Reader (List α)
  | .array items => items.mapM read
  | _ => .error .shape

/-- Reads a member of an object with its name. -/
def readMember {α : Type} (read : Reader α) (m : Option String × JsonTree) :
    Except Fault (String × α) :=
  match m.1 with
  | some name => (read m.2).map fun a => (name, a)
  | none => .error .shape

/-- Reads an object whose members all have values of one kind; of several members with one name the
last counts. -/
def readDict {α : Type} (read : Reader α) : Reader (Dict α)
  | .object members => (members.mapM (readMember read)).map Ascending.ofList
  | _ => .error .shape

/-- Reads a string for which `parse` has a value. -/
def readText {α : Type} (parse : String → Option α) : Reader α
  | .string s =>
    match parse s with
    | some a => .ok a
    | none => .error .shape
  | _ => .error .shape

/-- Reads a string that `accept` takes; the reason why it does not is kept. -/
def readAccepted {α ε : Type} (message : ε → String) (accept : String → Except ε α) : Reader α
  | .string s => (accept s).mapError fun e => .refused (message e)
  | _ => .error .shape

/-- Reads one of several names, as a string or as the only member of an object, with null. -/
def readName {α : Type} (parse : String → Option α) : Reader α
  | .object [(some name, .null)] => readText parse (.string name)
  | t => readText parse t

/-- Reads one of several names, where an empty object may stand for null. -/
def readLooseName {α : Type} (parse : String → Option α) : Reader α
  | .object [(some name, .object [])] => readText parse (.string name)
  | t => readName parse t

/-- A field of a record: its name, the test that its value can be read, and whether it may be
missing from an object and at the end of an array. -/
structure Field where
  name : String
  check : JsonTree → Except Fault Unit
  optional : Bool
  optionalAtEnd : Bool

/-- A record: its fields, and how it is made from their values. -/
structure Shape (α : Type) where
  fields : List Field
  build : (String → Option JsonTree) → Except Fault α

namespace Shape

instance : Applicative Shape where
  pure a := ⟨[], fun _ => .ok a⟩
  seq f x := ⟨f.fields ++ (x ()).fields, fun value =>
    match f.build value with
    | .error fault => .error fault
    | .ok g => ((x ()).build value).map g⟩

/-- A field with a value to take where it is missing. -/
def fieldOr {α : Type} (optional optionalAtEnd : Bool) (missing : Except Fault α) (name : String)
    (read : Reader α) : Shape α :=
  ⟨[⟨name, fun t => (read t).map fun _ => (), optional, optionalAtEnd⟩], fun value =>
    match value name with
    | some t => read t
    | none => missing⟩

/-- A field that must be there. -/
def required {α : Type} (name : String) (read : Reader α) : Shape α :=
  fieldOr false false (.error .shape) name read

/-- A field that may be null, and may be missing from an object. -/
def nullable {α : Type} (name : String) (read : Reader α) : Shape (Option α) :=
  fieldOr true false (.ok none) name (readNullable read)

/-- A field that has a value of its own where it is missing. -/
def orElse {α : Type} (name : String) (read : Reader α) (missing : α) : Shape α :=
  fieldOr true true (.ok missing) name read

/-- Checks the members of an object in order. A field must not stand twice; members that are no
fields only have to be well formed. -/
def checkMembers (fields : List Field) (seen : List String) :
    List (Option String × JsonTree) → Except Fault (List String)
  | [] => .ok seen
  | (none, _) :: _ => .error .shape
  | (some name, value) :: members =>
    match fields.find? fun f => f.name == name with
    | none => if value.isWhole then checkMembers fields seen members else .error .shape
    | some field =>
      if seen.contains name then .error .shape
      else
        match field.check value with
        | .error fault => .error fault
        | .ok _ => checkMembers fields (name :: seen) members

/-- Checks the items of an array against the fields, in order. -/
def checkItems : List Field → List JsonTree → Except Fault Unit
  | [], [] => .ok ()
  | [], _ :: _ => .error .shape
  | field :: fields, [] =>
    if (field :: fields).all Field.optionalAtEnd then .ok () else .error .shape
  | field :: fields, item :: items =>
    match field.check item with
    | .error fault => .error fault
    | .ok _ => checkItems fields items

/-- Reads a record. -/
def read {α : Type} (shape : Shape α) : Reader α
  | .object members =>
    match checkMembers shape.fields [] members with
    | .error fault => .error fault
    | .ok seen =>
      if shape.fields.all fun f => f.optional || seen.contains f.name then
        shape.build fun name => members.lookup (some name)
      else .error .shape
  | .array items =>
    match checkItems shape.fields items with
    | .error fault => .error fault
    | .ok _ => shape.build fun name => ((shape.fields.map Field.name).zip items).lookup name
  | _ => .error .shape

end Shape

/-- Reads something from a whole text. A text that goes on behind what is read has its fault
there. -/
def readDocument {α : Type} (read : Reader α) (s : String) : Except Fault α :=
  let document := JsonDocument.ofText s
  match read document.root with
  | .error fault => .error fault
  | .ok a => if document.complete then .ok a else .error .shape

/-- The items of a list as an array. -/
def ofList {α : Type} (item : α → Json) (items : List α) : Json := array (items.map item)

/-- A value, or null. -/
def ofOption {α : Type} (value : α → Json) : Option α → Json
  | some a => value a
  | none => null

end Json

end MailMerge
