import MailMerge.Double.Shortest
/-!
JSON values. An object keeps its members as they are written, in order and with repeated names;
`normalize` sorts them by name and keeps the last of each name.
-/

namespace MailMerge

/-- A JSON number: a whole number of 64 bits, or a double. -/
inductive JsonNumber where
  | whole (n : Int)
  | real (x : Double)
  deriving DecidableEq

/-- A JSON value. -/
inductive Json where
  | null
  | bool (b : Bool)
  | number (n : JsonNumber)
  | string (s : String)
  | array (items : List Json)
  | object (members : List (String × Json))

namespace Json

/-- Puts a member at its place in a list sorted by name; a member of the same name is replaced. -/
def insertMember (name : String) (value : Json) :
    List (String × Json) → List (String × Json)
  | [] => [(name, value)]
  | (other, old) :: rest =>
    if name < other then (name, value) :: (other, old) :: rest
    else if other < name then (other, old) :: insertMember name value rest
    else (name, value) :: rest

mutual

/-- Sorts the members of every object by name and keeps the last of each name. -/
def normalize : Json → Json
  | null => null
  | bool b => bool b
  | number n => number n
  | string s => string s
  | array items => array (normalizeItems items)
  | object members => object (normalizeMembers [] members)

/-- Normalizes the items of an array. -/
def normalizeItems : List Json → List Json
  | [] => []
  | item :: items => item.normalize :: normalizeItems items

/-- Adds normalized members to a list sorted by name. -/
def normalizeMembers (sorted : List (String × Json)) :
    List (String × Json) → List (String × Json)
  | [] => sorted
  | (name, value) :: members =>
    normalizeMembers (insertMember name value.normalize sorted) members

end

/-- A member of an object; of several with one name the last. -/
def member? (name : String) (members : List (String × Json)) : Option Json :=
  (members.reverse.find? fun m => m.1 == name).map Prod.snd

end Json

end MailMerge
