import MailMerge.Json.Token
import MailMerge.Json.Tree
/-!
From tokens to trees. The arrays and objects that are still open stand on a stack, the innermost
first; every token is looked at once.
-/

namespace MailMerge

/-- A JSON text: the tree at its start, and whether only white space follows it. -/
structure JsonDocument where
  root : JsonTree
  complete : Bool

namespace JsonDocument

/-- An array or object that is still open: what it holds so far, the last first. An object that
waits for a value knows its name. -/
inductive Open where
  | array (done : List JsonTree)
  | object (done : List (Option String × JsonTree)) (name : Option String)

/-- So many arrays and objects within each other stand for a value. -/
def maxDepth : Nat := 127

/-- What an array or object comes to that is closed within a stack: one that lies too deep stands
for no value. -/
def closed (stack : List Open) (t : JsonTree) : JsonTree :=
  if (stack.drop (maxDepth - 1)).isEmpty then t else .unreadable

/-- Closes everything that is open around a tree. -/
def closeAll (inner : JsonTree) : List Open → JsonTree
  | [] => inner
  | .array done :: stack => closeAll (.array (inner :: done).reverse) stack
  | .object done name :: stack => closeAll (.object ((name, inner) :: done).reverse) stack

/-- A text that breaks off where a value should start. What lies too deep is broken as a whole. -/
def breakOff (stack : List Open) : JsonDocument :=
  ⟨closeAll .broken (stack.drop (stack.length - maxDepth)), false⟩

/-- The tree of a number. -/
def ofNumber : Option JsonNumber → JsonTree
  | some n => .number n
  | none => .unreadable

/-- The tree of a string. -/
def ofString : Option String → JsonTree
  | some s => .string s
  | none => .unreadable

mutual

/-- Reads the tokens from the start of a value on. -/
def readValue (stack : List Open) : List JsonToken → JsonDocument
  | .null :: ts => readBehind stack .null ts
  | .bool b :: ts => readBehind stack (.bool b) ts
  | .number n :: ts => readBehind stack (ofNumber n) ts
  | .string s :: ts => readBehind stack (ofString s) ts
  | .openArray :: .closeArray :: ts => readBehind stack (closed stack (.array [])) ts
  | .openArray :: ts => readValue (.array [] :: stack) ts
  | .openObject :: .closeObject :: ts => readBehind stack (closed stack (.object [])) ts
  | .openObject :: .string name :: .colon :: ts => readValue (.object [] name :: stack) ts
  | .openObject :: _ => breakOff (.object [] none :: stack)
  | _ => breakOff stack

/-- Reads the tokens behind a complete value. -/
def readBehind (stack : List Open) (value : JsonTree) (ts : List JsonToken) : JsonDocument :=
  match stack with
  | [] => ⟨value, ts.isEmpty⟩
  | .array done :: stack =>
    match ts with
    | .comma :: ts => readValue (.array (value :: done) :: stack) ts
    | .closeArray :: ts => readBehind stack (closed stack (.array (value :: done).reverse)) ts
    | _ => breakOff (.array (value :: done) :: stack)
  | .object done name :: stack =>
    match ts with
    | .comma :: .string next :: .colon :: ts =>
      readValue (.object ((name, value) :: done) next :: stack) ts
    | .closeObject :: ts =>
      readBehind stack (closed stack (.object ((name, value) :: done).reverse)) ts
    | _ => breakOff (.object ((name, value) :: done) none :: stack)

end

/-- Reads a text. -/
def ofText (s : String) : JsonDocument := readValue [] (JsonToken.scan s.toList)

end JsonDocument

namespace Json

/-- The value that a text stands for, if it is valid JSON. -/
def ofText? (s : String) : Option Json :=
  let document := JsonDocument.ofText s
  if document.complete then document.root.value? else none

/-- Whether a text is valid JSON. -/
def isValid (s : String) : Bool := (ofText? s).isSome

end Json

end MailMerge
