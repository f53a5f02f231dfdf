import MailMerge.Json.Basic
/-!
What a JSON text says as far as it goes. A text may be well formed and yet hold parts that stand
for no value, and it may break off; a tree keeps both, so that typed data can be read up to the
first fault and parts that nobody asks for can be skipped. Main statement: the tree of a value
stands for that value.
-/

namespace MailMerge

/-- A JSON text as a tree. An `unreadable` part is well formed and stands for no value. Where a
`broken` part starts the text is no JSON any more: nothing follows it. The name of a member is
missing if it stands for no string. -/
inductive JsonTree where
  | null
  | bool (b : Bool)
  | number (n : JsonNumber)
  | string (s : String)
  | array (items : List JsonTree)
  | object (members : List (Option String × JsonTree))
  | unreadable
  | broken

namespace JsonTree

mutual

/-- Whether a tree is well formed to its end. -/
def isWhole : JsonTree → Bool
  | array items => areWhole items
  | object members => membersAreWhole members
  | broken => false
  | _ => true

/-- Whether all items of an array are well formed. -/
def areWhole : List JsonTree → Bool
  | [] => true
  | item :: items => item.isWhole && areWhole items

/-- Whether all members of an object are well formed. -/
def membersAreWhole : List (Option String × JsonTree) → Bool
  | [] => true
  | (_, value) :: members => value.isWhole && membersAreWhole members

end

mutual

/-- The value that a tree stands for. -/
def value? : JsonTree → Option Json
  | null => some .null
  | bool b => some (.bool b)
  | number n => some (.number n)
  | string s => some (.string s)
  | array items => (values? items).map .array
  | object members => (memberValues? members).map .object
  | unreadable => none
  | broken => none

/-- The values of the items of an array. -/
def values? : List JsonTree → Option (List Json)
  | [] => some []
  | item :: items =>
    match item.value?, values? items with
    | some j, some js => some (j :: js)
    | _, _ => none

/-- The names and values of the members of an object. -/
def memberValues? : List (Option String × JsonTree) → Option (List (String × Json))
  | [] => some []
  | (name, value) :: members =>
    match name, value.value?, memberValues? members with
    | some s, some j, some ms => some ((s, j) :: ms)
    | _, _, _ => none

end

end JsonTree

namespace Json

mutual

/-- A value as a tree. -/
def tree : Json → JsonTree
  | null => .null
  | bool b => .bool b
  | number n => .number n
  | string s => .string s
  | array items => .array (trees items)
  | object members => .object (memberTrees members)

/-- The items of an array as trees. -/
def trees : List Json → List JsonTree
  | [] => []
  | item :: items => item.tree :: trees items

/-- The members of an object with their values as trees. -/
def memberTrees : List (String × Json) → List (Option String × JsonTree)
  | [] => []
  | (name, value) :: members => (some name, value.tree) :: memberTrees members

end

mutual

theorem value?_tree (j : Json) : j.tree.value? = some j := by
  cases j with
  | array items => simp only [tree, JsonTree.value?, values?_trees items, Option.map_some]
  | object members =>
    simp only [tree, JsonTree.value?, memberValues?_memberTrees members, Option.map_some]
  | null | bool | number | string => rfl

theorem values?_trees (items : List Json) : JsonTree.values? (trees items) = some items := by
  cases items with
  | nil => rfl
  | cons item items =>
    simp only [trees, JsonTree.values?, value?_tree item, values?_trees items]

theorem memberValues?_memberTrees (members : List (String × Json)) :
    JsonTree.memberValues? (memberTrees members) = some members := by
  cases members with
  | nil => rfl
  | cons m members =>
    simp only [memberTrees, JsonTree.memberValues?, value?_tree m.2,
      memberValues?_memberTrees members]

end

end Json

end MailMerge
