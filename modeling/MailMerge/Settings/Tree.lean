import MailMerge.Settings.Value
import MailMerge.Text.Replace
/-!
Settings as the variables of an environment give them. A variable whose name starts with `ARA_`, in
any case, sets the value at the path behind it, where two underscores stand for a point. A path goes
down by names and by places in lists. Where it does not lead on, it makes its way: what is in the
way is dropped, and lists are filled up.
-/

namespace MailMerge

/-- Settings by name or by place, down to the values of variables. -/
inductive SettingTree where
  | unset
  | value (v : VariableValue)
  | list (items : List SettingTree)
  | group (members : List (String × SettingTree))

/-- A step down: to the setting of a name, or to a place in a list. A place below zero counts from
the end. -/
inductive SettingStep where
  | name (s : String)
  | place (n : Int)
  deriving DecidableEq

namespace SettingStep

/-- The characters of names in paths. -/
def isNameChar (c : Char) : Bool := c.isAlphanum || c == '_' || c == '-' || c == ' '

/-- Reads a name. -/
def name? (cs : List Char) : Option (SettingStep × List Char) :=
  let run := cs.takeWhile isNameChar
  if run.isEmpty then none else some (name (String.ofList run), cs.dropWhile isNameChar)

/-- Drops blanks and tabs in front. -/
def dropBlanks (cs : List Char) : List Char := cs.dropWhile fun c => c == ' ' || c == '\t'

/-- The place of the given digits, within the numbers of 64 bits. -/
def ofDigits? (negative : Bool) (digits : List Char) : Option SettingStep :=
  let n := Text.digitsValue digits
  if digits.isEmpty then none
  else if n < Nat.pow 2 63 then some (place (if negative then -n else n))
  else if n = Nat.pow 2 63 ∧ negative then some (place (-n))
  else none

/-- Reads the digits of a place, and the bracket behind it. -/
def placeDigits? (negative : Bool) (cs : List Char) : Option (SettingStep × List Char) :=
  match dropBlanks (Text.spanDigits cs).2 with
  | ']' :: rest => (ofDigits? negative (Text.spanDigits cs).1).map fun step => (step, rest)
  | _ => none

/-- Reads a place in brackets, from behind the opening one. -/
def place? (cs : List Char) : Option (SettingStep × List Char) :=
  match dropBlanks cs with
  | '-' :: rest => placeDigits? true rest
  | rest => placeDigits? false rest

/-- Reads a step behind another one. -/
def next? : List Char → Option (SettingStep × List Char)
  | '.' :: rest => name? rest
  | '[' :: rest => place? rest
  | _ => none

theorem name?_length {cs rest : List Char} {step : SettingStep}
    (h : name? cs = some (step, rest)) : rest.length ≤ cs.length := by
  simp only [name?] at h
  split at h
  · cases h
  · simp only [Option.some.injEq, Prod.mk.injEq] at h
    exact h.2 ▸ (List.dropWhile_sublist _).length_le

theorem dropBlanks_length (cs : List Char) : (dropBlanks cs).length ≤ cs.length :=
  (List.dropWhile_sublist _).length_le

theorem placeDigits?_length {negative : Bool} {cs rest : List Char} {step : SettingStep}
    (h : placeDigits? negative cs = some (step, rest)) : rest.length ≤ cs.length := by
  have digits : (Text.spanDigits cs).2.length ≤ cs.length := (List.dropWhile_sublist _).length_le
  have blanks := dropBlanks_length (Text.spanDigits cs).2
  unfold placeDigits? at h
  split at h
  · next found =>
    obtain ⟨_, _, same⟩ := Option.map_eq_some_iff.1 h
    simp only [Prod.mk.injEq] at same
    rw [found, List.length_cons, same.2] at blanks
    omega
  · cases h

theorem place?_length {cs rest : List Char} {step : SettingStep}
    (h : place? cs = some (step, rest)) : rest.length ≤ cs.length := by
  have blanks := dropBlanks_length cs
  unfold place? at h
  split at h
  · next found =>
    have := placeDigits?_length h
    rw [found, List.length_cons] at blanks
    omega
  · exact Nat.le_trans (placeDigits?_length h) blanks

theorem next?_length {cs rest : List Char} {step : SettingStep}
    (h : next? cs = some (step, rest)) : rest.length < cs.length := by
  unfold next? at h
  split at h
  · exact Nat.lt_succ_of_le (name?_length h)
  · exact Nat.lt_succ_of_le (place?_length h)
  · cases h

/-- Reads the steps behind the first one, to the end of the text. -/
def steps? (cs : List Char) : Option (List SettingStep) :=
  if cs.isEmpty then some []
  else
    match _found : next? cs with
    | none => none
    | some (step, rest) => (steps? rest).map (step :: ·)
termination_by cs.length
decreasing_by exact next?_length _found

/-- The path that a text stands for; it starts with a name. -/
def path? (cs : List Char) : Option (List SettingStep) :=
  (name? cs).bind fun (step, rest) => (steps? rest).map (step :: ·)

end SettingStep

namespace SettingTree

/-- The members of a group; anything else has none. -/
def members : SettingTree → List (String × SettingTree)
  | group members => members
  | _ => []

/-- The items of a list; anything else has none. -/
def items : SettingTree → List SettingTree
  | list items => items
  | _ => []

/-- Sets the member of a name. -/
def setMember (name : String) (t : SettingTree) :
    List (String × SettingTree) → List (String × SettingTree)
  | [] => [(name, t)]
  | (other, old) :: rest =>
    if other = name then (name, t) :: rest else (other, old) :: setMember name t rest

/-- The place in a list of the given length; there is none before the start. -/
def placeIn? (length : Nat) (n : Int) : Option Nat :=
  if 0 ≤ n then some n.toNat
  else if n.natAbs ≤ length then some (length - n.natAbs)
  else none

/-- Sets the item at a place of a list, which is filled up to that place. -/
def setItem (n : Nat) (t : SettingTree) (items : List SettingTree) : List SettingTree :=
  (items ++ List.replicate (n + 1 - items.length) unset).set n t

/-- Sets the value at the end of a path. -/
def put (v : VariableValue) : List SettingStep → SettingTree → SettingTree
  | [], _ => value v
  | .name s :: steps, t =>
    let below := (t.members.lookup s).getD unset
    group (setMember s (put v steps below) t.members)
  | .place n :: steps, t =>
    match placeIn? t.items.length n with
    | none => t
    | some i =>
      let below := t.items[i]?.getD unset
      list (setItem i (put v steps below) t.items)

/-- What the names of variables start with, in lower case. -/
def variableLead : List Char := "ara_".toList

/-- The path that a variable sets. -/
def variablePath? (name : String) : Option (List SettingStep) :=
  (Text.afterPrefix? variableLead (Text.lower name.toList)).bind fun rest =>
    SettingStep.path? (Text.replaceAll '_' ['_'] ['.'] rest)

/-- The settings that variables give, in order; those whose names are no paths are left out. -/
def ofEnvironment (environment : List (String × String)) : SettingTree :=
  environment.foldl (fun t v =>
    match variablePath? v.1 with
    | some path => put (VariableValue.ofText v.2) path t
    | none => t) (group [])

end SettingTree

end MailMerge
