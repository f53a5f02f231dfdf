/-!
Lists in strictly ascending order of a key. They serve as ordered maps, where the key is the first
component of a pair, and as ordered sets, where the key determines the element. The order is part
of the type, so two such lists that hold the same elements are equal.
-/

namespace MailMerge

/-- Keys whose order is strict and total. -/
class OrderedKey (κ : Type) [LT κ] : Prop where
  lt_irrefl : ∀ {a : κ}, ¬a < a
  lt_trans : ∀ {a b c : κ}, a < b → b < c → a < c
  eq_of_not_lt : ∀ {a b : κ}, ¬a < b → ¬b < a → a = b

instance : OrderedKey Nat where
  lt_irrefl := Nat.lt_irrefl _
  lt_trans := Nat.lt_trans
  eq_of_not_lt h₁ h₂ := Nat.le_antisymm (Nat.le_of_not_lt h₂) (Nat.le_of_not_lt h₁)

instance : OrderedKey String where
  lt_irrefl := Std.Irrefl.irrefl _
  lt_trans := Trans.trans
  eq_of_not_lt := Std.Trichotomous.trichotomous _ _

instance : OrderedKey (List String) where
  lt_irrefl := Std.Irrefl.irrefl _
  lt_trans := Trans.trans
  eq_of_not_lt := Std.Trichotomous.trichotomous _ _

/-- A list whose elements stand in strictly ascending order of `key`. -/
structure Ascending {α κ : Type} [LT κ] (key : α → κ) where
  toList : List α
  ascending : toList.Pairwise (fun a b => key a < key b)

namespace Ascending

variable {α κ : Type} [LT κ] [DecidableLT κ] {key : α → κ}

/-- Puts `a` at the place of its key; an element that has the key already is replaced. -/
def insertInto (key : α → κ) (a : α) : List α → List α
  | [] => [a]
  | b :: rest =>
    if key a < key b then a :: b :: rest
    else if key b < key a then b :: insertInto key a rest
    else a :: rest

theorem mem_insertInto {a x : α} {xs : List α} (h : x ∈ insertInto key a xs) : x = a ∨ x ∈ xs := by
  induction xs with
  | nil => exact .inl (List.mem_singleton.1 h)
  | cons b rest ih =>
    simp only [insertInto] at h
    split at h
    · simpa using h
    · split at h
      · rcases List.mem_cons.1 h with same | inner
        · exact .inr (by simp [same])
        · rcases ih inner with same | old
          · exact .inl same
          · exact .inr (List.mem_cons_of_mem _ old)
      · rcases List.mem_cons.1 h with same | old
        · exact .inl same
        · exact .inr (List.mem_cons_of_mem _ old)

variable [OrderedKey κ]

theorem pairwise_insertInto (a : α) {xs : List α}
    (h : xs.Pairwise (fun a b => key a < key b)) :
    (insertInto key a xs).Pairwise (fun a b => key a < key b) := by
  induction xs with
  | nil => simp [insertInto]
  | cons b rest ih =>
    obtain ⟨below, rest_ascending⟩ := List.pairwise_cons.1 h
    simp only [insertInto]
    split
    · next lower =>
      refine List.pairwise_cons.2 ⟨fun x hx => ?_, h⟩
      rcases List.mem_cons.1 hx with rfl | hx
      · exact lower
      · exact OrderedKey.lt_trans lower (below x hx)
    · next notLower =>
      split
      · next higher =>
        refine List.pairwise_cons.2 ⟨fun x hx => ?_, ih rest_ascending⟩
        rcases mem_insertInto hx with rfl | hx
        · exact higher
        · exact below x hx
      · next notHigher =>
        have same : key a = key b := OrderedKey.eq_of_not_lt notLower notHigher
        exact List.pairwise_cons.2 ⟨fun x hx => same ▸ below x hx, rest_ascending⟩

/-- The list with no element. -/
def empty : Ascending key := ⟨[], .nil⟩

/-- Puts an element at the place of its key; an element that has the key already is replaced. -/
def insert (s : Ascending key) (a : α) : Ascending key :=
  ⟨insertInto key a s.toList, pairwise_insertInto a s.ascending⟩

/-- Inserts the elements in turn, so that of two elements with one key the later stays. -/
def ofList (xs : List α) : Ascending key := xs.foldl insert empty

omit [OrderedKey κ] in
/-- The elements that satisfy `keep`. -/
def filter (keep : α → Bool) (s : Ascending key) : Ascending key :=
  ⟨s.toList.filter keep, s.ascending.filter keep⟩

omit [DecidableLT κ] [OrderedKey κ] in
/-- The element with the key `k`. -/
def find? [BEq κ] (s : Ascending key) (k : κ) : Option α := s.toList.find? (fun a => key a == k)

omit [DecidableLT κ] [OrderedKey κ] in
@[ext] theorem ext {s t : Ascending key} (h : s.toList = t.toList) : s = t := by
  cases s
  cases t
  cases h
  rfl

instance [DecidableEq α] : DecidableEq (Ascending key) := fun s t =>
  decidable_of_iff (s.toList = t.toList) ⟨ext, fun h => h ▸ rfl⟩

instance : Inhabited (Ascending key) := ⟨empty⟩

end Ascending

/-- A map from texts to `β`, in the order of its names. -/
abbrev Dict (β : Type) := Ascending (α := String × β) Prod.fst

namespace Dict

variable {β : Type}

/-- The value under a name. -/
def get? (d : Dict β) (name : String) : Option β := (d.find? name).map Prod.snd

/-- Sets the value under a name. -/
def set (d : Dict β) (name : String) (value : β) : Dict β := d.insert (name, value)

/-- Takes a name away. -/
def erase (d : Dict β) (name : String) : Dict β := d.filter (fun entry => entry.1 != name)

end Dict

end MailMerge
