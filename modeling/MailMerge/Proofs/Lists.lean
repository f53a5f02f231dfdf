import MailMerge.Ascending
import MailMerge.Outcome
import Mathlib.Data.List.Forall2
import Mathlib.Data.List.Induction
import Mathlib.Data.List.Nodup
import Mathlib.Data.List.Perm.Basic
/-!
Lists as the operations of the library go through them: every element in turn, the first that
satisfies a test, or in the order of a key.
-/

set_option autoImplicit false

namespace MailMerge

theorem bind_eq_ok {ε α β : Type} {x : Except ε α} {f : α → Except ε β} {b : β} :
    x >>= f = .ok b ↔ ∃ a, x = .ok a ∧ f a = .ok b := by
  cases x with
  | error e => exact ⟨nofun, nofun⟩
  | ok a =>
      constructor
      · intro result
        exact ⟨a, rfl, result⟩
      · rintro ⟨a', ⟨⟩, result⟩
        exact result

theorem bind_eq_error {ε α β : Type} {x : Except ε α} {f : α → Except ε β} {e : ε} :
    x >>= f = .error e ↔ x = .error e ∨ ∃ a, x = .ok a ∧ f a = .error e := by
  cases x with
  | error e' =>
      constructor
      · rintro ⟨⟩
        exact Or.inl rfl
      · rintro (⟨⟨⟩⟩ | ⟨_, ⟨⟩, _⟩)
        rfl
  | ok a =>
      constructor
      · intro failed
        exact Or.inr ⟨a, rfl, failed⟩
      · rintro (⟨⟨⟩⟩ | ⟨a', ⟨⟩, failed⟩)
        exact failed

theorem map_eq_ok {ε α β : Type} {x : Except ε α} {f : α → β} {b : β} :
    x.map f = .ok b ↔ ∃ a, x = .ok a ∧ f a = b := by
  cases x with
  | error e => exact ⟨nofun, nofun⟩
  | ok a => simp [Except.map]

theorem map_eq_error {ε α β : Type} {x : Except ε α} {f : α → β} {e : ε} :
    x.map f = .error e ↔ x = .error e := by
  cases x <;> simp [Except.map]

theorem mapError_eq_ok {ε ζ α : Type} {x : Except ε α} {f : ε → ζ} {a : α} :
    x.mapError f = .ok a ↔ x = .ok a := by
  cases x <;> simp [Except.mapError]

theorem mapM_eq_ok_iff {ε α β : Type} {f : α → Except ε β} {xs : List α} {ys : List β} :
    xs.mapM f = .ok ys ↔ List.Forall₂ (fun x y => f x = .ok y) xs ys := by
  induction xs generalizing ys with
  | nil =>
      constructor
      · rintro ⟨⟩
        exact .nil
      · rintro ⟨⟩
        rfl
  | cons x xs ih =>
      rw [List.mapM_cons, bind_eq_ok]
      constructor
      · rintro ⟨y, first, more⟩
        obtain ⟨rest, others, ⟨⟩⟩ := bind_eq_ok.mp more
        exact .cons first (ih.mp others)
      · rintro (_ | ⟨first, others⟩)
        exact ⟨_, first, bind_eq_ok.mpr ⟨_, ih.mpr others, rfl⟩⟩

theorem exists_of_forall₂ {α β : Type} {r : α → β → Prop} {xs : List α} {ys : List β}
    (all : List.Forall₂ r xs ys) {y : β} (inside : y ∈ ys) : ∃ x ∈ xs, r x y := by
  induction all with
  | nil => cases inside
  | @cons x y' xs ys first _ ih =>
      rcases List.mem_cons.mp inside with rfl | later
      · exact ⟨x, List.mem_cons_self, first⟩
      · obtain ⟨x', present, related⟩ := ih later
        exact ⟨x', List.mem_cons_of_mem x present, related⟩

theorem forall_mem_zipIdx {α : Type} {p : α → Prop} {xs : List α} {start : Nat} :
    (∀ x ∈ xs.zipIdx start, p x.1) ↔ ∀ x ∈ xs, p x := by
  conv_rhs => rw [← List.zipIdx_map_fst start xs]
  exact List.forall_mem_map.symm

/-- A list is related to what a map by places makes of another one, if each element is related to
what the map makes of an element. -/
theorem forall₂_zipIdx {α β γ : Type} {r : α → β → Prop} {f : β → Nat → γ} {xs : List α}
    {ys : List γ} {start : Nat} :
    (∃ zs, List.Forall₂ r xs zs ∧ ys = (zs.zipIdx start).map fun z => f z.1 z.2) ↔
      List.Forall₂ (fun x y => ∃ z, r x.1 z ∧ y = f z x.2) (xs.zipIdx start) ys := by
  induction xs generalizing ys start with
  | nil => simp
  | cons x xs ih =>
      rw [List.zipIdx_cons, List.forall₂_cons_left_iff]
      constructor
      · rintro ⟨_, _ | ⟨first, rest⟩, rfl⟩
        exact ⟨_, _, ⟨_, first, rfl⟩, ih.mp ⟨_, rest, rfl⟩, rfl⟩
      · rintro ⟨_, _, ⟨z, first, rfl⟩, rest, rfl⟩
        obtain ⟨zs, others, rfl⟩ := ih.mpr rest
        exact ⟨z :: zs, .cons first others, rfl⟩

/-- Going through a list succeeds if it does for every element. -/
theorem exists_mapM_eq_ok {ε α β : Type} {f : α → Except ε β} {xs : List α} :
    (∃ ys, xs.mapM f = .ok ys) ↔ ∀ x ∈ xs, ∃ y, f x = .ok y := by
  simp only [mapM_eq_ok_iff]
  induction xs with
  | nil => exact ⟨fun _ => nofun, fun _ => ⟨[], .nil⟩⟩
  | cons x xs ih =>
      rw [List.forall_mem_cons, ← ih]
      constructor
      · rintro ⟨_, _ | ⟨first, others⟩⟩
        exact ⟨⟨_, first⟩, _, others⟩
      · rintro ⟨⟨y, first⟩, ys, others⟩
        exact ⟨y :: ys, .cons first others⟩

/-- Going through values that were made by a map gives what they were made from. -/
theorem mapM_map_eq_ok {ε α β : Type} {f : β → Except ε α} {g : α → β} {xs : List α}
    (undo : ∀ x ∈ xs, f (g x) = .ok x) : (xs.map g).mapM f = .ok xs := by
  rw [mapM_eq_ok_iff, List.forall₂_map_left_iff, List.forall₂_same]
  exact undo

/-- Going through a list fails at the first element that something is wrong with. -/
theorem mapM_eq_error_iff {ε α β : Type} {f : α → Except ε β} {xs : List α} {e : ε} :
    xs.mapM f = .error e ↔ ∃ front x back, xs = front ++ x :: back ∧
      (∀ y ∈ front, ∃ b, f y = .ok b) ∧ f x = .error e := by
  induction xs with
  | nil =>
      constructor
      · exact nofun
      · rintro ⟨_ | _, _, _, parts, -⟩ <;> cases parts
  | cons a xs ih =>
      rw [List.mapM_cons]
      cases first : f a with
      | error e' =>
          constructor
          · rintro ⟨⟩
            exact ⟨[], a, xs, rfl, nofun, first⟩
          · rintro ⟨_ | ⟨b, front⟩, x, back, parts, before, failed⟩
            · cases parts
              rw [first] at failed
              cases failed
              rfl
            · cases parts
              obtain ⟨_, good⟩ := before _ List.mem_cons_self
              rw [first] at good
              cases good
      | ok b =>
          have rest : (Except.ok b >>= fun y => xs.mapM f >>= fun ys => pure (y :: ys)) = .error e ↔
              xs.mapM f = .error e := by
            cases xs.mapM f <;> simp [bind, Except.bind, pure, Except.pure]
          rw [rest, ih]
          constructor
          · rintro ⟨front, x, back, rfl, before, failed⟩
            refine ⟨a :: front, x, back, rfl, ?_, failed⟩
            intro y inside
            rcases List.mem_cons.mp inside with rfl | later
            · exact ⟨b, first⟩
            · exact before y later
          · rintro ⟨_ | ⟨_, front⟩, x, back, parts, before, failed⟩
            · cases parts
              rw [first] at failed
              cases failed
            · cases parts
              exact ⟨front, x, back, rfl, fun y hy => before y (List.mem_cons_of_mem _ hy), failed⟩

/-- An element of joined lists stands in one of them. -/
theorem split_of_flatMap {α β : Type} {f : α → List β} {xs : List α} {front back : List β} {b : β}
    (parts : xs.flatMap f = front ++ b :: back) :
    ∃ before x after left right, xs = before ++ x :: after ∧ f x = left ++ b :: right ∧
      front = before.flatMap f ++ left ∧ back = right ++ after.flatMap f := by
  induction xs generalizing front with
  | nil => simp at parts
  | cons x xs ih =>
      rw [List.flatMap_cons] at parts
      rcases List.append_eq_append_iff.mp parts with ⟨more, rfl, rest⟩ | ⟨more, first, rest⟩
      · obtain ⟨before, y, after, left, right, rfl, here, rfl, rfl⟩ := ih rest
        exact ⟨x :: before, y, after, left, right, rfl, here, by simp, rfl⟩
      · rcases List.cons_eq_append_iff.mp rest with ⟨rfl, later⟩ | ⟨right, rfl, rfl⟩
        · have start : xs.flatMap f = [] ++ b :: back := later
          obtain ⟨before, y, after, left, right, rfl, here, none, rfl⟩ := ih start
          obtain ⟨early, rfl⟩ := List.append_eq_nil_iff.mp none.symm
          refine ⟨x :: before, y, after, [], right, rfl, here, ?_, rfl⟩
          simp [early, first]
        · exact ⟨[], x, xs, front, right, rfl, first, rfl, rfl⟩

/-- Separators that do not pass a test make no difference to what does. -/
theorem filter_intercalate {α : Type} {p : α → Bool} {mark : α} (dropped : p mark = false)
    (pieces : List (List α)) :
    (List.intercalate [mark] pieces).filter p = pieces.flatMap (List.filter p) := by
  induction pieces with
  | nil => rfl
  | cons piece pieces ih =>
      cases pieces with
      | nil => simp
      | cons next others =>
          rw [List.intercalate_cons_cons, List.filter_append, List.filter_append, ih,
            List.flatMap_cons]
          simp [dropped]

section FirstAppearance

variable {α : Type} [BEq α] [LawfulBEq α]

/-- One more element is a new one at the end, or was there before. -/
theorem eraseDups_concat (xs : List α) (a : α) :
    (xs ++ [a]).eraseDups = if a ∈ xs then xs.eraseDups else xs.eraseDups ++ [a] := by
  rw [List.eraseDups_append, List.removeAll]
  split
  · next old => simp [old]
  · next new => simp [new, List.eraseDups_cons]

theorem nodup_eraseDups (xs : List α) : xs.eraseDups.Nodup := by
  induction xs using List.reverseRecOn with
  | nil => simp
  | append_singleton xs a ih =>
      rw [eraseDups_concat]
      split
      · exact ih
      · next new =>
          refine ih.append (List.nodup_singleton a) ?_
          simpa using new

end FirstAppearance

section ModifyFirst

variable {α β : Type} {p : α → Bool} {f : α → α}

theorem modifyFirst_append {front back : List α} {a : α} (before : ∀ x ∈ front, p x = false)
    (here : p a = true) : modifyFirst p f (front ++ a :: back) = front ++ f a :: back := by
  induction front with
  | nil => simp [modifyFirst, here]
  | cons x front ih =>
      have skip : p x = false := before x List.mem_cons_self
      simp [modifyFirst, skip, ih (fun y hy => before y (List.mem_cons_of_mem x hy))]

/-- An element that is found stands behind elements that fail the test. -/
theorem split_of_find? {xs : List α} {a : α} (found : xs.find? p = some a) :
    ∃ front back, xs = front ++ a :: back ∧ p a = true ∧ ∀ x ∈ front, p x = false := by
  obtain ⟨here, front, back, parts, before⟩ := List.find?_eq_some_iff_append.mp found
  exact ⟨front, back, parts, here, fun x hx => by simpa using before x hx⟩

/-- Only the element that is found is taken away. -/
theorem eraseP_append {front back : List α} {a : α} (before : ∀ x ∈ front, p x = false)
    (here : p a = true) : (front ++ a :: back).eraseP p = front ++ back := by
  rw [List.eraseP_append_right _ (by simpa using before), List.eraseP_cons_of_pos here]

theorem mem_modifyFirst {xs : List α} {x : α} (h : x ∈ modifyFirst p f xs) :
    x ∈ xs ∨ ∃ a ∈ xs, p a = true ∧ x = f a := by
  induction xs with
  | nil => cases h
  | cons a rest ih =>
      rw [modifyFirst] at h
      split at h
      · next here =>
          rcases List.mem_cons.mp h with rfl | old
          · exact Or.inr ⟨a, List.mem_cons_self, here, rfl⟩
          · exact Or.inl (List.mem_cons_of_mem a old)
      · rcases List.mem_cons.mp h with rfl | later
        · exact Or.inl List.mem_cons_self
        · rcases ih later with old | ⟨b, inside, here, same⟩
          · exact Or.inl (List.mem_cons_of_mem a old)
          · exact Or.inr ⟨b, List.mem_cons_of_mem a inside, here, same⟩

/-- What the change of an element keeps is kept of the whole list. -/
theorem map_modifyFirst {g : α → β} {xs : List α} (keeps : ∀ a, p a = true → g (f a) = g a) :
    (modifyFirst p f xs).map g = xs.map g := by
  induction xs with
  | nil => rfl
  | cons a rest ih =>
      rw [modifyFirst]
      split
      · next here => simp [keeps a here]
      · simp [ih]

/-- The first element can be changed before or after all elements are changed in one way. -/
theorem map_modifyFirst_comm {g : α → β} {q : β → Bool} {h : β → β} {xs : List α}
    (test : ∀ a, q (g a) = p a) (same : ∀ a, p a = true → g (f a) = h (g a)) :
    (modifyFirst p f xs).map g = modifyFirst q h (xs.map g) := by
  induction xs with
  | nil => rfl
  | cons a rest ih =>
      rw [List.map_cons, modifyFirst, modifyFirst, test]
      split
      · next here => rw [List.map_cons, same a here]
      · rw [List.map_cons, ih]

/-- What the first element that is found shares with the one put in its place is kept. -/
theorem map_modifyFirst_found {g : α → β} {xs : List α} {a b : α} (found : xs.find? p = some a)
    (same : g b = g a) : (modifyFirst p (fun _ => b) xs).map g = xs.map g := by
  obtain ⟨front, back, rfl, here, before⟩ := split_of_find? found
  rw [modifyFirst_append before here]
  simp [same]

theorem find?_modifyFirst {xs : List α} {a b : α} (found : xs.find? p = some a)
    (here : p b = true) : (modifyFirst p (fun _ => b) xs).find? p = some b := by
  obtain ⟨front, back, rfl, first, before⟩ := split_of_find? found
  have skip : front.find? p = none := List.find?_eq_none.mpr (by simpa using before)
  rw [modifyFirst_append before first, List.find?_append, skip, List.find?_cons_of_pos here]
  rfl

section Others

variable {q : α → Bool} (apart : ∀ a, p a = true → q a = false)

include apart

/-- Another test that neither the element nor the one put in its place satisfies finds what it found
before. -/
theorem find?_modifyFirst_other {xs : List α} {b : α} (missed : q b = false) :
    (modifyFirst p (fun _ => b) xs).find? q = xs.find? q := by
  induction xs with
  | nil => rfl
  | cons a rest ih =>
      rw [modifyFirst]
      split
      · next here => rw [List.find?_cons, List.find?_cons, apart a here, missed]
      · rw [List.find?_cons, List.find?_cons, ih]

theorem find?_eraseP_other {xs : List α} : (xs.eraseP p).find? q = xs.find? q := by
  induction xs with
  | nil => rfl
  | cons a rest ih =>
      by_cases here : p a = true
      · rw [List.eraseP_cons_of_pos here, List.find?_cons, apart a here]
      · rw [List.eraseP_cons_of_neg here, List.find?_cons, List.find?_cons, ih]

end Others

/-- Nothing changes where the first element that satisfies the test is put in its own place. -/
theorem modifyFirst_same {xs : List α} {a : α} (found : xs.find? p = some a) :
    modifyFirst p (fun _ => a) xs = xs := by
  obtain ⟨front, back, rfl, here, before⟩ := split_of_find? found
  exact modifyFirst_append before here

end ModifyFirst

section Keys

variable {α κ : Type} {key : α → κ} {xs : List α} {a : α}

/-- One more element with a new key leaves all keys different. -/
theorem nodup_keys_append (distinct : (xs.map key).Nodup) (fresh : ∀ x ∈ xs, key x ≠ key a) :
    ((xs ++ [a]).map key).Nodup := by
  rw [List.map_append]
  refine distinct.append (List.nodup_singleton _) ?_
  intro k old new
  obtain ⟨x, inside, rfl⟩ := List.mem_map.mp old
  exact fresh x inside (List.mem_singleton.mp new)

variable [DecidableEq κ]

/-- Where all keys are different, an element is found by its key. -/
theorem find?_key (distinct : (xs.map key).Nodup) (inside : a ∈ xs) :
    (xs.find? fun x => key x == key a) = some a := by
  cases found : xs.find? fun x => key x == key a with
  | none =>
      have other := List.find?_eq_none.mp found a inside
      simp at other
  | some b =>
      have same : key b = key a := by simpa using List.find?_some found
      rw [List.inj_on_of_nodup_map distinct (List.mem_of_find?_eq_some found) inside same]

theorem eraseP_key [DecidableEq α] (distinct : (xs.map key).Nodup) (inside : a ∈ xs) :
    (xs.eraseP fun x => key x == key a) = xs.erase a := by
  obtain ⟨front, back, rfl, here, before⟩ := split_of_find? (find?_key distinct inside)
  have absent : a ∉ front := fun early => by simpa using before a early
  rw [eraseP_append before here, List.erase_append_right _ absent, List.erase_cons_head]

end Keys

namespace Ascending

variable {α κ : Type} [LT κ] [DecidableLT κ] [OrderedKey κ] {key : α → κ}

/-- Inserting takes an element away only for one with its key. -/
theorem mem_insertInto_iff (injective : ∀ a b, key a = key b → a = b) {a x : α} {xs : List α} :
    x ∈ insertInto key a xs ↔ x = a ∨ x ∈ xs := by
  refine ⟨mem_insertInto, ?_⟩
  intro h
  induction xs with
  | nil => simpa [insertInto] using h
  | cons b rest ih =>
      rw [insertInto]
      split
      · simpa using h
      · next notLower =>
          split
          · rcases h with rfl | old
            · exact List.mem_cons_of_mem b (ih (Or.inl rfl))
            · rcases List.mem_cons.mp old with rfl | later
              · exact List.mem_cons_self
              · exact List.mem_cons_of_mem b (ih (Or.inr later))
          · next notHigher =>
              have same : a = b := injective a b (OrderedKey.eq_of_not_lt notLower notHigher)
              rcases h with rfl | old
              · exact List.mem_cons_self
              · rwa [← same] at old

theorem mem_insert (injective : ∀ a b, key a = key b → a = b) {a x : α} {s : Ascending key} :
    x ∈ (s.insert a).toList ↔ x = a ∨ x ∈ s.toList := mem_insertInto_iff injective

theorem mem_foldl_insert (injective : ∀ a b, key a = key b → a = b) {x : α} {xs : List α}
    {s : Ascending key} : x ∈ (xs.foldl insert s).toList ↔ x ∈ s.toList ∨ x ∈ xs := by
  induction xs generalizing s with
  | nil => simp
  | cons a xs ih =>
      rw [List.foldl_cons, ih, List.mem_cons, mem_insert injective]
      tauto

/-- A set made from a list has the elements of the list. -/
theorem mem_ofList (injective : ∀ a b, key a = key b → a = b) {x : α} {xs : List α} :
    x ∈ (ofList xs : Ascending key).toList ↔ x ∈ xs := by
  rw [ofList, mem_foldl_insert injective]
  simp [empty]

/-- An element that is inserted is found under its key, and nothing else is found otherwise. -/
theorem find?_insert [BEq κ] [LawfulBEq κ] (s : Ascending key) (a : α) (k : κ) :
    (s.insert a).find? k = if key a == k then some a else s.find? k := by
  have inserted (xs : List α) : (insertInto key a xs).find? (fun x => key x == k) =
      if key a == k then some a else xs.find? fun x => key x == k := by
    induction xs with
    | nil => rw [insertInto, List.find?_cons]; cases key a == k <;> rfl
    | cons b rest ih =>
        rw [insertInto]
        split
        · rw [List.find?_cons]
          cases key a == k <;> rfl
        · next notLower =>
            split
            · next lower =>
                have differs : key b ≠ key a := fun same => OrderedKey.lt_irrefl (same ▸ lower)
                rw [List.find?_cons, List.find?_cons, ih]
                by_cases here : key a == k
                · have other : (key b == k) = false := by
                    rw [← eq_of_beq here]
                    exact beq_eq_false_iff_ne.mpr differs
                  simp [here, other]
                · simp [here]
            · next notHigher =>
                have same : key a = key b := OrderedKey.eq_of_not_lt notLower notHigher
                rw [List.find?_cons, List.find?_cons, same]
                cases key b == k <;> rfl
  exact inserted s.toList

section Order

omit [DecidableLT κ]

omit [OrderedKey κ] in
theorem mem_filter {keep : α → Bool} {x : α} {s : Ascending key} :
    x ∈ (s.filter keep).toList ↔ x ∈ s.toList ∧ keep x = true := List.mem_filter

theorem nodup (s : Ascending key) : s.toList.Nodup :=
  s.ascending.imp fun {a b} lower (same : a = b) => OrderedKey.lt_irrefl (same ▸ lower)

/-- Sets that hold the same elements are the same. -/
theorem ext_mem {s t : Ascending key} (same : ∀ x, x ∈ s.toList ↔ x ∈ t.toList) : s = t := by
  apply Ascending.ext
  have perm : s.toList.Perm t.toList := (List.perm_ext_iff_of_nodup s.nodup t.nodup).mpr same
  refine perm.eq_of_pairwise ?_ s.ascending t.ascending
  intro a b _ _ lower higher
  exact absurd (OrderedKey.lt_trans lower higher) OrderedKey.lt_irrefl

theorem mem_iff_find? [BEq κ] [LawfulBEq κ] (s : Ascending key) (a : α) :
    a ∈ s.toList ↔ s.find? (key a) = some a := by
  constructor
  · intro inside
    obtain ⟨front, back, parts⟩ := List.mem_iff_append.mp inside
    have ascending := s.ascending
    rw [parts] at ascending
    have below := (List.pairwise_append.mp ascending).2.2
    have others : front.find? (fun x => key x == key a) = none := by
      rw [List.find?_eq_none]
      intro x hx same
      have lower : key x < key a := below x hx a List.mem_cons_self
      rw [eq_of_beq same] at lower
      exact OrderedKey.lt_irrefl lower
    rw [find?, parts, List.find?_append, others, List.find?_cons_of_pos (by simp)]
    rfl
  · exact List.mem_of_find?_eq_some

/-- Going through a set fails at the least element that something is wrong with. -/
theorem mapM_eq_error_iff {ε β : Type} (s : Ascending key) {f : α → Except ε β} {e : ε} :
    s.toList.mapM f = .error e ↔ ∃ x ∈ s.toList, f x = .error e ∧
      ∀ y ∈ s.toList, key y < key x → ∃ b, f y = .ok b := by
  rw [MailMerge.mapM_eq_error_iff]
  constructor
  · rintro ⟨front, x, back, parts, before, failed⟩
    have ascending := s.ascending
    rw [parts] at ascending ⊢
    refine ⟨x, by simp, failed, ?_⟩
    intro y inside lower
    rcases List.mem_append.mp inside with early | late
    · exact before y early
    · have above := List.pairwise_cons.mp (List.pairwise_append.mp ascending).2.1
      rcases List.mem_cons.mp late with rfl | later
      · exact absurd lower OrderedKey.lt_irrefl
      · exact absurd (OrderedKey.lt_trans lower (above.1 y later)) OrderedKey.lt_irrefl
  · rintro ⟨x, inside, failed, least⟩
    obtain ⟨front, back, parts⟩ := List.mem_iff_append.mp inside
    refine ⟨front, x, back, parts, ?_, failed⟩
    have ascending := s.ascending
    rw [parts] at ascending least
    intro y early
    exact least y (List.mem_append_left _ early)
      ((List.pairwise_append.mp ascending).2.2 y early x List.mem_cons_self)

end Order

/-- An element with a new key joins the others. -/
theorem perm_insertInto {a : α} {xs : List α} (fresh : ∀ x ∈ xs, key a ≠ key x) :
    (insertInto key a xs).Perm (a :: xs) := by
  induction xs with
  | nil => exact .refl _
  | cons b rest ih =>
      rw [insertInto]
      split
      · exact .refl _
      · next notLower =>
          split
          · have inner := ih fun x inside => fresh x (List.mem_cons_of_mem b inside)
            exact (inner.cons b).trans (.swap a b rest)
          · next notHigher =>
              have same : key a = key b := OrderedKey.eq_of_not_lt notLower notHigher
              exact absurd same (fresh b List.mem_cons_self)

theorem perm_foldl_insert {xs : List α} {s : Ascending key}
    (distinct : (xs ++ s.toList).Pairwise (fun a b => key a ≠ key b)) :
    (xs.foldl insert s).toList.Perm (xs ++ s.toList) := by
  induction xs generalizing s with
  | nil => exact .refl _
  | cons a xs ih =>
      obtain ⟨fresh, others⟩ := List.pairwise_cons.mp distinct
      have step : (s.insert a).toList.Perm (a :: s.toList) :=
        perm_insertInto fun x inside => fresh x (List.mem_append_right xs inside)
      have moved : (xs ++ (s.insert a).toList).Perm (a :: (xs ++ s.toList)) :=
        (step.append_left xs).trans List.perm_middle
      have still : (xs ++ (s.insert a).toList).Pairwise (fun a b => key a ≠ key b) :=
        (moved.pairwise_iff Ne.symm).mpr distinct
      exact (ih still).trans moved

/-- The elements of a set make up the set again, in whatever order they come. -/
theorem ofList_perm {s : Ascending key} {xs : List α} (same : xs.Perm s.toList) :
    ofList xs = s := by
  have distinct : xs.Pairwise (fun a b => key a ≠ key b) := by
    refine (same.pairwise_iff Ne.symm).mpr (s.ascending.imp ?_)
    intro a b lower equal
    rw [equal] at lower
    exact OrderedKey.lt_irrefl lower
  have made : (ofList xs : Ascending key).toList.Perm xs := by
    have folded : (xs.foldl insert (empty : Ascending key)).toList.Perm
        (xs ++ (empty : Ascending key).toList) :=
      perm_foldl_insert (by simpa [empty] using distinct)
    simpa [ofList, empty] using folded
  exact ext_mem fun x => (made.trans same).mem_iff

/-- The elements of a set make up the set again. -/
theorem ofList_toList (s : Ascending key) : ofList s.toList = s := ofList_perm (.refl _)

end Ascending

namespace Dict

variable {β : Type}

@[simp] theorem get?_empty (name : String) : get? (Ascending.empty : Dict β) name = none := rfl

theorem get?_set (d : Dict β) (name other : String) (value : β) :
    (d.set name value).get? other = if name = other then some value else d.get? other := by
  rw [get?, set, Ascending.find?_insert]
  by_cases same : name = other
  · rw [if_pos (by simpa using same), if_pos same]
    rfl
  · rw [if_neg (by simpa using same), if_neg same]
    rfl

theorem get?_erase (d : Dict β) (name other : String) :
    (d.erase name).get? other = if name = other then none else d.get? other := by
  rw [get?, get?, erase, Ascending.filter, Ascending.find?, Ascending.find?, List.find?_filter]
  by_cases same : name = other
  · subst same
    rw [if_pos rfl, Option.map_eq_none_iff, List.find?_eq_none]
    intro entry _ both
    simp at both
  · rw [if_neg same]
    congr 2
    funext entry
    by_cases here : entry.1 = other
    · simp [here, Ne.symm same]
    · simp [here]

theorem mem_iff_get? (d : Dict β) (name : String) (value : β) :
    (name, value) ∈ d.toList ↔ d.get? name = some value := by
  rw [Ascending.mem_iff_find?, get?, Option.map_eq_some_iff]
  constructor
  · intro found
    exact ⟨_, found, rfl⟩
  · rintro ⟨⟨other, _⟩, found, rfl⟩
    have named : other = name := by simpa using List.find?_some found
    rw [found, named]

theorem ne_of_get?_none {d : Dict β} {name : String} (absent : d.get? name = none) :
    ∀ entry ∈ d.toList, entry.1 ≠ name := by
  rintro ⟨other, value⟩ inside rfl
  rw [(mem_iff_get? d other value).mp inside] at absent
  cases absent

/-- A value that is found stands between entries with other names. -/
theorem split_of_get? {d : Dict β} {name : String} {value : β}
    (found : d.get? name = some value) :
    ∃ front back, d.toList = front ++ (name, value) :: back ∧ ∀ entry ∈ back, entry.1 ≠ name := by
  obtain ⟨front, back, parts⟩ := List.mem_iff_append.mp ((mem_iff_get? d name value).mpr found)
  refine ⟨front, back, parts, ?_⟩
  have ascending := d.ascending
  rw [parts] at ascending
  intro entry inside same
  have above := (List.pairwise_cons.mp (List.pairwise_append.mp ascending).2.1).1 entry inside
  rw [same] at above
  exact OrderedKey.lt_irrefl above

/-- Maps that give the same values are the same. -/
theorem ext_get? {d e : Dict β} (same : ∀ name, d.get? name = e.get? name) : d = e := by
  apply Ascending.ext_mem
  rintro ⟨name, value⟩
  rw [mem_iff_get?, mem_iff_get?, same]

end Dict

end MailMerge
