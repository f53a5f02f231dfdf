import MailMerge.Proofs.TagRecords
/-!
Records that are read from the objects they are written as. An object holds its members in the order
of the fields of a record, each once, and may leave some of them out; a field is found under its
name, wherever it stands.
-/

set_option autoImplicit false

namespace MailMerge

namespace Json

/-- Where all keys are different, a pair is found by its key. -/
theorem lookup_of_mem {α β : Type} [BEq α] [LawfulBEq α] {xs : List (α × β)}
    (distinct : (xs.map Prod.fst).Nodup) {a : α} {b : β} (inside : (a, b) ∈ xs) :
    xs.lookup a = some b := by
  obtain ⟨front, back, rfl⟩ := List.append_of_mem inside
  refine List.lookup_eq_some_iff.mpr ⟨front, back, rfl, fun other before => ?_⟩
  rw [bne_iff_ne]
  rintro rfl
  rw [List.map_append, List.map_cons, List.nodup_append] at distinct
  exact distinct.2.2 other.1 (List.mem_map_of_mem before) other.1 List.mem_cons_self rfl

theorem exists_of_readList {α : Type} {read : Reader α} {t : JsonTree} {xs : List α}
    (done : readList read t = .ok xs) {x : α} (inside : x ∈ xs) : ∃ t, read t = .ok x := by
  cases t with
  | array items =>
      obtain ⟨i, short, rfl⟩ := List.getElem_of_mem inside
      have all := mapM_eq_ok_iff.mp done
      exact ⟨_, all.get (all.length_eq ▸ short) short⟩
  | _ => cases done

namespace Shape

variable {α β : Type} {value : String → Option JsonTree}

/-- Values that a record can be made of: those that are there can be read, and those that are not
may be missing. -/
structure Takes (x : Shape α) (value : String → Option JsonTree) (a : α) : Prop where
  readable : ∀ f ∈ x.fields, ∀ t, value f.name = some t → f.check t = .ok ()
  optional : ∀ f ∈ x.fields, value f.name = none → f.optional = true
  built : x.build value = .ok a

theorem Takes.map {x : Shape α} {a : α} (f : α → β) (takes : x.Takes value a) :
    (f <$> x).Takes value (f a) :=
  ⟨takes.readable, takes.optional, build_map.mpr ⟨a, takes.built, rfl⟩⟩

theorem Takes.seq {f : Shape (α → β)} {x : Shape α} {g : α → β} {a : α} (front : f.Takes value g)
    (last : x.Takes value a) : (f <*> x).Takes value (g a) where
  readable field inside :=
    (List.mem_append.mp inside).elim (front.readable field) (last.readable field)
  optional field inside :=
    (List.mem_append.mp inside).elim (front.optional field) (last.optional field)
  built := build_seq.mpr ⟨g, front.built, a, last.built, rfl⟩

section Field

variable {optional optionalAtEnd : Bool} {missing : Except Fault α} {name : String}
  {read : Reader α} {a : α}

theorem mem_fields_fieldOr {f : Field}
    (inside : f ∈ (fieldOr optional optionalAtEnd missing name read).fields) :
    f = ⟨name, fun t => (read t).map fun _ => (), optional, optionalAtEnd⟩ :=
  List.mem_singleton.mp inside

theorem takes_value {t : JsonTree} (found : value name = some t) (done : read t = .ok a) :
    (fieldOr optional optionalAtEnd missing name read).Takes value a where
  readable := by
    intro f inside t' found'
    obtain rfl := mem_fields_fieldOr inside
    rw [found] at found'
    cases found'
    exact map_eq_ok.mpr ⟨a, done, rfl⟩
  optional := by
    intro f inside absent
    obtain rfl := mem_fields_fieldOr inside
    rw [found] at absent
    cases absent
  built := by
    simp only [fieldOr, found]
    exact done

theorem takes_missing (absent : value name = none) :
    (fieldOr true optionalAtEnd (.ok a) name read).Takes value a where
  readable := by
    intro f inside t found
    obtain rfl := mem_fields_fieldOr inside
    rw [absent] at found
    cases found
  optional := by
    intro f inside _
    rw [mem_fields_fieldOr inside]
  built := by
    simp only [fieldOr, absent]

end Field

/-- One more field that has a value. -/
theorem Takes.field {f : Shape (α → β)} {g : α → β} (front : f.Takes value g) {name : String}
    {read : Reader α} {t : JsonTree} {a : α} (found : value name = some t) (done : read t = .ok a) :
    (f <*> required name read).Takes value (g a) :=
  front.seq (takes_value found done)

section Ordered

variable {fields : List Field} {members : List (Option String × JsonTree)}

/-! Members that stand in the order of the fields, though some of them may be left out. -/

theorem exists_field? (distinct : (fields.map fun f => some f.name).Nodup)
    (ordered : (members.map Prod.fst).Sublist (fields.map fun f => some f.name))
    {m : Option String × JsonTree} (inside : m ∈ members) :
    ∃ f ∈ fields, m.1 = some f.name ∧ field? fields f.name = some f := by
  obtain ⟨f, field, same⟩ := List.mem_map.mp (ordered.subset (List.mem_map_of_mem inside))
  have names : (fields.map Field.name).Nodup := by
    refine List.Nodup.of_map some ?_
    rwa [List.map_map]
  exact ⟨f, field, same.symm, find?_key names field⟩

theorem knownNames_ordered (distinct : (fields.map fun f => some f.name).Nodup)
    (ordered : (members.map Prod.fst).Sublist (fields.map fun f => some f.name)) :
    knownNames fields members = members.filterMap Prod.fst := by
  rw [knownNames, List.filter_eq_self]
  intro name inside
  obtain ⟨m, member, named⟩ := List.mem_filterMap.mp inside
  obtain ⟨f, -, same, found⟩ := exists_field? distinct ordered member
  rw [named] at same
  cases same
  rw [found]
  rfl

theorem checkMembers_ordered (distinct : (fields.map fun f => some f.name).Nodup)
    (ordered : (members.map Prod.fst).Sublist (fields.map fun f => some f.name))
    (readable : ∀ f ∈ fields, ∀ t, members.lookup (some f.name) = some t → f.check t = .ok ()) :
    checkMembers fields [] members = .ok (members.filterMap Prod.fst).reverse := by
  have names : (members.map Prod.fst).Nodup := ordered.nodup distinct
  have known := knownNames_ordered distinct ordered
  have once : (members.filterMap Prod.fst).Nodup := by
    have same : members.filterMap Prod.fst = (members.map Prod.fst).filterMap id := by
      rw [List.filterMap_map]
      rfl
    rw [same]
    exact names.filterMap (by rintro _ _ _ ⟨⟩ ⟨⟩; rfl)
  refine checkMembers_eq_ok.mpr ⟨?_, ?_, fun _ _ => List.not_mem_nil, ?_⟩
  · rintro ⟨name, t⟩ inside
    obtain ⟨f, field, rfl, found⟩ := exists_field? distinct ordered inside
    refine ⟨f.name, rfl, ?_⟩
    rw [found]
    exact readable f field t (lookup_of_mem names inside)
  · rwa [known]
  · rw [known, List.append_nil]

/-- A record is read from an object whose members stand in the order of its fields. -/
theorem Takes.read {x : Shape α} {a : α} (distinct : (x.fields.map fun f => some f.name).Nodup)
    (ordered : (members.map Prod.fst).Sublist (x.fields.map fun f => some f.name))
    (takes : x.Takes (fun name => members.lookup (some name)) a) :
    x.read (.object members) = .ok a := by
  have present : (x.fields.all fun f =>
      f.optional || (members.filterMap Prod.fst).reverse.contains f.name) = true := by
    rw [List.all_eq_true]
    intro f field
    rw [Bool.or_eq_true]
    cases found : members.lookup (some f.name) with
    | none => exact Or.inl (takes.optional f field found)
    | some t =>
        obtain ⟨front, back, rfl, -⟩ := List.lookup_eq_some_iff.mp found
        exact Or.inr (by simp)
  rw [Shape.read, checkMembers_ordered distinct ordered takes.readable]
  simp only [present, if_true]
  exact takes.built

end Ordered

theorem build_orElse {name : String} {read : Reader α} {missing a : α} :
    (orElse name read missing).build value = .ok a ↔
      (∃ t, value name = some t ∧ read t = .ok a) ∨ value name = none ∧ a = missing := by
  simp only [orElse, fieldOr]
  cases value name <;> simp [eq_comm]

/-- What is read is made of some values of the fields. -/
theorem exists_build {x : Shape α} {t : JsonTree} {a : α} (done : x.read t = .ok a) :
    ∃ value, x.build value = .ok a := by
  unfold Shape.read at done
  split at done
  · split at done
    · cases done
    · split at done
      · exact ⟨_, done⟩
      · cases done
  · split at done
    · cases done
    · exact ⟨_, done⟩
  · cases done

end Shape

end Json

end MailMerge
