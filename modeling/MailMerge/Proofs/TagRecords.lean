import MailMerge.Proofs.ShortCodeBytes
import MailMerge.Proofs.GeneratedCodes
import MailMerge.Proofs.Storage
import Mathlib.Data.Set.List
/-!
Stored merge tags. What a JSON text has to be so that it lists records of merge tags is said about
its tree; what the records have to be so that they stand for merge tags is said about each of them.
-/

set_option autoImplicit false

namespace MailMerge

namespace Json

theorem readString_eq_ok {t : JsonTree} {s : String} : readString t = .ok s ↔ t = .string s := by
  unfold readString
  split
  · simp
  · next other => exact ⟨nofun, fun same => absurd same (other s)⟩

namespace Shape

variable {fields : List Field} {members : List (Option String × JsonTree)}

/-- The field with a name. -/
def field? (fields : List Field) (name : String) : Option Field :=
  fields.find? fun f => f.name == name

/-- The names of the members that are fields, in order. -/
def knownNames (fields : List Field) (members : List (Option String × JsonTree)) : List String :=
  (members.filterMap Prod.fst).filter fun name => (field? fields name).isSome

/-- A member has a name, and a value that its field can have; a member that is no field only has to
be well formed. -/
def MemberFits (fields : List Field) (m : Option String × JsonTree) : Prop :=
  ∃ name, m.1 = some name ∧
    match field? fields name with
    | some field => field.check m.2 = .ok ()
    | none => m.2.isWhole = true

/-- The members of an object are taken if each of them fits and no field stands twice. -/
theorem checkMembers_eq_ok {seen all : List String} :
    checkMembers fields seen members = .ok all ↔
      (∀ m ∈ members, MemberFits fields m) ∧ (knownNames fields members).Nodup ∧
        (∀ name ∈ knownNames fields members, name ∉ seen) ∧
        all = (knownNames fields members).reverse ++ seen := by
  induction members generalizing seen with
  | nil => simp [checkMembers, knownNames, eq_comm]
  | cons m members ih =>
      obtain ⟨_ | name, value⟩ := m
      · simp [checkMembers, MemberFits]
      · rw [checkMembers, List.forall_mem_cons]
        cases field : field? fields name with
        | none =>
            have known : knownNames fields ((some name, value) :: members) =
                knownNames fields members := by
              simp [knownNames, field]
            have fits : MemberFits fields (some name, value) ↔ value.isWhole = true := by
              simp [MemberFits, field]
            have found : (fields.find? fun f => f.name == name) = none := field
            rw [known, fits, found]
            by_cases whole : value.isWhole = true
            · simp [whole, ih]
            · simp [whole]
        | some f =>
            have known : knownNames fields ((some name, value) :: members) =
                name :: knownNames fields members := by
              simp [knownNames, field]
            have fits : MemberFits fields (some name, value) ↔ f.check value = .ok () := by
              simp [MemberFits, field]
            have apart : (∀ other ∈ knownNames fields members, other ∉ name :: seen) ↔
                name ∉ knownNames fields members ∧
                  ∀ other ∈ knownNames fields members, other ∉ seen := by
              simp only [List.mem_cons, not_or, forall_and]
              refine and_congr_left fun _ => ⟨fun other inside => other name inside rfl, ?_⟩
              rintro fresh _ inside rfl
              exact fresh inside
            have found : (fields.find? fun f => f.name == name) = some f := field
            rw [known, fits, found, List.nodup_cons, List.forall_mem_cons, List.reverse_cons,
              List.append_assoc, List.singleton_append]
            by_cases twice : name ∈ seen
            · simp [twice]
            · cases good : f.check value with
              | error fault => simp [twice, good]
              | ok _ =>
                  simp only [List.contains_iff_mem, twice, if_false, good, ih, apart]
                  constructor
                  · rintro ⟨each, distinct, ⟨new, fresh⟩, same⟩
                    exact ⟨⟨trivial, each⟩, ⟨new, distinct⟩, ⟨not_false, fresh⟩, same⟩
                  · rintro ⟨⟨-, each⟩, ⟨new, distinct⟩, ⟨-, fresh⟩, same⟩
                    exact ⟨each, distinct, ⟨new, fresh⟩, same⟩

/-- A field that stands once among the names stands once among the members. -/
theorem count_knownNames {name : String} (known : (field? fields name).isSome = true) :
    (knownNames fields members).count name = (members.filter fun m => m.1 == some name).length := by
  rw [knownNames, List.count_filter (by simpa using known)]
  induction members with
  | nil => rfl
  | cons m members ih =>
      obtain ⟨_ | other, value⟩ := m
      · simpa using ih
      · by_cases same : other = name
        · simp [same, ih]
        · simp [same, ih]

/-- The items of an array are taken if there is one for each field, and it fits. -/
theorem checkItems_eq_ok {items : List JsonTree}
    (required : ∀ f ∈ fields, f.optionalAtEnd = false) :
    checkItems fields items = .ok () ↔
      List.Forall₂ (fun f t => f.check t = .ok ()) fields items := by
  induction fields generalizing items with
  | nil =>
      cases items with
      | nil => simp [checkItems]
      | cons item items => simp [checkItems]
  | cons f fields ih =>
      rw [List.forall_mem_cons] at required
      cases items with
      | nil => simp [checkItems, required.1]
      | cons item items =>
          rw [checkItems, List.forall₂_cons]
          cases good : f.check item with
          | error fault => simp
          | ok _ => simp [ih required.2]

section Build

variable {α β : Type} {value : String → Option JsonTree}

/-! A record is made from the values of its fields, one after the other. -/

theorem build_map {f : α → β} {x : Shape α} {b : β} :
    (f <$> x).build value = .ok b ↔ ∃ a, x.build value = .ok a ∧ f a = b :=
  map_eq_ok

theorem build_seq {f : Shape (α → β)} {x : Shape α} {b : β} :
    (f <*> x).build value = .ok b ↔
      ∃ g, f.build value = .ok g ∧ ∃ a, x.build value = .ok a ∧ g a = b := by
  have parts : (f <*> x).build value = f.build value >>= fun g => (x.build value).map g := by
    simp only [Seq.seq, bind, Except.bind]
    cases f.build value <;> rfl
  simp only [parts, bind_eq_ok, map_eq_ok]

theorem build_required {name : String} {read : Reader α} {a : α} :
    (required name read).build value = .ok a ↔ ∃ t, value name = some t ∧ read t = .ok a := by
  simp only [required, fieldOr]
  cases value name <;> simp

end Build

end Shape

end Json

namespace TagRecord

open Json (readString)

variable {r : TagRecord}

/-- The fields of a record with their texts. -/
def entries (r : TagRecord) : List (String × String) :=
  [("name", r.name), ("shortCode", r.shortCode), ("typeName", r.typeName)]

/-- The names of the fields. -/
def fieldNames : List String := ["name", "shortCode", "typeName"]

/-- A tree is a record of a merge tag: an object in which each field stands once, in any order and
among other members, or an array of the three texts. -/
inductive Given (r : TagRecord) : JsonTree → Prop where
  | object {members : List (Option String × JsonTree)}
      (named : ∀ m ∈ members, ∃ name, m.1 = some name ∧ (name ∉ fieldNames → m.2.isWhole = true))
      (once : ∀ e ∈ r.entries,
        members.filter (fun m => m.1 == some e.1) = [(some e.1, .string e.2)]) :
      Given r (.object members)
  | array : Given r (.array (r.entries.map fun e => .string e.2))

theorem mem_fieldNames {name : String} : name ∈ fieldNames ↔ ∃ text, (name, text) ∈ r.entries := by
  have names : r.entries.map Prod.fst = fieldNames := rfl
  rw [← names, List.mem_map]
  constructor
  · rintro ⟨⟨_, text⟩, inside, rfl⟩
    exact ⟨text, inside⟩
  · rintro ⟨text, inside⟩
    exact ⟨(name, text), inside, rfl⟩

/-- A field that holds a string. -/
def textField (name : String) : Json.Field :=
  ⟨name, fun t => (readString t).map fun _ => (), false, false⟩

theorem fields_shape : shape.fields = fieldNames.map textField := rfl

theorem field?_shape (name : String) :
    Json.Shape.field? shape.fields name =
      if name ∈ fieldNames then some (textField name) else none := by
  by_cases known : name ∈ fieldNames
  · rw [if_pos known]
    simp only [fieldNames, List.mem_cons, List.not_mem_nil, or_false] at known
    rcases known with rfl | rfl | rfl <;> rfl
  · rw [if_neg known, Json.Shape.field?, fields_shape, List.find?_eq_none]
    intro f inside same
    obtain ⟨other, field, rfl⟩ := List.mem_map.mp inside
    exact known (beq_iff_eq.mp same ▸ field)

theorem memberFits_iff {m : Option String × JsonTree} : Json.Shape.MemberFits shape.fields m ↔
    ∃ name, m.1 = some name ∧
      if name ∈ fieldNames then ∃ s, m.2 = .string s else m.2.isWhole = true := by
  simp only [Json.Shape.MemberFits, field?_shape]
  refine exists_congr fun name => and_congr_right fun _ => ?_
  by_cases field : name ∈ fieldNames
  · simp [field, textField, map_eq_ok, Json.readString_eq_ok]
  · simp [field]

theorem build_eq_ok {value : String → Option JsonTree} :
    shape.build value = .ok r ↔ ∀ e ∈ r.entries, value e.1 = some (.string e.2) := by
  obtain ⟨name, shortCode, typeName⟩ := r
  simp only [shape, Json.Shape.build_seq, Json.Shape.build_map, Json.Shape.build_required,
    Json.readString_eq_ok, exists_eq_right, entries, List.forall_mem_cons]
  constructor
  · rintro ⟨_, ⟨_, ⟨_, first, rfl⟩, _, second, rfl⟩, _, third, ⟨⟩⟩
    exact ⟨first, second, third, nofun⟩
  · rintro ⟨first, second, third, -⟩
    exact ⟨_, ⟨_, ⟨_, first, rfl⟩, _, second, rfl⟩, _, third, rfl⟩

/-- The fields of an object are found where each of them stands once. -/
theorem read_object_eq_ok {members : List (Option String × JsonTree)} :
    shape.read (.object members) = .ok r ↔
      (∀ m ∈ members, Json.Shape.MemberFits shape.fields m) ∧
        (Json.Shape.knownNames shape.fields members).Nodup ∧
        (∀ name ∈ fieldNames, name ∈ Json.Shape.knownNames shape.fields members) ∧
        ∀ e ∈ r.entries, members.lookup (some e.1) = some (.string e.2) := by
  have all (seen : List String) :
      (shape.fields.all fun f => f.optional || seen.contains f.name) = true ↔
        ∀ name ∈ fieldNames, name ∈ seen := by
    simp only [fields_shape, List.all_map, List.all_eq_true, Function.comp_apply, textField,
      Bool.false_or, List.contains_iff_mem]
  rw [Json.Shape.read]
  cases checked : Json.Shape.checkMembers shape.fields [] members with
  | error fault =>
      refine ⟨nofun, ?_⟩
      rintro ⟨fits, distinct, -⟩
      have good := Json.Shape.checkMembers_eq_ok.mpr
        ⟨fits, distinct, fun _ _ => List.not_mem_nil, rfl⟩
      rw [checked] at good
      cases good
  | ok seen =>
      obtain ⟨fits, distinct, -, rfl⟩ := Json.Shape.checkMembers_eq_ok.mp checked
      simp only [all, List.append_nil, List.mem_reverse]
      split
      · next present =>
          rw [build_eq_ok]
          exact ⟨fun found => ⟨fits, distinct, present, found⟩, fun good => good.2.2.2⟩
      · next missing => exact ⟨nofun, fun good => absurd good.2.2.1 missing⟩

/-- A field stands once if it is the only member with its name. -/
theorem once_iff {members : List (Option String × JsonTree)} {name : String} {value : JsonTree}
    (field : name ∈ fieldNames) :
    members.filter (fun m => m.1 == some name) = [(some name, value)] ↔
      (Json.Shape.knownNames shape.fields members).count name = 1 ∧
        members.lookup (some name) = some value := by
  have known : (Json.Shape.field? shape.fields name).isSome = true := by
    rw [field?_shape, if_pos field]
    rfl
  rw [Json.Shape.count_knownNames known]
  have first : members.lookup (some name) =
      ((members.filter fun m => m.1 == some name).head?).map Prod.snd := by
    induction members with
    | nil => rfl
    | cons m members ih =>
        rw [List.lookup_cons, List.filter_cons, ih]
        by_cases same : m.1 = some name
        · simp [same]
        · have other : (some name == m.1) = false := by simpa using Ne.symm same
          simp [same, other]
  rw [first]
  constructor
  · intro once
    rw [once]
    exact ⟨rfl, rfl⟩
  · rintro ⟨one, value⟩
    obtain ⟨m, only⟩ := List.length_eq_one_iff.mp one
    have inside : m ∈ members.filter fun m => m.1 == some name := by simp [only]
    have named : m.1 = some name := by simpa using (List.mem_filter.mp inside).2
    rw [only] at value ⊢
    rw [← named, ← Option.some.inj value]

theorem read_array {items : List JsonTree} (read : shape.read (.array items) = .ok r) :
    Given r (.array items) := by
  have required : ∀ f ∈ shape.fields, f.optionalAtEnd = false := by
    simp [fields_shape, textField]
  rw [Json.Shape.read] at read
  split at read
  · cases read
  · next fits =>
      have all := (Json.Shape.checkItems_eq_ok required).mp fits
      rw [fields_shape] at all
      have found := build_eq_ok.mp read
      obtain _ | ⟨-, _ | ⟨-, _ | ⟨-, _ | _⟩⟩⟩ := all
      have name := found ("name", r.name) (by simp [entries])
      have shortCode := found ("shortCode", r.shortCode) (by simp [entries])
      have typeName := found ("typeName", r.typeName) (by simp [entries])
      cases name
      cases shortCode
      cases typeName
      exact .array

theorem Given.read_object {members : List (Option String × JsonTree)}
    (named : ∀ m ∈ members, ∃ name, m.1 = some name ∧ (name ∉ fieldNames → m.2.isWhole = true))
    (once : ∀ e ∈ r.entries,
      members.filter (fun m => m.1 == some e.1) = [(some e.1, .string e.2)]) :
    shape.read (.object members) = .ok r := by
  have count {name : String} (field : name ∈ fieldNames) :
      (Json.Shape.knownNames shape.fields members).count name = 1 := by
    obtain ⟨text, inside⟩ := mem_fieldNames.mp field
    exact ((once_iff field).mp (once _ inside)).1
  refine read_object_eq_ok.mpr ⟨?_, ?_, ?_, ?_⟩
  · intro m inside
    obtain ⟨name, same, whole⟩ := named m inside
    refine memberFits_iff.mpr ⟨name, same, ?_⟩
    split
    · next field =>
        obtain ⟨text, entry⟩ := mem_fieldNames.mp field
        have only : m ∈ members.filter fun m => m.1 == some name :=
          List.mem_filter.mpr ⟨inside, by simp [same]⟩
        rw [once _ entry, List.mem_singleton] at only
        exact ⟨text, by rw [only]⟩
    · next other => exact whole other
  · rw [List.nodup_iff_count_le_one]
    intro name
    by_cases field : name ∈ fieldNames
    · exact Nat.le_of_eq (count field)
    · rw [List.count_eq_zero_of_not_mem]
      · exact Nat.zero_le 1
      · intro inside
        have known := (List.mem_filter.mp inside).2
        rw [field?_shape, if_neg field] at known
        cases known
  · intro name field
    exact List.count_pos_iff.mp (by rw [count field]; exact Nat.one_pos)
  · intro e inside
    exact ((once_iff (mem_fieldNames.mpr ⟨e.2, inside⟩)).mp (once e inside)).2

/-- What is read as a record of a merge tag. -/
theorem read_eq_ok {t : JsonTree} : shape.read t = .ok r ↔ Given r t := by
  constructor
  · intro read
    cases t with
    | object members =>
        obtain ⟨fits, distinct, present, found⟩ := read_object_eq_ok.mp read
        refine .object ?_ ?_
        · intro m inside
          obtain ⟨name, named, rest⟩ := memberFits_iff.mp (fits m inside)
          exact ⟨name, named, fun other => by rwa [if_neg other] at rest⟩
        · intro e inside
          have field := mem_fieldNames.mpr ⟨e.2, inside⟩
          refine (once_iff field).mpr ⟨?_, found e inside⟩
          exact List.count_eq_one_of_mem distinct (present e.1 field)
    | array items => exact read_array read
    | null | bool | number | string | unreadable | broken => cases read
  · rintro (⟨named, once⟩ | _)
    · exact Given.read_object named once
    · rfl

/-- A record that stands for a merge tag: the name of a type, double braces around an identifier,
and a name that is not blank. -/
structure Sound (r : TagRecord) : Prop where
  typeName : r.typeName ∈ TagType.all.map TagType.name
  shortCode : ∃ body : String, body ≠ "" ∧ (∀ c ∈ body.toList, ShortCode.IsCodeChar c) ∧
    r.shortCode = "\x7b\x7b" ++ body ++ "\x7d\x7d"
  name : Text.isBlank r.name = false

/-- A record stands for the merge tag that it is the record of, and for no other. -/
theorem load_eq_ok {tag : MergeTag} : r.load = .ok tag ↔ r = ofTag tag := by
  constructor
  · intro loaded
    unfold load at loaded
    split at loaded
    · cases loaded
    · next type typed =>
        obtain ⟨code, coded, made⟩ := bind_eq_ok.mp (mapError_eq_ok.mp loaded)
        obtain ⟨name, named, ⟨⟩⟩ := bind_eq_ok.mp made
        have typeName : type.name = r.typeName := by simpa using List.find?_some typed
        rw [ofTag, NonBlank.check_eq_ok.mp named, ShortCode.parse_eq_ok.mp coded, typeName]
  · rintro rfl
    exact load_ofTag tag

theorem sound_iff : r.Sound ↔ ∃ tag, ofTag tag = r := by
  constructor
  · rintro ⟨typed, coded, named⟩
    obtain ⟨type, -, typeName⟩ := List.mem_map.mp typed
    obtain ⟨code, read⟩ := ShortCode.exists_parse.mpr coded
    refine ⟨⟨⟨r.name, named⟩, code, type⟩, ?_⟩
    rw [ofTag, ShortCode.parse_eq_ok.mp read, typeName]
  · rintro ⟨tag, rfl⟩
    exact ⟨List.mem_map_of_mem (TagType.mem_all tag.type),
      ShortCode.exists_parse.mp ⟨tag.shortCode, ShortCode.parse_text tag.shortCode⟩,
      tag.name.not_blank⟩

end TagRecord

/-- A JSON text is a list of records of merge tags. -/
def ListsTags (text : String) (records : List TagRecord) : Prop :=
  ∃ items, JsonDocument.ofText text = ⟨.array items, true⟩ ∧
    List.Forall₂ (fun item r => TagRecord.Given r item) items records

theorem readDocument_tags {text : String} {records : List TagRecord} :
    Json.readDocument (Json.readList TagRecord.shape.read) text = .ok records ↔
      ListsTags text records := by
  have list (items : List JsonTree) : items.mapM TagRecord.shape.read = .ok records ↔
      List.Forall₂ (fun item r => TagRecord.Given r item) items records := by
    simp only [mapM_eq_ok_iff, TagRecord.read_eq_ok]
  rw [Json.readDocument, ListsTags]
  generalize JsonDocument.ofText text = document
  obtain ⟨root, complete⟩ := document
  constructor
  · intro read
    split at read
    · cases read
    · next records' items =>
        cases root with
        | array trees =>
            simp only at read
            split at read
            · next whole =>
                cases read
                exact ⟨trees, by rw [whole], (list trees).mp items⟩
            · cases read
        | null | bool | number | string | object | unreadable | broken => cases items
  · rintro ⟨items, ⟨⟩, given⟩
    simp only [Json.readList, (list items).mpr given, if_true]

/-- The merge tags that are loaded are those whose records are listed, in order. -/
theorem loadTags_eq_ok {text : String} {tags : List MergeTag} :
    loadTags text = .ok tags ↔ ListsTags text (tags.map TagRecord.ofTag) := by
  have loaded (records : List TagRecord) : records.mapM TagRecord.load = .ok tags ↔
      records = tags.map TagRecord.ofTag := by
    simp only [mapM_eq_ok_iff, TagRecord.load_eq_ok]
    rw [← List.forall₂_eq_eq_eq, List.forall₂_map_right_iff]
  rw [loadTags, ← readDocument_tags]
  cases Json.readDocument (Json.readList TagRecord.shape.read) text with
  | error fault => simp
  | ok records => simp [loaded]

theorem exists_loadTags {text : String} :
    (∃ tags, loadTags text = .ok tags) ↔
      ∃ records, ListsTags text records ∧ ∀ r ∈ records, r.Sound := by
  simp only [loadTags_eq_ok, TagRecord.sound_iff]
  constructor
  · rintro ⟨tags, lists⟩
    refine ⟨_, lists, ?_⟩
    intro r inside
    obtain ⟨tag, -, same⟩ := List.mem_map.mp inside
    exact ⟨tag, same⟩
  · rintro ⟨records, lists, sound⟩
    have made : records ∈ Set.range (List.map TagRecord.ofTag) := by
      rw [Set.range_list_map]
      exact sound
    obtain ⟨tags, rfl⟩ := made
    exact ⟨tags, lists⟩

end MailMerge
