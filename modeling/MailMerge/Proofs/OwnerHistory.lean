import MailMerge.Proofs.OwnerData
import MailMerge.Proofs.StoredImages
import Mathlib.Data.List.DropRight
/-!
The data of an owner told from the calls that made it. Under a name stands what was set there last,
unless the name was removed since, and the names stand in the order in which they were set first. A
value is found by its first place, replaced at its first place and rendered from its last one; all
three are one place because no name stands twice.
-/

set_option autoImplicit false

namespace MailMerge

namespace OwnerCall

/-- The value that a call sets under a name. -/
def sets? (name : String) : OwnerCall → Option CustomTag
  | set _ c => if c.name = name then some c else none
  | remove _ _ => none

/-- Whether a call removes the value under a name. -/
def removes (name : String) : OwnerCall → Bool
  | set _ _ => false
  | remove _ other => other == name

/-- The calls up to the last one that removes a name. -/
def untilRemoval (name : String) (calls : List OwnerCall) : List OwnerCall :=
  calls.rdropWhile fun call => !call.removes name

/-- The calls since a name was last removed. -/
def sinceRemoval (name : String) (calls : List OwnerCall) : List OwnerCall :=
  calls.rtakeWhile fun call => !call.removes name

/-- The value that was set last under a name since it was last removed. -/
def lastSet? (name : String) (calls : List OwnerCall) : Option CustomTag :=
  ((sinceRemoval name calls).filterMap (sets? name)).getLast?

/-- The place of the call that set a name first since it was last removed. -/
def firstSet (name : String) (calls : List OwnerCall) : Nat :=
  (untilRemoval name calls).length +
    (sinceRemoval name calls).findIdx fun call => (call.sets? name).isSome

variable {name : String} {calls : List OwnerCall} {call : OwnerCall}

theorem length_untilRemoval (name : String) (calls : List OwnerCall) :
    (untilRemoval name calls).length + (sinceRemoval name calls).length = calls.length := by
  rw [← List.length_append, untilRemoval, sinceRemoval, List.rdropWhile_append_rtakeWhile]

theorem untilRemoval_concat (kept : call.removes name = false) :
    untilRemoval name (calls ++ [call]) = untilRemoval name calls :=
  List.rdropWhile_concat_pos _ _ _ (by rw [kept]; rfl)

theorem sinceRemoval_concat (kept : call.removes name = false) :
    sinceRemoval name (calls ++ [call]) = sinceRemoval name calls ++ [call] :=
  List.rtakeWhile_concat_pos _ _ _ (by rw [kept]; rfl)

/-- A removal forgets what was set before; any other call counts as the last one of all. -/
theorem lastSet?_concat (name : String) (calls : List OwnerCall) (call : OwnerCall) :
    lastSet? name (calls ++ [call]) =
      if call.removes name then none else (call.sets? name).or (lastSet? name calls) := by
  cases removed : call.removes name with
  | true =>
      rw [lastSet?, sinceRemoval, List.rtakeWhile_concat_neg _ _ _ (by rw [removed]; decide)]
      rfl
  | false =>
      rw [lastSet?, sinceRemoval_concat removed, List.filterMap_append, List.getLast?_append]
      cases own : call.sets? name with
      | none =>
          rw [List.filterMap_cons_none own]
          rfl
      | some c =>
          rw [List.filterMap_cons_some own]
          rfl

theorem isSome_lastSet? : (lastSet? name calls).isSome = true ↔
    ∃ call ∈ sinceRemoval name calls, (call.sets? name).isSome = true := by
  rw [lastSet?, List.getLast?_isSome, ne_eq, List.filterMap_eq_nil_iff]
  simp only [not_forall, exists_prop, Option.isSome_iff_ne_none, ne_eq]

theorem findIdx_lt_of_held (held : (lastSet? name calls).isSome = true) :
    ((sinceRemoval name calls).findIdx fun call => (call.sets? name).isSome) <
      (sinceRemoval name calls).length :=
  List.findIdx_lt_length.mpr (isSome_lastSet?.mp held)

theorem firstSet_lt (held : (lastSet? name calls).isSome = true) :
    firstSet name calls < calls.length := by
  have inside := findIdx_lt_of_held held
  have parts := length_untilRemoval name calls
  rw [firstSet]
  omega

/-- Setting a name again does not change where it was set first. -/
theorem firstSet_concat_of_held (held : (lastSet? name calls).isSome = true)
    (kept : call.removes name = false) : firstSet name (calls ++ [call]) = firstSet name calls := by
  rw [firstSet, untilRemoval_concat kept, sinceRemoval_concat kept, List.findIdx_append,
    if_pos (findIdx_lt_of_held held), firstSet]

/-- A name that is not held is set first by the call that sets it next. -/
theorem firstSet_concat_of_absent (absent : lastSet? name calls = none)
    (kept : call.removes name = false) (own : (call.sets? name).isSome = true) :
    firstSet name (calls ++ [call]) = calls.length := by
  have unset : ¬((sinceRemoval name calls).findIdx fun call => (call.sets? name).isSome) <
      (sinceRemoval name calls).length := by
    intro inside
    have held := isSome_lastSet?.mpr (List.findIdx_lt_length.mp inside)
    rw [absent] at held
    cases held
  rw [firstSet, untilRemoval_concat kept, sinceRemoval_concat kept, List.findIdx_append,
    if_neg unset, List.findIdx_singleton, if_pos own, Nat.zero_add]
  exact length_untilRemoval name calls

end OwnerCall

namespace DataOwner

open OwnerCall

variable {o : DataOwner} {now : DateTime} {name : String} {c : CustomTag}

/-- A value is found under its name once it is set, and other values are found as before. -/
theorem get?_set (o : DataOwner) (now : DateTime) (c : CustomTag) (name : String) :
    (o.set now c).get? name = if c.name = name then some c else o.get? name := by
  have stays (different : ¬c.name = name) (old : CustomTag)
      (here : (old.name == c.name) = true) : (old.name == name) = false := by
    rw [eq_of_beq here]
    exact beq_eq_false_iff_ne.mpr different
  cases held : o.get? c.name with
  | some old =>
      rw [get?, set, held, Option.isSome_some, if_pos rfl]
      by_cases same : c.name = name
      · subst same
        rw [if_pos rfl]
        exact find?_modifyFirst held (beq_self_eq_true _)
      · rw [if_neg same]
        exact find?_modifyFirst_other (stays same) (stays same c (beq_self_eq_true _))
  | none =>
      rw [get?, set, held, Option.isSome_none, if_neg Bool.false_ne_true, List.find?_append]
      by_cases same : c.name = name
      · subst same
        rw [if_pos rfl, show o.customData.find? _ = none from held]
        simp
      · rw [if_neg same, List.find?_singleton, stays same c (beq_self_eq_true _),
          if_neg Bool.false_ne_true, Option.or_none]
        rfl

/-- No value is found under a name once it is removed, because there was no second one. -/
theorem Distinct.get?_remove (distinct : o.Distinct) (now : DateTime) (removed name : String) :
    (o.remove now removed).state.get? name = if removed = name then none else o.get? name := by
  by_cases same : removed = name
  · subst same
    rw [if_pos rfl, get?_eq_none, names_remove]
    exact List.Nodup.not_mem_erase distinct
  · rw [if_neg same, DataOwner.remove]
    cases held : o.get? removed with
    | none => rfl
    | some c =>
        apply find?_eraseP_other
        intro old here
        rw [eq_of_beq here]
        exact beq_eq_false_iff_ne.mpr same

/-- An owner whose data is what some calls make it. -/
structure Recorded (calls : List OwnerCall) (o : DataOwner) : Prop where
  distinct : o.Distinct
  found : ∀ name, o.get? name = lastSet? name calls
  ordered : o.names.Pairwise fun a b => firstSet a calls < firstSet b calls

theorem recorded_create {id : Guid} (created : create id now name = .ok o) : Recorded [] o := by
  have distinct := distinct_create created
  obtain ⟨_, -, ⟨⟩⟩ := bind_eq_ok.mp created
  exact ⟨distinct, fun _ => rfl, .nil⟩

namespace Recorded

variable {calls : List OwnerCall}

theorem isSome_lastSet? (recorded : Recorded calls o) (held : name ∈ o.names) :
    (lastSet? name calls).isSome = true := by
  rw [← recorded.found]
  exact isSome_get?.mpr held

/-- The names that a call does not remove keep their order. -/
theorem ordered_concat {call : OwnerCall} {kept : List String} (recorded : Recorded calls o)
    (sub : kept.Sublist o.names) (stay : ∀ name ∈ kept, call.removes name = false) :
    kept.Pairwise fun a b => firstSet a (calls ++ [call]) < firstSet b (calls ++ [call]) := by
  have same (name : String) (inside : name ∈ kept) :
      firstSet name (calls ++ [call]) = firstSet name calls :=
    firstSet_concat_of_held (recorded.isSome_lastSet? (sub.subset inside)) (stay name inside)
  apply (recorded.ordered.sublist sub).imp_of_mem
  intro a b first second earlier
  rw [same a first, same b second]
  exact earlier

theorem set (recorded : Recorded calls o) (now : DateTime) (c : CustomTag) :
    Recorded (calls ++ [.set now c]) (o.set now c) := by
  have kept : o.names.Pairwise fun a b =>
      firstSet a (calls ++ [.set now c]) < firstSet b (calls ++ [.set now c]) :=
    recorded.ordered_concat (List.Sublist.refl _) fun _ _ => rfl
  refine ⟨recorded.distinct.set now c, ?_, ?_⟩
  · intro name
    rw [get?_set, lastSet?_concat, recorded.found]
    simp only [removes, sets?, Bool.false_eq_true, ↓reduceIte]
    split
    · rfl
    · rfl
  · rw [names_set]
    by_cases held : c.name ∈ o.names
    · rw [if_pos held]
      exact kept
    · have absent : lastSet? c.name calls = none := by
        rw [← recorded.found]
        exact get?_eq_none.mpr held
      rw [if_neg held, List.pairwise_append]
      refine ⟨kept, List.pairwise_singleton _ _, ?_⟩
      -- A name that is held was set by an earlier call than this one.
      intro name inside new last
      rw [List.mem_singleton.mp last,
        firstSet_concat_of_absent absent rfl (by simp [sets?]),
        firstSet_concat_of_held (recorded.isSome_lastSet? inside) rfl]
      exact firstSet_lt (recorded.isSome_lastSet? inside)

theorem remove (recorded : Recorded calls o) (now : DateTime) (removed : String) :
    Recorded (calls ++ [.remove now removed]) (o.remove now removed).state := by
  refine ⟨recorded.distinct.remove now removed, ?_, ?_⟩
  · intro name
    rw [recorded.distinct.get?_remove, lastSet?_concat, recorded.found]
    simp only [removes, sets?, beq_iff_eq, Option.none_or]
  · rw [names_remove]
    apply recorded.ordered_concat List.erase_sublist
    intro name inside
    apply beq_eq_false_iff_ne.mpr
    rintro rfl
    exact List.Nodup.not_mem_erase recorded.distinct inside

/-- What the calls so far have made of an owner is what the next ones go on from. -/
theorem after {past : List OwnerCall} (recorded : Recorded past o) (calls : List OwnerCall) :
    Recorded (past ++ calls) (o.after calls) := by
  induction calls generalizing past o with
  | nil =>
      rw [List.append_nil]
      exact recorded
  | cons call calls ih =>
      rw [List.append_cons]
      cases call with
      | set now c => exact ih (recorded.set now c)
      | remove now removed => exact ih (recorded.remove now removed)

end Recorded

/-- Removing fails for the names that are not held. -/
theorem remove_eq_error {e : TemplateError} : (o.remove now name).answer = .error e ↔
    name ∉ o.names ∧ e = .notFound (.customData name o.id) := by
  rw [← get?_eq_none, remove]
  cases held : o.get? name with
  | none => simp [Outcome.failed, eq_comm]
  | some c => simp [Outcome.done]

theorem remove_absent (now : DateTime) (absent : name ∉ o.names) :
    (o.remove now name).state = o := by
  rw [remove, get?_eq_none.mpr absent]
  rfl

section Prepared

variable {tags : TagSet} {limit : Nat}

/-- The image that an owner has for a name is its value under this name, if that is an image. -/
theorem Distinct.storedImage_iff (distinct : o.Distinct) {bytes : List UInt8} :
    StoredImage tags o.customData name bytes ↔
      DeclaredImage tags name ∧ ∃ c, o.get? name = some c ∧ c.value = .image bytes := by
  have last : ownImage? o.customData name = (o.get? name).filter CustomTag.isResource :=
    find?_reverse_of_distinct distinct CustomTag.isResource name
  rw [StoredImage, last]
  apply and_congr_right
  intro _
  constructor
  · intro ⟨c, found, image⟩
    exact ⟨c, (Option.filter_eq_some_iff.mp found).1, image⟩
  · intro ⟨c, found, image⟩
    have kind : c.isResource = true := by
      rw [CustomTag.isResource, image]
      rfl
    exact ⟨c, Option.filter_eq_some_iff.mpr ⟨found, kind⟩, image⟩

/-- The data of an owner alone can be put in unless an image that is asked for is too large. -/
theorem Distinct.exists_prepareMerge (distinct : o.Distinct) :
    (∃ prepared, prepareMerge tags Ascending.empty o.customData limit = .ok prepared) ↔
      ∀ c ∈ o.customData, ∀ bytes, c.value = .image bytes → DeclaredImage tags c.name →
        bytes.length ≤ limit := by
  rw [exists_prepareMerge_stored fun _ _ => rfl]
  constructor
  · intro short c inside bytes image declared
    exact short c.name bytes
      (distinct.storedImage_iff.mpr ⟨declared, c, distinct.get?_name inside, image⟩)
  · intro short name bytes stored
    obtain ⟨declared, c, found, image⟩ := distinct.storedImage_iff.mp stored
    apply short c (List.mem_of_find?_eq_some found) bytes image
    rw [name_of_get? found]
    exact declared

theorem Distinct.scalars_prepareMerge (distinct : o.Distinct) {prepared : PreparedMerge}
    (done : prepareMerge tags Ascending.empty o.customData limit = .ok prepared) (name text : String) :
    prepared.scalars.get? name = some text ↔
      ∃ c, o.get? name = some c ∧ c.isResource = false ∧ c.text = text := by
  rw [(selects_of_prepareMerge done).scalars name, distinct.scalarFor? tags name, scalar?,
    Option.map_eq_some_iff]
  simp only [Option.filter_eq_some_iff, isScalar, Bool.not_eq_true', and_assoc]

end Prepared

/-- The data of an owner is an ordered map, whatever calls have made it. No name stands twice; under
a name stands what was set there last since the name was last removed; the names stand in the order
in which they were set first since then. Removing fails exactly for a name that is not held, and
leaves everything as it was. When a mail is prepared from the data alone, which only an image that is
too large can prevent, each scalar is put in by its text under its name, and nothing else is. -/
theorem data_told_from_calls {id : Guid} {now : DateTime} {name : String} {o : DataOwner}
    (created : create id now name = .ok o) (calls : List OwnerCall) :
    let owner := o.after calls
    owner.names.Nodup ∧
      (∀ name, owner.get? name = lastSet? name calls) ∧
      (owner.names.Pairwise fun a b => firstSet a calls < firstSet b calls) ∧
      (∀ now name, (∀ e, (owner.remove now name).answer = .error e ↔
          name ∉ owner.names ∧ e = .notFound (.customData name owner.id)) ∧
        (name ∉ owner.names → (owner.remove now name).state = owner)) ∧
      ∀ tags limit,
        ((∃ prepared, prepareMerge tags Ascending.empty owner.customData limit = .ok prepared) ↔
          ∀ c ∈ owner.customData, ∀ bytes, c.value = .image bytes → DeclaredImage tags c.name →
            bytes.length ≤ limit) ∧
        ∀ prepared, prepareMerge tags Ascending.empty owner.customData limit = .ok prepared →
          ∀ name text, prepared.scalars.get? name = some text ↔
            ∃ c, owner.get? name = some c ∧ c.isResource = false ∧ c.text = text := by
  intro owner
  have recorded : Recorded calls owner := (recorded_create created).after calls
  refine ⟨recorded.distinct, recorded.found, recorded.ordered, ?_, ?_⟩
  · intro now name
    exact ⟨fun e => remove_eq_error, remove_absent now⟩
  · intro tags limit
    exact ⟨recorded.distinct.exists_prepareMerge,
      fun prepared done => recorded.distinct.scalars_prepareMerge done⟩

/-- An image under the name of another value. -/
def companyLogo : CustomTag :=
  ⟨⟨company.tag.name, company.tag.shortCode, .image⟩, .image [77, 84], rfl, by decide +kernel⟩

/-- The company is replaced by an image, removed and set again. -/
def rebranding : List OwnerCall :=
  [.set .epoch company, .set .epoch firstName, .set .epoch companyLogo, .remove .epoch "first_name",
    .remove .epoch "company", .set .epoch company]

theorem rebranding_told :
    create ⟨1⟩ .epoch "Acme" = .ok acme ∧
      (acme.after rebranding).names = ["First Name", "company"] ∧
      firstSet "First Name" rebranding < firstSet "company" rebranding ∧
      (acme.after rebranding).get? "company" = some company ∧
      ((acme.after rebranding).remove .epoch "first_name").state = acme.after rebranding ∧
      ∀ limit, ∃ prepared, prepareMerge Ascending.empty Ascending.empty
          (acme.after rebranding).customData limit = .ok prepared ∧
        prepared.scalars.get? "company" = some "Acme & Co" := by
  have created : create ⟨1⟩ .epoch "Acme" = .ok acme := by decide +kernel
  have names : (acme.after rebranding).names = ["First Name", "company"] := by decide +kernel
  have last : lastSet? "company" rebranding = some company := by decide +kernel
  obtain ⟨-, found, ordered, removal, prepares⟩ := data_told_from_calls created rebranding
  have held : (acme.after rebranding).get? "company" = some company :=
    (found "company").trans last
  have unchanged := (removal .epoch "first_name").2 (by rw [names]; decide)
  rw [names] at ordered
  refine ⟨created, names, ?_, held, unchanged, ?_⟩
  · exact (List.pairwise_cons.mp ordered).1 "company" (List.mem_singleton_self _)
  · intro limit
    obtain ⟨succeeds, scalars⟩ := prepares Ascending.empty limit
    obtain ⟨prepared, done⟩ := succeeds.mpr fun c _ bytes _ declared => by
      obtain ⟨tag, inside, -⟩ := declared
      cases inside
    exact ⟨prepared, done, (scalars prepared done "company" _).mpr ⟨company, held, rfl, rfl⟩⟩

end DataOwner

end MailMerge
