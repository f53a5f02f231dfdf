import MailMerge.Proofs.Storage
import MailMerge.Store.Repository
/-!
What a store answers after a call. Every record of a store that only types were saved to is the
stored form of a type, so answers can be told from the types that were saved.
-/

set_option autoImplicit false

namespace MailMerge

open Deflate (Compressor)

namespace GuidMap

variable {β : Type}

theorem key_eq_iff (a b : Guid) : (a.value.toNat == b.value.toNat) = true ↔ a = b := by
  obtain ⟨a⟩ := a
  obtain ⟨b⟩ := b
  rw [beq_iff_eq, Guid.mk.injEq]
  exact BitVec.toNat_inj

theorem get?_set (m : GuidMap β) (id other : Guid) (value : β) :
    (m.set id value).get? other = if id = other then some value else m.get? other := by
  rw [get?, set, Ascending.find?_insert]
  by_cases same : id = other
  · rw [if_pos ((key_eq_iff id other).mpr same), if_pos same]
    rfl
  · rw [if_neg (fun equal => same ((key_eq_iff id other).mp equal)), if_neg same]
    rfl

theorem get?_erase (m : GuidMap β) (id other : Guid) :
    (m.erase id).get? other = if id = other then none else m.get? other := by
  have erased : (m.erase id).find? other.value.toNat =
      if id = other then none else m.find? other.value.toNat := by
    rw [erase, Ascending.filter, Ascending.find?, Ascending.find?, List.find?_filter]
    by_cases same : id = other
    · rw [if_pos same, List.find?_eq_none]
      intro entry _ both
      obtain ⟨kept, here⟩ := of_decide_eq_true both
      rw [key_eq_iff] at here
      simp [here, same] at kept
    · rw [if_neg same]
      congr 1
      funext entry
      by_cases here : entry.1 = other
      · have kept : (entry.1 != id) = true := by simpa [here] using Ne.symm same
        simp only [kept, true_and, Bool.decide_eq_true]
      · simp [mt (key_eq_iff entry.1 other).mp here]
  rw [get?, erased]
  split <;> rfl

end GuidMap

namespace Repository

/-- Every record is the stored form of a type that has the record's id and satisfies `good`. -/
def Holds [Compressor] (good : TemplateType → Prop) (r : Repository) : Prop :=
  ∀ id record, r.types.get? id = some record →
    ∃ tt, good tt ∧ tt.id = id ∧ record = .ofType tt

variable [Compressor] {good : TemplateType → Prop} {r : Repository} {now : DateTime}

theorem holds_empty : empty.Holds good := by
  intro id record found
  cases found

theorem Holds.saveType (holds : r.Holds good) {tt : TemplateType} (fine : good tt) :
    (r.saveType tt).Holds good := by
  intro id record found
  rw [Repository.saveType, GuidMap.get?_set] at found
  split at found
  · next same =>
      cases found
      exact ⟨tt, fine, same, rfl⟩
  · exact holds id record found

theorem Holds.deleteType (holds : r.Holds good) {id : Guid} {left : Repository}
    (deleted : r.deleteType id = .ok left) : left.Holds good := by
  rw [Repository.deleteType] at deleted
  split at deleted
  · cases deleted
    intro other record found
    rw [GuidMap.get?_erase] at found
    split at found
    · cases found
    · exact holds other record found
  · cases deleted

/-- A type that is loaded is one that was saved, as long as types have one default where they are
saved. -/
theorem Holds.templateType (holds : r.Holds good)
    (single : ∀ tt, good tt → ∀ t ∈ tt.templates, SingleDefault t.contents) {id : Guid}
    {tt : TemplateType} (loaded : r.templateType now id = .ok tt) : good tt ∧ tt.id = id := by
  rw [Repository.templateType] at loaded
  split at loaded
  · next record found =>
      obtain ⟨saved, fine, named, rfl⟩ := holds id record found
      rw [TypeRecord.load_ofType (single saved fine)] at loaded
      cases loaded
      exact ⟨fine, named⟩
  · cases loaded

end Repository

end MailMerge
