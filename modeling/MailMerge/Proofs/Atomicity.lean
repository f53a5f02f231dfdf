import MailMerge.Proofs.SingleDefault
import MailMerge.Proofs.TypeCalls
/-!
Calls that fail change nothing, of whatever type or template, also where tags are stale, sources
cannot be read, or names and cultures are there twice. The tags of many contents are resolved in
turn, and a later one may fail; a content that takes the default over may fail too.
-/

set_option autoImplicit false

namespace MailMerge

namespace Outcome

variable {σ ε α : Type}

theorem forget_error {o : Outcome σ ε α} {e : ε} :
    o.forget.answer = .error e ↔ o.answer = .error e := by
  obtain ⟨answer, after⟩ := o
  cases answer <;> simp [forget, Except.map]

theorem Atomic.forget {op : σ → Outcome σ ε α} (atomic : Atomic op) :
    Atomic fun s => (op s).forget := by
  intro s e failed
  exact atomic s e (forget_error.mp failed)

/-- An operation is atomic if it fails where it stands whenever it does not succeed. -/
theorem Atomic.of_cases {op : σ → Outcome σ ε α}
    (cases : ∀ s, (∃ e, op s = .failed e s) ∨ ∃ a after, op s = .done a after) : Atomic op := by
  intro s e failed
  rcases cases s with ⟨_, ran⟩ | ⟨_, _, ran⟩
  · rw [ran]
    rfl
  · rw [ran] at failed
    cases failed

end Outcome

namespace Template

open Outcome (Atomic)

variable (contentId : Guid) (now : DateTime) (d : Draft) (accepted : List MergeTag)

theorem atomic_addContent : Atomic (addContent contentId now d accepted) := by
  apply Atomic.of_cases
  intro t
  exact (t.addContent_cases contentId now d accepted).imp_right
    fun ⟨_, _, _, done⟩ => ⟨_, _, done⟩

theorem atomic_upsertContent : Atomic (upsertContent contentId now d accepted) := by
  intro t
  cases present : t.find? d.culture with
  | none =>
      rw [upsertContent_absent present]
      exact atomic_addContent contentId now d accepted t
  | some old =>
      intro e failed
      rcases upsertContent_cases contentId now accepted present with ⟨_, ran⟩ | ⟨_, -, -, ran⟩
      · rw [ran]
        rfl
      · rw [ran] at failed
        cases failed

theorem atomic_removeContent (culture : String) : Atomic (removeContent now culture) := by
  apply Atomic.of_cases
  intro t
  exact (t.removeContent_cases now culture).imp_right fun ⟨_, _, _, done⟩ => ⟨_, _, done⟩

theorem atomic_reconcile : Atomic (reconcile now accepted) := by
  apply Atomic.of_cases
  intro t
  exact (t.reconcile_cases now accepted).imp_right fun ⟨_, _, done⟩ => ⟨_, _, done⟩

end Template

namespace TemplateType

open Outcome (Atomic)

theorem atomic_replaceTags {α : Type} (now : DateTime) (accepted : List MergeTag) (answer : α) :
    Atomic (replaceTags now accepted answer) := by
  apply Atomic.of_cases
  intro tt
  exact (tt.replaceTags_cases now accepted answer).imp_right fun ⟨_, _, done⟩ => ⟨_, _, done⟩

theorem atomic_declareTag (now : DateTime) (tag : MergeTag) : Atomic (declareTag now tag) := by
  intro tt e failed
  rcases tt.declareTag_cases now tag with ⟨_, ran⟩ | ⟨-, -, ran⟩
  · rw [ran]
    rfl
  · rw [ran] at failed ⊢
    exact atomic_replaceTags now (tt.acceptedTags ++ [tag]) () tt e failed

theorem atomic_retractTag (now : DateTime) (name : String) : Atomic (retractTag now name) := by
  intro tt e failed
  rcases tt.retractTag_cases now name with ⟨_, ran⟩ | ⟨tag, -, ran⟩
  · rw [ran]
    rfl
  · rw [ran] at failed ⊢
    exact atomic_replaceTags now _ tag tt e failed

theorem atomic_addTemplate (id contentId : Guid) (now : DateTime) (name : String) (d : Draft) :
    Atomic (addTemplate id contentId now name d) := by
  apply Atomic.of_cases
  intro tt
  exact (tt.addTemplate_cases id contentId now name d).imp_right
    fun ⟨_, _, _, done⟩ => ⟨_, _, done⟩

theorem atomic_removeTemplate (now : DateTime) (id : Guid) : Atomic (removeTemplate now id) := by
  apply Atomic.of_cases
  intro tt
  exact (tt.removeTemplate_cases now id).imp_right fun ⟨_, _, done⟩ => ⟨_, _, done⟩

/-- Where an operation fails on a template, the template is put back as it was. -/
theorem state_onTemplate {α : Type} {op : Template → Outcome Template TemplateError α}
    (atomic : Atomic op) {tt : TemplateType} {id : Guid} {e : TemplateError}
    (failed : (tt.onTemplate id op).answer = .error e) : (tt.onTemplate id op).state = tt := by
  rcases tt.onTemplate_cases id op with ⟨_, ran⟩ | ⟨t, found, ran⟩
  · rw [ran]
    rfl
  · rw [ran] at failed ⊢
    have kept : (op t).state = t := atomic t e failed
    have same : modifyFirst (fun t => t.id == id) (fun _ => t) tt.templates = tt.templates :=
      modifyFirst_same (template_eq_ok.mp found)
    rw [Outcome.within, kept, same]

end TemplateType

theorem TemplateCall.atomic (call : TemplateCall) : Outcome.Atomic call.run := by
  cases call with
  | addContent contentId now d accepted =>
      exact (Template.atomic_addContent contentId now d accepted).forget
  | upsertContent contentId now d accepted =>
      exact (Template.atomic_upsertContent contentId now d accepted).forget
  | removeContent now culture => exact (Template.atomic_removeContent now culture).forget
  | reconcile now accepted => exact Template.atomic_reconcile now accepted

theorem TypeCall.atomic (call : TypeCall) : Outcome.Atomic call.run := by
  cases call with
  | declareTag now tag => exact TemplateType.atomic_declareTag now tag
  | retractTag now name => exact (TemplateType.atomic_retractTag now name).forget
  | addTemplate id contentId now name d =>
      exact (TemplateType.atomic_addTemplate id contentId now name d).forget
  | removeTemplate now id => exact (TemplateType.atomic_removeTemplate now id).forget
  | addContent template contentId now d =>
      have added : Outcome.Atomic (TemplateType.addContent template contentId now d) := fun tt _ =>
        TemplateType.state_onTemplate
          (Template.atomic_addContent contentId now d tt.acceptedTags)
      exact added.forget
  | upsertContent template contentId now d =>
      have set : Outcome.Atomic (TemplateType.upsertContent template contentId now d) := fun tt _ =>
        TemplateType.state_onTemplate
          (Template.atomic_upsertContent contentId now d tt.acceptedTags)
      exact set.forget
  | removeContent template now culture =>
      have removed : Outcome.Atomic (TemplateType.removeContent template now culture) := fun _ _ =>
        TemplateType.state_onTemplate (Template.atomic_removeContent now culture)
      exact removed.forget

/-- A call that fails leaves the type or the template as it was, in all its parts. -/
theorem failed_call_changes_nothing :
    (∀ (call : TypeCall) (tt : TemplateType) (e : TemplateError),
        (call.run tt).answer = .error e → (call.run tt).state = tt) ∧
      ∀ (call : TemplateCall) (t : Template) (e : TemplateError),
        (call.run t).answer = .error e → (call.run t).state = t :=
  ⟨TypeCall.atomic, TemplateCall.atomic⟩

/-- A content without the tag that its source refers to, as a record may hold it. -/
def staleContent : Content :=
  { Template.storedContent 4 "en" true with source := "[\"{{name}}\"]" }

/-- A content for the same culture, with a reference that is no short code. -/
def spoiltContent : Content :=
  { Template.storedContent 6 "en" true with source := "[\"{{first name}}\"]" }

/-- A type of two templates of one name. The content of the first can be resolved, that of the second
cannot. -/
def spoiltType : TemplateType :=
  ⟨⟨1⟩, "Mails", [],
    [⟨⟨3⟩, ⟨1⟩, "Hello", [staleContent], .epoch, .epoch⟩,
      ⟨⟨5⟩, ⟨2⟩, "Hello", [staleContent, spoiltContent], .epoch, .epoch⟩],
    .epoch, .epoch⟩

/-- A tag that the contents refer to that can be resolved. -/
def calledTag : MergeTag := ⟨⟨"name", by decide +kernel⟩, ⟨"name", by decide⟩, .string⟩

/-- A draft that asks for the default, with a source that is no JSON. -/
def unreadableDraft : Draft := { Template.ciao with source := "[" }

theorem spoiltType_unchanged :
    ((TypeCall.declareTag .epoch calledTag).run spoiltType).answer =
        .error (.references (.malformed "{{first name}}" (.badCharacter ' '))) ∧
      ((TypeCall.declareTag .epoch calledTag).run spoiltType).state = spoiltType ∧
      ((TemplateCall.upsertContent ⟨7⟩ .epoch unreadableDraft []).run
        Template.twoDefaults).answer = .error (.references .notJson) ∧
      ((TemplateCall.upsertContent ⟨7⟩ .epoch unreadableDraft []).run
        Template.twoDefaults).state = Template.twoDefaults := by
  have declared : ((TypeCall.declareTag .epoch calledTag).run spoiltType).answer =
      .error (.references (.malformed "{{first name}}" (.badCharacter ' '))) := by decide +kernel
  have set : ((TemplateCall.upsertContent ⟨7⟩ .epoch unreadableDraft []).run
      Template.twoDefaults).answer = .error (.references .notJson) := by decide +kernel
  obtain ⟨types, templates⟩ := failed_call_changes_nothing
  exact ⟨declared, types _ _ _ declared, set, templates _ _ _ set⟩

end MailMerge
