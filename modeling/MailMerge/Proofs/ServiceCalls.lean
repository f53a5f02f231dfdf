import MailMerge.Proofs.TypeCalls
import MailMerge.Service.Basic
/-!
Calls of the service, and the plain operations that they stand for. A call loads what it changes,
applies the operation and saves what comes of it, unless something fails before: then nothing is
saved.
-/

set_option autoImplicit false

namespace MailMerge

open Deflate (Compressor)

/-- What the service keeps under an id. -/
inductive Aggregate where
  | type (tt : TemplateType)
  | owner (o : DataOwner)
  deriving DecidableEq

/-- Where the service keeps it. -/
inductive Address where
  | type (id : Guid)
  | owner (id : Guid)
  deriving DecidableEq

/-- Where an aggregate is kept. -/
def Aggregate.address : Aggregate → Address
  | type tt => .type tt.id
  | owner o => .owner o.id

/-- Stores an aggregate. -/
def Repository.save [Compressor] (r : Repository) : Aggregate → Repository
  | .type tt => r.saveType tt
  | .owner o => r.saveOwner o

/-- What the service answers for an address. -/
def ServiceState.answer (now : DateTime) (s : ServiceState) :
    Address → Except ServiceError Aggregate
  | .type id => (s.templateType now id).map .type
  | .owner id => (s.dataOwner id).map .owner

/-- A call that changes what is stored, with the time and the new ids that it is given. What it
returns is part of its type. -/
inductive ServiceCall : Type → Type where
  | createType (id : Guid) (now : DateTime) (name : String) (tags : List MergeTag) :
    ServiceCall TemplateType
  | declareTag (now : DateTime) (typeId : Guid) (tag : MergeTag) : ServiceCall TemplateType
  | retractTag (now : DateTime) (typeId : Guid) (name : String) : ServiceCall TemplateType
  | createTemplate (id contentId : Guid) (now : DateTime) (typeId : Guid) (name : String)
    (d : Draft) : ServiceCall Template
  | upsertContent (contentId : Guid) (now : DateTime) (typeId templateId : Guid) (d : Draft) :
    ServiceCall Content
  | removeContent (now : DateTime) (typeId templateId : Guid) (culture : String) :
    ServiceCall Content
  | createOwner (id : Guid) (now : DateTime) (name : String) : ServiceCall DataOwner
  | setOwnerData (now : DateTime) (ownerId : Guid) (c : CustomTag) : ServiceCall DataOwner

namespace ServiceCall

variable {α : Type}

/-- What a call comes to. -/
def run [Compressor] (config : ServiceConfig) : ServiceCall α → ServiceState → ServiceOutcome α
  | createType id now name tags, s => s.createType id now name tags
  | declareTag now typeId tag, s => s.declareTag now typeId tag
  | retractTag now typeId name, s => s.retractTag now typeId name
  | createTemplate id contentId now typeId name d, s =>
    s.createTemplate config id contentId now typeId name d
  | upsertContent contentId now typeId templateId d, s =>
    s.upsertContent config contentId now typeId templateId d
  | removeContent now typeId templateId culture, s =>
    s.removeContent now typeId templateId culture
  | createOwner id now name, s => s.createOwner id now name
  | setOwnerData now ownerId c, s => s.setOwnerData now ownerId c

/-- The address of the aggregate that a call changes or creates. -/
def address : ServiceCall α → Address
  | createType id _ _ _ => .type id
  | declareTag _ typeId _ => .type typeId
  | retractTag _ typeId _ => .type typeId
  | createTemplate _ _ _ typeId _ _ => .type typeId
  | upsertContent _ _ typeId _ _ => .type typeId
  | removeContent _ typeId _ _ => .type typeId
  | createOwner id _ _ => .owner id
  | setOwnerData _ ownerId _ => .owner ownerId

/-- The plain operation of a call, applied to what was stored before, returns `a` and makes `after`.
The calls that create do not look at what was stored. -/
def Applies : ServiceCall α → Except ServiceError Aggregate → α → Aggregate → Prop
  | createType id now name tags, _, a, after =>
    TemplateType.withTags id now name tags = .ok a ∧ after = .type a
  | declareTag now _ tag, before, a, after =>
    ∃ old, before = .ok (.type old) ∧ old.declareTag now tag = .done () a ∧ after = .type a
  | retractTag now _ name, before, a, after =>
    ∃ old tag, before = .ok (.type old) ∧ old.retractTag now name = .done tag a ∧ after = .type a
  | createTemplate id contentId now _ name d, before, a, after =>
    ∃ old tt, before = .ok (.type old) ∧ old.addTemplate id contentId now name d = .done a tt ∧
      after = .type tt
  | upsertContent contentId now _ templateId d, before, a, after =>
    ∃ old tt, before = .ok (.type old) ∧ old.upsertContent templateId contentId now d = .done a tt ∧
      after = .type tt
  | removeContent now _ templateId culture, before, a, after =>
    ∃ old tt, before = .ok (.type old) ∧ old.removeContent templateId now culture = .done a tt ∧
      after = .type tt
  | createOwner id now name, _, a, after => DataOwner.create id now name = .ok a ∧ after = .owner a
  | setOwnerData now _ c, before, a, after =>
    ∃ old, before = .ok (.owner old) ∧ a = old.set now c ∧ after = .owner a

/-- The subject of a draft that a call brings is not too long. -/
def Fits (config : ServiceConfig) : ServiceCall α → Prop
  | createTemplate _ _ _ _ _ d => d.subject.length ≤ config.maxSubjectLength
  | upsertContent _ _ _ _ d => d.subject.length ≤ config.maxSubjectLength
  | _ => True

end ServiceCall

namespace ServiceState

theorem checkSubject_long {config : ServiceConfig} {d : Draft}
    (long : ¬d.subject.length ≤ config.maxSubjectLength) : checkSubject config d =
      .error (.refused (.subjectTooLong d.subject.length config.maxSubjectLength)) :=
  if_pos (Nat.lt_of_not_le long)

theorem checkSubject_cases (config : ServiceConfig) (d : Draft) :
    (¬d.subject.length ≤ config.maxSubjectLength ∧ checkSubject config d =
      .error (.refused (.subjectTooLong d.subject.length config.maxSubjectLength))) ∨
      checkSubject config d = .ok () := by
  by_cases fits : d.subject.length ≤ config.maxSubjectLength
  · exact Or.inr (if_neg (Nat.not_lt_of_le fits))
  · exact Or.inl ⟨fits, checkSubject_long fits⟩

variable [Compressor]

/-- How a change of a type ends, and which counters move: the type cannot be loaded, and nothing is
counted; the operation fails, and its error is counted; or what the operation makes is stored. -/
theorem changeType_ends {α β : Type} (s : ServiceState) (now : DateTime) (id : Guid)
    (counting : TemplateError → Counters → Counters)
    (op : TemplateType → Outcome TemplateType TemplateError α) (answer : α → TemplateType → β) :
    (∃ e, (∀ old, s.answer now (.type id) ≠ .ok (.type old)) ∧
        s.changeType now id counting op answer = .failed (.store e) s) ∨
      (∃ old e, s.answer now (.type id) = .ok (.type old) ∧ (op old).answer = .error e ∧
        s.changeType now id counting op answer =
          .failed (.template e) (s.count (counting e))) ∨
      ∃ old a changed, s.answer now (.type id) = .ok (.type old) ∧ op old = .done a changed ∧
        s.changeType now id counting op answer = .done (answer a changed) (s.saveType changed) := by
  rw [changeType, ServiceState.answer, templateType]
  cases s.repository.templateType now id with
  | error e => exact Or.inl ⟨e, fun _ => by simp [Except.map, Except.mapError], rfl⟩
  | ok old =>
      cases ran : op old with
      | mk answered changed =>
          cases answered with
          | error e => exact Or.inr (Or.inl ⟨old, e, rfl, by rw [ran], by simp [Except.mapError, ran]⟩)
          | ok a =>
              exact Or.inr (Or.inr ⟨old, a, changed, rfl, ran, by simp [Except.mapError, ran]⟩)

theorem changeType_cases {α β : Type} (s : ServiceState) (now : DateTime) (id : Guid)
    (counting : TemplateError → Counters → Counters)
    (op : TemplateType → Outcome TemplateType TemplateError α) (answer : α → TemplateType → β) :
    (∃ e left, left.repository = s.repository ∧
        (∀ old a changed, s.answer now (.type id) = .ok (.type old) → op old ≠ .done a changed) ∧
        s.changeType now id counting op answer = .failed e left) ∨
      ∃ old a changed, s.answer now (.type id) = .ok (.type old) ∧ op old = .done a changed ∧
        s.changeType now id counting op answer = .done (answer a changed) (s.saveType changed) := by
  rcases s.changeType_ends now id counting op answer with
    ⟨e, missing, failed⟩ | ⟨old, e, found, wrong, failed⟩ | done
  · refine Or.inl ⟨.store e, s, rfl, ?_, failed⟩
    exact fun old _ _ found => absurd found (missing old)
  · refine Or.inl ⟨.template e, s.count (counting e), rfl, ?_, failed⟩
    intro other a changed same done
    rw [found] at same
    cases same
    rw [done] at wrong
    cases wrong
  · exact Or.inr done

end ServiceState

namespace ServiceCall

variable [Compressor] {α : Type}

/-- What a call can do: it fails and nothing is stored, which happens only if the plain operation
fails too or the subject is too long; or the plain operation succeeds on what was stored, and what
it makes is stored. -/
theorem run_cases (call : ServiceCall α) (config : ServiceConfig) (s : ServiceState) :
    (∃ now e left, left.repository = s.repository ∧
        (call.Fits config → ∀ a after, ¬call.Applies (s.answer now call.address) a after) ∧
        call.run config s = .failed e left) ∨
      ∃ now a after left, call.Applies (s.answer now call.address) a after ∧
        left.repository = s.repository.save after ∧ call.run config s = .done a left := by
  cases call with
  | createType id now name tags =>
      rw [run, ServiceState.createType]
      cases made : TemplateType.withTags id now name tags with
      | error e =>
          refine Or.inl ⟨now, .template e, s, rfl, ?_, rfl⟩
          rintro - a after ⟨created, -⟩
          rw [made] at created
          cases created
      | ok tt => exact Or.inr ⟨now, tt, .type tt, s.saveType tt, ⟨made, rfl⟩, rfl, rfl⟩
  | declareTag now typeId tag =>
      rw [run, ServiceState.declareTag]
      rcases s.changeType_cases now typeId ServiceState.uncounted
        (TemplateType.declareTag now tag) (fun _ tt => tt) with
        ⟨e, left, same, never, failed⟩ | ⟨old, a, tt, before, done, ran⟩
      · refine Or.inl ⟨now, e, left, same, ?_, failed⟩
        rintro - a after ⟨old, before, done, -⟩
        exact never old () a before done
      · exact Or.inr ⟨now, tt, .type tt, s.saveType tt, ⟨old, before, done, rfl⟩, rfl, ran⟩
  | retractTag now typeId name =>
      rw [run, ServiceState.retractTag]
      rcases s.changeType_cases now typeId ServiceState.uncounted
        (TemplateType.retractTag now name) (fun _ tt => tt) with
        ⟨e, left, same, never, failed⟩ | ⟨old, a, tt, before, done, ran⟩
      · refine Or.inl ⟨now, e, left, same, ?_, failed⟩
        rintro - a after ⟨old, tag, before, done, -⟩
        exact never old tag a before done
      · exact Or.inr ⟨now, tt, .type tt, s.saveType tt, ⟨old, a, before, done, rfl⟩, rfl, ran⟩
  | createTemplate id contentId now typeId name d =>
      rw [run, ServiceState.createTemplate]
      rcases ServiceState.checkSubject_cases config d with ⟨long, refused⟩ | accepted
      · rw [refused]
        exact Or.inl ⟨now, _, s, rfl, fun fits => absurd fits long, rfl⟩
      · rw [accepted]
        rcases s.changeType_cases now typeId ServiceState.contentRejected
          (TemplateType.addTemplate id contentId now name d) (fun t _ => t) with
          ⟨e, left, same, never, failed⟩ | ⟨old, t, tt, before, done, ran⟩
        · refine Or.inl ⟨now, e, left, same, ?_, failed⟩
          rintro - a after ⟨old, tt, before, done, -⟩
          exact never old a tt before done
        · exact Or.inr ⟨now, t, .type tt, s.saveType tt, ⟨old, tt, before, done, rfl⟩, rfl, ran⟩
  | upsertContent contentId now typeId templateId d =>
      rw [run, ServiceState.upsertContent]
      rcases ServiceState.checkSubject_cases config d with ⟨long, refused⟩ | accepted
      · rw [refused]
        exact Or.inl
          ⟨now, _, s.count Counters.countRejected, rfl, fun fits => absurd fits long, rfl⟩
      · rw [accepted]
        rcases s.changeType_cases now typeId ServiceState.contentRejected
          (TemplateType.upsertContent templateId contentId now d) (fun c _ => c) with
          ⟨e, left, same, never, failed⟩ | ⟨old, c, tt, before, done, ran⟩
        · rw [failed]
          refine Or.inl ⟨now, e, left, same, ?_, rfl⟩
          rintro - a after ⟨old, tt, before, done, -⟩
          exact never old a tt before done
        · rw [ran]
          exact Or.inr ⟨now, c, .type tt, _, ⟨old, tt, before, done, rfl⟩, rfl, rfl⟩
  | removeContent now typeId templateId culture =>
      rw [run, ServiceState.removeContent]
      rcases s.changeType_cases now typeId ServiceState.uncounted
        (TemplateType.removeContent templateId now culture) (fun c _ => c) with
        ⟨e, left, same, never, failed⟩ | ⟨old, c, tt, before, done, ran⟩
      · refine Or.inl ⟨now, e, left, same, ?_, failed⟩
        rintro - a after ⟨old, tt, before, done, -⟩
        exact never old a tt before done
      · exact Or.inr ⟨now, c, .type tt, s.saveType tt, ⟨old, tt, before, done, rfl⟩, rfl, ran⟩
  | createOwner id now name =>
      rw [run, ServiceState.createOwner]
      cases made : DataOwner.create id now name with
      | error e =>
          refine Or.inl ⟨now, .template e, s, rfl, ?_, rfl⟩
          rintro - a after ⟨created, -⟩
          rw [made] at created
          cases created
      | ok o => exact Or.inr ⟨now, o, .owner o, s.saveOwner o, ⟨made, rfl⟩, rfl, rfl⟩
  | setOwnerData now ownerId c =>
      rw [run, ServiceState.setOwnerData]
      cases found : s.dataOwner ownerId with
      | error e =>
          refine Or.inl ⟨now, e, s, rfl, ?_, rfl⟩
          rintro - a after ⟨old, before, -⟩
          rw [address, ServiceState.answer, found] at before
          cases before
      | ok old =>
          have before : s.answer now (.owner ownerId) = .ok (.owner old) := by
            rw [ServiceState.answer, found]
            rfl
          exact Or.inr ⟨now, old.set now c, .owner (old.set now c), s.saveOwner (old.set now c),
            ⟨old, before, rfl, rfl⟩, rfl, rfl⟩

end ServiceCall

end MailMerge
