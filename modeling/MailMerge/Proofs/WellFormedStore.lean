import MailMerge.Proofs.Precedence
import MailMerge.Proofs.ServiceRefinement
import MailMerge.Proofs.WellFormed
/-!
Every type that the service stores is well-formed, whatever requests come in whatever order. Subjects
are checked by the service, by the draft, or by both, and every other check is made by the type.
-/

set_option autoImplicit false

namespace MailMerge

open Deflate (Compressor)

/-- What the types that the service stores have in common, where subjects may have `limit` characters
at most. -/
structure TemplateType.Storable (limit : Nat) (tt : TemplateType) : Prop where
  sound : tt.Sound
  wellFormed : tt.WellFormed limit

theorem TemplateType.Storable.single {limit : Nat} {tt : TemplateType} (storable : tt.Storable limit) :
    ∀ t ∈ tt.templates, SingleDefault t.contents := storable.sound.single

theorem ServiceState.holds_of_answer [Compressor] {s : ServiceState} {good : TemplateType → Prop}
    (holds : s.repository.Holds good)
    (single : ∀ tt, good tt → ∀ t ∈ tt.templates, SingleDefault t.contents) {now : DateTime}
    {address : Address} {tt : TemplateType} (found : s.answer now address = .ok (.type tt)) :
    good tt := by
  cases address with
  | type id =>
      obtain ⟨other, loaded, same⟩ := map_eq_ok.mp found
      cases same
      exact (holds.templateType single (mapError_eq_ok.mp loaded)).1
  | owner id =>
      obtain ⟨_, -, same⟩ := map_eq_ok.mp found
      cases same

namespace ServiceCall

variable {α : Type}

/-- The draft that a call brings. -/
def draft? : ServiceCall α → Option Draft
  | createTemplate _ _ _ _ _ d => some d
  | upsertContent _ _ _ _ d => some d
  | _ => none

theorem fits_iff {call : ServiceCall α} {config : ServiceConfig} :
    call.Fits config ↔
      ∀ d, call.draft? = some d → d.subject.length ≤ config.maxSubjectLength := by
  cases call <;> simp [Fits, draft?]

/-- A type that is saved was created with some tags, or is what a call with the same draft makes of
the type that was stored before. -/
theorem Applies.type_cases {call : ServiceCall α} {before : Except ServiceError Aggregate} {a : α}
    {tt : TemplateType} (applies : call.Applies before a (.type tt)) :
    (∃ id now name tags, TemplateType.withTags id now name tags = .ok tt) ∨
      ∃ (old : TemplateType) (typeCall : TypeCall), before = .ok (.type old) ∧
        typeCall.draft? = call.draft? ∧ tt = (typeCall.run old).state := by
  cases call with
  | createType id now name tags =>
      obtain ⟨created, made⟩ := applies
      cases made
      exact Or.inl ⟨id, now, name, tags, created⟩
  | declareTag now typeId tag =>
      obtain ⟨old, stored, done, made⟩ := applies
      cases made
      exact Or.inr ⟨old, .declareTag now tag, stored, rfl, (congrArg Outcome.state done).symm⟩
  | retractTag now typeId name =>
      obtain ⟨old, tag, stored, done, made⟩ := applies
      cases made
      exact Or.inr ⟨old, .retractTag now name, stored, rfl, (congrArg Outcome.state done).symm⟩
  | createTemplate id contentId now typeId name d =>
      obtain ⟨old, tt', stored, done, made⟩ := applies
      cases made
      exact Or.inr ⟨old, .addTemplate id contentId now name d, stored, rfl,
        (congrArg Outcome.state done).symm⟩
  | upsertContent contentId now typeId templateId d =>
      obtain ⟨old, tt', stored, done, made⟩ := applies
      cases made
      exact Or.inr ⟨old, .upsertContent templateId contentId now d, stored, rfl,
        (congrArg Outcome.state done).symm⟩
  | removeContent now typeId templateId culture =>
      obtain ⟨old, tt', stored, done, made⟩ := applies
      cases made
      exact Or.inr ⟨old, .removeContent templateId now culture, stored, rfl,
        (congrArg Outcome.state done).symm⟩
  | createOwner id now name => cases applies.2
  | setOwnerData now ownerId c =>
      obtain ⟨old, -, -, made⟩ := applies
      cases made

variable [Compressor] {s : ServiceState}

/-- No call succeeds with a subject that is too long. -/
theorem fits_of_done {call : ServiceCall α} {config : ServiceConfig} {a : α}
    (done : (call.run config s).answer = .ok a) : call.Fits config := by
  cases call with
  | createTemplate id contentId now typeId name d =>
      by_contra long
      rw [run, ServiceState.createTemplate, ServiceState.checkSubject_long long] at done
      cases done
  | upsertContent contentId now typeId templateId d =>
      by_contra long
      rw [run, ServiceState.upsertContent, ServiceState.checkSubject_long long] at done
      cases done
  | _ => trivial

/-- A call keeps what all stored types have in common, as long as types come into being with it and
their own calls, with subjects that are not too long, keep it. -/
theorem run_holds (call : ServiceCall α) {config : ServiceConfig} {good : TemplateType → Prop}
    (single : ∀ tt, good tt → ∀ t ∈ tt.templates, SingleDefault t.contents)
    (created : ∀ id now name tags tt, TemplateType.withTags id now name tags = .ok tt → good tt)
    (kept : ∀ (old : TemplateType) (typeCall : TypeCall),
      (∀ d, typeCall.draft? = some d → d.subject.length ≤ config.maxSubjectLength) → good old →
        good (typeCall.run old).state)
    (holds : s.repository.Holds good) : (call.run config s).state.repository.Holds good := by
  rcases call.run_cases config s with
    ⟨_, e, left, same, -, failed⟩ | ⟨now, a, after, left, applies, saved, done⟩
  · rw [failed]
    exact same ▸ holds
  · have fits := fits_iff.mp (fits_of_done (congrArg Outcome.answer done))
    rw [done]
    change left.repository.Holds _
    rw [saved]
    cases after with
    | owner o => exact holds
    | type tt =>
        apply holds.saveType
        rcases applies.type_cases with ⟨id, _, name, tags, made⟩ | ⟨old, typeCall, stored, same, rfl⟩
        · exact created id _ name tags tt made
        · have good := ServiceState.holds_of_answer holds single stored
          exact kept old typeCall (same ▸ fits) good

/-- A call keeps all stored types well-formed. -/
theorem run_storable (call : ServiceCall α) {config : ServiceConfig}
    (holds : s.repository.Holds (TemplateType.Storable config.maxSubjectLength)) :
    (call.run config s).state.repository.Holds
      (TemplateType.Storable config.maxSubjectLength) := by
  refine call.run_holds (fun _ storable => storable.single) ?_ ?_ holds
  · intro id now name tags tt created
    exact ⟨(TemplateType.sound_withTags created).1, TemplateType.wellFormed_withTags created⟩
  · intro old typeCall fits storable
    exact ⟨storable.sound.run typeCall, storable.wellFormed.run typeCall fits⟩

end ServiceCall

namespace ServiceState

section

variable [Compressor] {s : ServiceState}

theorem holds_serve {config : ServiceConfig}
    (holds : s.repository.Holds (TemplateType.Storable config.maxSubjectLength))
    (request : ServiceRequest) :
    (s.serve (config, request)).repository.Holds
      (TemplateType.Storable config.maxSubjectLength) := by
  cases request with
  | change call => exact call.run_storable holds
  | render contentIds now typeId templateId culture owner request =>
      rw [serve, repository_render]
      exact holds

theorem holds_after {config : ServiceConfig} (requests : List ServiceRequest)
    (holds : s.repository.Holds (TemplateType.Storable config.maxSubjectLength)) :
    (s.after (requests.map fun request => (config, request))).repository.Holds
      (TemplateType.Storable config.maxSubjectLength) := by
  refine after_keeps (motive := fun s => s.repository.Holds _) ?_ holds
  intro r inside s holds
  obtain ⟨request, -, rfl⟩ := List.mem_map.mp inside
  exact holds_serve holds request

theorem templateType_stored {id : Guid} {tt : TemplateType} (now : DateTime)
    (single : ∀ t ∈ tt.templates, SingleDefault t.contents)
    (stored : s.repository.types.get? id = some (.ofType tt)) :
    s.templateType now id = .ok tt := by
  rw [templateType, Repository.templateType, stored]
  simp only [TypeRecord.load_ofType single]
  rfl

/-- Whatever is stored after any requests to a service that was empty at first can be loaded at any
time, and is a well-formed type under its own id, with distinct short codes. -/
theorem stored_types_wellFormed (config : ServiceConfig) (requests : List ServiceRequest) {id : Guid}
    {record : TypeRecord}
    (stored : (empty.after (requests.map fun request =>
      (config, request))).repository.types.get? id = some record) :
    ∃ tt, (∀ now, (empty.after (requests.map fun request =>
        (config, request))).templateType now id = .ok tt) ∧
      tt.id = id ∧ tt.WellFormed config.maxSubjectLength ∧
        (tt.acceptedTags.map MergeTag.shortCode).Nodup := by
  have holds : (empty.after (requests.map fun request => (config, request))).repository.Holds
      (TemplateType.Storable config.maxSubjectLength) := holds_after requests Repository.holds_empty
  obtain ⟨tt, storable, named, rfl⟩ := holds id record stored
  exact ⟨tt, fun now => templateType_stored now storable.single stored, named, storable.wellFormed,
    storable.wellFormed.codes⟩

end

/-- A service that accepts short subjects only. -/
def terseService : ServiceConfig := ⟨ServiceCall.plainService.engine, 13⟩

/-- A type with a template of two contents gets a tag and loses one. A subject that is too long is
refused. -/
def terseRequests : List ServiceRequest :=
  [.change (.createType ⟨1⟩ .epoch "Mails" [Desk.nameTag]),
    .change (.createTemplate ⟨2⟩ ⟨3⟩ .epoch ⟨1⟩ "  Hello " Template.ciao),
    .change (.upsertContent ⟨4⟩ .epoch ⟨1⟩ ⟨2⟩ { ServiceCall.hello with subject := "Hello to you all" }),
    .change (.upsertContent ⟨5⟩ .epoch ⟨1⟩ ⟨2⟩ ServiceCall.hello),
    .change (.declareTag .epoch ⟨1⟩ logoTag),
    .change (.retractTag .epoch ⟨1⟩ "name")]

/-- What is stored then. -/
def terseType : TemplateType :=
  { ServiceCall.mails
      [ServiceCall.ciaoContent, { ServiceCall.helloContent with id := ⟨5⟩ }] with
    acceptedTags := [logoTag] }

theorem terseType_wellFormed : terseType.WellFormed 13 := by
  have stored : (empty.after (terseRequests.map fun request =>
      (terseService, request))).repository.types.get? ⟨1⟩ = some (TypeRecord.ofType terseType) := by
    decide +kernel
  have single : ∀ t ∈ terseType.templates, SingleDefault t.contents := by
    intro t inside
    rw [List.mem_singleton.mp inside]
    exact Or.inr rfl
  have loaded := templateType_stored .epoch single stored
  obtain ⟨tt, always, -, wellFormed, -⟩ := stored_types_wellFormed terseService terseRequests stored
  have same : tt = terseType := Except.ok.inj ((always .epoch).symm.trans loaded)
  exact same ▸ wellFormed

end ServiceState

end MailMerge
