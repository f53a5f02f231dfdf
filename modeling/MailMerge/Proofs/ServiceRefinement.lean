import MailMerge.Proofs.Lookup
import MailMerge.Proofs.Repositories
import MailMerge.Proofs.ServiceCalls
/-!
The service answers as plain types and owners would that are kept under their ids. A call that fails
changes no answer; one that succeeds changes only the answer for its own address, to what the plain
operation makes of the answer before.
-/

set_option autoImplicit false

namespace MailMerge

open Deflate (Compressor)

namespace TemplateType

variable {tt : TemplateType} {now : DateTime}

/-- What the types that the service stores have in common. -/
structure Sound (tt : TemplateType) : Prop where
  reached : ∀ t ∈ tt.templates, t.Reached
  distinct : ∀ t ∈ tt.templates, t.cultures.Nodup

theorem Sound.single (sound : tt.Sound) : ∀ t ∈ tt.templates, SingleDefault t.contents :=
  fun t inside => (sound.reached t inside).single

theorem Origin.distinct {before after : TemplateType} {t : Template}
    (origin : Origin before after t) (distinct : ∀ t ∈ before.templates, t.cultures.Nodup) :
    t.cultures.Nodup := by
  cases origin with
  | kept _ old => exact distinct t old
  | created _ created =>
      obtain ⟨c, only⟩ := Template.create_contents created
      rw [Template.cultures, only]
      exact List.nodup_singleton _
  | changed call _ _ old => exact call.run_cultures (distinct _ old)
  | @reconciled t _ now old done =>
      have run := (TemplateCall.reconcile now after.acceptedTags).run_cultures (distinct t old)
      rw [TemplateCall.run, done] at run
      exact run

theorem Sound.run (sound : tt.Sound) (call : TypeCall) : (call.run tt).state.Sound where
  reached _ inside := ((call.run_step tt).origin inside).reached sound.reached
  distinct _ inside := ((call.run_step tt).origin inside).distinct sound.distinct

theorem sound_withTags {id : Guid} {name : String} {tags : List MergeTag}
    (created : withTags id now name tags = .ok tt) : tt.Sound ∧ tt.id = id := by
  refine withTags_keeps (motive := fun tt => tt.Sound ∧ tt.id = id) ?_ ?_ created
  · exact ⟨⟨fun _ inside => absurd inside List.not_mem_nil,
      fun _ inside => absurd inside List.not_mem_nil⟩, rfl⟩
  · intro tag tt good
    have kept := ((TypeCall.declareTag now tag).run_step tt).id
    exact ⟨good.1.run (.declareTag now tag), kept.trans good.2⟩

end TemplateType

theorem DataOwner.create_id {id : Guid} {now : DateTime} {name : String} {o : DataOwner}
    (created : create id now name = .ok o) : o.id = id := by
  obtain ⟨_, -, ⟨⟩⟩ := bind_eq_ok.mp created
  rfl

/-- A type is sound; there is nothing to ask of an owner. -/
def Aggregate.Sound : Aggregate → Prop
  | type tt => tt.Sound
  | owner _ => True

theorem Aggregate.Sound.single {tt : TemplateType} (sound : (type tt).Sound) :
    ∀ t ∈ tt.templates, SingleDefault t.contents :=
  TemplateType.Sound.single sound

namespace ServiceState

theorem answer_congr {s left : ServiceState} (same : left.repository = s.repository)
    (now : DateTime) (address : Address) : left.answer now address = s.answer now address := by
  cases address with
  | type id => rw [answer, answer, templateType, templateType, same]
  | owner id => rw [answer, answer, dataOwner, dataOwner, same]

/-- Every stored type is the stored form of a sound type, and all is stored under its own id. -/
structure Filed [Compressor] (s : ServiceState) : Prop where
  types : s.repository.Holds TemplateType.Sound
  owners : ∀ id o, s.repository.owners.get? id = some o → o.id = id

variable [Compressor] {s left : ServiceState} {after : Aggregate} {now : DateTime}

theorem filed_empty : empty.Filed where
  types := Repository.holds_empty
  owners _ _ found := nomatch found

theorem Filed.congr (filed : s.Filed) (same : left.repository = s.repository) : left.Filed where
  types := same ▸ filed.types
  owners := same ▸ filed.owners

/-- What is answered is sound and has the id that was asked for. -/
theorem Filed.answer_ok (filed : s.Filed) {address : Address}
    (found : s.answer now address = .ok after) : after.address = address ∧ after.Sound := by
  cases address with
  | type id =>
      obtain ⟨tt, loaded, rfl⟩ := map_eq_ok.mp found
      obtain ⟨sound, named⟩ := filed.types.templateType (fun _ good => good.single)
        (mapError_eq_ok.mp loaded)
      exact ⟨congrArg Address.type named, sound⟩
  | owner id =>
      obtain ⟨o, loaded, rfl⟩ := map_eq_ok.mp found
      have kept := mapError_eq_ok.mp loaded
      rw [Repository.dataOwner] at kept
      split at kept
      · next present =>
          cases kept
          exact ⟨congrArg Address.owner (filed.owners id o present), trivial⟩
      · cases kept

/-- Loading has nothing to settle, so it does not matter when the service is asked. -/
theorem Filed.answer_time (filed : s.Filed) (now later : DateTime) (address : Address) :
    s.answer now address = s.answer later address := by
  cases address with
  | type id =>
      rw [answer, answer, templateType, templateType, Repository.templateType,
        Repository.templateType]
      cases found : s.repository.types.get? id with
      | none => rfl
      | some record =>
          obtain ⟨tt, sound, -, rfl⟩ := filed.types id record found
          simp only [TypeRecord.load_ofType sound.single]
  | owner id => rfl

theorem Filed.save (filed : s.Filed) (sound : after.Sound)
    (saved : left.repository = s.repository.save after) : left.Filed := by
  cases after with
  | type tt =>
      refine ⟨?_, ?_⟩
      · rw [saved]
        exact filed.types.saveType sound
      · rw [saved]
        exact filed.owners
  | owner o =>
      refine ⟨?_, ?_⟩
      · rw [saved]
        exact filed.types
      · intro id other found
        rw [saved, Repository.save, Repository.saveOwner, GuidMap.get?_set] at found
        split at found
        · next same =>
            cases found
            exact same
        · exact filed.owners id other found

theorem answer_saved (sound : after.Sound) (saved : left.repository = s.repository.save after)
    (now : DateTime) : left.answer now after.address = .ok after := by
  cases after with
  | type tt =>
      rw [Aggregate.address, answer, templateType, saved, Repository.save, Repository.templateType,
        Repository.saveType, GuidMap.get?_set, if_pos rfl]
      simp only [TypeRecord.load_ofType (Aggregate.Sound.single sound)]
      rfl
  | owner o =>
      rw [Aggregate.address, answer, dataOwner, saved, Repository.save, Repository.dataOwner,
        Repository.saveOwner, GuidMap.get?_set, if_pos rfl]
      rfl

theorem answer_other (saved : left.repository = s.repository.save after) {address : Address}
    (other : address ≠ after.address) (now : DateTime) :
    left.answer now address = s.answer now address := by
  cases after with
  | type tt =>
      cases address with
      | type id =>
          have differs : tt.id ≠ id := fun same => other (congrArg Address.type same.symm)
          rw [answer, answer, templateType, templateType, saved, Repository.save,
            Repository.templateType, Repository.templateType, Repository.saveType,
            GuidMap.get?_set, if_neg differs]
      | owner id =>
          rw [answer, answer, dataOwner, dataOwner, saved]
          rfl
  | owner o =>
      cases address with
      | type id =>
          rw [answer, answer, templateType, templateType, saved]
          rfl
      | owner id =>
          have differs : o.id ≠ id := fun same => other (congrArg Address.owner same.symm)
          rw [answer, answer, dataOwner, dataOwner, saved, Repository.save, Repository.dataOwner,
            Repository.dataOwner, Repository.saveOwner, GuidMap.get?_set, if_neg differs]

end ServiceState

namespace ServiceCall

/-- Where a template is created, its id is not the id of another template of the type. -/
def Fresh {α : Type} : ServiceCall α → Except ServiceError Aggregate → Prop
  | createTemplate id _ _ _ _ _, .ok (.type old) => ∀ t ∈ old.templates, t.id ≠ id
  | _, _ => True

/-- The object that a call returned is exactly what is found in the aggregate that the call has
made, unless the call removes it: then it was found before, and nothing is found in its place. -/
def Finds {α : Type} : ServiceCall α → Except ServiceError Aggregate → α → Aggregate → Prop
  | createType .., _, a, after => after = .type a
  | declareTag .., _, a, after => after = .type a
  | retractTag .., _, a, after => after = .type a
  | createTemplate .., _, a, after => ∃ tt, after = .type tt ∧ tt.template a.id = .ok a
  | upsertContent _ _ _ templateId d, _, a, after =>
    ∃ tt t, after = .type tt ∧ tt.template templateId = .ok t ∧ t.content d.culture = .ok a
  | removeContent _ _ templateId culture, before, a, after =>
    (∃ old t, before = .ok (.type old) ∧ old.template templateId = .ok t ∧
        t.content culture = .ok a) ∧
      ∃ tt t, after = .type tt ∧ tt.template templateId = .ok t ∧ culture ∉ t.cultures
  | createOwner .., _, a, after => after = .owner a
  | setOwnerData .., _, a, after => after = .owner a

variable [Compressor] {α : Type} {s : ServiceState} {now : DateTime} {a : α} {after : Aggregate}

/-- What a call makes has the id that the call was for, and is sound again. -/
theorem Applies.sound {call : ServiceCall α} (filed : s.Filed)
    (applies : call.Applies (s.answer now call.address) a after) :
    after.address = call.address ∧ after.Sound := by
  have changed {id : Guid} {old tt : TemplateType} (typeCall : TypeCall)
      (stored : s.answer now (.type id) = .ok (.type old)) (ran : (typeCall.run old).state = tt) :
      (Aggregate.type tt).address = .type id ∧ (Aggregate.type tt).Sound := by
    obtain ⟨named, sound⟩ := filed.answer_ok stored
    subst ran
    refine ⟨?_, TemplateType.Sound.run sound typeCall⟩
    rw [← named, Aggregate.address, Aggregate.address, (typeCall.run_step old).id]
  cases call with
  | createType id now name tags =>
      obtain ⟨created, rfl⟩ := applies
      obtain ⟨sound, named⟩ := TemplateType.sound_withTags created
      exact ⟨congrArg Address.type named, sound⟩
  | declareTag now typeId tag =>
      obtain ⟨old, stored, done, rfl⟩ := applies
      exact changed (.declareTag now tag) stored (congrArg Outcome.state done)
  | retractTag now typeId name =>
      obtain ⟨old, tag, stored, done, rfl⟩ := applies
      exact changed (.retractTag now name) stored (congrArg Outcome.state done)
  | createTemplate id contentId now typeId name d =>
      obtain ⟨old, tt, stored, done, rfl⟩ := applies
      exact changed (.addTemplate id contentId now name d) stored (congrArg Outcome.state done)
  | upsertContent contentId now typeId templateId d =>
      obtain ⟨old, tt, stored, done, rfl⟩ := applies
      exact changed (.upsertContent templateId contentId now d) stored (congrArg Outcome.state done)
  | removeContent now typeId templateId culture =>
      obtain ⟨old, tt, stored, done, rfl⟩ := applies
      exact changed (.removeContent templateId now culture) stored (congrArg Outcome.state done)
  | createOwner id now name =>
      obtain ⟨created, rfl⟩ := applies
      exact ⟨congrArg Address.owner (DataOwner.create_id created), trivial⟩
  | setOwnerData now ownerId c =>
      obtain ⟨old, stored, rfl, rfl⟩ := applies
      exact ⟨(filed.answer_ok stored).1, trivial⟩

theorem Applies.finds {call : ServiceCall α} (filed : s.Filed)
    (fresh : call.Fresh (s.answer now call.address))
    (applies : call.Applies (s.answer now call.address) a after) :
    call.Finds (s.answer now call.address) a after := by
  cases call with
  | createType id now name tags => exact applies.2
  | declareTag now typeId tag =>
      obtain ⟨old, -, -, made⟩ := applies
      exact made
  | retractTag now typeId name =>
      obtain ⟨old, tag, -, -, made⟩ := applies
      exact made
  | createTemplate id contentId now typeId name d =>
      obtain ⟨old, tt, stored, done, made⟩ := applies
      rw [stored] at fresh
      exact ⟨tt, made, TemplateType.template_addTemplate fresh done⟩
  | upsertContent contentId now typeId templateId d =>
      obtain ⟨old, tt, stored, done, made⟩ := applies
      obtain ⟨t, changed, found, ran, kept⟩ := TemplateType.template_onTemplate done
      obtain ⟨same, set, -⟩ := Template.content_upsertContent ran
      exact ⟨tt, changed, made, kept same, set⟩
  | removeContent now typeId templateId culture =>
      obtain ⟨old, tt, stored, done, made⟩ := applies
      obtain ⟨t, changed, found, ran, kept⟩ := TemplateType.template_onTemplate done
      have sound : old.Sound := (filed.answer_ok stored).2
      have distinct := sound.distinct t (TemplateType.template_mem found)
      obtain ⟨same, held, gone⟩ := Template.content_removeContent distinct ran
      exact ⟨⟨old, t, stored, found, held⟩, tt, changed, made, kept same, gone⟩
  | createOwner id now name => exact applies.2
  | setOwnerData now ownerId c =>
      obtain ⟨old, -, -, made⟩ := applies
      exact made

theorem run_filed (call : ServiceCall α) (config : ServiceConfig) (filed : s.Filed) :
    (call.run config s).state.Filed := by
  rcases call.run_cases config s with
    ⟨now, e, left, same, -, failed⟩ | ⟨now, a, after, left, applies, saved, done⟩
  · rw [failed]
    exact filed.congr same
  · rw [done]
    exact filed.save (applies.sound filed).2 saved

end ServiceCall

/-- A request to the service: a call that changes what is stored, or a mail to be rendered. -/
inductive ServiceRequest : Type 1 where
  | change {α : Type} (call : ServiceCall α)
  | render (contentIds : Nat → String) (now : DateTime) (typeId templateId : Guid)
    (culture : String) (owner : Option Guid) (request : RenderRequest)

namespace ServiceState

/-- Rendering a mail changes counters only. -/
theorem repository_render (s : ServiceState) (config : ServiceConfig) (contentIds : Nat → String)
    (now : DateTime) (typeId templateId : Guid) (culture : String) (owner : Option Guid)
    (request : RenderRequest) :
    (s.render config contentIds now typeId templateId culture owner request).state.repository =
      s.repository := by
  rw [render]
  split <;> rfl

variable [Compressor]

/-- The service after a request, which may succeed or fail. -/
def serve (s : ServiceState) : ServiceConfig × ServiceRequest → ServiceState
  | (config, .change call) => (call.run config s).state
  | (config, .render contentIds now typeId templateId culture owner request) =>
    (s.render config contentIds now typeId templateId culture owner request).state

/-- The service after some requests. -/
def after (requests : List (ServiceConfig × ServiceRequest)) (s : ServiceState) : ServiceState :=
  requests.foldl serve s

/-- What every request keeps is kept by all of them. -/
theorem after_keeps {motive : ServiceState → Prop}
    {requests : List (ServiceConfig × ServiceRequest)}
    (step : ∀ r ∈ requests, ∀ s, motive s → motive (s.serve r)) {s : ServiceState}
    (start : motive s) : motive (s.after requests) := by
  induction requests generalizing s with
  | nil => exact start
  | cons r requests ih =>
      have next : motive (s.serve r) := step r List.mem_cons_self s start
      exact ih (fun later inside => step later (List.mem_cons_of_mem r inside)) next

theorem Filed.serve {s : ServiceState} (filed : s.Filed) (r : ServiceConfig × ServiceRequest) :
    (s.serve r).Filed := by
  obtain ⟨config, request⟩ := r
  cases request with
  | change call => exact call.run_filed config filed
  | render contentIds now typeId templateId culture owner request =>
      exact filed.congr
        (s.repository_render config contentIds now typeId templateId culture owner request)

theorem Filed.after {s : ServiceState} (filed : s.Filed)
    (requests : List (ServiceConfig × ServiceRequest)) : (s.after requests).Filed :=
  after_keeps (fun r _ _ filed => filed.serve r) filed

end ServiceState

namespace ServiceCall

/-- After any requests, a call that fails changes no answer, and it succeeds wherever its subject is
not too long and the plain operation succeeds on the answer before. A call that succeeds changes
the answer for its own address alone: the plain operation, applied to the answer before, returns
what the call returned and makes what is answered now, and the object that was returned is found
there, or was found before if the call has removed it. -/
theorem run_refines [Compressor] (requests : List (ServiceConfig × ServiceRequest))
    (config : ServiceConfig) {α : Type} (call : ServiceCall α) {seen : DateTime}
    (fresh : call.Fresh ((ServiceState.empty.after requests).answer seen call.address)) :
    let s := ServiceState.empty.after requests
    let o := call.run config s
    (∀ e, o.answer = .error e →
        ∀ now address, o.state.answer now address = s.answer now address) ∧
      (∀ now a after, call.Fits config → call.Applies (s.answer now call.address) a after →
        ∃ b, o.answer = .ok b) ∧
      ∀ a, o.answer = .ok a →
        (∀ now address, address ≠ call.address →
          o.state.answer now address = s.answer now address) ∧
        ∃ after, (∀ now, o.state.answer now call.address = .ok after) ∧
          ∀ now, call.Applies (s.answer now call.address) a after ∧
            call.Finds (s.answer now call.address) a after := by
  intro s o
  have filed : s.Filed := ServiceState.filed_empty.after requests
  rcases call.run_cases config s with
    ⟨called, e, left, same, never, failed⟩ | ⟨called, a, after, left, applies, saved, done⟩
  · have ran : o = .failed e left := failed
    rw [ran]
    refine ⟨fun _ _ => ServiceState.answer_congr same, ?_, ?_⟩
    · intro now a after fits applies
      rw [filed.answer_time now called] at applies
      exact absurd applies (never fits a after)
    · intro a answered
      cases answered
  · have ran : o = .done a left := done
    obtain ⟨here, sound⟩ := applies.sound filed
    rw [ran]
    refine ⟨?_, fun _ _ _ _ _ => ⟨a, rfl⟩, ?_⟩
    · intro e answered
      cases answered
    · rintro _ ⟨⟩
      refine ⟨fun now address other => ?_, after, fun now => ?_, fun now => ?_⟩
      · exact ServiceState.answer_other saved (here ▸ other) now
      · rw [← here]
        exact ServiceState.answer_saved sound saved now
      · have applied : call.Applies (s.answer now call.address) a after := by
          rwa [filed.answer_time now called]
        refine ⟨applied, applied.finds filed ?_⟩
        rwa [filed.answer_time now seen]

/-- A service with the settings that it has by default. -/
def plainService : ServiceConfig := .ofSettings .default

/-- A draft without merge tags that leaves the default to others. -/
def hello : Draft := ⟨"en", "Hello", "<p>Hello</p>", "[]", false⟩

/-- A template gets its first content, the default, and then another one. -/
def mailRequests : List (ServiceConfig × ServiceRequest) :=
  [(plainService, .change (.createType ⟨1⟩ .epoch "Mails" [])),
    (plainService, .change (.createTemplate ⟨2⟩ ⟨3⟩ .epoch ⟨1⟩ "Hello" Template.ciao)),
    (plainService, .change (.upsertContent ⟨4⟩ .epoch ⟨1⟩ ⟨2⟩ hello))]

/-- The first content. -/
def ciaoContent : Content :=
  ⟨⟨3⟩, "it", "Ciao {{name}}", "<p>Ciao</p>", "[\"{{name}}\"]", Ascending.empty, true, .epoch,
    .epoch⟩

/-- The other content. -/
def helloContent : Content :=
  ⟨⟨4⟩, "en", "Hello", "<p>Hello</p>", "[]", Ascending.empty, false, .epoch, .epoch⟩

/-- The type of the template with some contents. -/
def mails (contents : List Content) : TemplateType :=
  ⟨⟨1⟩, "Mails", [], [⟨⟨2⟩, ⟨1⟩, "Hello", contents, .epoch, .epoch⟩], .epoch, .epoch⟩

/-- A call for another template of the type. -/
def farewell : ServiceCall Template := .createTemplate ⟨5⟩ ⟨6⟩ .epoch ⟨1⟩ "Farewell" hello

/-- The template that the call asks for. -/
def farewellTemplate : Template :=
  ⟨⟨5⟩, ⟨1⟩, "Farewell", [{ helloContent with id := ⟨6⟩, isDefault := true }], .epoch, .epoch⟩

theorem farewell_refines :
    ∃ after,
      (∀ now, (farewell.run plainService (ServiceState.empty.after mailRequests)).state.answer now
        farewell.address = .ok after) ∧
      ∃ tt, after = .type tt ∧ tt.template ⟨5⟩ = .ok farewellTemplate := by
  have stored : (ServiceState.empty.after mailRequests).answer .epoch farewell.address =
      .ok (.type (mails [ciaoContent, helloContent])) := by decide +kernel
  have fresh : farewell.Fresh
      ((ServiceState.empty.after mailRequests).answer .epoch farewell.address) := by
    rw [stored]
    change ∀ t ∈ (mails [ciaoContent, helloContent]).templates, t.id ≠ ⟨5⟩
    decide
  have created : (farewell.run plainService (ServiceState.empty.after mailRequests)).answer =
      .ok farewellTemplate := by decide +kernel
  obtain ⟨-, -, succeeds⟩ := run_refines mailRequests plainService farewell fresh
  obtain ⟨-, after, answered, plain⟩ := succeeds farewellTemplate created
  exact ⟨after, answered, (plain .epoch).2⟩

/-- What is removed is returned, but the type that is stored afterwards does not contain it. -/
theorem removed_not_contained :
    ((removeContent .epoch ⟨1⟩ ⟨2⟩ "en").run plainService
        (ServiceState.empty.after mailRequests)).answer = .ok helloContent ∧
      ((removeContent .epoch ⟨1⟩ ⟨2⟩ "en").run plainService
        (ServiceState.empty.after mailRequests)).state.answer .epoch (.type ⟨1⟩) =
          .ok (.type (mails [ciaoContent])) ∧
      ∀ t ∈ (mails [ciaoContent]).templates, helloContent ∉ t.contents := by
  refine ⟨?_, ?_, ?_⟩
  · decide +kernel
  · decide +kernel
  · decide +kernel

end ServiceCall

end MailMerge
