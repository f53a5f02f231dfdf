import MailMerge.Proofs.ServiceRefinement
/-!
What the counters of contents count. Contents that are saved are counted where they are saved, but
contents that are not accepted are counted in two places: before the type is loaded, and where its
errors are reported, which other calls report as well. So the count of rejected contents is not that
of the calls that set a content and fail, and the difference is told here.
-/

set_option autoImplicit false

namespace MailMerge

open Deflate (Compressor)

/-- A request with the error that it came to, if it failed. -/
structure Served : Type 1 where
  request : ServiceRequest
  error? : Option ServiceError

namespace Served

/-- A request to set the content of a template for a culture. -/
def isUpsert (served : Served) : Bool :=
  match served.request with
  | .change (.upsertContent ..) => true
  | _ => false

/-- A request to create a template. -/
def isCreation (served : Served) : Bool :=
  match served.request with
  | .change (.createTemplate ..) => true
  | _ => false

/-- A content was set. -/
def saved (served : Served) : Bool := served.isUpsert && served.error?.isNone

/-- A content was not set. -/
def rejected (served : Served) : Bool := served.isUpsert && served.error?.isSome

/-- A content was not set since its type could not be loaded. -/
def unloaded (served : Served) : Bool :=
  served.isUpsert &&
    match served.error? with
    | some (.store _) => true
    | _ => false

/-- A template was not created since its type did not accept it. -/
def uncreated (served : Served) : Bool :=
  served.isCreation &&
    match served.error? with
    | some (.template _) => true
    | _ => false

end Served

/-- The error of an outcome, if there is one. -/
def Outcome.error? {σ ε α : Type} (o : Outcome σ ε α) : Option ε :=
  match o.answer with
  | .ok _ => none
  | .error e => some e

namespace ServiceState

/-- What a request comes to. -/
def record [Compressor] (s : ServiceState) : ServiceConfig × ServiceRequest → Served
  | (config, .change call) => ⟨.change call, (call.run config s).error?⟩
  | (config, .render contentIds now typeId templateId culture owner request) =>
    ⟨.render contentIds now typeId templateId culture owner request,
      (s.render config contentIds now typeId templateId culture owner request).error?⟩

/-- What some requests come to, one after the other. -/
def log [Compressor] (s : ServiceState) :
    List (ServiceConfig × ServiceRequest) → List Served
  | [] => []
  | r :: requests => s.record r :: (s.serve r).log requests

/-- The counters of contents move from one state to another as a request that was served says: by
one for a content that was set, and by one for a content or a template that was not accepted. -/
structure Counts (before after : Counters) (served : Served) : Prop where
  saved : after.savedContents = before.savedContents + served.saved.toNat
  rejected : after.rejectedContents + served.unloaded.toNat =
    before.rejectedContents + served.rejected.toNat + served.uncreated.toNat

theorem contentRejected_saved (e : TemplateError) (c : Counters) :
    (contentRejected e c).savedContents = c.savedContents := by
  unfold contentRejected
  split <;> rfl

theorem contentRejected_rejected (e : TemplateError) (c : Counters) :
    (contentRejected e c).rejectedContents = c.rejectedContents + 1 := by
  unfold contentRejected
  split <;> rfl

/-- Requests of other kinds, which leave the counters of contents alone. -/
theorem Counts.other {before after : Counters} {served : Served}
    (notUpsert : served.isUpsert = false) (notCreation : served.isCreation = false)
    (saved : after.savedContents = before.savedContents)
    (rejected : after.rejectedContents = before.rejectedContents) :
    Counts before after served where
  saved := by simp [Served.saved, notUpsert, saved]
  rejected := by
    simp [Served.unloaded, Served.rejected, Served.uncreated, notUpsert, notCreation, rejected]

theorem counters_createOwner (s : ServiceState) (id : Guid) (now : DateTime) (name : String) :
    (s.createOwner id now name).state.counters = s.counters := by
  rw [createOwner]
  cases DataOwner.create id now name <;> rfl

theorem counters_setOwnerData (s : ServiceState) (now : DateTime) (ownerId : Guid)
    (c : CustomTag) : (s.setOwnerData now ownerId c).state.counters = s.counters := by
  rw [setOwnerData]
  cases s.dataOwner ownerId <;> rfl

section

variable [Compressor]

theorem counters_uncounted {α β : Type} (s : ServiceState) (now : DateTime) (id : Guid)
    (op : TemplateType → Outcome TemplateType TemplateError α) (answer : α → TemplateType → β) :
    (s.changeType now id uncounted op answer).state.counters = s.counters := by
  rcases s.changeType_ends now id uncounted op answer with
    ⟨e, -, failed⟩ | ⟨_, e, -, -, failed⟩ | ⟨_, a, changed, -, -, done⟩
  · rw [failed]
    rfl
  · rw [failed]
    rfl
  · rw [done]
    rfl

/-- A subject that is too long is not counted where a template is created, and a type that cannot be
loaded is not either; only what the type does not accept is. -/
theorem counts_createTemplate (s : ServiceState) (config : ServiceConfig) (id contentId : Guid)
    (now : DateTime) (typeId : Guid) (name : String) (d : Draft) :
    Counts s.counters (s.createTemplate config id contentId now typeId name d).state.counters
      ⟨.change (.createTemplate id contentId now typeId name d),
        (s.createTemplate config id contentId now typeId name d).error?⟩ := by
  rw [createTemplate]
  rcases checkSubject_cases config d with ⟨-, refused⟩ | accepted
  · rw [refused]
    exact ⟨rfl, rfl⟩
  · rw [accepted, Outcome.check_ok]
    rcases s.changeType_ends now typeId contentRejected
      (TemplateType.addTemplate id contentId now name d) (fun t _ => t) with
      ⟨e, -, failed⟩ | ⟨_, e, -, -, failed⟩ | ⟨_, t, changed, -, -, done⟩
    · rw [failed]
      exact ⟨rfl, rfl⟩
    · rw [failed]
      exact ⟨contentRejected_saved e s.counters, contentRejected_rejected e s.counters⟩
    · rw [done]
      exact ⟨rfl, rfl⟩

/-- A content that is not set is counted, unless its type could not be loaded. -/
theorem counts_upsertContent (s : ServiceState) (config : ServiceConfig) (contentId : Guid)
    (now : DateTime) (typeId templateId : Guid) (d : Draft) :
    Counts s.counters (s.upsertContent config contentId now typeId templateId d).state.counters
      ⟨.change (.upsertContent contentId now typeId templateId d),
        (s.upsertContent config contentId now typeId templateId d).error?⟩ := by
  rw [upsertContent]
  rcases checkSubject_cases config d with ⟨-, refused⟩ | accepted
  · rw [refused]
    exact ⟨rfl, rfl⟩
  · rw [accepted]
    rcases s.changeType_ends now typeId contentRejected
      (TemplateType.upsertContent templateId contentId now d) (fun c _ => c) with
      ⟨e, -, failed⟩ | ⟨_, e, -, -, failed⟩ | ⟨_, c, changed, -, -, done⟩
    · rw [failed]
      exact ⟨rfl, rfl⟩
    · rw [failed]
      exact ⟨contentRejected_saved e s.counters, contentRejected_rejected e s.counters⟩
    · rw [done]
      exact ⟨rfl, rfl⟩

theorem counters_createType (s : ServiceState) (id : Guid) (now : DateTime) (name : String)
    (tags : List MergeTag) : (s.createType id now name tags).state.counters = s.counters := by
  rw [createType]
  cases TemplateType.withTags id now name tags <;> rfl

/-- What one request does to the counters of contents. -/
theorem counts_serve (s : ServiceState) (r : ServiceConfig × ServiceRequest) :
    Counts s.counters (s.serve r).counters (s.record r) := by
  obtain ⟨config, request⟩ := r
  have unmoved {left : Counters} {served : Served} (notUpsert : served.isUpsert = false)
      (notCreation : served.isCreation = false) (same : left = s.counters) :
      Counts s.counters left served := by
    rw [same]
    exact .other notUpsert notCreation rfl rfl
  cases request with
  | change call =>
      cases call with
      | createType id now name tags =>
          exact unmoved rfl rfl (counters_createType s id now name tags)
      | declareTag now typeId tag =>
          exact unmoved rfl rfl (counters_uncounted s now typeId _ _)
      | retractTag now typeId name =>
          exact unmoved rfl rfl (counters_uncounted s now typeId _ _)
      | createTemplate id contentId now typeId name d =>
          exact counts_createTemplate s config id contentId now typeId name d
      | upsertContent contentId now typeId templateId d =>
          exact counts_upsertContent s config contentId now typeId templateId d
      | removeContent now typeId templateId culture =>
          exact unmoved rfl rfl (counters_uncounted s now typeId _ _)
      | createOwner id now name => exact unmoved rfl rfl (counters_createOwner s id now name)
      | setOwnerData now ownerId c => exact unmoved rfl rfl (counters_setOwnerData s now ownerId c)
  | render contentIds now typeId templateId culture owner request =>
      rw [serve, render]
      split
      · exact .other rfl rfl rfl rfl
      · exact .other rfl rfl rfl rfl

theorem counters_after (requests : List (ServiceConfig × ServiceRequest)) (s : ServiceState) :
    (s.after requests).counters.savedContents =
        s.counters.savedContents + (s.log requests).countP Served.saved ∧
      (s.after requests).counters.rejectedContents + (s.log requests).countP Served.unloaded =
        s.counters.rejectedContents + (s.log requests).countP Served.rejected +
          (s.log requests).countP Served.uncreated := by
  induction requests generalizing s with
  | nil => exact ⟨rfl, rfl⟩
  | cons r requests ih =>
      obtain ⟨saved, rejected⟩ := counts_serve s r
      obtain ⟨savedLater, rejectedLater⟩ := ih (s.serve r)
      -- Both totals are those of the later requests, and one more for this one where it counts.
      have whole : s.after (r :: requests) = (s.serve r).after requests := rfl
      have one (test : Served → Bool) : (s.log (r :: requests)).countP test =
          ((s.serve r).log requests).countP test + (test (s.record r)).toNat := by
        rw [log, List.countP_cons]
        cases test (s.record r) <;> rfl
      rw [whole]
      simp only [one]
      constructor
      · omega
      · omega

/-- What a run of requests does to the counters of contents. Every content that was set is counted
as saved, and nothing else is. The count of rejected contents differs from the number of contents
that were not set: it leaves out those whose type could not be loaded, and takes in the templates
that were not accepted. So it tells that number exactly if there are as many of the ones as of the
others. -/
theorem content_counters_after (requests : List (ServiceConfig × ServiceRequest))
    (s : ServiceState) :
    let before := s.counters
    let after := (s.after requests).counters
    let count (test : Served → Bool) := (s.log requests).countP test
    after.savedContents = before.savedContents + count Served.saved ∧
      after.rejectedContents + count Served.unloaded =
        before.rejectedContents + count Served.rejected + count Served.uncreated ∧
      (after.rejectedContents = before.rejectedContents + count Served.rejected ↔
        count Served.unloaded = count Served.uncreated) := by
  intro before after count
  obtain ⟨saved, rejected⟩ : after.savedContents = before.savedContents + count Served.saved ∧
      after.rejectedContents + count Served.unloaded =
        before.rejectedContents + count Served.rejected + count Served.uncreated :=
    counters_after requests s
  refine ⟨saved, rejected, ?_⟩
  omega

end

/-- A content for a type that is not there, and a template twice refused for its culture. -/
def refusedRequests : List (ServiceConfig × ServiceRequest) :=
  let creation : ServiceCall Template :=
    .createTemplate ⟨2⟩ ⟨3⟩ .epoch ⟨1⟩ "Hello" { ServiceCall.hello with culture := "1" }
  [(ServiceCall.plainService, .change (.createType ⟨1⟩ .epoch "Mails" [])),
    (ServiceCall.plainService, .change (.upsertContent ⟨4⟩ .epoch ⟨8⟩ ⟨2⟩ ServiceCall.hello)),
    (ServiceCall.plainService, .change creation), (ServiceCall.plainService, .change creation)]

/-- The content that was not set is not counted, and the templates are counted in its place. -/
theorem rejections_miscounted :
    (empty.log (refusedRequests.take 2)).countP Served.rejected = 1 ∧
      (empty.after (refusedRequests.take 2)).counters.rejectedContents = 0 ∧
      (empty.log refusedRequests).countP Served.rejected = 1 ∧
      (empty.after refusedRequests).counters.rejectedContents = 2 := by
  decide +kernel

end ServiceState

end MailMerge
