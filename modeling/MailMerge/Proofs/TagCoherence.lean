import MailMerge.Proofs.Repositories
/-!
The tags of contents are stored, and yet always those that their sources refer to. Sources and
accepted tags change independently of each other, so every call has to keep the tags in step with
both; storing a type and loading it again has to keep them as they are.
-/

set_option autoImplicit false

namespace MailMerge

open Deflate (Compressor)

theorem readable_of_contentTags {source : String} {accepted : List MergeTag} {tags : TagSet}
    (found : contentTags source accepted = .ok tags) : ReadableSource source :=
  readable_of_resolveTags (mapError_eq_ok.mp found)

theorem contentTags_readable {source : String} {accepted : List MergeTag}
    (readable : ReadableSource source) (named : NamedByCode accepted) :
    contentTags source accepted = .ok (mentioned source accepted) :=
  mapError_eq_ok.mpr (resolveTags_readable readable named)

/-- The tags of a content are those of the accepted tags that its source refers to. -/
def Content.Resolved (accepted : List MergeTag) (c : Content) : Prop :=
  contentTags c.source accepted = .ok c.tags

namespace Content

variable {accepted : List MergeTag} {now : DateTime}

theorem Resolved.setDefault {c : Content} (resolved : c.Resolved accepted) (flag : Bool) :
    (c.setDefault now flag).Resolved accepted := by
  rw [Resolved, setDefault_source, setDefault_tags]
  exact resolved

theorem resolved_setTags {c : Content} {tags : TagSet}
    (found : contentTags c.source accepted = .ok tags) :
    (c.setTags now tags).Resolved accepted := by
  rw [Resolved, setTags_source, setTags_tags]
  exact found

theorem resolved_ofDraft {id : Guid} {d : Draft} {c : Content}
    (made : ofDraft id now d accepted = .ok c) : c.Resolved accepted := by
  obtain ⟨-, tags, found, rfl⟩ := ofDraft_eq_ok.mp made
  exact found

/-- What the tags of a content are, as long as accepted tags are named by their short codes. -/
theorem Resolved.tags {c : Content} (resolved : c.Resolved accepted) (named : NamedByCode accepted) :
    c.tags = mentioned c.source accepted :=
  Except.ok.inj (resolved.symm.trans
    (contentTags_readable (readable_of_contentTags resolved) named))

theorem Resolved.mem_iff {c : Content} (resolved : c.Resolved accepted)
    (named : NamedByCode accepted) (tag : MergeTag) :
    tag ∈ c.tags.toList ↔ tag ∈ accepted ∧ tag.shortCode.text ∈ candidateTexts c.source := by
  rw [resolved.tags named, mem_mentioned]

end Content

namespace Template

variable {accepted : List MergeTag} {now : DateTime}

theorem resolved_clearDefault {contents : List Content}
    (resolved : ∀ c ∈ contents, c.Resolved accepted) :
    ∀ c ∈ clearDefault now contents, c.Resolved accepted := by
  intro c inside
  obtain ⟨old, present, rfl⟩ := List.mem_map.mp inside
  exact (resolved old present).setDefault false

theorem resolved_insert {t : Template} {c : Content}
    (resolved : ∀ c ∈ t.contents, c.Resolved accepted) (new : c.Resolved accepted) :
    ∀ c' ∈ (t.insert now (t.settle now c)).contents, c'.Resolved accepted := by
  have settled : (t.settle now c).Resolved accepted := by
    rw [settle]
    split
    · exact new.setDefault true
    · exact new
  intro c' inside
  rcases List.mem_append.mp inside with old | last
  · split at old
    · exact resolved_clearDefault resolved c' old
    · exact resolved c' old
  · rw [List.mem_singleton.mp last]
    exact settled

/-- Reconciling settles the tags of all contents, whatever they were before. -/
theorem resolved_zipWith {contents : List Content} {resolved : List TagSet}
    (all : List.Forall₂ (fun c tags => contentTags c.source accepted = .ok tags) contents
      resolved) :
    ∀ c ∈ List.zipWith (fun c tags => c.setTags now tags) contents resolved,
      c.Resolved accepted := by
  induction all with
  | nil => exact fun c inside => absurd inside List.not_mem_nil
  | cons first _ ih =>
      intro c inside
      rcases List.mem_cons.mp inside with rfl | later
      · exact Content.resolved_setTags first
      · exact ih c later

theorem resolved_reconcile {t changed : Template}
    (done : t.reconcile now accepted = .done () changed) :
    ∀ c ∈ changed.contents, c.Resolved accepted := by
  rcases t.reconcile_cases now accepted with ⟨e, failed⟩ | ⟨resolved, all, ran⟩
  · rw [failed] at done
    cases done
  · rw [ran] at done
    cases done
    exact resolved_zipWith all

/-- A call that is given the accepted tags keeps the tags of all contents in step with them. -/
theorem Step.resolved {t after : Template} (step : t.Step accepted after)
    (resolved : ∀ c ∈ t.contents, c.Resolved accepted) :
    ∀ c ∈ after.contents, c.Resolved accepted := by
  cases step with
  | failed => exact resolved
  | added _ made => exact resolved_insert resolved (Content.resolved_ofDraft made)
  | set _ found =>
      intro c inside
      rcases mem_modifyFirst inside with other | ⟨_, _, _, rfl⟩
      · split at other
        · exact resolved_clearDefault resolved c other
        · exact resolved c other
      · exact found
  | removed _ _ => exact fun c inside => resolved c (List.mem_of_mem_eraseP inside)
  | reconciled all => exact resolved_zipWith all

end Template

namespace TemplateType

variable {tt : TemplateType} {now : DateTime}

/-- Accepted tags are named by their short codes, templates are such as can come into being, and the
tags of every content are resolved from its source. -/
structure Coherent (tt : TemplateType) : Prop where
  named : NamedByCode tt.acceptedTags
  reached : ∀ t ∈ tt.templates, t.Reached
  resolved : ∀ t ∈ tt.templates, ∀ c ∈ t.contents, c.Resolved tt.acceptedTags

theorem Coherent.single (coherent : tt.Coherent) : ∀ t ∈ tt.templates, SingleDefault t.contents :=
  fun t inside => (coherent.reached t inside).single

theorem Origin.resolved {before after : TemplateType} {t : Template}
    (origin : Origin before after t)
    (resolved : ∀ t ∈ before.templates, ∀ c ∈ t.contents, c.Resolved before.acceptedTags) :
    ∀ c ∈ t.contents, c.Resolved after.acceptedTags := by
  cases origin with
  | kept same old =>
      rw [same]
      exact resolved t old
  | created same created =>
      rw [same]
      obtain ⟨-, c, made, rfl⟩ := Template.create_eq_ok.mp created
      intro c' inside
      rw [List.mem_singleton.mp inside]
      exact (Content.resolved_ofDraft made).setDefault true
  | changed call same sees old =>
      rw [same]
      exact (call.run_step sees _).resolved (resolved _ old)
  | reconciled _ done => exact Template.resolved_reconcile done

theorem Step.named {after : TemplateType} (step : tt.Step after)
    (named : NamedByCode tt.acceptedTags) : NamedByCode after.acceptedTags := by
  cases step with
  | declared written _ _ => exact named.append written
  | retracted _ => exact fun other inside => named other (List.mem_of_mem_eraseP inside)
  | failed => exact named
  | added _ _ => exact named
  | removed _ _ => exact named
  | changed _ _ _ => exact named

theorem Step.coherent {after : TemplateType} (step : tt.Step after) (coherent : tt.Coherent) :
    after.Coherent where
  named := step.named coherent.named
  reached _ inside := (step.origin inside).reached coherent.reached
  resolved _ inside := (step.origin inside).resolved coherent.resolved

theorem coherent_blank {id : Guid} {name : String} : Coherent ⟨id, name, [], [], now, now⟩ where
  named _ inside := absurd inside List.not_mem_nil
  reached _ inside := absurd inside List.not_mem_nil
  resolved _ inside := absurd inside List.not_mem_nil

theorem coherent_create {id : Guid} {name : String} (created : create id now name = .ok tt) :
    tt.Coherent := by
  obtain ⟨-, rfl⟩ := create_eq_ok.mp created
  exact coherent_blank

theorem coherent_withTags {id : Guid} {name : String} {tags : List MergeTag}
    (created : withTags id now name tags = .ok tt) : tt.Coherent :=
  withTags_keeps coherent_blank
    (fun tag tt => ((TypeCall.declareTag now tag).run_step tt).coherent) created

end TemplateType

/-- Types at work, and the store that they are saved to. What is loaded joins the types at work and
does not know of the others. -/
structure Desk where
  types : List TemplateType
  store : Repository

/-- A call at the desk. A type at work is known by its place. -/
inductive DeskCall where
  | create (id : Guid) (now : DateTime) (name : String)
  | withTags (id : Guid) (now : DateTime) (name : String) (tags : List MergeTag)
  | change (place : Nat) (call : TypeCall)
  | save (place : Nat)
  | load (now : DateTime) (id : Guid)
  | delete (id : Guid)

namespace Desk

/-- The desk with nothing on it and nothing in store. -/
def empty : Desk := ⟨[], Repository.empty⟩

/-- Puts a type on the desk, if there is one. -/
def put {ε : Type} (made : Except ε TemplateType) (desk : Desk) : Desk :=
  match made with
  | .ok tt => { desk with types := desk.types ++ [tt] }
  | .error _ => desk

/-- The desk after a call, which may succeed or fail. -/
def run [Compressor] (desk : Desk) : DeskCall → Desk
  | .create id now name => desk.put (TemplateType.create id now name)
  | .withTags id now name tags => desk.put (TemplateType.withTags id now name tags)
  | .change place call =>
    { desk with types := desk.types.modify place fun tt => (call.run tt).state }
  | .save place =>
    match desk.types[place]? with
    | some tt => { desk with store := desk.store.saveType tt }
    | none => desk
  | .load now id => desk.put (desk.store.templateType now id)
  | .delete id =>
    match desk.store.deleteType id with
    | .ok store => { desk with store := store }
    | .error _ => desk

/-- The desk after some calls. -/
def after [Compressor] (calls : List DeskCall) (desk : Desk) : Desk := calls.foldl run desk

/-- All types are coherent, at work and in store. -/
structure Coherent [Compressor] (desk : Desk) : Prop where
  types : ∀ tt ∈ desk.types, tt.Coherent
  store : desk.store.Holds TemplateType.Coherent

section Runs

variable [Compressor] {desk : Desk}

theorem coherent_empty : empty.Coherent where
  types _ inside := absurd inside List.not_mem_nil
  store := Repository.holds_empty

theorem Coherent.put {ε : Type} {made : Except ε TemplateType} (coherent : desk.Coherent)
    (good : ∀ tt, made = .ok tt → tt.Coherent) : (desk.put made).Coherent := by
  cases made with
  | error e => exact coherent
  | ok tt =>
      refine ⟨?_, coherent.store⟩
      intro other inside
      rcases List.mem_append.mp inside with old | new
      · exact coherent.types other old
      · rw [List.mem_singleton.mp new]
        exact good tt rfl

theorem Coherent.run (coherent : desk.Coherent) (call : DeskCall) : (desk.run call).Coherent := by
  cases call with
  | create id now name => exact coherent.put fun _ => TemplateType.coherent_create
  | withTags id now name tags => exact coherent.put fun _ => TemplateType.coherent_withTags
  | change place call =>
      refine ⟨?_, coherent.store⟩
      intro tt inside
      change tt ∈ desk.types.modify place (fun tt => (call.run tt).state) at inside
      obtain ⟨i, short, rfl⟩ := List.getElem_of_mem inside
      rw [List.getElem_modify]
      split
      · exact (call.run_step _).coherent (coherent.types _ (List.getElem_mem _))
      · exact coherent.types _ (List.getElem_mem _)
  | save place =>
      rw [Desk.run]
      split
      · next tt found =>
          have good : tt.Coherent := coherent.types tt (List.mem_of_getElem? found)
          exact ⟨coherent.types, coherent.store.saveType good⟩
      · exact coherent
  | load now id =>
      apply coherent.put
      intro tt loaded
      exact (coherent.store.templateType (fun _ good => good.single) loaded).1
  | delete id =>
      rw [Desk.run]
      split
      · next left deleted => exact ⟨coherent.types, coherent.store.deleteType deleted⟩
      · exact coherent

theorem Coherent.after (calls : List DeskCall) (coherent : desk.Coherent) :
    (desk.after calls).Coherent := by
  induction calls generalizing desk with
  | nil => exact coherent
  | cons call calls ih => exact ih (coherent.run call)

/-- After any calls at a desk that was empty at first, the tags of every content of a type at work
are exactly those accepted tags whose short codes are candidates in its source. -/
theorem mem_tags_iff (calls : List DeskCall) {tt : TemplateType}
    (atWork : tt ∈ (empty.after calls).types) {t : Template} (inType : t ∈ tt.templates)
    {c : Content} (inTemplate : c ∈ t.contents) (tag : MergeTag) :
    tag ∈ c.tags.toList ↔
      tag ∈ tt.acceptedTags ∧ tag.shortCode.text ∈ candidateTexts c.source := by
  have coherent := (coherent_empty.after calls).types tt atWork
  exact (coherent.resolved t inType c inTemplate).mem_iff coherent.named tag

end Runs

theorem name_solid : Text.isBlank "name" = false := by
  decide

theorem name_identifier : isIdentifier "name".toList = true := by
  decide

/-- The tag that the sample source refers to. -/
def nameTag : MergeTag := ⟨⟨"name", name_solid⟩, ⟨"name", name_identifier⟩, .string⟩

/-- The content that refers to it. -/
def greeting : Content :=
  ⟨⟨3⟩, "it", "Ciao {{name}}", "<p>Ciao</p>", "[\"{{name}}\"]", Ascending.ofList [nameTag], true,
    .epoch, .epoch⟩

/-- The type with that content. -/
def greetings : TemplateType :=
  ⟨⟨1⟩, "Mails", [nameTag], [⟨⟨2⟩, ⟨1⟩, "Hello", [greeting], .epoch, .epoch⟩], .epoch, .epoch⟩

/-- A loaded type loses its tag, gets it back and is stored over the type it was loaded from. -/
def greetingCalls : List DeskCall :=
  [.withTags ⟨1⟩ .epoch "Mails" [nameTag],
    .change 0 (.addTemplate ⟨2⟩ ⟨3⟩ .epoch "Hello" Template.ciao), .save 0, .load .epoch ⟨1⟩,
    .change 1 (.retractTag .epoch "name"), .save 1, .change 1 (.declareTag .epoch nameTag), .save 1,
    .load .epoch ⟨1⟩]

theorem greetings_tags :
    greetings ∈ (empty.after greetingCalls).types ∧ nameTag ∈ greeting.tags.toList := by
  have atWork : greetings ∈ (empty.after greetingCalls).types := by decide +kernel
  have candidate : nameTag.shortCode.text ∈ candidateTexts greeting.source := by decide +kernel
  refine ⟨atWork, ?_⟩
  exact (mem_tags_iff greetingCalls atWork List.mem_cons_self List.mem_cons_self nameTag).mpr
    ⟨List.mem_cons_self, candidate⟩

end Desk

end MailMerge
