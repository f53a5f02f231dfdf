import MailMerge.Proofs.TagChanges
/-!
Calls on the tags of a type commute with calls on its templates and contents. What the latter do
apart from tags and times is the same whatever tags are accepted, and calls on tags change nothing
but tags and times; the tags themselves are then determined by the sources and the accepted tags.
-/

set_option autoImplicit false

namespace MailMerge

/-- A call that changes the accepted tags. -/
inductive TagCall where
  | declare (tag : MergeTag)
  | retract (name : String)

/-- A call that changes templates or contents, with the new ids that it is given. -/
inductive ContentCall where
  | addTemplate (id contentId : Guid) (name : String) (d : Draft)
  | removeTemplate (id : Guid)
  | addContent (template contentId : Guid) (d : Draft)
  | upsertContent (template contentId : Guid) (d : Draft)
  | removeContent (template : Guid) (culture : String)

/-- The call, made at a time. -/
def TagCall.asOf (now : DateTime) : TagCall → TypeCall
  | declare tag => .declareTag now tag
  | retract name => .retractTag now name

/-- The call, made at a time. -/
def ContentCall.asOf (now : DateTime) : ContentCall → TypeCall
  | addTemplate id contentId name d => .addTemplate id contentId now name d
  | removeTemplate id => .removeTemplate now id
  | addContent template contentId d => .addContent template contentId now d
  | upsertContent template contentId d => .upsertContent template contentId now d
  | removeContent template culture => .removeContent template now culture

namespace Content

/-- The content without its times. -/
def timeless (c : Content) : Content := { c with createdAt := .epoch, updatedAt := .epoch }

/-- The content without its tags and times. -/
def bare (c : Content) : Content :=
  { c with tags := Ascending.empty, createdAt := .epoch, updatedAt := .epoch }

/-- The content with those of the accepted tags that its source mentions. -/
def dress (accepted : List MergeTag) (c : Content) : Content :=
  { c with tags := mentioned c.source accepted }

end Content

/-- The template without its times, and with its contents changed in one way. -/
def Template.timelessWith (change : Content → Content) (t : Template) : Template :=
  { t with contents := t.contents.map change, createdAt := .epoch, updatedAt := .epoch }

/-- The template without tags and times. -/
def Template.bare (t : Template) : Template := t.timelessWith Content.bare

namespace TemplateType

/-- The type without its times, with other accepted tags, and with its contents changed in one
way. -/
def timelessWith (accepted : List MergeTag) (change : Content → Content) (tt : TemplateType) :
    TemplateType :=
  { tt with
    acceptedTags := accepted
    templates := tt.templates.map (Template.timelessWith change)
    createdAt := .epoch
    updatedAt := .epoch }

/-- The type without its times. -/
def timeless (tt : TemplateType) : TemplateType :=
  tt.timelessWith tt.acceptedTags Content.timeless

/-- The type without tags and times. -/
def bare (tt : TemplateType) : TemplateType := tt.timelessWith [] Content.bare

end TemplateType

namespace Outcome

variable {σ τ ε α β γ : Type}

theorem forget_check (found : Except ε β) (s : σ) (next : β → Outcome σ ε α) :
    (check found s next).forget = check found s fun b => (next b).forget := by
  cases found <;> rfl

theorem within_check (f : σ → τ) (found : Except ε β) (s : σ) (next : β → Outcome σ ε α) :
    (check found s next).within f = check found (f s) fun b => (next b).within f := by
  cases found <;> rfl

theorem check_map (g : γ → β) (found : Except ε γ) (s : σ) (next : β → Outcome σ ε α) :
    check (found.map g) s next = check found s fun c => next (g c) := by
  cases found <;> rfl

end Outcome

/-! What contents, templates and calls are apart from tags and times. -/

theorem contentTags_nil (source : String) (accepted : List MergeTag) :
    contentTags source [] = (contentTags source accepted).map fun _ => Ascending.empty := by
  rw [contentTags, contentTags, resolveTags, resolveTags]
  split
  · cases referencedIdentifiers source <;> rfl
  · rfl

namespace Content

variable {now : DateTime} {d : Draft} {c : Content}

theorem bare_setDefault (flag : Bool) :
    (c.setDefault now flag).bare = c.bare.setDefault .epoch flag := by
  rw [setDefault, setDefault]
  by_cases same : c.isDefault = flag
  · have still : c.bare.isDefault = flag := same
    rw [if_pos same, if_pos still]
  · have still : c.bare.isDefault ≠ flag := same
    rw [if_neg same, if_neg still]
    rfl

theorem bare_apply (tags : TagSet) :
    (c.apply now d tags).bare = c.bare.apply .epoch d Ascending.empty := rfl

theorem bare_setTags (tags : TagSet) : (c.setTags now tags).bare = c.bare := by
  rw [setTags]
  split <;> rfl

theorem ofDraft_epoch (id : Guid) (now : DateTime) (accepted : List MergeTag) :
    ofDraft id .epoch d [] = (ofDraft id now d accepted).map bare := by
  rw [ofDraft, ofDraft]
  cases d.check with
  | error e => rfl
  | ok =>
      rw [contentTags_nil d.source accepted]
      cases contentTags d.source accepted <;> rfl

end Content

namespace Template

variable {t : Template} {now : DateTime} {d : Draft} {c : Content}

theorem map_bare_clearDefault (now : DateTime) (contents : List Content) :
    (clearDefault now contents).map Content.bare =
      clearDefault .epoch (contents.map Content.bare) := by
  rw [clearDefault, clearDefault, List.map_map, List.map_map]
  apply List.map_congr_left
  intro c _
  exact Content.bare_setDefault false

theorem find?_bare (culture : String) :
    t.bare.find? culture = (t.find? culture).map Content.bare := List.find?_map

theorem bare_settle (t : Template) (now : DateTime) (c : Content) :
    (t.settle now c).bare = t.bare.settle .epoch c.bare := by
  have same : t.bare.contents.isEmpty = t.contents.isEmpty := List.isEmpty_map
  rw [settle, settle, same]
  split
  · exact Content.bare_setDefault true
  · rfl

theorem bare_insert (t : Template) (now : DateTime) (c : Content) :
    (t.insert now c).bare = t.bare.insert .epoch c.bare := by
  have cleared := map_bare_clearDefault now t.contents
  have flag : c.bare.isDefault = c.isDefault := rfl
  rw [insert, insert, flag]
  cases c.isDefault <;> simp [bare, timelessWith, cleared]

theorem create_epoch (id contentId : Guid) (now : DateTime) (typeId : Guid) (name : String)
    (d : Draft) (accepted : List MergeTag) :
    create id contentId .epoch typeId name d [] =
      (create id contentId now typeId name d accepted).map bare := by
  rw [create, create]
  cases checkName name with
  | error e => rfl
  | ok =>
      rw [Content.ofDraft_epoch contentId now accepted]
      cases Content.ofDraft contentId now d accepted with
      | error e => rfl
      | ok c =>
          have joined := bare_insert ⟨id, typeId, Text.trimmed name, [], now, now⟩ now
            (settle now ⟨id, typeId, Text.trimmed name, [], now, now⟩ c)
          rw [bare_settle] at joined
          exact congrArg Except.ok joined.symm

theorem addContent_bare (contentId : Guid) (now : DateTime) (d : Draft) (accepted : List MergeTag)
    (t : Template) :
    (t.addContent contentId now d accepted).forget.within bare =
      (t.bare.addContent contentId .epoch d []).forget := by
  rw [addContent, addContent, find?_bare]
  cases t.find? d.culture with
  | some old => rfl
  | none =>
      rw [Option.map_none]
      dsimp only
      rw [Outcome.forget_check, Outcome.forget_check, Outcome.within_check,
        Content.ofDraft_epoch contentId now accepted, Outcome.check_map]
      congr 1
      funext c
      rw [Outcome.done, Outcome.done, ← bare_settle, ← bare_insert]
      rfl

theorem map_bare_replaced (now : DateTime) (d : Draft) (old : Content) (tags : TagSet)
    (contents : List Content) :
    (replaced now d (old.apply now d tags) contents).map Content.bare =
      replaced .epoch d (old.bare.apply .epoch d Ascending.empty) (contents.map Content.bare) := by
  have cleared : (if d.isDefault then clearDefault now contents else contents).map Content.bare =
      if d.isDefault then clearDefault .epoch (contents.map Content.bare)
      else contents.map Content.bare := by
    split
    · exact map_bare_clearDefault now contents
    · rfl
  rw [replaced, replaced, ← cleared]
  exact map_modifyFirst_comm (fun _ => rfl) (fun _ _ => Content.bare_apply tags)

theorem upsertContent_bare (contentId : Guid) (now : DateTime) (d : Draft)
    (accepted : List MergeTag) (t : Template) :
    (t.upsertContent contentId now d accepted).forget.within bare =
      (t.bare.upsertContent contentId .epoch d []).forget := by
  cases present : t.find? d.culture with
  | none =>
      have absent : t.bare.find? d.culture = none := by rw [find?_bare, present, Option.map_none]
      rw [upsertContent_absent present, upsertContent_absent absent]
      exact addContent_bare contentId now d accepted t
  | some old =>
      rw [upsertContent, upsertContent, find?_bare, present, Option.map_some]
      dsimp only
      cases d.check with
      | error e => rfl
      | ok =>
          rw [Outcome.check_ok, Outcome.check_ok, contentTags_nil d.source accepted,
            Outcome.check_map, Outcome.forget_check, Outcome.forget_check, Outcome.within_check]
          congr 1
          funext tags
          have changed := map_bare_replaced now d old tags t.contents
          rw [replaced, replaced] at changed
          simp only [Outcome.done, Outcome.forget, Outcome.within, bare, timelessWith]
          rw [changed]
          rfl

theorem removeContent_bare (now : DateTime) (culture : String) (t : Template) :
    (t.removeContent now culture).forget.within bare =
      (t.bare.removeContent .epoch culture).forget := by
  rw [removeContent, removeContent, find?_bare]
  cases t.find? culture with
  | none => rfl
  | some c =>
      rw [Option.map_some]
      dsimp only
      have flag : c.bare.isDefault = c.isDefault := rfl
      have count : t.bare.contents.length = t.contents.length := List.length_map _
      rw [flag, count]
      split
      · rfl
      · have left : (t.contents.eraseP fun c => c.culture == culture).map Content.bare =
            t.bare.contents.eraseP fun c => c.culture == culture := by
          rw [bare, timelessWith, List.eraseP_map]
          rfl
        simp only [Outcome.done, Outcome.forget, Outcome.within, bare, timelessWith] at left ⊢
        rw [left]
        rfl

end Template

namespace TemplateType

variable {tt : TemplateType} {now : DateTime}

theorem template_bare (id : Guid) : tt.bare.template id = (tt.template id).map Template.bare := by
  have found : (tt.bare.templates.find? fun t => t.id == id) =
      (tt.templates.find? fun t => t.id == id).map Template.bare := List.find?_map
  rw [template, template, found]
  cases tt.templates.find? fun t => t.id == id <;> rfl

theorem addTemplate_bare (id contentId : Guid) (now : DateTime) (name : String) (d : Draft)
    (tt : TemplateType) :
    (tt.addTemplate id contentId now name d).forget.within bare =
      (tt.bare.addTemplate id contentId .epoch name d).forget := by
  have taken : (tt.bare.templates.any fun t => t.name == Text.trimmed name) =
      tt.templates.any fun t => t.name == Text.trimmed name := List.any_map
  rw [addTemplate, addTemplate, taken]
  split
  · rfl
  · have created : Template.create id contentId .epoch tt.bare.id name d tt.bare.acceptedTags =
        (Template.create id contentId now tt.id name d tt.acceptedTags).map Template.bare :=
      Template.create_epoch id contentId now tt.id name d tt.acceptedTags
    rw [Outcome.forget_check, Outcome.forget_check, Outcome.within_check, created,
      Outcome.check_map]
    congr 1
    funext t
    simp [Outcome.done, Outcome.forget, Outcome.within, Except.map, bare, timelessWith,
      Template.bare]

theorem removeTemplate_bare (now : DateTime) (id : Guid) (tt : TemplateType) :
    (tt.removeTemplate now id).forget.within bare = (tt.bare.removeTemplate .epoch id).forget := by
  have left : (tt.templates.eraseP fun t => t.id == id).map Template.bare =
      tt.bare.templates.eraseP fun t => t.id == id := by
    rw [bare, timelessWith, List.eraseP_map]
    rfl
  rw [removeTemplate, removeTemplate, template_bare, Outcome.check_map, Outcome.forget_check,
    Outcome.forget_check, Outcome.within_check, ← left]
  rfl

/-- An operation on a template of a type changes the type apart from tags and times as it changes
the template apart from tags and times. -/
theorem onTemplate_bare {op plain : Template → Outcome Template TemplateError Unit} (id : Guid)
    (same : ∀ t, (op t).within Template.bare = plain t.bare) (tt : TemplateType) :
    (tt.onTemplate id op).within bare = tt.bare.onTemplate id plain := by
  rw [onTemplate, onTemplate, template_bare, Outcome.check_map, Outcome.within_check]
  congr 1
  funext t
  have moved : (modifyFirst (fun t => t.id == id) (fun _ => (op t).state) tt.templates).map
      Template.bare = modifyFirst (fun t => t.id == id) (fun _ => (op t).state.bare)
        tt.bare.templates := map_modifyFirst_comm (fun _ => rfl) (fun _ _ => rfl)
  rw [← same t]
  simp only [Outcome.within, ← moved]
  rfl

/-- Replacing the accepted tags leaves everything but tags and times. -/
theorem replaceTags_bare {α : Type} (now : DateTime) (accepted : List MergeTag) (answer : α)
    (tt : TemplateType) : (tt.replaceTags now accepted answer).state.bare = tt.bare := by
  have each (t t' : Template) (done : t.reconcile now accepted = .done () t') :
      t'.bare = t.bare := by
    rcases t.reconcile_cases now accepted with ⟨e, failed⟩ | ⟨resolved, all, ran⟩
    · rw [failed] at done
      cases done
    · rw [ran] at done
      cases done
      have contents :=
        Template.map_zipWith_setTags now (fun tags _ => Content.bare_setTags tags) all
      rw [Template.bare, Template.timelessWith, contents]
      rfl
  rcases tt.replaceTags_cases now accepted answer with ⟨e, failed⟩ | ⟨templates, all, done⟩
  · rw [failed]
    rfl
  · have kept := map_reconcileAll all each
    rw [done]
    exact congrArg (fun ts => (⟨tt.id, tt.name, [], ts, .epoch, .epoch⟩ : TemplateType)) kept

/-- A type is what it is without tags, with the tags put in again that its sources mention. -/
theorem Coherent.timeless_eq (coherent : tt.Coherent) :
    tt.timeless = tt.bare.timelessWith tt.acceptedTags (Content.dress tt.acceptedTags) := by
  have dressed (t : Template) (inside : t ∈ tt.templates) :
      t.timelessWith Content.timeless =
        t.bare.timelessWith (Content.dress tt.acceptedTags) := by
    have contents : t.contents.map Content.timeless =
        (t.contents.map Content.bare).map (Content.dress tt.acceptedTags) := by
      rw [List.map_map]
      apply List.map_congr_left
      intro c held
      have tags := (coherent.resolved t inside c held).tags coherent.named
      rw [Content.timeless, tags]
      rfl
    rw [Template.timelessWith, contents]
    rfl
  have templates : tt.templates.map (Template.timelessWith Content.timeless) =
      (tt.templates.map Template.bare).map
        (Template.timelessWith (Content.dress tt.acceptedTags)) := by
    rw [List.map_map]
    exact List.map_congr_left dressed
  rw [timeless, timelessWith, templates]
  rfl

end TemplateType

/-! What calls on contents do apart from tags and times, they do to every type that is the same
apart from tags and times. -/

namespace ContentCall

/-- A call does the same to a type and to what the type is without tags and times. -/
theorem run_bare (call : ContentCall) (now : DateTime) (tt : TemplateType) :
    ((call.asOf now).run tt).within TemplateType.bare = (call.asOf .epoch).run tt.bare := by
  cases call with
  | addTemplate id contentId name d =>
      exact TemplateType.addTemplate_bare id contentId now name d tt
  | removeTemplate id => exact TemplateType.removeTemplate_bare now id tt
  | addContent template contentId d =>
      rw [asOf, asOf, TypeCall.run, TypeCall.run, TemplateType.addContent, TemplateType.addContent,
        TemplateType.onTemplate_forget, TemplateType.onTemplate_forget]
      exact TemplateType.onTemplate_bare template
        (Template.addContent_bare contentId now d tt.acceptedTags) tt
  | upsertContent template contentId d =>
      rw [asOf, asOf, TypeCall.run, TypeCall.run, TemplateType.upsertContent,
        TemplateType.upsertContent, TemplateType.onTemplate_forget, TemplateType.onTemplate_forget]
      exact TemplateType.onTemplate_bare template
        (Template.upsertContent_bare contentId now d tt.acceptedTags) tt
  | removeContent template culture =>
      rw [asOf, asOf, TypeCall.run, TypeCall.run, TemplateType.removeContent,
        TemplateType.removeContent, TemplateType.onTemplate_forget, TemplateType.onTemplate_forget]
      exact TemplateType.onTemplate_bare template (Template.removeContent_bare now culture) tt

theorem run_acceptedTags (call : ContentCall) (now : DateTime) (tt : TemplateType) :
    ((call.asOf now).run tt).state.acceptedTags = tt.acceptedTags := by
  have on {α : Type} (id : Guid) (op : Template → Outcome Template TemplateError α) :
      (tt.onTemplate id op).state.acceptedTags = tt.acceptedTags := by
    rcases tt.onTemplate_cases id op with ⟨e, failed⟩ | ⟨t, -, ran⟩
    · rw [failed]
      rfl
    · rw [ran]
      rfl
  cases call with
  | addTemplate id contentId name d =>
      rcases tt.addTemplate_cases id contentId now name d with ⟨e, failed⟩ | ⟨t, -, -, done⟩
      · exact congrArg (fun o => o.state.acceptedTags) failed
      · exact congrArg (fun o => o.state.acceptedTags) done
  | removeTemplate id =>
      rcases tt.removeTemplate_cases now id with ⟨e, failed⟩ | ⟨t, -, done⟩
      · exact congrArg (fun o => o.state.acceptedTags) failed
      · exact congrArg (fun o => o.state.acceptedTags) done
  | addContent template contentId d => exact on template _
  | upsertContent template contentId d => exact on template _
  | removeContent template culture => exact on template _

/-- Calls on types that are the same apart from tags and times succeed or fail alike, and leave
types that are the same apart from tags and times. -/
theorem run_congr (call : ContentCall) (now later : DateTime) {a b : TemplateType}
    (same : a.bare = b.bare) :
    ((call.asOf now).run a).answer = ((call.asOf later).run b).answer ∧
      ((call.asOf now).run a).state.bare = ((call.asOf later).run b).state.bare := by
  have left := call.run_bare now a
  have right := call.run_bare later b
  rw [same, ← right] at left
  exact ⟨congrArg (fun o => o.answer) left, congrArg (fun o => o.state) left⟩

end ContentCall

namespace TagCall

/-- A call on tags leaves everything but tags and times. -/
theorem run_bare (call : TagCall) (now : DateTime) (tt : TemplateType) :
    ((call.asOf now).run tt).state.bare = tt.bare := by
  cases call with
  | declare tag =>
      rcases tt.declareTag_cases now tag with ⟨e, failed⟩ | ⟨-, -, ran⟩
      · exact congrArg (fun o => o.state.bare) failed
      · exact (congrArg (fun o => o.state.bare) ran).trans
          (TemplateType.replaceTags_bare now _ () tt)
  | retract name =>
      rcases tt.retractTag_cases now name with ⟨e, failed⟩ | ⟨tag, -, ran⟩
      · exact congrArg (fun o => o.state.bare) failed
      · exact (congrArg (fun o => o.state.bare) ran).trans
          (TemplateType.replaceTags_bare now _ tag tt)

/-- What a call on tags comes to depends on the accepted tags alone, as long as all tags of contents
are resolved. -/
theorem run_congr (call : TagCall) (now later : DateTime) {a b : TemplateType}
    (left : a.Coherent) (right : b.Coherent) (same : a.acceptedTags = b.acceptedTags) :
    ((call.asOf now).run a).answer = ((call.asOf later).run b).answer ∧
      ((call.asOf now).run a).state.acceptedTags =
        ((call.asOf later).run b).state.acceptedTags := by
  have replaced {α : Type} (accepted : List MergeTag) (named : NamedByCode accepted) (answer : α) :
      (a.replaceTags now accepted answer).answer = (b.replaceTags later accepted answer).answer ∧
        (a.replaceTags now accepted answer).state.acceptedTags =
          (b.replaceTags later accepted answer).state.acceptedTags := by
    rw [left.replaceTags named, right.replaceTags named]
    exact ⟨rfl, rfl⟩
  cases call with
  | declare tag =>
      rw [asOf, asOf, TypeCall.run, TypeCall.run, TemplateType.declareTag, TemplateType.declareTag,
        ← same]
      split
      · exact ⟨rfl, same⟩
      · next written =>
          split
          · exact ⟨rfl, same⟩
          · exact replaced _ (left.named.append (not_not.mp written)) ()
  | retract name =>
      rw [asOf, asOf, TypeCall.run, TypeCall.run, TemplateType.retractTag, TemplateType.retractTag,
        ← same]
      cases a.acceptedTags.find? fun t => t.name.text == name with
      | none => exact ⟨rfl, same⟩
      | some tag =>
          have named : NamedByCode (a.acceptedTags.eraseP fun t => t.name.text == name) :=
            fun other inside => left.named other (List.mem_of_mem_eraseP inside)
          obtain ⟨answered, accepted⟩ := replaced _ named tag
          exact ⟨congrArg (fun answer => answer.map fun _ => ()) answered, accepted⟩

end TagCall

namespace TemplateType

variable {tt : TemplateType}

/-- On a type that is reached by calls, a call on tags and a call on contents can change places:
each of them succeeds or fails as it does in the other order, with the same error, and what they
leave behind differs in times only. -/
theorem tag_and_content_calls_commute (reached : tt.Reached) (tags : TagCall)
    (contents : ContentCall) (t₁ t₂ t₃ t₄ : DateTime) :
    ((tags.asOf t₁).run tt).answer =
        ((tags.asOf t₄).run ((contents.asOf t₃).run tt).state).answer ∧
      ((contents.asOf t₂).run ((tags.asOf t₁).run tt).state).answer =
        ((contents.asOf t₃).run tt).answer ∧
      ((contents.asOf t₂).run ((tags.asOf t₁).run tt).state).state.timeless =
        ((tags.asOf t₄).run ((contents.asOf t₃).run tt).state).state.timeless := by
  have start := reached.settled.coherent
  have changed := ((contents.asOf t₃).run_step tt).coherent start
  have tagged := ((tags.asOf t₁).run_step tt).coherent start
  obtain ⟨tagAnswer, accepted⟩ :=
    tags.run_congr t₁ t₄ start changed (contents.run_acceptedTags t₃ tt).symm
  obtain ⟨contentAnswer, bare⟩ := contents.run_congr t₂ t₃ (tags.run_bare t₁ tt)
  refine ⟨tagAnswer, contentAnswer, ?_⟩
  have tagsFirst := ((contents.asOf t₂).run_step ((tags.asOf t₁).run tt).state).coherent tagged
  have tagsLast := ((tags.asOf t₄).run_step ((contents.asOf t₃).run tt).state).coherent changed
  rw [tagsFirst.timeless_eq, tagsLast.timeless_eq, contents.run_acceptedTags, accepted, bare,
    tags.run_bare]

/-- A content that comes to mention the tag. -/
def namedDraft : Draft := { plainDraft with source := "[\"{{name}}\"]", isDefault := true }

/-- What the type without tags comes to if the tag is declared and the content changed. -/
def renamedWelcomes : TemplateType :=
  ⟨⟨1⟩, "Mails", [Desk.nameTag],
    [⟨⟨2⟩, ⟨1⟩, "Hello",
      [{ Desk.greeting with isDefault := false },
        ⟨⟨4⟩, "en", "Hello", "<p>Hello</p>", "[\"{{name}}\"]", Ascending.ofList [Desk.nameTag],
          true, .epoch, .epoch⟩],
      .epoch, .epoch⟩],
    .epoch, .epoch⟩

/-- The call that declares the tag. -/
def nameCall : TagCall := .declare Desk.nameTag

/-- The call that changes the content. -/
def draftCall : ContentCall := .upsertContent ⟨2⟩ ⟨5⟩ namedDraft

theorem welcomes_commute : welcomes.Reached ∧
    ((nameCall.asOf .epoch).run ((draftCall.asOf nextDay).run welcomes).state).answer = .ok () ∧
    ((nameCall.asOf .epoch).run
      ((draftCall.asOf nextDay).run welcomes).state).state.timeless = renamedWelcomes := by
  have created : create ⟨1⟩ .epoch "Mails" = .ok ⟨⟨1⟩, "Mails", [], [], .epoch, .epoch⟩ := by
    decide +kernel
  have reached : welcomes.Reached :=
    ⟨⟨1⟩, .epoch, "Mails", _, created, welcomeCalls, by decide +kernel⟩
  obtain ⟨answer, -, final⟩ :=
    tag_and_content_calls_commute reached nameCall draftCall nextDay .epoch nextDay .epoch
  refine ⟨reached, ?_, ?_⟩
  · rw [← answer]
    decide +kernel
  · rw [← final]
    decide +kernel

end TemplateType

end MailMerge
