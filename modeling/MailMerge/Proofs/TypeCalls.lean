import MailMerge.Proofs.TemplateCalls
import MailMerge.Template.Type
/-!
Calls on a template type, one after the other. What a call can do is said once, by `Step`, and every
invariant of types follows from that. Invariants of templates are carried over from where a template
comes from, its `Origin` in the type before.
-/

set_option autoImplicit false

namespace MailMerge

/-- A call that changes a template type, with the time and the new ids that it is given. -/
inductive TypeCall where
  | declareTag (now : DateTime) (tag : MergeTag)
  | retractTag (now : DateTime) (name : String)
  | addTemplate (id contentId : Guid) (now : DateTime) (name : String) (d : Draft)
  | removeTemplate (now : DateTime) (id : Guid)
  | addContent (template contentId : Guid) (now : DateTime) (d : Draft)
  | upsertContent (template contentId : Guid) (now : DateTime) (d : Draft)
  | removeContent (template : Guid) (now : DateTime) (culture : String)

/-- What a call comes to. -/
def TypeCall.run : TypeCall → TemplateType → Outcome TemplateType TemplateError Unit
  | declareTag now tag, tt => tt.declareTag now tag
  | retractTag now name, tt => (tt.retractTag now name).forget
  | addTemplate id contentId now name d, tt => (tt.addTemplate id contentId now name d).forget
  | removeTemplate now id, tt => (tt.removeTemplate now id).forget
  | addContent template contentId now d, tt => (tt.addContent template contentId now d).forget
  | upsertContent template contentId now d, tt =>
    (tt.upsertContent template contentId now d).forget
  | removeContent template now culture, tt => (tt.removeContent template now culture).forget

namespace TemplateType

variable {tt : TemplateType} {now : DateTime}

theorem reconcileAll_eq_ok_iff {accepted : List MergeTag} {templates changed : List Template} :
    reconcileAll now accepted templates = .ok changed ↔
      List.Forall₂ (fun t t' => t.reconcile now accepted = .done () t') templates changed := by
  induction templates generalizing changed with
  | nil =>
      constructor
      · rintro ⟨⟩
        exact .nil
      · rintro ⟨⟩
        rfl
  | cons t rest ih =>
      rw [reconcileAll]
      rcases t.reconcile_cases now accepted with
        ⟨e, failed⟩ | ⟨resolved, -, done⟩
      · rw [failed]
        constructor
        · exact nofun
        · rintro (_ | ⟨first, -⟩)
          rw [failed] at first
          cases first
      · rw [done]
        constructor
        · intro all
          obtain ⟨others, rest, rfl⟩ := map_eq_ok.mp all
          exact .cons done (ih.mp rest)
        · rintro (_ | ⟨first, others⟩)
          rw [done] at first
          cases first
          exact map_eq_ok.mpr ⟨_, ih.mpr others, rfl⟩

/-- What reconciling keeps of a template is kept of all templates. -/
theorem map_reconcileAll {β : Type} {g : Template → β} {accepted : List MergeTag}
    {templates changed : List Template} (all : reconcileAll now accepted templates = .ok changed)
    (keeps : ∀ t t', t.reconcile now accepted = .done () t' → g t' = g t) :
    changed.map g = templates.map g := by
  have each := reconcileAll_eq_ok_iff.mp all
  clear all
  induction each with
  | nil => rfl
  | cons first _ ih => rw [List.map_cons, List.map_cons, ih, keeps _ _ first]

theorem replaceTags_cases {α : Type} (tt : TemplateType) (now : DateTime)
    (accepted : List MergeTag) (answer : α) :
    (∃ e, tt.replaceTags now accepted answer = .failed e tt) ∨
      ∃ templates, reconcileAll now accepted tt.templates = .ok templates ∧
        tt.replaceTags now accepted answer =
          .done answer
            { tt with acceptedTags := accepted, templates := templates, updatedAt := now } := by
  rw [replaceTags]
  cases all : reconcileAll now accepted tt.templates with
  | error e => exact Or.inl ⟨e, rfl⟩
  | ok templates => exact Or.inr ⟨templates, rfl, rfl⟩

theorem declareTag_cases (tt : TemplateType) (now : DateTime) (tag : MergeTag) :
    (∃ e, tt.declareTag now tag = .failed e tt) ∨
      tag.shortCode.identifier = tag.name.text ∧
        (∀ t ∈ tt.acceptedTags, t.name.text ≠ tag.name.text) ∧
        tt.declareTag now tag = tt.replaceTags now (tt.acceptedTags ++ [tag]) () := by
  rw [declareTag]
  by_cases named : tag.shortCode.identifier = tag.name.text
  · rw [if_neg (not_not_intro named)]
    by_cases taken : (tt.acceptedTags.any fun t => t.name.text == tag.name.text) = true
    · exact Or.inl ⟨_, if_pos taken⟩
    · refine Or.inr ⟨named, fun t inside same => ?_, if_neg taken⟩
      exact taken (List.any_eq_true.mpr ⟨t, inside, by simp [same]⟩)
  · exact Or.inl ⟨_, if_pos named⟩

theorem retractTag_cases (tt : TemplateType) (now : DateTime) (name : String) :
    (∃ e, tt.retractTag now name = .failed e tt) ∨
      ∃ tag, (tt.acceptedTags.find? fun t => t.name.text == name) = some tag ∧
        tt.retractTag now name =
          tt.replaceTags now (tt.acceptedTags.eraseP fun t => t.name.text == name) tag := by
  rw [retractTag]
  cases tt.acceptedTags.find? fun t => t.name.text == name with
  | none => exact Or.inl ⟨_, rfl⟩
  | some tag => exact Or.inr ⟨tag, rfl, rfl⟩

theorem addTemplate_cases (tt : TemplateType) (id contentId : Guid) (now : DateTime) (name : String)
    (d : Draft) :
    (∃ e, tt.addTemplate id contentId now name d = .failed e tt) ∨
      ∃ t, (∀ old ∈ tt.templates, old.name ≠ Text.trimmed name) ∧
        Template.create id contentId now tt.id name d tt.acceptedTags = .ok t ∧
        tt.addTemplate id contentId now name d =
          .done t { tt with templates := tt.templates ++ [t], updatedAt := now } := by
  rw [addTemplate]
  by_cases taken : (tt.templates.any fun t => t.name == Text.trimmed name) = true
  · exact Or.inl ⟨_, if_pos taken⟩
  · rw [if_neg taken]
    cases created : Template.create id contentId now tt.id name d tt.acceptedTags with
    | error e => exact Or.inl ⟨e, rfl⟩
    | ok t =>
        refine Or.inr ⟨t, fun old inside same => ?_, rfl, rfl⟩
        exact taken (List.any_eq_true.mpr ⟨old, inside, by simp [same]⟩)

theorem template_eq_ok {id : Guid} {t : Template} :
    tt.template id = .ok t ↔ (tt.templates.find? fun t => t.id == id) = some t := by
  rw [template]
  split <;> simp [*]

theorem removeTemplate_cases (tt : TemplateType) (now : DateTime) (id : Guid) :
    (∃ e, tt.removeTemplate now id = .failed e tt) ∨
      ∃ t, tt.template id = .ok t ∧
        tt.removeTemplate now id =
          .done t
            { tt with
              templates := tt.templates.eraseP fun t => t.id == id
              updatedAt := now } := by
  rw [removeTemplate]
  cases tt.template id with
  | error e => exact Or.inl ⟨e, rfl⟩
  | ok t => exact Or.inr ⟨t, rfl, rfl⟩

theorem onTemplate_cases {α : Type} (tt : TemplateType) (id : Guid)
    (op : Template → Outcome Template TemplateError α) :
    (∃ e, tt.onTemplate id op = .failed e tt) ∨
      ∃ t, tt.template id = .ok t ∧
        tt.onTemplate id op = (op t).within fun changed =>
          { tt with
            templates := modifyFirst (fun t => t.id == id) (fun _ => changed) tt.templates } := by
  rw [onTemplate]
  cases tt.template id with
  | error e => exact Or.inl ⟨e, rfl⟩
  | ok t => exact Or.inr ⟨t, rfl, rfl⟩

theorem onTemplate_forget {α : Type} (id : Guid)
    (op : Template → Outcome Template TemplateError α) :
    (tt.onTemplate id op).forget = tt.onTemplate id fun t => (op t).forget := by
  rw [onTemplate, onTemplate]
  cases tt.template id <;> rfl

/-- What a call makes of a type. A call that fails leaves the type as it is. -/
inductive Step (tt : TemplateType) : TemplateType → Prop where
  | failed : Step tt tt
  | declared {now : DateTime} {tag : MergeTag} {templates : List Template}
      (named : tag.shortCode.identifier = tag.name.text)
      (fresh : ∀ t ∈ tt.acceptedTags, t.name.text ≠ tag.name.text)
      (all : reconcileAll now (tt.acceptedTags ++ [tag]) tt.templates = .ok templates) :
      Step tt
        { tt with
          acceptedTags := tt.acceptedTags ++ [tag]
          templates := templates
          updatedAt := now }
  | retracted {now : DateTime} {name : String} {templates : List Template}
      (all : reconcileAll now (tt.acceptedTags.eraseP fun t => t.name.text == name) tt.templates =
        .ok templates) :
      Step tt
        { tt with
          acceptedTags := tt.acceptedTags.eraseP fun t => t.name.text == name
          templates := templates
          updatedAt := now }
  | added {id contentId : Guid} {now : DateTime} {name : String} {d : Draft} {t : Template}
      (fresh : ∀ old ∈ tt.templates, old.name ≠ Text.trimmed name)
      (created : Template.create id contentId now tt.id name d tt.acceptedTags = .ok t) :
      Step tt { tt with templates := tt.templates ++ [t], updatedAt := now }
  | removed (now : DateTime) (id : Guid) :
      Step tt
        { tt with templates := tt.templates.eraseP fun t => t.id == id, updatedAt := now }
  | changed (call : TemplateCall) (given : call.Sees tt.acceptedTags) {id : Guid} {t : Template}
      (found : tt.template id = .ok t) :
      Step tt
        { tt with
          templates :=
            modifyFirst (fun t => t.id == id) (fun _ => (call.run t).state) tt.templates }

theorem step_onTemplate (tt : TemplateType) (id : Guid) (call : TemplateCall)
    (given : call.Sees tt.acceptedTags) : tt.Step (tt.onTemplate id call.run).state := by
  rcases tt.onTemplate_cases id call.run with ⟨e, failed⟩ | ⟨t, found, ran⟩
  · rw [failed]
    exact .failed
  · rw [ran]
    exact .changed call given found

/-- Where a template of `after` comes from, if a call has made `after` of `before`. Only where all
templates are reconciled do the accepted tags change. -/
inductive Origin (before after : TemplateType) : Template → Prop where
  | kept {t : Template} (same : after.acceptedTags = before.acceptedTags)
      (old : t ∈ before.templates) : Origin before after t
  | created {t : Template} {id contentId : Guid} {now : DateTime} {name : String} {d : Draft}
      (same : after.acceptedTags = before.acceptedTags)
      (created : Template.create id contentId now before.id name d before.acceptedTags = .ok t) :
      Origin before after t
  | changed {t : Template} (call : TemplateCall) (same : after.acceptedTags = before.acceptedTags)
      (sees : call.Sees before.acceptedTags) (old : t ∈ before.templates) :
      Origin before after (call.run t).state
  | reconciled {t changed : Template} {now : DateTime} (old : t ∈ before.templates)
      (done : t.reconcile now after.acceptedTags = .done () changed) : Origin before after changed

theorem Origin.of_reconcileAll {after : TemplateType} {t : Template}
    (all : reconcileAll now after.acceptedTags tt.templates = .ok after.templates)
    (inside : t ∈ after.templates) : Origin tt after t := by
  have each := reconcileAll_eq_ok_iff.mp all
  obtain ⟨i, short, rfl⟩ := List.getElem_of_mem inside
  have long : i < tt.templates.length := each.length_eq ▸ short
  exact .reconciled (List.getElem_mem long) (each.get long short)

/-- Every template that a call leaves behind has an origin in the type before. -/
theorem Step.origin {after : TemplateType} (step : tt.Step after) {t : Template}
    (inside : t ∈ after.templates) : Origin tt after t := by
  cases step with
  | failed => exact .kept rfl inside
  | declared _ _ all => exact .of_reconcileAll all inside
  | retracted all => exact .of_reconcileAll all inside
  | added _ created =>
      rcases List.mem_append.mp inside with old | new
      · exact .kept rfl old
      · rw [List.mem_singleton.mp new]
        exact .created rfl created
  | removed _ _ => exact .kept rfl (List.mem_of_mem_eraseP inside)
  | changed call given found =>
      rcases mem_modifyFirst inside with kept | ⟨_, _, _, rfl⟩
      · exact .kept rfl kept
      · exact .changed call rfl given (List.mem_of_find?_eq_some (template_eq_ok.mp found))

theorem Step.id {after : TemplateType} (step : tt.Step after) : after.id = tt.id := by
  cases step <;> rfl

/-- Accepted tags keep having different names. -/
theorem Step.tagNames {after : TemplateType} (step : tt.Step after)
    (distinct : (tt.acceptedTags.map fun tag => tag.name.text).Nodup) :
    (after.acceptedTags.map fun tag => tag.name.text).Nodup := by
  cases step with
  | declared _ fresh _ => exact nodup_keys_append distinct fresh
  | retracted _ => exact distinct.sublist (List.eraseP_sublist.map _)
  | failed => exact distinct
  | added _ _ => exact distinct
  | removed _ _ => exact distinct
  | changed _ _ _ => exact distinct

end TemplateType

namespace TypeCall

theorem run_step (call : TypeCall) (tt : TemplateType) : tt.Step (call.run tt).state := by
  cases call with
  | declareTag now tag =>
      rw [run]
      rcases tt.declareTag_cases now tag with ⟨e, failed⟩ | ⟨named, fresh, replaced⟩
      · rw [failed]
        exact .failed
      · rw [replaced]
        rcases tt.replaceTags_cases now (tt.acceptedTags ++ [tag]) () with
          ⟨e, failed⟩ | ⟨templates, all, done⟩
        · rw [failed]
          exact .failed
        · rw [done]
          exact .declared named fresh all
  | retractTag now name =>
      rw [run, Outcome.forget_state]
      rcases tt.retractTag_cases now name with ⟨e, failed⟩ | ⟨tag, found, replaced⟩
      · rw [failed]
        exact .failed
      · rw [replaced]
        rcases tt.replaceTags_cases now (tt.acceptedTags.eraseP fun t => t.name.text == name) tag
          with ⟨e, failed⟩ | ⟨templates, all, done⟩
        · rw [failed]
          exact .failed
        · rw [done]
          exact .retracted all
  | addTemplate id contentId now name d =>
      rw [run]
      rcases tt.addTemplate_cases id contentId now name d with
        ⟨e, failed⟩ | ⟨t, fresh, created, done⟩
      · rw [failed]
        exact .failed
      · rw [done]
        exact .added fresh created
  | removeTemplate now id =>
      rw [run]
      rcases tt.removeTemplate_cases now id with ⟨e, failed⟩ | ⟨t, -, done⟩
      · rw [failed]
        exact .failed
      · rw [done]
        exact .removed now id
  | addContent template contentId now d =>
      rw [run, TemplateType.addContent, TemplateType.onTemplate_forget]
      exact tt.step_onTemplate template (.addContent contentId now d tt.acceptedTags) rfl
  | upsertContent template contentId now d =>
      rw [run, TemplateType.upsertContent, TemplateType.onTemplate_forget]
      exact tt.step_onTemplate template (.upsertContent contentId now d tt.acceptedTags) rfl
  | removeContent template now culture =>
      rw [run, TemplateType.removeContent, TemplateType.onTemplate_forget]
      exact tt.step_onTemplate template (.removeContent now culture) trivial

end TypeCall

end MailMerge
