import MailMerge.Proofs.TagCoherence
/-!
What every type comes to that is built by calls: names are distinct, and every text of a content has
passed the checks of the draft that brought it. Calls change contents in many places, but new texts
only ever come from the draft of the call.
-/

set_option autoImplicit false

namespace MailMerge

theorem refuse_eq_ok {ε : Type} {bad : Prop} [Decidable bad] {e : ε} {u : Unit} :
    (if bad then Except.error e else .ok ()) = .ok u ↔ ¬bad := by
  split <;> simp [*]

theorem checkName_eq_ok {name : String} :
    checkName name = .ok () ↔ Text.isBlank name = false ∧ name.utf8ByteSize ≤ maxNameBytes := by
  rw [checkName, refuse_eq_ok, not_or, Bool.not_eq_true, Nat.not_lt]

theorem checkCulture_eq_ok {code : String} {u : Unit} :
    checkCulture code = .ok u ↔ isCultureCode code = true := by
  rw [checkCulture]
  split <;> simp [*]

theorem Draft.check_eq_ok {d : Draft} :
    d.check = .ok () ↔ isCultureCode d.culture = true ∧ Text.isBlank d.subject = false ∧
      d.subject.length ≤ 998 ∧ Text.isBlank d.body = false := by
  have steps : d.check = (checkCulture d.culture >>= fun _ =>
      (if Text.isBlank d.subject ∨ maxSubjectLength < d.subject.length then
        .error (.invalid .subjectLength) else .ok ()) >>= fun _ =>
      if Text.isBlank d.body then .error (.invalid .blankBody) else .ok ()) := by
    rw [check]
    congr 1
    funext _
    by_cases refused : Text.isBlank d.subject = true ∨ maxSubjectLength < d.subject.length
    · rw [if_pos refused, if_pos refused]
      rfl
    · rw [if_neg refused, if_neg refused]
      rfl
  simp only [steps, bind_eq_ok, checkCulture_eq_ok, refuse_eq_ok, not_or, Bool.not_eq_true,
    Nat.not_lt, exists_const, and_assoc]
  rfl

/-- What a content says, apart from its tags, its flag and its times. -/
def Content.texts (c : Content) : List String := [c.culture, c.subject, c.body, c.source]

/-- What a draft says. -/
def Draft.texts (d : Draft) : List String := [d.culture, d.subject, d.body, d.source]

/-- Where the texts of a content come from after a call: from a content before it, or from the draft
that the call brings, after it was checked. -/
inductive TextsFrom (draft : Option Draft) (old : List Content) (c : Content) : Prop where
  | kept (inside : c.texts ∈ old.map Content.texts)
  | written {d : Draft} (brought : draft = some d) (checked : d.check = .ok ())
      (readable : ReadableSource d.source) (same : c.texts = d.texts)

theorem TextsFrom.mono {draft : Option Draft} {old more : List Content} {c : Content}
    (origin : TextsFrom draft old c) (sub : old ⊆ more) : TextsFrom draft more c := by
  cases origin with
  | kept inside => exact .kept (List.map_subset _ sub inside)
  | written brought checked readable same => exact .written brought checked readable same

theorem textsFrom_of_mem {draft : Option Draft} {old : List Content} {c : Content}
    (inside : c ∈ old) : TextsFrom draft old c := .kept (List.mem_map_of_mem inside)

namespace Content

variable {now : DateTime}

@[simp] theorem setDefault_texts (flag : Bool) (c : Content) :
    (c.setDefault now flag).texts = c.texts := by
  rw [setDefault]
  split <;> rfl

@[simp] theorem setTags_texts (tags : TagSet) (c : Content) :
    (c.setTags now tags).texts = c.texts := by
  rw [setTags]
  split <;> rfl

theorem textsFrom_ofDraft {id : Guid} {d : Draft} {accepted : List MergeTag} {c : Content}
    (made : ofDraft id now d accepted = .ok c) (old : List Content) {c' : Content}
    (same : c'.texts = c.texts) : TextsFrom (some d) old c' := by
  obtain ⟨checked, tags, found, rfl⟩ := ofDraft_eq_ok.mp made
  exact .written rfl checked (readable_of_contentTags found) same

end Content

/-- The draft that a call brings. -/
def TemplateCall.draft? : TemplateCall → Option Draft
  | addContent _ _ d _ => some d
  | upsertContent _ _ d _ => some d
  | removeContent _ _ => none
  | reconcile _ _ => none

/-- The draft that a call brings. -/
def TypeCall.draft? : TypeCall → Option Draft
  | addTemplate _ _ _ _ d => some d
  | addContent _ _ _ d => some d
  | upsertContent _ _ _ d => some d
  | _ => none

namespace Template

variable {t : Template} {now : DateTime} {draft : Option Draft} {c : Content}

@[simp] theorem settle_texts (c : Content) : (t.settle now c).texts = c.texts := by
  rw [settle]
  split <;> simp

@[simp] theorem map_texts_clearDefault (contents : List Content) :
    (clearDefault now contents).map Content.texts = contents.map Content.texts := by
  simp [clearDefault]

theorem textsFrom_cleared {moved : Bool} {contents : List Content}
    (inside : c ∈ if moved then clearDefault now contents else contents) :
    TextsFrom draft contents c := by
  apply TextsFrom.kept
  have listed := List.mem_map_of_mem (f := Content.texts) inside
  split at listed <;> simpa using listed

theorem textsFrom_addContent {contentId : Guid} {d : Draft} {accepted : List MergeTag}
    (inside : c ∈ (t.addContent contentId now d accepted).state.contents) :
    TextsFrom (some d) t.contents c := by
  rcases t.addContent_cases contentId now d accepted with ⟨e, failed⟩ | ⟨new, -, made, done⟩
  · rw [failed] at inside
    exact textsFrom_of_mem inside
  · rw [done] at inside
    rcases List.mem_append.mp inside with old | last
    · exact textsFrom_cleared old
    · rw [List.mem_singleton.mp last]
      exact Content.textsFrom_ofDraft made t.contents (settle_texts new)

theorem textsFrom_upsertContent {contentId : Guid} {d : Draft} {accepted : List MergeTag}
    (inside : c ∈ (t.upsertContent contentId now d accepted).state.contents) :
    TextsFrom (some d) t.contents c := by
  cases present : t.find? d.culture with
  | none =>
      rw [upsertContent_absent present] at inside
      exact textsFrom_addContent inside
  | some old =>
      rcases upsertContent_cases contentId now accepted present with
        ⟨e, failed⟩ | ⟨tags, checked, found, done⟩
      · rw [failed] at inside
        exact textsFrom_of_mem inside
      · rw [done] at inside
        rcases mem_modifyFirst inside with other | ⟨_, _, _, rfl⟩
        · exact textsFrom_cleared other
        · have same : (old.apply now d tags).texts = d.texts := by
            rw [Content.texts, Draft.texts, ← (find?_culture present).2]
            rfl
          exact .written rfl checked (readable_of_contentTags found) same

theorem map_texts_reconcile {accepted : List MergeTag} {changed : Template}
    (done : t.reconcile now accepted = .done () changed) :
    changed.contents.map Content.texts = t.contents.map Content.texts := by
  rcases t.reconcile_cases now accepted with ⟨e, failed⟩ | ⟨resolved, all, ran⟩
  · rw [failed] at done
    cases done
  · rw [ran] at done
    cases done
    exact map_zipWith_setTags now Content.setTags_texts all

end Template

/-- The texts of the contents after a call come from the contents before it or from its draft. -/
theorem TemplateCall.textsFrom (call : TemplateCall) {t : Template} {c : Content}
    (inside : c ∈ (call.run t).state.contents) : TextsFrom call.draft? t.contents c := by
  cases call with
  | addContent contentId now d accepted => exact Template.textsFrom_addContent inside
  | upsertContent contentId now d accepted => exact Template.textsFrom_upsertContent inside
  | removeContent now culture =>
      rcases t.removeContent_cases now culture with ⟨e, failed⟩ | ⟨_, _, _, done⟩
      · rw [run, failed] at inside
        exact textsFrom_of_mem inside
      · rw [run, done] at inside
        exact textsFrom_of_mem (List.mem_of_mem_eraseP inside)
  | reconcile now accepted =>
      rcases t.reconcile_cases now accepted with ⟨e, failed⟩ | ⟨resolved, all, done⟩
      · rw [run, failed] at inside
        exact textsFrom_of_mem inside
      · rw [run] at inside
        apply TextsFrom.kept
        rw [← Template.map_texts_reconcile done]
        rw [done] at inside
        exact List.mem_map_of_mem inside

namespace TemplateType

variable {tt : TemplateType} {now : DateTime}

/-- The contents of all templates. -/
def contents (tt : TemplateType) : List Content := tt.templates.flatMap Template.contents

theorem mem_contents {c : Content} : c ∈ tt.contents ↔ ∃ t ∈ tt.templates, c ∈ t.contents :=
  List.mem_flatMap

theorem textsFrom_replaceTags {α : Type} {accepted : List MergeTag} {answer : α}
    {draft : Option Draft} {c : Content}
    (inside : c ∈ (tt.replaceTags now accepted answer).state.contents) :
    TextsFrom draft tt.contents c := by
  rcases tt.replaceTags_cases now accepted answer with ⟨e, failed⟩ | ⟨templates, all, done⟩
  · rw [failed] at inside
    exact textsFrom_of_mem inside
  · rw [done] at inside
    obtain ⟨t, held, listed⟩ := mem_contents.mp inside
    have same := map_reconcileAll (g := fun t => t.contents.map Content.texts) all
      fun _ _ => Template.map_texts_reconcile
    have old : t.contents.map Content.texts ∈
        tt.templates.map fun t => t.contents.map Content.texts :=
      same ▸ List.mem_map_of_mem held
    obtain ⟨t', held', equal⟩ := List.mem_map.mp old
    have texts : c.texts ∈ t'.contents.map Content.texts := equal ▸ List.mem_map_of_mem listed
    obtain ⟨c', listed', equal'⟩ := List.mem_map.mp texts
    exact .kept (List.mem_map.mpr ⟨c', mem_contents.mpr ⟨t', held', listed'⟩, equal'⟩)

theorem textsFrom_onTemplate {id : Guid} (call : TemplateCall) {c : Content}
    (inside : c ∈ (tt.onTemplate id call.run).state.contents) :
    TextsFrom call.draft? tt.contents c := by
  rcases tt.onTemplate_cases id call.run with ⟨e, failed⟩ | ⟨t, found, ran⟩
  · rw [failed] at inside
    exact textsFrom_of_mem inside
  · rw [ran] at inside
    obtain ⟨t', held, listed⟩ := mem_contents.mp inside
    rcases mem_modifyFirst held with old | ⟨_, _, _, rfl⟩
    · exact textsFrom_of_mem (mem_contents.mpr ⟨t', old, listed⟩)
    · have before : t ∈ tt.templates := List.mem_of_find?_eq_some (template_eq_ok.mp found)
      exact (call.textsFrom listed).mono fun c held => mem_contents.mpr ⟨t, before, held⟩

end TemplateType

/-- The same for a call on a type, for the contents of all its templates. -/
theorem TypeCall.textsFrom (call : TypeCall) {tt : TemplateType} {c : Content}
    (inside : c ∈ (call.run tt).state.contents) : TextsFrom call.draft? tt.contents c := by
  cases call with
  | declareTag now tag =>
      rw [run] at inside
      rcases tt.declareTag_cases now tag with ⟨e, failed⟩ | ⟨-, -, replaced⟩
      · rw [failed] at inside
        exact textsFrom_of_mem inside
      · rw [replaced] at inside
        exact TemplateType.textsFrom_replaceTags inside
  | retractTag now name =>
      rw [run, Outcome.forget_state] at inside
      rcases tt.retractTag_cases now name with ⟨e, failed⟩ | ⟨tag, -, replaced⟩
      · rw [failed] at inside
        exact textsFrom_of_mem inside
      · rw [replaced] at inside
        exact TemplateType.textsFrom_replaceTags inside
  | addTemplate id contentId now name d =>
      rw [run, Outcome.forget_state] at inside
      rcases tt.addTemplate_cases id contentId now name d with
        ⟨e, failed⟩ | ⟨t, -, created, done⟩
      · rw [failed] at inside
        exact textsFrom_of_mem inside
      · rw [done] at inside
        obtain ⟨t', held, listed⟩ := TemplateType.mem_contents.mp inside
        rcases List.mem_append.mp held with old | new
        · exact textsFrom_of_mem (TemplateType.mem_contents.mpr ⟨t', old, listed⟩)
        · obtain ⟨-, made, brought, rfl⟩ := Template.create_eq_ok.mp created
          rw [List.mem_singleton.mp new] at listed
          rw [List.mem_singleton.mp listed]
          exact Content.textsFrom_ofDraft brought tt.contents (Content.setDefault_texts true made)
  | removeTemplate now id =>
      rw [run, Outcome.forget_state] at inside
      rcases tt.removeTemplate_cases now id with ⟨e, failed⟩ | ⟨t, -, done⟩
      · rw [failed] at inside
        exact textsFrom_of_mem inside
      · rw [done] at inside
        obtain ⟨t', held, listed⟩ := TemplateType.mem_contents.mp inside
        exact textsFrom_of_mem
          (TemplateType.mem_contents.mpr ⟨t', List.mem_of_mem_eraseP held, listed⟩)
  | addContent template contentId now d =>
      rw [run, TemplateType.addContent, TemplateType.onTemplate_forget] at inside
      exact TemplateType.textsFrom_onTemplate (.addContent contentId now d tt.acceptedTags) inside
  | upsertContent template contentId now d =>
      rw [run, TemplateType.upsertContent, TemplateType.onTemplate_forget] at inside
      exact TemplateType.textsFrom_onTemplate (.upsertContent contentId now d tt.acceptedTags) inside
  | removeContent template now culture =>
      rw [run, TemplateType.removeContent, TemplateType.onTemplate_forget] at inside
      exact TemplateType.textsFrom_onTemplate (.removeContent now culture) inside

/-- The checks that a content has passed, where subjects may have `limit` characters at most. -/
structure Content.WellFormed (limit : Nat) (c : Content) : Prop where
  culture : isCultureCode c.culture = true
  subject : Text.isBlank c.subject = false
  subject_length : c.subject.length ≤ min 998 limit
  body : Text.isBlank c.body = false
  json : Json.isValid c.source = true
  candidates : ∀ text ∈ candidateTexts c.source, ∃ code : ShortCode, code.text = text

/-- What a type comes to that is built by calls. -/
structure TemplateType.WellFormed (limit : Nat) (tt : TemplateType) : Prop where
  tagNames : (tt.acceptedTags.map fun tag => tag.name.text).Nodup
  tagCodes : ∀ tag ∈ tt.acceptedTags,
    tag.shortCode.text = "\x7b\x7b" ++ tag.name.text ++ "\x7d\x7d"
  templateNames : (tt.templates.map Template.name).Nodup
  trimmed : ∀ t ∈ tt.templates, Text.trimmed t.name = t.name ∧ t.name ≠ ""
  typeIds : ∀ t ∈ tt.templates, t.typeId = tt.id
  contents : ∀ t ∈ tt.templates, ∀ c ∈ t.contents, c.WellFormed limit

theorem Content.WellFormed.of_texts {limit : Nat} {c c' : Content} (wellFormed : c.WellFormed limit)
    (same : c'.texts = c.texts) : c'.WellFormed limit := by
  simp only [texts, List.cons.injEq, and_true] at same
  obtain ⟨culture, subject, body, source⟩ := same
  obtain ⟨h₁, h₂, h₃, h₄, h₅, h₆⟩ := wellFormed
  rw [← culture] at h₁
  rw [← subject] at h₂ h₃
  rw [← body] at h₄
  rw [← source] at h₅ h₆
  exact ⟨h₁, h₂, h₃, h₄, h₅, h₆⟩

theorem TextsFrom.wellFormed {draft : Option Draft} {old : List Content} {c : Content} {limit : Nat}
    (origin : TextsFrom draft old c) (fits : ∀ d, draft = some d → d.subject.length ≤ limit)
    (before : ∀ c ∈ old, c.WellFormed limit) : c.WellFormed limit := by
  cases origin with
  | kept inside =>
      obtain ⟨c', held, same⟩ := List.mem_map.mp inside
      exact (before c' held).of_texts same.symm
  | @written d brought checked readable same =>
      obtain ⟨culture, subject, short, body⟩ := Draft.check_eq_ok.mp checked
      simp only [Content.texts, Draft.texts, List.cons.injEq, and_true] at same
      obtain ⟨h₁, h₂, h₃, h₄⟩ := same
      exact
        { culture := h₁ ▸ culture
          subject := h₂ ▸ subject
          subject_length := h₂ ▸ Nat.le_min.mpr ⟨short, fits d brought⟩
          body := h₃ ▸ body
          json := h₄ ▸ readable.1
          candidates := h₄ ▸ readable.candidates }

theorem Template.kept_reconcile {t after : Template} {now : DateTime} {accepted : List MergeTag}
    (done : t.reconcile now accepted = .done () after) :
    after.id = t.id ∧ after.typeId = t.typeId ∧ after.name = t.name := by
  have step := (TemplateCall.reconcile now accepted).run_step rfl t
  rw [TemplateCall.run, done] at step
  exact step.kept

/-- A short code is its identifier in double braces. -/
theorem ShortCode.text_eq_iff {code : ShortCode} {identifier : String} :
    code.text = "\x7b\x7b" ++ identifier ++ "\x7d\x7d" ↔ code.identifier = identifier := by
  rw [ShortCode.text, ofList_inBraces, String.append_left_inj, String.append_right_inj]

namespace TemplateType

variable {tt : TemplateType} {limit : Nat}

theorem Origin.named {before after : TemplateType} {t : Template} (origin : Origin before after t)
    (good : ∀ t ∈ before.templates,
      Text.trimmed t.name = t.name ∧ t.name ≠ "" ∧ t.typeId = before.id) :
    Text.trimmed t.name = t.name ∧ t.name ≠ "" ∧ t.typeId = before.id := by
  cases origin with
  | kept _ old => exact good t old
  | @created _ _ _ _ name _ _ created =>
      obtain ⟨checked, _, -, rfl⟩ := Template.create_eq_ok.mp created
      refine ⟨Text.trimmed_trimmed name, ?_, rfl⟩
      intro empty
      rw [Text.trimmed_eq_empty_iff, (checkName_eq_ok.mp checked).1] at empty
      cases empty
  | @changed t call _ sees old =>
      obtain ⟨-, typeId, name⟩ := (call.run_step sees t).kept
      rw [typeId, name]
      exact good t old
  | @reconciled old t now inside done =>
      obtain ⟨-, typeId, name⟩ := Template.kept_reconcile done
      rw [typeId, name]
      exact good old inside

theorem Step.templateNames {after : TemplateType} (step : tt.Step after)
    (distinct : (tt.templates.map Template.name).Nodup) :
    (after.templates.map Template.name).Nodup := by
  have reconciled {now : DateTime} {accepted : List MergeTag} {templates : List Template}
      (all : reconcileAll now accepted tt.templates = .ok templates) :
      (templates.map Template.name).Nodup := by
    rw [map_reconcileAll all fun _ _ done => (Template.kept_reconcile done).2.2]
    exact distinct
  cases step with
  | failed => exact distinct
  | declared _ _ all => exact reconciled all
  | retracted all => exact reconciled all
  | @added _ _ _ name _ t fresh created =>
      obtain ⟨-, _, -, rfl⟩ := Template.create_eq_ok.mp created
      exact nodup_keys_append distinct fresh
  | removed _ _ => exact distinct.sublist (List.eraseP_sublist.map _)
  | @changed call given id t found =>
      rw [map_modifyFirst_found (template_eq_ok.mp found) (call.run_step given t).kept.2.2]
      exact distinct

theorem wellFormed_blank {id : Guid} {name : String} {now : DateTime} :
    WellFormed limit ⟨id, name, [], [], now, now⟩ where
  tagNames := .nil
  tagCodes _ inside := absurd inside List.not_mem_nil
  templateNames := .nil
  trimmed _ inside := absurd inside List.not_mem_nil
  typeIds _ inside := absurd inside List.not_mem_nil
  contents _ inside := absurd inside List.not_mem_nil

/-- A call keeps a type well-formed, also where it fails, if the subject that it brings is not too
long. -/
theorem WellFormed.run (wellFormed : tt.WellFormed limit) (call : TypeCall)
    (fits : ∀ d, call.draft? = some d → d.subject.length ≤ limit) :
    (call.run tt).state.WellFormed limit := by
  have step := call.run_step tt
  have named : NamedByCode tt.acceptedTags := fun tag inside =>
    ShortCode.text_eq_iff.mp (wellFormed.tagCodes tag inside)
  have each {t : Template} (inside : t ∈ (call.run tt).state.templates) :
      Text.trimmed t.name = t.name ∧ t.name ≠ "" ∧ t.typeId = tt.id := by
    apply (step.origin inside).named
    intro old held
    obtain ⟨trimmed, solid⟩ := wellFormed.trimmed old held
    exact ⟨trimmed, solid, wellFormed.typeIds old held⟩
  exact
    { tagNames := step.tagNames wellFormed.tagNames
      tagCodes := fun tag inside => ShortCode.text_eq_iff.mpr (step.named named tag inside)
      templateNames := step.templateNames wellFormed.templateNames
      trimmed := fun t inside => ⟨(each inside).1, (each inside).2.1⟩
      typeIds := fun t inside => (each inside).2.2.trans step.id.symm
      contents := fun t inside c held => by
        apply (call.textsFrom (mem_contents.mpr ⟨t, inside, held⟩)).wellFormed fits
        intro old listed
        obtain ⟨t', inside', held'⟩ := mem_contents.mp listed
        exact wellFormed.contents t' inside' old held' }

theorem wellFormed_withTags {id : Guid} {now : DateTime} {name : String} {tags : List MergeTag}
    (created : withTags id now name tags = .ok tt) : tt.WellFormed limit :=
  withTags_keeps wellFormed_blank
    (fun tag _ wellFormed => wellFormed.run (.declareTag now tag) fun _ brought => nomatch brought)
    created

/-- Distinct names make distinct short codes. -/
theorem WellFormed.codes (wellFormed : tt.WellFormed limit) :
    (tt.acceptedTags.map MergeTag.shortCode).Nodup := by
  have names : tt.acceptedTags.map (fun tag => tag.name.text) =
      (tt.acceptedTags.map MergeTag.shortCode).map ShortCode.identifier := by
    rw [List.map_map]
    apply List.map_congr_left
    intro tag inside
    exact (ShortCode.text_eq_iff.mp (wellFormed.tagCodes tag inside)).symm
  have distinct := wellFormed.tagNames
  rw [names] at distinct
  exact distinct.of_map ShortCode.identifier

end TemplateType

end MailMerge
