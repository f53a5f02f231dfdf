import MailMerge.Proofs.Lists
import MailMerge.Template.Basic
/-!
Calls on a template, one after the other. What a call can do is said once, by `Step`, and every
invariant of templates follows from that.
-/

set_option autoImplicit false

namespace MailMerge

/-- The same outcome without its answer. -/
def Outcome.forget {σ ε α : Type} (o : Outcome σ ε α) : Outcome σ ε Unit :=
  ⟨o.answer.map fun _ => (), o.state⟩

@[simp] theorem Outcome.forget_state {σ ε α : Type} (o : Outcome σ ε α) :
    o.forget.state = o.state := rfl

/-- A call that changes a template, with the time, the new id and the accepted tags that it is
given. -/
inductive TemplateCall where
  | addContent (contentId : Guid) (now : DateTime) (d : Draft) (accepted : List MergeTag)
  | upsertContent (contentId : Guid) (now : DateTime) (d : Draft) (accepted : List MergeTag)
  | removeContent (now : DateTime) (culture : String)
  | reconcile (now : DateTime) (accepted : List MergeTag)

/-- What a call comes to. -/
def TemplateCall.run : TemplateCall → Template → Outcome Template TemplateError Unit
  | addContent contentId now d accepted, t => (t.addContent contentId now d accepted).forget
  | upsertContent contentId now d accepted, t => (t.upsertContent contentId now d accepted).forget
  | removeContent now culture, t => (t.removeContent now culture).forget
  | reconcile now accepted, t => t.reconcile now accepted

namespace Content

variable {now : DateTime}

@[simp] theorem setDefault_isDefault (flag : Bool) (c : Content) :
    (c.setDefault now flag).isDefault = flag := by
  rw [setDefault]
  split
  · assumption
  · rfl

@[simp] theorem setDefault_culture (flag : Bool) (c : Content) :
    (c.setDefault now flag).culture = c.culture := by
  rw [setDefault]
  split <;> rfl

@[simp] theorem setDefault_source (flag : Bool) (c : Content) :
    (c.setDefault now flag).source = c.source := by
  rw [setDefault]
  split <;> rfl

@[simp] theorem setDefault_tags (flag : Bool) (c : Content) :
    (c.setDefault now flag).tags = c.tags := by
  rw [setDefault]
  split <;> rfl

theorem setDefault_same {flag : Bool} {c : Content} (same : c.isDefault = flag) :
    c.setDefault now flag = c := by
  rw [setDefault, if_pos same]

@[simp] theorem setTags_isDefault (tags : TagSet) (c : Content) :
    (c.setTags now tags).isDefault = c.isDefault := by
  rw [setTags]
  split <;> rfl

@[simp] theorem setTags_culture (tags : TagSet) (c : Content) :
    (c.setTags now tags).culture = c.culture := by
  rw [setTags]
  split <;> rfl

@[simp] theorem setTags_source (tags : TagSet) (c : Content) :
    (c.setTags now tags).source = c.source := by
  rw [setTags]
  split <;> rfl

@[simp] theorem setTags_tags (tags : TagSet) (c : Content) : (c.setTags now tags).tags = tags := by
  rw [setTags]
  split
  · assumption
  · rfl

theorem ofDraft_eq_ok {id : Guid} {d : Draft} {accepted : List MergeTag} {c : Content} :
    ofDraft id now d accepted = .ok c ↔ d.check = .ok () ∧ ∃ tags,
      contentTags d.source accepted = .ok tags ∧
      c = ⟨id, d.culture, d.subject, d.body, d.source, tags, d.isDefault, now, now⟩ := by
  rw [ofDraft]
  cases d.check with
  | error e => exact ⟨nofun, fun h => nomatch h.1⟩
  | ok =>
      cases contentTags d.source accepted with
      | error e => exact ⟨nofun, fun ⟨_, _, h, _⟩ => nomatch h⟩
      | ok tags =>
          constructor
          · rintro ⟨⟩
            exact ⟨rfl, tags, rfl, rfl⟩
          · rintro ⟨-, _, ⟨⟩, rfl⟩
            rfl

end Content

namespace Template

variable {t : Template} {contentId : Guid} {now : DateTime} {d : Draft} {accepted : List MergeTag}

/-! What each call can do: it fails and leaves the template as it is, or its conditions are met and
the contents change in one way. -/

theorem create_eq_ok {id typeId : Guid} {name : String} :
    create id contentId now typeId name d accepted = .ok t ↔ checkName name = .ok () ∧ ∃ c,
      Content.ofDraft contentId now d accepted = .ok c ∧
      t = ⟨id, typeId, Text.trimmed name, [c.setDefault now true], now, now⟩ := by
  have only (c : Content) : insert now (settle now ⟨id, typeId, Text.trimmed name, [], now, now⟩ c)
      ⟨id, typeId, Text.trimmed name, [], now, now⟩ =
      ⟨id, typeId, Text.trimmed name, [c.setDefault now true], now, now⟩ := by
    simp [insert, settle, clearDefault]
  simp only [create, bind_eq_ok, only]
  constructor
  · rintro ⟨_, named, c, made, ⟨⟩⟩
    exact ⟨named, c, made, rfl⟩
  · rintro ⟨named, c, made, rfl⟩
    exact ⟨_, named, c, made, rfl⟩

theorem addContent_cases (t : Template) (contentId : Guid) (now : DateTime) (d : Draft)
    (accepted : List MergeTag) :
    (∃ e, t.addContent contentId now d accepted = .failed e t) ∨
      ∃ c, t.find? d.culture = none ∧ Content.ofDraft contentId now d accepted = .ok c ∧
        t.addContent contentId now d accepted =
          .done (t.settle now c) (t.insert now (t.settle now c)) := by
  rw [addContent]
  cases t.find? d.culture with
  | some old => exact Or.inl ⟨_, rfl⟩
  | none =>
      cases made : Content.ofDraft contentId now d accepted with
      | error e => exact Or.inl ⟨e, rfl⟩
      | ok c => exact Or.inr ⟨c, rfl, rfl, rfl⟩

theorem upsertContent_absent (absent : t.find? d.culture = none) :
    t.upsertContent contentId now d accepted = t.addContent contentId now d accepted := by
  rw [upsertContent, absent]

/-- The contents after a content for a culture has been set. -/
def replaced (now : DateTime) (d : Draft) (applied : Content) (contents : List Content) :
    List Content :=
  modifyFirst (fun c => c.culture == d.culture) (fun _ => applied)
    (if d.isDefault then clearDefault now contents else contents)

theorem upsertContent_cases (contentId : Guid) (now : DateTime) (accepted : List MergeTag)
    {old : Content} (present : t.find? d.culture = some old) :
    (∃ e, t.upsertContent contentId now d accepted = .failed e t) ∨
      ∃ tags, d.check = .ok () ∧ contentTags d.source accepted = .ok tags ∧
        t.upsertContent contentId now d accepted = .done (old.apply now d tags)
          { t with
            contents := replaced now d (old.apply now d tags) t.contents
            updatedAt := now } := by
  rw [upsertContent, present]
  cases d.check with
  | error e => exact Or.inl ⟨e, rfl⟩
  | ok =>
      cases resolved : contentTags d.source accepted with
      | error e => exact Or.inl ⟨e, rfl⟩
      | ok tags => exact Or.inr ⟨tags, rfl, rfl, rfl⟩

theorem removeContent_cases (t : Template) (now : DateTime) (culture : String) :
    (∃ e, t.removeContent now culture = .failed e t) ∨
      ∃ c, t.find? culture = some c ∧ (c.isDefault = true → t.contents.length ≤ 1) ∧
        t.removeContent now culture = .done c
          { t with
            contents := t.contents.eraseP fun c => c.culture == culture
            updatedAt := now } := by
  rw [removeContent]
  cases t.find? culture with
  | none => exact Or.inl ⟨_, rfl⟩
  | some c =>
      by_cases blocked : (c.isDefault && decide (1 < t.contents.length)) = true
      · exact Or.inl ⟨_, if_pos blocked⟩
      · refine Or.inr ⟨c, rfl, ?_, if_neg blocked⟩
        intro default
        rw [default, Bool.true_and, decide_eq_true_eq] at blocked
        omega

theorem reconcile_cases (t : Template) (now : DateTime) (accepted : List MergeTag) :
    (∃ e, t.reconcile now accepted = .failed e t) ∨
      ∃ resolved,
        List.Forall₂ (fun c tags => contentTags c.source accepted = .ok tags) t.contents resolved ∧
        t.reconcile now accepted = .done ()
          { t with
            contents := List.zipWith (fun c tags => c.setTags now tags) t.contents resolved } := by
  rw [reconcile]
  cases resolved : t.contents.mapM fun c => contentTags c.source accepted with
  | error e => exact Or.inl ⟨e, rfl⟩
  | ok tags => exact Or.inr ⟨tags, mapM_eq_ok_iff.mp resolved, rfl⟩

/-- What a call that is given some accepted tags makes of a template. A call that fails leaves the
template as it is. -/
inductive Step (accepted : List MergeTag) (t : Template) : Template → Prop where
  | failed : Step accepted t t
  | added {contentId : Guid} {now : DateTime} {d : Draft} {c : Content}
      (absent : t.find? d.culture = none)
      (made : Content.ofDraft contentId now d accepted = .ok c) :
      Step accepted t (t.insert now (t.settle now c))
  | set {now : DateTime} {d : Draft} {old : Content} {tags : TagSet}
      (present : t.find? d.culture = some old)
      (resolved : contentTags d.source accepted = .ok tags) :
      Step accepted t
        { t with
          contents := replaced now d (old.apply now d tags) t.contents
          updatedAt := now }
  | removed {now : DateTime} {culture : String} {c : Content} (present : t.find? culture = some c)
      (last : c.isDefault = true → t.contents.length ≤ 1) :
      Step accepted t
        { t with
          contents := t.contents.eraseP fun c => c.culture == culture
          updatedAt := now }
  | reconciled {now : DateTime} {resolved : List TagSet}
      (all : List.Forall₂ (fun c tags => contentTags c.source accepted = .ok tags) t.contents
        resolved) :
      Step accepted t
        { t with contents := List.zipWith (fun c tags => c.setTags now tags) t.contents resolved }

/-- No call changes what a template is called or whose it is. -/
theorem Step.kept {after : Template} (step : t.Step accepted after) :
    after.id = t.id ∧ after.typeId = t.typeId ∧ after.name = t.name := by
  cases step <;> exact ⟨rfl, rfl, rfl⟩

theorem step_addContent (t : Template) (contentId : Guid) (now : DateTime) (d : Draft)
    (accepted : List MergeTag) :
    t.Step accepted (t.addContent contentId now d accepted).state := by
  rcases t.addContent_cases contentId now d accepted with ⟨e, failed⟩ | ⟨c, absent, made, done⟩
  · rw [failed]
    exact .failed
  · rw [done]
    exact .added absent made

end Template

namespace TemplateCall

/-- The call is given these accepted tags, if it is given any. -/
def Sees (accepted : List MergeTag) : TemplateCall → Prop
  | addContent _ _ _ given => given = accepted
  | upsertContent _ _ _ given => given = accepted
  | removeContent _ _ => True
  | reconcile _ given => given = accepted

theorem sees (call : TemplateCall) : ∃ accepted, call.Sees accepted := by
  cases call with
  | removeContent now culture => exact ⟨[], trivial⟩
  | _ => exact ⟨_, rfl⟩

theorem run_step (call : TemplateCall) {accepted : List MergeTag} (given : call.Sees accepted)
    (t : Template) : t.Step accepted (call.run t).state := by
  cases call with
  | addContent contentId now d seen =>
      subst given
      exact t.step_addContent contentId now d seen
  | upsertContent contentId now d seen =>
      subst given
      cases present : t.find? d.culture with
      | none =>
          rw [run, Template.upsertContent_absent present]
          exact t.step_addContent contentId now d seen
      | some old =>
          rcases Template.upsertContent_cases contentId now seen present with
            ⟨e, failed⟩ | ⟨tags, -, resolved, done⟩
          · rw [run, failed]
            exact .failed
          · rw [run, done]
            exact .set present resolved
  | removeContent now culture =>
      rcases t.removeContent_cases now culture with ⟨e, failed⟩ | ⟨c, present, last, done⟩
      · rw [run, failed]
        exact .failed
      · rw [run, done]
        exact .removed present last
  | reconcile now seen =>
      subst given
      rcases t.reconcile_cases now seen with ⟨e, failed⟩ | ⟨resolved, all, done⟩
      · rw [run, failed]
        exact .failed
      · rw [run, done]
        exact .reconciled all

end TemplateCall

end MailMerge
