import MailMerge.Proofs.SingleDefault
import MailMerge.Proofs.TypeCalls
/-!
What is looked up after a call that has succeeded: the template or content that the call returned,
or nothing where a content was removed.
-/

set_option autoImplicit false

namespace MailMerge

theorem Outcome.done_inj {σ ε α : Type} {a b : α} {s t : σ}
    (same : (.done a s : Outcome σ ε α) = .done b t) : a = b ∧ s = t := by
  cases same
  exact ⟨rfl, rfl⟩

namespace Template

variable {t after : Template} {now : DateTime} {c : Content}

theorem content_eq_ok {culture : String} :
    t.content culture = .ok c ↔ t.find? culture = some c := by
  rw [content]
  split <;> simp [*]

theorem content_insert (t : Template) (now : DateTime) {c : Content}
    (fresh : c.culture ∉ t.cultures) : (t.insert now c).content c.culture = .ok c := by
  have others : (if c.isDefault then clearDefault now t.contents else t.contents).find?
      (fun other => other.culture == c.culture) = none := by
    rw [List.find?_eq_none]
    intro other inside same
    have kept : other.culture ∈ t.cultures := by
      split at inside
      · have same : (clearDefault now t.contents).map Content.culture = t.cultures :=
          map_culture_clearDefault
        exact same ▸ List.mem_map_of_mem inside
      · exact List.mem_map_of_mem inside
    rw [eq_of_beq same] at kept
    exact fresh kept
  rw [content_eq_ok, find?, insert, List.find?_append, others, Option.none_or]
  simp

theorem content_addContent {contentId : Guid} {d : Draft} {accepted : List MergeTag}
    (done : t.addContent contentId now d accepted = .done c after) :
    after.id = t.id ∧ after.content d.culture = .ok c ∧ c.culture = d.culture := by
  rcases t.addContent_cases contentId now d accepted with
    ⟨e, failed⟩ | ⟨new, absent, made, ran⟩
  · rw [failed] at done
    cases done
  · obtain ⟨rfl, rfl⟩ := Outcome.done_inj (ran.symm.trans done)
    have named : (t.settle now new).culture = d.culture := by
      obtain ⟨-, tags, -, rfl⟩ := Content.ofDraft_eq_ok.mp made
      exact settle_culture _
    refine ⟨rfl, ?_, named⟩
    rw [← named]
    exact content_insert t now (named ▸ not_mem_cultures absent)

/-- The content that was set is found for its culture. -/
theorem content_upsertContent {contentId : Guid} {d : Draft} {accepted : List MergeTag}
    (done : t.upsertContent contentId now d accepted = .done c after) :
    after.id = t.id ∧ after.content d.culture = .ok c ∧ c.culture = d.culture := by
  cases present : t.find? d.culture with
  | none =>
      rw [upsertContent_absent present] at done
      exact content_addContent done
  | some old =>
      rcases upsertContent_cases contentId now accepted present with
        ⟨e, failed⟩ | ⟨tags, -, -, ran⟩
      · rw [failed] at done
        cases done
      · obtain ⟨rfl, rfl⟩ := Outcome.done_inj (ran.symm.trans done)
        have same : (old.apply now d tags).culture = d.culture := (find?_culture present).2
        refine ⟨rfl, ?_, same⟩
        rw [content_eq_ok, find?, replaced]
        by_cases asked : d.isDefault = true
        · have cleared : (clearDefault now t.contents).find? (fun c => c.culture == d.culture) =
              some (old.setDefault now false) := by
            have test : (fun c : Content => c.culture == d.culture) ∘ Content.setDefault now false =
                fun c => c.culture == d.culture := by
              funext c
              simp
            rw [clearDefault, List.find?_map, test, show t.contents.find? _ = some old from present]
            rfl
          rw [if_pos asked]
          exact find?_modifyFirst cleared (by simp [same])
        · rw [if_neg asked]
          exact find?_modifyFirst present (by simp [same])

/-- The content that was removed was found before, and no content for its culture is left. -/
theorem content_removeContent {culture : String} (distinct : t.cultures.Nodup)
    (done : t.removeContent now culture = .done c after) :
    after.id = t.id ∧ t.content culture = .ok c ∧ culture ∉ after.cultures := by
  rcases t.removeContent_cases now culture with
    ⟨e, failed⟩ | ⟨old, present, -, ran⟩
  · rw [failed] at done
    cases done
  · obtain ⟨rfl, rfl⟩ := Outcome.done_inj (ran.symm.trans done)
    refine ⟨rfl, content_eq_ok.mpr present, ?_⟩
    have named := (find?_culture present).2
    obtain ⟨front, back, parts, here, before⟩ := split_of_find? present
    rw [cultures, parts, List.map_append, List.map_cons, List.nodup_middle, named,
      List.nodup_cons] at distinct
    rw [cultures, parts, eraseP_append before here, List.map_append]
    exact distinct.1

end Template

namespace TemplateType

variable {tt after : TemplateType} {now : DateTime}

theorem template_id {id : Guid} {t : Template} (found : tt.template id = .ok t) : t.id = id := by
  simpa using List.find?_some (template_eq_ok.mp found)

theorem template_mem {id : Guid} {t : Template} (found : tt.template id = .ok t) :
    t ∈ tt.templates := List.mem_of_find?_eq_some (template_eq_ok.mp found)

/-- A template is found under its id once it was added, if the id is new. -/
theorem template_addTemplate {id contentId : Guid} {name : String} {d : Draft} {t : Template}
    (fresh : ∀ old ∈ tt.templates, old.id ≠ id)
    (done : tt.addTemplate id contentId now name d = .done t after) :
    after.template t.id = .ok t := by
  rcases tt.addTemplate_cases id contentId now name d with ⟨e, failed⟩ | ⟨new, -, created, ran⟩
  · rw [failed] at done
    cases done
  · obtain ⟨rfl, rfl⟩ := Outcome.done_inj (ran.symm.trans done)
    have named : new.id = id := by
      obtain ⟨-, _, -, rfl⟩ := Template.create_eq_ok.mp created
      rfl
    have others : tt.templates.find? (fun old => old.id == new.id) = none := by
      rw [List.find?_eq_none, named]
      intro old inside same
      exact fresh old inside (eq_of_beq same)
    rw [template_eq_ok, List.find?_append, others, Option.none_or]
    simp

/-- An operation on a template turns the template that is found before into the one that is found
afterwards. -/
theorem template_onTemplate {α : Type} {id : Guid}
    {op : Template → Outcome Template TemplateError α} {a : α}
    (done : tt.onTemplate id op = .done a after) :
    ∃ t changed, tt.template id = .ok t ∧ op t = .done a changed ∧
      (changed.id = t.id → after.template id = .ok changed) := by
  rcases tt.onTemplate_cases id op with ⟨e, failed⟩ | ⟨t, found, ran⟩
  · rw [failed] at done
    cases done
  · rw [ran, Outcome.within, Outcome.done, Outcome.mk.injEq] at done
    obtain ⟨answered, rfl⟩ := done
    refine ⟨t, (op t).state, found, ?_, ?_⟩
    · rw [Outcome.done, ← answered]
    · intro same
      rw [template_eq_ok]
      exact find?_modifyFirst (template_eq_ok.mp found) (by simp [same, template_id found])

end TemplateType

end MailMerge
