import MailMerge.Proofs.Extraction
import MailMerge.Proofs.Lookup
import MailMerge.Proofs.Revisions
import MailMerge.Proofs.WellFormed
/-!
What one draft changes in a template. Adding a content and replacing one are told in one way: which
content there is afterwards, what becomes of the default, and that all else stays as it was. Whether
a draft can be set is told from the draft alone.
-/

set_option autoImplicit false

namespace MailMerge

theorem Outcome.eq_done {σ ε α : Type} {o : Outcome σ ε α} {a : α} (answered : o.answer = .ok a) :
    o = .done a o.state := by
  cases o
  cases answered
  rfl

/-- A draft that can be set. -/
structure Draft.Settable (d : Draft) : Prop where
  culture : isCultureCode d.culture = true
  subject : Text.isBlank d.subject = false
  subject_length : d.subject.length ≤ maxSubjectLength
  body : Text.isBlank d.body = false
  json : Json.isValid d.source = true
  codes : ∀ text ∈ candidateTexts d.source, ∃ code : ShortCode, code.text = text

theorem Draft.settable_iff {d : Draft} (accepted : List MergeTag) :
    d.Settable ↔ d.check = .ok () ∧ ∃ tags, contentTags d.source accepted = .ok tags := by
  have tags : (∃ tags, contentTags d.source accepted = .ok tags) ↔ ReadableSource d.source := by
    rw [← @isOk_resolveTags_iff d.source accepted]
    exact exists_congr fun tags => mapError_eq_ok
  rw [tags, readableSource_iff, Draft.check_eq_ok]
  constructor
  · rintro ⟨culture, subject, short, body, json, codes⟩
    exact ⟨⟨culture, subject, short, body⟩, json, codes⟩
  · rintro ⟨⟨culture, subject, short, body⟩, json, codes⟩
    exact ⟨culture, subject, short, body, json, codes⟩

namespace Content

variable {now : DateTime} {d : Draft}

/-- The content that loses the default has its flag cleared and its time set. Nothing else changes. -/
theorem beside_eq_ite (c : Content) : c.beside now d =
    if d.isDefault = true ∧ c.isDefault = true then
      { c with isDefault := false, updatedAt := now }
    else c := by
  rw [beside, setDefault]
  cases d.isDefault <;> cases c.isDefault <;> rfl

theorem map_beside_ordinary (ordinary : d.isDefault = false) (contents : List Content) :
    contents.map (beside now d) = contents := by
  refine (List.map_congr_left fun c _ => ?_).trans (List.map_id contents)
  rw [beside, ordinary]
  rfl

theorem find?_map_beside (asked : d.isDefault = true) (contents : List Content) :
    (contents.map (beside now d)).find? Content.isDefault = none := by
  rw [List.find?_eq_none]
  intro c inside
  obtain ⟨c', -, rfl⟩ := List.mem_map.mp inside
  rw [beside, if_pos asked, setDefault_isDefault]
  exact Bool.false_ne_true

end Content

namespace Template

/-- What a template is after a draft has been set in it, and `c` has been answered. -/
structure Revised (contentId : Guid) (now : DateTime) (d : Draft) (accepted : List MergeTag)
    (t after : Template) (c : Content) : Prop where
  /-- Only the contents and the time of the change are others. -/
  rest : after = { t with contents := after.contents, updatedAt := now }
  /-- The content is found for the culture of the draft. -/
  found : after.find? d.culture = some c
  /-- It says what the draft says. -/
  texts : c.texts = d.texts
  tags : resolveTags d.source accepted = .ok c.tags
  updated : c.updatedAt = now
  /-- It has its place, its id and its time of creation from the old content, if there was one. -/
  kept : ∀ old, t.find? d.culture = some old → c.id = old.id ∧ c.createdAt = old.createdAt ∧
    c.isDefault = (d.isDefault || old.isDefault) ∧
    ∃ front back, t.contents = front ++ old :: back ∧
      (∀ other ∈ front, other.culture ≠ d.culture) ∧
      after.contents = front.map (Content.beside now d) ++ c :: back.map (Content.beside now d)
  /-- Otherwise it is new and stands behind all others. -/
  appended : t.find? d.culture = none → c.id = contentId ∧ c.createdAt = now ∧
    c.isDefault = (d.isDefault || t.contents.isEmpty) ∧
    after.contents = t.contents.map (Content.beside now d) ++ [c]
  /-- It becomes the default if the draft asks for it, or if there were no contents. -/
  taken : d.isDefault = true ∨ t.contents = [] → after.defaultContent = some c
  /-- Otherwise the default is the same content as before, with what the draft says if it was that
  for its culture. -/
  left : ¬(d.isDefault = true ∨ t.contents = []) → after.defaultContent =
    t.defaultContent.map fun old => if t.find? d.culture = some old then c else old

variable {t after : Template} {contentId : Guid} {now : DateTime} {d : Draft}
  {accepted : List MergeTag} {c : Content}

/-- The default of contents in which one is replaced that keeps its flag. -/
theorem find?_replaced {front back : List Content} {old : Content}
    (others : ∀ other ∈ front, other ≠ old) (flag : c.isDefault = old.isDefault) :
    (front ++ c :: back).find? Content.isDefault =
      ((front ++ old :: back).find? Content.isDefault).map fun x =>
        if some old = some x then c else x := by
  rw [List.find?_append, List.find?_append]
  cases early : front.find? Content.isDefault with
  | some x =>
      have differs := others x (List.mem_of_find?_eq_some early)
      rw [Option.some_or, Option.some_or, Option.map_some, if_neg]
      exact fun same => differs (Option.some.inj same).symm
  | none =>
      -- The new content is found where the old one was; behind it `old` cannot be found again.
      rw [Option.none_or, Option.none_or, List.find?_cons, List.find?_cons, flag]
      cases default : old.isDefault with
      | true => simp
      | false =>
          cases late : back.find? Content.isDefault with
          | none => simp
          | some x =>
              have flag' := List.find?_some late
              have differs : old ≠ x := by
                rintro rfl
                rw [default] at flag'
                cases flag'
              simp [differs]

theorem revised_of_set {old : Content} {tags : TagSet} (present : t.find? d.culture = some old)
    (resolved : contentTags d.source accepted = .ok tags)
    (ran : t.upsertContent contentId now d accepted = .done (old.apply now d tags)
      { t with
        contents := replaced now d (old.apply now d tags) t.contents
        updatedAt := now }) :
    t.Revised contentId now d accepted
      { t with
        contents := replaced now d (old.apply now d tags) t.contents
        updatedAt := now }
      (old.apply now d tags) := by
  obtain ⟨front, back, parts, here, before⟩ := split_of_find? present
  have changed : replaced now d (old.apply now d tags) t.contents = _ :=
    (congrArg _ parts).trans (replaced_eq here before)
  have named := (find?_culture present).2
  have others : ∀ other ∈ front, other.culture ≠ d.culture := by simpa using before
  have started : t.contents ≠ [] := by simp [parts]
  refine
    { rest := rfl
      found := content_eq_ok.mp (content_upsertContent ran).2.1
      texts := by simp [Content.texts, Draft.texts, Content.apply, named]
      tags := mapError_eq_ok.mp resolved
      updated := rfl
      kept := ?_
      appended := fun absent => by rw [present] at absent; cases absent
      taken := ?_
      left := ?_ }
  · rintro _ same
    cases present.symm.trans same
    exact ⟨rfl, rfl, rfl, front, back, parts, others, changed⟩
  · intro asked
    have asked := asked.resolve_right started
    have flag : (old.apply now d tags).isDefault = true := by simp [Content.apply, asked]
    rw [defaultContent, changed, List.find?_append, Content.find?_map_beside asked, Option.none_or,
      List.find?_cons_of_pos flag]
  · intro quiet
    have ordinary : d.isDefault = false := by simpa using (not_or.mp quiet).1
    have flag : (old.apply now d tags).isDefault = old.isDefault := by
      simp [Content.apply, ordinary]
    rw [defaultContent, changed, Content.map_beside_ordinary ordinary,
      Content.map_beside_ordinary ordinary, present, defaultContent, parts]
    refine find?_replaced ?_ flag
    rintro other inside rfl
    exact others other inside named

/-- A new content that joins a template is the default if it asks for it, or if it is the first. -/
theorem settle_ofDraft (t : Template) (made : Content.ofDraft contentId now d accepted = .ok c) :
    ∃ tags, contentTags d.source accepted = .ok tags ∧ t.settle now c =
      ⟨contentId, d.culture, d.subject, d.body, d.source, tags, d.isDefault || t.contents.isEmpty,
        now, now⟩ := by
  obtain ⟨-, tags, resolved, rfl⟩ := Content.ofDraft_eq_ok.mp made
  refine ⟨tags, resolved, ?_⟩
  rw [settle, Content.setDefault]
  cases t.contents.isEmpty <;> cases d.isDefault <;> rfl

theorem contents_insert (flag : c.isDefault = (d.isDefault || t.contents.isEmpty)) :
    (t.insert now c).contents = t.contents.map (Content.beside now d) ++ [c] := by
  rw [insert, flag]
  cases started : t.contents with
  | nil => simp [clearDefault]
  | cons first others =>
      rw [List.isEmpty_cons, Bool.or_false, cleared_eq_map]

theorem revised_of_add (absent : t.find? d.culture = none)
    (made : Content.ofDraft contentId now d accepted = .ok c)
    (ran : t.addContent contentId now d accepted =
      .done (t.settle now c) (t.insert now (t.settle now c))) :
    t.Revised contentId now d accepted (t.insert now (t.settle now c)) (t.settle now c) := by
  have found := content_eq_ok.mp (content_addContent ran).2.1
  obtain ⟨tags, resolved, settled⟩ := settle_ofDraft t made
  have flag : (t.settle now c).isDefault = (d.isDefault || t.contents.isEmpty) := by rw [settled]
  have changed : (t.insert now (t.settle now c)).contents = _ := contents_insert flag
  refine
    { rest := rfl
      found := found
      texts := by rw [settled]; rfl
      tags := by rw [settled]; exact mapError_eq_ok.mp resolved
      updated := by rw [settled]
      kept := fun old present => by rw [absent] at present; cases present
      appended := fun _ => ⟨by rw [settled], by rw [settled], flag, changed⟩
      taken := ?_
      left := ?_ }
  · intro asked
    have default : (t.settle now c).isDefault = true := by
      rw [flag]
      simpa using asked
    have others : (t.contents.map (Content.beside now d)).find? Content.isDefault = none := by
      rcases asked with asked | empty
      · exact Content.find?_map_beside asked t.contents
      · rw [empty]
        rfl
    rw [defaultContent, changed, List.find?_append, others, Option.none_or,
      List.find?_cons_of_pos default]
  · intro quiet
    obtain ⟨ordinary, started⟩ : d.isDefault = false ∧ t.contents ≠ [] := by simpa using quiet
    have default : ¬(t.settle now c).isDefault = true := by
      rw [flag]
      simpa [ordinary] using started
    rw [defaultContent, changed, Content.map_beside_ordinary ordinary, List.find?_append,
      List.find?_cons_of_neg default, List.find?_nil, Option.or_none, absent, defaultContent]
    simp

/-- What a successful call makes of a template, for both ways to set a draft. -/
theorem revised_addContent (done : t.addContent contentId now d accepted = .done c after) :
    t.find? d.culture = none ∧ t.Revised contentId now d accepted after c := by
  rcases t.addContent_cases contentId now d accepted with ⟨e, failed⟩ | ⟨new, absent, made, ran⟩
  · rw [failed] at done
    cases done
  · obtain ⟨rfl, rfl⟩ := Outcome.done_inj (ran.symm.trans done)
    exact ⟨absent, revised_of_add absent made ran⟩

theorem revised_upsertContent (done : t.upsertContent contentId now d accepted = .done c after) :
    t.Revised contentId now d accepted after c := by
  cases present : t.find? d.culture with
  | none =>
      rw [upsertContent_absent present] at done
      exact (revised_addContent done).2
  | some old =>
      rcases upsertContent_cases contentId now accepted present with
        ⟨e, failed⟩ | ⟨tags, -, resolved, ran⟩
      · rw [failed] at done
        cases done
      · obtain ⟨rfl, rfl⟩ := Outcome.done_inj (ran.symm.trans done)
        exact revised_of_set present resolved ran

theorem addContent_done_iff (absent : t.find? d.culture = none) :
    (∃ c after, t.addContent contentId now d accepted = .done c after) ↔ d.Settable := by
  rw [Draft.settable_iff accepted]
  constructor
  · rintro ⟨c, after, done⟩
    rcases t.addContent_cases contentId now d accepted with ⟨e, failed⟩ | ⟨new, -, made, -⟩
    · rw [failed] at done
      cases done
    · obtain ⟨checked, tags, resolved, -⟩ := Content.ofDraft_eq_ok.mp made
      exact ⟨checked, tags, resolved⟩
  · rintro ⟨checked, tags, resolved⟩
    rw [addContent, absent, Content.ofDraft_eq_ok.mpr ⟨checked, tags, resolved, rfl⟩]
    exact ⟨_, _, rfl⟩

theorem upsertContent_done_iff :
    (∃ c after, t.upsertContent contentId now d accepted = .done c after) ↔ d.Settable := by
  cases present : t.find? d.culture with
  | none =>
      rw [upsertContent_absent present]
      exact addContent_done_iff present
  | some old =>
      rw [Draft.settable_iff accepted]
      constructor
      · rintro ⟨c, after, done⟩
        rcases upsertContent_cases contentId now accepted present with
          ⟨e, failed⟩ | ⟨tags, checked, resolved, -⟩
        · rw [failed] at done
          cases done
        · exact ⟨checked, tags, resolved⟩
      · rintro ⟨checked, tags, resolved⟩
        rw [upsertContent, present, checked, resolved]
        exact ⟨_, _, rfl⟩

/-- A draft that is set changes the first content for its culture, or adds one behind the others, and
clears the flag of what it takes the default from; all else stays. Whether it can be set depends on
its texts alone, not on the accepted tags, the flag or the template; adding asks for a culture that
the template does not have yet. -/
theorem draft_set_exactly (t : Template) (contentId : Guid) (now : DateTime) (d : Draft)
    (accepted : List MergeTag) :
    (∀ c after, t.addContent contentId now d accepted = .done c after →
        t.find? d.culture = none ∧ t.Revised contentId now d accepted after c) ∧
      (∀ c after, t.upsertContent contentId now d accepted = .done c after →
        t.Revised contentId now d accepted after c) ∧
      (∀ other : Content, other.beside now d =
        if d.isDefault = true ∧ other.isDefault = true then
          { other with isDefault := false, updatedAt := now }
        else other) ∧
      ((∃ c after, t.upsertContent contentId now d accepted = .done c after) ↔ d.Settable) ∧
      (t.find? d.culture = none →
        ((∃ c after, t.addContent contentId now d accepted = .done c after) ↔ d.Settable)) :=
  ⟨fun _ _ => revised_addContent, fun _ _ => revised_upsertContent, Content.beside_eq_ite,
    upsertContent_done_iff, addContent_done_iff⟩

/-- A day on which drafts are set. -/
def leapDay : DateTime := ⟨⟨2024, 2, 29, by decide⟩, .midnight⟩

/-- Accepted tags; the sample source refers to the second one. -/
def sumAndName : List MergeTag := [sumTag, Desk.nameTag]

/-- What the stored content for Italian becomes on that day. -/
def ciaoContent : Content :=
  ⟨⟨5⟩, "it", "Ciao {{name}}", "<p>Ciao</p>", "[\"{{name}}\"]", Ascending.ofList [Desk.nameTag],
    true, .epoch, leapDay⟩

theorem ciao_set :
    ∃ after, twoDefaults.upsertContent ⟨6⟩ leapDay ciao sumAndName = .done ciaoContent after ∧
      resolveTags ciao.source sumAndName = .ok (Ascending.ofList [Desk.nameTag]) ∧
      after.defaultContent = some ciaoContent ∧
      (∃ front back, twoDefaults.contents = front ++ storedContent 5 "it" false :: back ∧
        after.contents = front.map (Content.beside leapDay ciao) ++
          ciaoContent :: back.map (Content.beside leapDay ciao)) ∧
      (storedContent 4 "en" true).beside leapDay ciao =
        { storedContent 4 "en" false with updatedAt := leapDay } ∧
      ∃ c after, twoDefaults.addContent ⟨6⟩ leapDay { ciao with culture := "fr" } sumAndName =
        .done c after := by
  have ran := Outcome.eq_done (o := twoDefaults.upsertContent ⟨6⟩ leapDay ciao sumAndName)
    (a := ciaoContent) (by decide +kernel)
  obtain ⟨-, upserted, others, settable, -⟩ :=
    draft_set_exactly twoDefaults ⟨6⟩ leapDay ciao sumAndName
  have revised := upserted _ _ ran
  obtain ⟨-, -, -, front, back, parts, -, changed⟩ :=
    revised.kept (storedContent 5 "it" false) (by decide +kernel)
  obtain ⟨culture, subject, short, body, json, codes⟩ := settable.mp ⟨_, _, ran⟩
  obtain ⟨-, -, -, -, added⟩ :=
    draft_set_exactly twoDefaults ⟨6⟩ leapDay { ciao with culture := "fr" } sumAndName
  refine ⟨_, ran, revised.tags, revised.taken (Or.inl rfl), ⟨front, back, parts, changed⟩, others _,
    ?_⟩
  exact (added (by decide +kernel)).mpr ⟨by decide +kernel, subject, short, body, json, codes⟩

end Template

end MailMerge
