import MailMerge.Proofs.TemplateCalls
import Mathlib.Data.List.Nodup
/-!
One default and one content per culture. Each way to change the contents of a template sets the
flags on its own; together they keep exactly one default, from whatever contents a template starts.
-/

set_option autoImplicit false

namespace MailMerge

/-- No contents, or exactly one default among them. -/
def SingleDefault (contents : List Content) : Prop :=
  contents = [] ∨ contents.countP Content.isDefault = 1

section Flags

variable {now : DateTime} {contents : List Content}

theorem SingleDefault.of_flags {changed : List Content} (single : SingleDefault contents)
    (same : changed.map Content.isDefault = contents.map Content.isDefault) :
    SingleDefault changed := by
  rcases single with none | one
  · subst none
    exact Or.inl (List.map_eq_nil_iff.mp same)
  · right
    have counted (cs : List Content) :
        cs.countP Content.isDefault = (cs.map Content.isDefault).count true := by
      rw [List.count, List.countP_map]
      congr 1
      funext c
      simp
    rw [counted, same, ← counted, one]

theorem SingleDefault.of_mem {c : Content} (single : SingleDefault contents)
    (inside : c ∈ contents) : contents.countP Content.isDefault = 1 := by
  rcases single with none | one
  · rw [none] at inside
    cases inside
  · exact one

/-- The default is found exactly in contents that are not empty. -/
theorem SingleDefault.default_iff (single : SingleDefault contents) :
    (contents.find? Content.isDefault).isSome = true ↔ contents ≠ [] := by
  rcases single with none | one
  · simp [none]
  · have present : 0 < contents.countP Content.isDefault := by omega
    obtain ⟨c, inside, default⟩ := List.countP_pos_iff.mp present
    have found : (contents.find? Content.isDefault).isSome = true :=
      List.find?_isSome.mpr ⟨c, inside, default⟩
    exact ⟨fun _ => List.ne_nil_of_mem inside, fun _ => found⟩

@[simp] theorem countP_clearDefault :
    (Template.clearDefault now contents).countP Content.isDefault = 0 := by
  rw [Template.clearDefault, List.countP_map, List.countP_eq_zero]
  intro c _
  simp

@[simp] theorem map_culture_clearDefault :
    (Template.clearDefault now contents).map Content.culture = contents.map Content.culture := by
  simp [Template.clearDefault]

theorem clearDefault_same (none : contents.countP Content.isDefault = 0) :
    Template.clearDefault now contents = contents := by
  rw [List.countP_eq_zero] at none
  calc contents.map (Content.setDefault now false)
      = contents.map id := List.map_congr_left fun c inside =>
        Content.setDefault_same (by simpa using none c inside)
    _ = contents := List.map_id contents

/-- A content that joins a template is the default of its first contents, or takes the default over,
or leaves it where it is. -/
theorem SingleDefault.append {c : Content} (single : SingleDefault contents)
    (first : contents = [] → c.isDefault = true) :
    SingleDefault
      ((if c.isDefault then Template.clearDefault now contents else contents) ++ [c]) := by
  right
  by_cases default : c.isDefault = true
  · rw [if_pos default, List.countP_append, countP_clearDefault, List.countP_singleton,
      if_pos default]
  · have present : contents ≠ [] := fun none => default (first none)
    have one := single.resolve_left present
    rw [if_neg default, List.countP_append, one, List.countP_singleton, if_neg default]

theorem countP_keepFirstDefault (some : contents.any Content.isDefault = true) :
    (Template.keepFirstDefault now contents).countP Content.isDefault = 1 := by
  induction contents with
  | nil => cases some
  | cons c rest ih =>
      rw [Template.keepFirstDefault]
      by_cases default : c.isDefault = true
      · rw [if_pos default, List.countP_cons_of_pos default, countP_clearDefault]
      · rw [if_neg default, List.countP_cons_of_neg default]
        apply ih
        simpa [default] using some

theorem keepFirstDefault_same (one : contents.countP Content.isDefault = 1) :
    Template.keepFirstDefault now contents = contents := by
  induction contents with
  | nil => rfl
  | cons c rest ih =>
      rw [Template.keepFirstDefault]
      by_cases default : c.isDefault = true
      · rw [List.countP_cons_of_pos default] at one
        rw [if_pos default, clearDefault_same (by omega)]
      · rw [List.countP_cons_of_neg default] at one
        rw [if_neg default, ih one]

/-- Loaded contents have one default, whatever flags were stored. -/
theorem normalizeDefault_single : SingleDefault (Template.normalizeDefault now contents) := by
  unfold Template.normalizeDefault
  split
  · next some => exact Or.inr (countP_keepFirstDefault some)
  · next none =>
      cases contents with
      | nil => exact Or.inl rfl
      | cons c rest =>
          right
          have others : rest.countP Content.isDefault = 0 := by
            rw [List.countP_eq_zero]
            intro other inside default
            exact none (List.any_eq_true.mpr ⟨other, List.mem_cons_of_mem c inside, default⟩)
          rw [List.countP_cons_of_pos (Content.setDefault_isDefault true c), others]

/-- Contents that have one default are loaded as they are. -/
theorem normalizeDefault_same (single : SingleDefault contents) :
    Template.normalizeDefault now contents = contents := by
  rcases single with none | one
  · subst none
    rfl
  · have some : contents.any Content.isDefault = true := by
      have present : 0 < contents.countP Content.isDefault := by omega
      exact List.any_eq_true.mpr (List.countP_pos_iff.mp present)
    unfold Template.normalizeDefault
    rw [if_pos some, keepFirstDefault_same one]

end Flags

namespace Template

variable {t : Template} {now : DateTime} {d : Draft}

theorem find?_culture {culture : String} {c : Content} (found : t.find? culture = some c) :
    c ∈ t.contents ∧ c.culture = culture :=
  ⟨List.mem_of_find?_eq_some found, by simpa using List.find?_some found⟩

theorem not_mem_cultures {culture : String} (absent : t.find? culture = none) :
    culture ∉ t.cultures := by
  intro present
  obtain ⟨c, inside, same⟩ := List.mem_map.mp present
  have differs := List.find?_eq_none.mp absent c inside
  simp [same] at differs

theorem settle_first (c : Content) (none : t.contents = []) :
    (t.settle now c).isDefault = true := by
  simp [settle, none]

@[simp] theorem settle_culture (c : Content) : (t.settle now c).culture = c.culture := by
  rw [settle]
  split <;> simp

theorem insert_single (c : Content) (single : SingleDefault t.contents) :
    SingleDefault (t.insert now (t.settle now c)).contents :=
  single.append (settle_first c)

theorem cultures_insert (c : Content) :
    (t.insert now c).cultures = t.cultures ++ [c.culture] := by
  rw [cultures, cultures, insert, List.map_append]
  split <;> simp

/-- The content that replaces an old one is the default if the draft asks for it, and otherwise if
the old one was. -/
theorem replaced_single {old : Content} {tags : TagSet}
    (present : t.find? d.culture = some old) (single : SingleDefault t.contents) :
    SingleDefault (replaced now d (old.apply now d tags) t.contents) := by
  have one := single.of_mem (find?_culture present).1
  obtain ⟨front, back, parts, here, before⟩ := split_of_find? present
  rw [parts] at one ⊢
  rw [List.countP_append] at one
  right
  by_cases asked : d.isDefault = true
  · have applied : (old.apply now d tags).isDefault = true := by simp [Content.apply, asked]
    have before' : ∀ c ∈ clearDefault now front, (c.culture == d.culture) = false := by
      intro c inside
      obtain ⟨c', inside', rfl⟩ := List.mem_map.mp inside
      simpa using before c' inside'
    have cleared : clearDefault now (front ++ old :: back) =
        clearDefault now front ++ old.setDefault now false :: clearDefault now back := by
      simp [clearDefault]
    rw [replaced, if_pos asked, cleared, modifyFirst_append before' (by simpa using here),
      List.countP_append, countP_clearDefault, List.countP_cons_of_pos applied, countP_clearDefault]
  · have applied : (old.apply now d tags).isDefault = old.isDefault := by
      simp [Content.apply, asked]
    rw [replaced, if_neg asked, modifyFirst_append before here, List.countP_append,
      List.countP_cons, applied, ← List.countP_cons, one]

theorem map_culture_replaced {old : Content} {tags : TagSet}
    (present : t.find? d.culture = some old) :
    (replaced now d (old.apply now d tags) t.contents).map Content.culture = t.cultures := by
  have same : (old.apply now d tags).culture = d.culture := (find?_culture present).2
  rw [replaced, map_modifyFirst]
  · split <;> simp [cultures]
  · intro c matching
    rw [same]
    exact (by simpa using matching : c.culture = d.culture).symm

theorem eraseP_single {culture : String} {c : Content} (present : t.find? culture = some c)
    (last : c.isDefault = true → t.contents.length ≤ 1) (single : SingleDefault t.contents) :
    SingleDefault (t.contents.eraseP fun c => c.culture == culture) := by
  have one := single.of_mem (find?_culture present).1
  obtain ⟨front, back, parts, here, before⟩ := split_of_find? present
  have rest : (t.contents.eraseP fun c => c.culture == culture) = front ++ back := by
    rw [parts, eraseP_append before here]
  rw [rest]
  by_cases default : c.isDefault = true
  · have short := last default
    rw [parts, List.length_append, List.length_cons] at short
    left
    apply List.eq_nil_of_length_eq_zero
    rw [List.length_append]
    omega
  · right
    rw [parts, List.countP_append, List.countP_cons_of_neg default, ← List.countP_append] at one
    exact one

theorem map_zipWith_setTags {β : Type} (now : DateTime) {g : Content → β} {contents : List Content}
    {resolved : List TagSet} {accepted : List MergeTag}
    (keeps : ∀ tags c, g (Content.setTags now tags c) = g c)
    (all : List.Forall₂ (fun c tags => contentTags c.source accepted = .ok tags) contents
      resolved) :
    (List.zipWith (fun c tags => c.setTags now tags) contents resolved).map g =
      contents.map g := by
  induction all with
  | nil => rfl
  | cons _ _ ih => rw [List.zipWith_cons_cons, List.map_cons, List.map_cons, ih, keeps]

theorem Step.single {accepted : List MergeTag} {after : Template} (step : t.Step accepted after)
    (single : SingleDefault t.contents) : SingleDefault after.contents := by
  cases step with
  | failed => exact single
  | added _ _ => exact insert_single _ single
  | set present _ => exact replaced_single present single
  | removed present last => exact eraseP_single present last single
  | reconciled all => exact single.of_flags (map_zipWith_setTags _ Content.setTags_isDefault all)

theorem Step.cultures {accepted : List MergeTag} {after : Template} (step : t.Step accepted after)
    (distinct : t.cultures.Nodup) : after.cultures.Nodup := by
  cases step with
  | failed => exact distinct
  | @added _ now d c absent made =>
      obtain ⟨-, tags, -, rfl⟩ := Content.ofDraft_eq_ok.mp made
      have fresh : d.culture ∉ t.cultures := not_mem_cultures absent
      rw [cultures_insert, settle_culture]
      exact distinct.append (List.nodup_singleton _) (by simpa using fresh)
  | set present _ =>
      rw [Template.cultures]
      simpa only [map_culture_replaced present] using distinct
  | removed _ _ => exact distinct.sublist (List.eraseP_sublist.map Content.culture)
  | reconciled all =>
      rw [Template.cultures, map_zipWith_setTags _ Content.setTags_culture all]
      exact distinct

end Template

namespace TemplateCall

/-- Every call keeps the one default, also where it fails. -/
theorem run_single (call : TemplateCall) {t : Template} (single : SingleDefault t.contents) :
    SingleDefault (call.run t).state.contents := by
  obtain ⟨accepted, given⟩ := call.sees
  exact (call.run_step given t).single single

/-- Every call keeps the cultures distinct. -/
theorem run_cultures (call : TemplateCall) {t : Template} (distinct : t.cultures.Nodup) :
    (call.run t).state.cultures.Nodup := by
  obtain ⟨accepted, given⟩ := call.sees
  exact (call.run_step given t).cultures distinct

end TemplateCall

namespace Template

/-- The template after some calls, of which each may succeed or fail. -/
def after (calls : List TemplateCall) (t : Template) : Template :=
  calls.foldl (fun t call => (call.run t).state) t

/-- A template as it can come into being: it is created, or made of any parts. -/
inductive Built : Template → Prop where
  | create {id contentId : Guid} {now : DateTime} {typeId : Guid} {name : String} {d : Draft}
      {accepted : List MergeTag} {t : Template}
      (created : create id contentId now typeId name d accepted = .ok t) : Built t
  | ofParts (now : DateTime) (id typeId : Guid) (name : String) (contents : List Content)
      (createdAt updatedAt : DateTime) :
      Built (ofParts now id typeId name contents createdAt updatedAt)

theorem create_contents {t : Template} {id contentId : Guid} {now : DateTime} {typeId : Guid}
    {name : String} {d : Draft} {accepted : List MergeTag}
    (created : create id contentId now typeId name d accepted = .ok t) :
    ∃ c : Content, t.contents = [c.setDefault now true] := by
  obtain ⟨-, c, -, rfl⟩ := create_eq_ok.mp created
  exact ⟨c, rfl⟩

theorem Built.single {t : Template} (built : t.Built) : SingleDefault t.contents := by
  cases built with
  | create created =>
      obtain ⟨c, only⟩ := create_contents created
      rw [only]
      exact Or.inr (by simp)
  | ofParts => exact normalizeDefault_single

theorem after_single (calls : List TemplateCall) {t : Template}
    (single : SingleDefault t.contents) : SingleDefault (t.after calls).contents := by
  induction calls generalizing t with
  | nil => exact single
  | cons call calls ih => exact ih (call.run_single single)

theorem after_cultures (calls : List TemplateCall) {t : Template} (distinct : t.cultures.Nodup) :
    (t.after calls).cultures.Nodup := by
  induction calls generalizing t with
  | nil => exact distinct
  | cons call calls ih => exact ih (call.run_cultures distinct)

/-- After every run of calls a template has no contents or exactly one default, which is found
exactly if there are contents, and its cultures are distinct if they were so at the start. A created
template starts with distinct cultures. -/
theorem single_default_distinct_cultures {start : Template} (built : start.Built)
    (calls : List TemplateCall) :
    ((start.after calls).contents = [] ∨
        (start.after calls).contents.countP Content.isDefault = 1) ∧
      ((start.after calls).defaultContent.isSome = true ↔ (start.after calls).contents ≠ []) ∧
      (start.cultures.Nodup → (start.after calls).cultures.Nodup) ∧
      ∀ id contentId now typeId name d accepted,
        create id contentId now typeId name d accepted = .ok start → start.cultures.Nodup := by
  have single := after_single calls built.single
  refine ⟨single, single.default_iff, after_cultures calls, ?_⟩
  intro id contentId now typeId name d accepted created
  obtain ⟨c, only⟩ := create_contents created
  rw [cultures, only]
  exact List.nodup_singleton _

/-- A content as it may be stored, with any flag. -/
def storedContent (id : Nat) (culture : String) (isDefault : Bool) : Content :=
  ⟨⟨BitVec.ofNat 128 id⟩, culture, "Hi", "<p>Hi</p>", "[]", Ascending.empty, isDefault, .epoch,
    .epoch⟩

/-- A template that was stored with two defaults. -/
def twoDefaults : Template :=
  ofParts .epoch ⟨1⟩ ⟨2⟩ "Welcome"
    [storedContent 3 "de" false, storedContent 4 "en" true, storedContent 5 "it" true] .epoch .epoch

/-- A draft that asks for the default. -/
def ciao : Draft := ⟨"it", "Ciao {{name}}", "<p>Ciao</p>", "[\"{{name}}\"]", true⟩

theorem twoDefaults_settled :
    (twoDefaults.after [.removeContent .epoch "en", .upsertContent ⟨6⟩ .epoch ciao [],
        .removeContent .epoch "en"]).contents.countP Content.isDefault = 1 ∧
      (twoDefaults.after [.removeContent .epoch "en", .upsertContent ⟨6⟩ .epoch ciao [],
        .removeContent .epoch "en"]).cultures.Nodup := by
  obtain ⟨single, -, distinct, -⟩ := single_default_distinct_cultures
    (.ofParts .epoch ⟨1⟩ ⟨2⟩ "Welcome"
      [storedContent 3 "de" false, storedContent 4 "en" true, storedContent 5 "it" true]
      .epoch .epoch)
    [.removeContent .epoch "en", .upsertContent ⟨6⟩ .epoch ciao [], .removeContent .epoch "en"]
  exact ⟨single.resolve_left (by decide +kernel), distinct (by decide +kernel)⟩

end Template

end MailMerge
