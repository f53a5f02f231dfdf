import MailMerge.Proofs.TagCoherence
/-!
Declaring and retracting tags on types that are built by calls. All tags of all contents are resolved
anew, but that cannot fail: every source was read once, and whether it can be read does not depend on
the accepted tags. What comes of it differs from what was there by the one tag only.
-/

set_option autoImplicit false

namespace MailMerge

section Mentioned

variable {source : String} {accepted : List MergeTag} {tag : MergeTag}

/-- One more accepted tag joins the others in the sources that mention it. -/
theorem mentioned_append : mentioned source (accepted ++ [tag]) =
    if tag.shortCode.text ∈ candidateTexts source then (mentioned source accepted).insert tag
    else mentioned source accepted := by
  rw [mentioned, mentioned, List.filter_append]
  by_cases here : tag.shortCode.text ∈ candidateTexts source
  · simp [here, Ascending.ofList, List.foldl_append]
  · simp [here]

theorem mentioned_erase (distinct : accepted.Nodup) :
    mentioned source (accepted.erase tag) = (mentioned source accepted).filter (· != tag) := by
  apply Ascending.ext_mem
  intro other
  rw [mem_mentioned, distinct.mem_erase_iff, Ascending.mem_filter, mem_mentioned, bne_iff_ne]
  tauto

end Mentioned

namespace Content

/-- The short code is a candidate in the source of the content. -/
def Mentions (c : Content) (code : ShortCode) : Prop := code.text ∈ candidateTexts c.source

instance (c : Content) (code : ShortCode) : Decidable (c.Mentions code) :=
  inferInstanceAs (Decidable (code.text ∈ candidateTexts c.source))

/-- Adds a tag to a content that mentions it. -/
def gain (now : DateTime) (tag : MergeTag) (c : Content) : Content :=
  if c.Mentions tag.shortCode then { c with tags := c.tags.insert tag, updatedAt := now } else c

/-- Takes a tag away from a content that mentions it. -/
def lose (now : DateTime) (tag : MergeTag) (c : Content) : Content :=
  if c.Mentions tag.shortCode then
    { c with tags := c.tags.filter (· != tag), updatedAt := now }
  else c

variable {accepted : List MergeTag} {now later : DateTime} {c : Content} {tag : MergeTag}

/-- Where a tag is new, exactly the contents that mention it change. -/
theorem Resolved.setTags_append (resolved : c.Resolved accepted) (named : NamedByCode accepted)
    (fresh : tag ∉ accepted) :
    c.setTags now (mentioned c.source (accepted ++ [tag])) = c.gain now tag := by
  have absent : tag ∉ c.tags.toList := fun inside =>
    fresh ((resolved.mem_iff named tag).mp inside).1
  rw [mentioned_append, ← resolved.tags named, gain]
  by_cases here : c.Mentions tag.shortCode
  · have differs : c.tags ≠ c.tags.insert tag := by
      intro same
      rw [same] at absent
      exact absent ((Ascending.mem_insert MergeTag.key_injective).mpr (Or.inl rfl))
    have stands : tag.shortCode.text ∈ candidateTexts c.source := here
    rw [if_pos stands, if_pos here, setTags, if_neg differs]
  · have missing : tag.shortCode.text ∉ candidateTexts c.source := here
    rw [if_neg missing, if_neg here, setTags, if_pos rfl]

/-- Where a tag goes, exactly the contents that mention it change. -/
theorem Resolved.setTags_erase (resolved : c.Resolved accepted) (named : NamedByCode accepted)
    (inside : tag ∈ accepted) (distinct : accepted.Nodup) :
    c.setTags now (mentioned c.source (accepted.erase tag)) = c.lose now tag := by
  have held : tag ∈ c.tags.toList ↔ c.Mentions tag.shortCode := by
    rw [resolved.mem_iff named, Mentions, and_iff_right inside]
  rw [mentioned_erase distinct, ← resolved.tags named, lose]
  by_cases here : c.Mentions tag.shortCode
  · have differs : c.tags ≠ c.tags.filter (· != tag) := by
      intro same
      have still := held.mpr here
      rw [same, Ascending.mem_filter] at still
      simp at still
    rw [if_pos here, setTags, if_neg differs]
  · have same : c.tags = c.tags.filter (· != tag) := by
      apply Ascending.ext
      symm
      rw [Ascending.filter, List.filter_eq_self]
      intro other listed
      rw [bne_iff_ne]
      rintro rfl
      exact here (held.mp listed)
    rw [if_neg here, setTags, if_pos same]

theorem tags_lose_gain (absent : tag ∉ c.tags.toList) :
    ((c.gain now tag).lose later tag).tags = c.tags := by
  rw [gain]
  by_cases here : c.Mentions tag.shortCode
  · have still : Mentions { c with tags := c.tags.insert tag, updatedAt := now } tag.shortCode :=
      here
    rw [if_pos here, lose, if_pos still]
    apply Ascending.ext_mem
    intro other
    rw [Ascending.mem_filter, Ascending.mem_insert MergeTag.key_injective, bne_iff_ne]
    constructor
    · rintro ⟨rfl | old, differs⟩
      · exact absurd rfl differs
      · exact old
    · intro old
      exact ⟨Or.inr old, fun same => absent (same ▸ old)⟩
  · rw [if_neg here, lose, if_neg here]

end Content

namespace TemplateType

variable {tt : TemplateType} {now later : DateTime} {tag : MergeTag}

/-- The type after some calls, of which each may succeed or fail. -/
def after (calls : List TypeCall) (tt : TemplateType) : TemplateType :=
  calls.foldl (fun tt call => (call.run tt).state) tt

/-- A type that is created and then changed by calls. -/
def Reached (tt : TemplateType) : Prop :=
  ∃ id now name start, create id now name = .ok start ∧ ∃ calls, tt = start.after calls

/-- A type in which every tag is where it belongs, and no two tags have the same name. -/
structure Settled (tt : TemplateType) : Prop where
  coherent : tt.Coherent
  tagNames : (tt.acceptedTags.map fun tag => tag.name.text).Nodup

theorem Settled.run (settled : tt.Settled) (call : TypeCall) : (call.run tt).state.Settled where
  coherent := (call.run_step tt).coherent settled.coherent
  tagNames := (call.run_step tt).tagNames settled.tagNames

theorem Settled.after (calls : List TypeCall) (settled : tt.Settled) :
    (tt.after calls).Settled := by
  induction calls generalizing tt with
  | nil => exact settled
  | cons call calls ih => exact ih (settled.run call)

theorem Reached.settled (reached : tt.Reached) : tt.Settled := by
  obtain ⟨id, now, name, start, created, calls, rfl⟩ := reached
  have first : start.Settled := by
    refine ⟨coherent_create created, ?_⟩
    obtain ⟨-, rfl⟩ := create_eq_ok.mp created
    exact .nil
  exact first.after calls

/-- The type with other accepted tags, where every content has changed in one way. -/
def retagged (now : DateTime) (accepted : List MergeTag) (change : Content → Content)
    (tt : TemplateType) : TemplateType :=
  { tt with
    acceptedTags := accepted
    templates := tt.templates.map fun t => { t with contents := t.contents.map change }
    updatedAt := now }

/-- The tags of all contents of all templates, in order. -/
def contentTags (tt : TemplateType) : List (List TagSet) :=
  tt.templates.map fun t => t.contents.map Content.tags

theorem retagged_congr {accepted : List MergeTag} {f g : Content → Content}
    (same : ∀ t ∈ tt.templates, ∀ c ∈ t.contents, f c = g c) :
    tt.retagged now accepted f = tt.retagged now accepted g := by
  have templates : (tt.templates.map fun t => { t with contents := t.contents.map f }) =
      tt.templates.map fun t => { t with contents := t.contents.map g } := by
    apply List.map_congr_left
    intro t inside
    rw [List.map_congr_left (same t inside)]
  rw [retagged, retagged, templates]

theorem retagged_retagged {accepted other : List MergeTag} {f g : Content → Content} :
    (tt.retagged now accepted f).retagged later other g = tt.retagged later other (g ∘ f) := by
  simp [retagged]

theorem contentTags_retagged {accepted : List MergeTag} {f : Content → Content}
    (keeps : ∀ t ∈ tt.templates, ∀ c ∈ t.contents, (f c).tags = c.tags) :
    (tt.retagged now accepted f).contentTags = tt.contentTags := by
  rw [contentTags, retagged, List.map_map, contentTags]
  apply List.map_congr_left
  intro t inside
  rw [Function.comp_apply, List.map_map]
  exact List.map_congr_left (keeps t inside)

/-- Tags can be replaced by any that are named by their short codes. -/
theorem Coherent.replaceTags {α : Type} (coherent : tt.Coherent) {accepted : List MergeTag}
    (named : NamedByCode accepted) (answer : α) :
    tt.replaceTags now accepted answer = .done answer
      (tt.retagged now accepted fun c => c.setTags now (mentioned c.source accepted)) := by
  have each : ∀ t ∈ tt.templates, t.reconcile now accepted = .done ()
      { t with contents := t.contents.map fun c => c.setTags now (mentioned c.source accepted) } := by
    intro t inside
    have all : (t.contents.mapM fun c => MailMerge.contentTags c.source accepted) =
        .ok (t.contents.map fun c => mentioned c.source accepted) := by
      rw [mapM_eq_ok_iff, List.forall₂_map_right_iff, List.forall₂_same]
      intro c held
      exact contentTags_readable (readable_of_contentTags (coherent.resolved t inside c held)) named
    rw [Template.reconcile, all, Outcome.check_ok, List.zipWith_map_right, List.zipWith_self]
  have all := reconcileAll_eq_ok_iff.mpr
    (List.forall₂_map_right_iff.mpr (List.forall₂_same.mpr each))
  rw [TemplateType.replaceTags, all]
  rfl

/-- A tag can be declared if it is named by its short code and its name is not taken. -/
def Declarable (tt : TemplateType) (tag : MergeTag) : Prop :=
  tag.shortCode.identifier = tag.name.text ∧ ∀ t ∈ tt.acceptedTags, t.name.text ≠ tag.name.text

theorem Declarable.fresh (declarable : tt.Declarable tag) : tag ∉ tt.acceptedTags :=
  fun inside => declarable.2 tag inside rfl

theorem declareTag_refused (now : DateTime) (refused : ¬tt.Declarable tag) :
    ∃ e, tt.declareTag now tag = .failed e tt ∧ ∀ reason, e ≠ .references reason := by
  rw [declareTag]
  by_cases named : tag.shortCode.identifier = tag.name.text
  · have taken : (tt.acceptedTags.any fun t => t.name.text == tag.name.text) = true := by
      by_contra free
      refine refused ⟨named, fun t inside same => free ?_⟩
      exact List.any_eq_true.mpr ⟨t, inside, beq_iff_eq.mpr same⟩
    rw [if_neg (not_not_intro named), if_pos taken]
    refine ⟨_, rfl, ?_⟩
    rintro _ ⟨⟩
  · rw [if_pos named]
    refine ⟨_, rfl, ?_⟩
    rintro _ ⟨⟩

theorem Settled.declareTag (settled : tt.Settled) (now : DateTime)
    (declarable : tt.Declarable tag) :
    tt.declareTag now tag =
      .done () (tt.retagged now (tt.acceptedTags ++ [tag]) (Content.gain now tag)) := by
  have coherent := settled.coherent
  have named := coherent.named.append declarable.1
  have free : ¬(tt.acceptedTags.any fun t => t.name.text == tag.name.text) = true := by
    rw [List.any_eq_true]
    rintro ⟨t, inside, same⟩
    exact declarable.2 t inside (beq_iff_eq.mp same)
  rw [TemplateType.declareTag, if_neg (not_not_intro declarable.1), if_neg free,
    coherent.replaceTags named]
  congr 1
  apply retagged_congr
  intro t inside c held
  exact (coherent.resolved t inside c held).setTags_append coherent.named declarable.fresh

theorem retractTag_refused {name : String} (unknown : ∀ tag ∈ tt.acceptedTags, tag.name.text ≠ name) :
    tt.retractTag now name = .failed (.notFound (.tag name)) tt := by
  have missing : (tt.acceptedTags.find? fun t => t.name.text == name) = none := by
    rw [List.find?_eq_none]
    intro t inside same
    exact unknown t inside (beq_iff_eq.mp same)
  rw [retractTag, missing]

theorem Settled.retractTag (settled : tt.Settled) (now : DateTime)
    (accepted : tag ∈ tt.acceptedTags) :
    tt.retractTag now tag.name.text =
      .done tag (tt.retagged now (tt.acceptedTags.erase tag) (Content.lose now tag)) := by
  have coherent := settled.coherent
  have distinct : tt.acceptedTags.Nodup := settled.tagNames.of_map _
  have found := find?_key settled.tagNames accepted
  have erased := eraseP_key settled.tagNames accepted
  have named : NamedByCode (tt.acceptedTags.erase tag) := fun other inside =>
    coherent.named other (List.mem_of_mem_erase inside)
  rw [TemplateType.retractTag, found]
  dsimp only
  rw [erased, coherent.replaceTags named]
  congr 1
  apply retagged_congr
  intro t inside c held
  exact (coherent.resolved t inside c held).setTags_erase coherent.named accepted distinct

/-- A tag that was just declared can be retracted at any time, and nothing of it stays. -/
theorem Settled.retract_declared (settled : tt.Settled) (declarable : tt.Declarable tag) :
    ∃ undone, (tt.declareTag now tag).state.retractTag later tag.name.text = .done tag undone ∧
      undone.acceptedTags = tt.acceptedTags ∧ undone.contentTags = tt.contentTags := by
  have declared := settled.declareTag now declarable
  have still := settled.run (.declareTag now tag)
  rw [TypeCall.run, declared] at still
  have accepted : tag ∈ tt.acceptedTags ++ [tag] := List.mem_append_right _ List.mem_cons_self
  rw [declared]
  refine ⟨_, still.retractTag later accepted, ?_, ?_⟩
  · change (tt.acceptedTags ++ [tag]).erase tag = tt.acceptedTags
    rw [List.erase_append_right _ declarable.fresh, List.erase_cons_head, List.append_nil]
  · change ((tt.retagged now _ _).retagged later _ _).contentTags = tt.contentTags
    rw [retagged_retagged]
    apply contentTags_retagged
    intro t inside c held
    apply Content.tags_lose_gain
    intro known
    have resolved := settled.coherent.resolved t inside c held
    exact declarable.fresh ((resolved.mem_iff settled.coherent.named tag).mp known).1

theorem Settled.declares (settled : tt.Settled) (now : DateTime) (tag : MergeTag) :
    ((tt.declareTag now tag).answer = .ok () ↔ tt.Declarable tag) ∧
      (∀ reason, (tt.declareTag now tag).answer ≠ .error (.references reason)) ∧
      (tt.Declarable tag → (tt.declareTag now tag).state =
        tt.retagged now (tt.acceptedTags ++ [tag]) (Content.gain now tag)) := by
  by_cases declarable : tt.Declarable tag
  · rw [settled.declareTag now declarable]
    exact ⟨⟨fun _ => declarable, fun _ => rfl⟩, nofun, fun _ => rfl⟩
  · obtain ⟨e, failed, solid⟩ := declareTag_refused now declarable
    rw [failed]
    refine ⟨⟨nofun, fun fine => absurd fine declarable⟩, ?_, fun fine => absurd fine declarable⟩
    intro reason same
    exact solid reason (Except.error.inj same)

theorem Settled.retracts (settled : tt.Settled) (now : DateTime) (name : String) :
    ((∃ tag, (tt.retractTag now name).answer = .ok tag) ↔
        ∃ tag ∈ tt.acceptedTags, tag.name.text = name) ∧
      (∀ reason, (tt.retractTag now name).answer ≠ .error (.references reason)) ∧
      ∀ tag ∈ tt.acceptedTags, tag.name.text = name → tt.retractTag now name =
        .done tag (tt.retagged now (tt.acceptedTags.erase tag) (Content.lose now tag)) := by
  by_cases known : ∃ tag ∈ tt.acceptedTags, tag.name.text = name
  · obtain ⟨tag, accepted, rfl⟩ := known
    have retracted := settled.retractTag now accepted
    refine ⟨⟨fun _ => ⟨tag, accepted, rfl⟩, fun _ => ⟨tag, by rw [retracted]; rfl⟩⟩, ?_, ?_⟩
    · rw [retracted]
      exact nofun
    · intro other inside same
      rw [← same]
      exact settled.retractTag now inside
  · have unknown : ∀ tag ∈ tt.acceptedTags, tag.name.text ≠ name := fun tag accepted same =>
      known ⟨tag, accepted, same⟩
    rw [retractTag_refused unknown]
    refine ⟨⟨nofun, fun found => absurd found known⟩, nofun, ?_⟩
    intro tag accepted same
    exact absurd same (unknown tag accepted)

/-- Declaring and retracting tags succeeds on every type that is reached by calls unless the tag
itself speaks against it. Apart from the accepted tags, exactly the contents change that mention the
tag, and what was declared can be undone. -/
theorem tag_changes_total_exact (reached : tt.Reached) (now : DateTime) :
    (∀ tag,
      ((tt.declareTag now tag).answer = .ok () ↔ tt.Declarable tag) ∧
      (∀ reason, (tt.declareTag now tag).answer ≠ .error (.references reason)) ∧
      (tt.Declarable tag → (tt.declareTag now tag).state =
        tt.retagged now (tt.acceptedTags ++ [tag]) (Content.gain now tag))) ∧
    (∀ name,
      ((∃ tag, (tt.retractTag now name).answer = .ok tag) ↔
        ∃ tag ∈ tt.acceptedTags, tag.name.text = name) ∧
      (∀ reason, (tt.retractTag now name).answer ≠ .error (.references reason)) ∧
      ∀ tag ∈ tt.acceptedTags, tag.name.text = name → tt.retractTag now name =
        .done tag (tt.retagged now (tt.acceptedTags.erase tag) (Content.lose now tag))) ∧
    ∀ tag later, tt.Declarable tag → ∃ undone,
      (tt.declareTag now tag).state.retractTag later tag.name.text = .done tag undone ∧
        undone.acceptedTags = tt.acceptedTags ∧ undone.contentTags = tt.contentTags := by
  have settled := reached.settled
  refine ⟨settled.declares now, settled.retracts now, ?_⟩
  intro tag later declarable
  exact settled.retract_declared declarable

/-- A draft that mentions no tag. -/
def plainDraft : Draft := ⟨"en", "Hello", "<p>Hello</p>", "[]", false⟩

/-- Two contents join a type without tags; the first mentions one. -/
def welcomeCalls : List TypeCall :=
  [.addTemplate ⟨2⟩ ⟨3⟩ .epoch "Hello" Template.ciao, .addContent ⟨2⟩ ⟨4⟩ .epoch plainDraft]

/-- What the calls come to. -/
def welcomes : TemplateType :=
  ⟨⟨1⟩, "Mails", [],
    [⟨⟨2⟩, ⟨1⟩, "Hello",
      [{ Desk.greeting with tags := Ascending.empty },
        ⟨⟨4⟩, "en", "Hello", "<p>Hello</p>", "[]", Ascending.empty, false, .epoch, .epoch⟩],
      .epoch, .epoch⟩],
    .epoch, .epoch⟩

/-- The day after. -/
def nextDay : DateTime := ⟨⟨1970, 1, 2, by decide⟩, .midnight⟩

/-- What the type is like when the tag has been declared. -/
def taggedWelcomes : TemplateType :=
  ⟨⟨1⟩, "Mails", [Desk.nameTag],
    [⟨⟨2⟩, ⟨1⟩, "Hello",
      [{ Desk.greeting with updatedAt := nextDay },
        ⟨⟨4⟩, "en", "Hello", "<p>Hello</p>", "[]", Ascending.empty, false, .epoch, .epoch⟩],
      .epoch, .epoch⟩],
    .epoch, nextDay⟩

theorem welcomes_tag_undone :
    (welcomes.declareTag nextDay Desk.nameTag).state = taggedWelcomes ∧
      ∃ undone, taggedWelcomes.retractTag nextDay "name" = .done Desk.nameTag undone ∧
        undone.acceptedTags = [] ∧ undone.contentTags = [[Ascending.empty, Ascending.empty]] := by
  have created : create ⟨1⟩ .epoch "Mails" = .ok ⟨⟨1⟩, "Mails", [], [], .epoch, .epoch⟩ := by
    decide +kernel
  have reached : welcomes.Reached :=
    ⟨⟨1⟩, .epoch, "Mails", _, created, welcomeCalls, by decide +kernel⟩
  have declarable : welcomes.Declarable Desk.nameTag := ⟨rfl, nofun⟩
  obtain ⟨declares, -, undoes⟩ := tag_changes_total_exact reached nextDay
  have tagged : (welcomes.declareTag nextDay Desk.nameTag).state = taggedWelcomes := by
    rw [(declares Desk.nameTag).2.2 declarable]
    decide +kernel
  obtain ⟨undone, retracted, accepted, tags⟩ := undoes Desk.nameTag nextDay declarable
  rw [tagged] at retracted
  exact ⟨tagged, undone, retracted, accepted, tags⟩

end TemplateType

end MailMerge
