import MailMerge.Proofs.SingleDefault
/-!
Runs of drafts that are set one after the other. A template keeps one content per culture, founded by
the first draft for it and written by the last one, and its default is the last one that was asked
for. What the template is after a run is told from the run alone, and one more draft keeps it so.
-/

set_option autoImplicit false

namespace MailMerge

/-- A draft as it is set at some time, with the id that a new content would get. -/
structure Revision where
  contentId : Guid
  now : DateTime
  draft : Draft

namespace Revision

/-- The draft is for a culture. -/
def isFor (culture : String) (r : Revision) : Bool := r.draft.culture == culture

/-- The draft passes its checks, and its source can be resolved with some accepted tags. -/
def Acceptable (accepted : List MergeTag) (r : Revision) : Prop :=
  r.draft.check = .ok () ∧ ∃ tags, contentTags r.draft.source accepted = .ok tags

/-- The culture that is the default after some revisions: that of the last one behind the first that
asks for it, or that of the first if none does. -/
def defaultCulture (first : Revision) (later : List Revision) : String :=
  ((later.reverse.find? fun r => r.draft.isDefault).getD first).draft.culture

variable {first r : Revision} {later : List Revision}

theorem defaultCulture_concat : defaultCulture first (later ++ [r]) =
    if r.draft.isDefault then r.draft.culture else defaultCulture first later := by
  rw [defaultCulture, List.reverse_concat, List.find?_cons]
  cases r.draft.isDefault <;> rfl

theorem exists_defaultCulture (first : Revision) (later : List Revision) :
    ∃ r ∈ first :: later, r.draft.culture = defaultCulture first later := by
  rw [defaultCulture]
  cases found : later.reverse.find? fun r => r.draft.isDefault with
  | none => exact ⟨first, List.mem_cons_self, rfl⟩
  | some r =>
      have inside := List.mem_reverse.mp (List.mem_of_find?_eq_some found)
      exact ⟨r, List.mem_cons_of_mem first inside, rfl⟩

end Revision

open Revision (isFor defaultCulture)

namespace Content

/-- What a content is after some revisions. -/
structure Latest (accepted : List MergeTag) (first : Revision) (later : List Revision)
    (c : Content) : Prop where
  /-- It has its id and its time of creation from the first revision for its culture. -/
  founded : ∃ r, (first :: later).find? (isFor c.culture) = some r ∧
    c.id = r.contentId ∧ c.createdAt = r.now
  /-- It says what the last revision for its culture says. -/
  written : ∃ r, (first :: later).reverse.find? (isFor c.culture) = some r ∧
    c.subject = r.draft.subject ∧ c.body = r.draft.body ∧ c.source = r.draft.source ∧
    contentTags r.draft.source accepted = .ok c.tags
  /-- It is the default exactly if its culture is that of the default. -/
  isDefault : c.isDefault = true ↔ c.culture = defaultCulture first later

/-- A content as it stays beside a draft for another culture. -/
def beside (now : DateTime) (d : Draft) (c : Content) : Content :=
  if d.isDefault then c.setDefault now false else c

theorem setDefault_eq (now : DateTime) (flag : Bool) (c : Content) : ∃ stamp,
    c.setDefault now flag = { c with isDefault := flag, updatedAt := stamp } := by
  rw [setDefault]
  split
  · next same => exact ⟨c.updatedAt, by rw [← same]⟩
  · exact ⟨now, rfl⟩

/-- Apart from the time of the change, only the flag can be another. -/
theorem beside_eq (now : DateTime) (d : Draft) (c : Content) : ∃ stamp,
    c.beside now d = { c with isDefault := !d.isDefault && c.isDefault, updatedAt := stamp } := by
  rw [beside]
  cases d.isDefault with
  | false => exact ⟨c.updatedAt, rfl⟩
  | true => exact c.setDefault_eq now false

@[simp] theorem beside_culture (now : DateTime) (d : Draft) (c : Content) :
    (c.beside now d).culture = c.culture := by
  obtain ⟨stamp, same⟩ := c.beside_eq now d
  rw [same]

variable {accepted : List MergeTag} {first r : Revision} {later : List Revision} {c : Content}
  {tags : TagSet}

theorem founded_concat {founder : Revision}
    (found : (first :: later).find? (isFor c.culture) = some founder) :
    (first :: (later ++ [r])).find? (isFor c.culture) = some founder := by
  rw [← List.cons_append, List.find?_append, found, Option.some_or]

/-- A draft for another culture leaves a content as it is, but may take the default from it. -/
theorem Latest.beside (latest : c.Latest accepted first later)
    (other : c.culture ≠ r.draft.culture) :
    (c.beside r.now r.draft).Latest accepted first (later ++ [r]) := by
  obtain ⟨founder, found, origin⟩ := latest.founded
  obtain ⟨writer, last, texts⟩ := latest.written
  obtain ⟨stamp, same⟩ := c.beside_eq r.now r.draft
  have passed : isFor c.culture r = false := by simpa [isFor] using other.symm
  rw [same]
  refine ⟨⟨founder, founded_concat found, origin⟩, ⟨writer, ?_, texts⟩, ?_⟩
  · rw [← List.cons_append, List.reverse_concat, List.find?_cons, passed]
    exact last
  · rw [Revision.defaultCulture_concat]
    cases r.draft.isDefault with
    | false => simpa using latest.isDefault
    | true => simpa using other

/-- A draft for the culture of a content is taken over. -/
theorem Latest.apply (latest : c.Latest accepted first later) (same : c.culture = r.draft.culture)
    (resolved : contentTags r.draft.source accepted = .ok tags) :
    (c.apply r.now r.draft tags).Latest accepted first (later ++ [r]) := by
  obtain ⟨founder, found, origin⟩ := latest.founded
  have here : isFor c.culture r = true := by simpa [isFor] using same.symm
  refine ⟨⟨founder, founded_concat found, origin⟩, ⟨r, ?_, rfl, rfl, rfl, resolved⟩, ?_⟩
  · rw [← List.cons_append, List.reverse_concat]
    exact List.find?_cons_of_pos here
  · rw [Revision.defaultCulture_concat]
    change (r.draft.isDefault || c.isDefault) = true ↔ c.culture = _
    cases r.draft.isDefault with
    | false => simpa using latest.isDefault
    | true => simpa using same

/-- A draft for a new culture founds a content. -/
theorem latest_ofDraft (new : ∀ earlier ∈ first :: later, earlier.draft.culture ≠ r.draft.culture)
    (made : ofDraft r.contentId r.now r.draft accepted = .ok c) :
    c.Latest accepted first (later ++ [r]) := by
  obtain ⟨-, tags, resolved, rfl⟩ := ofDraft_eq_ok.mp made
  have here : isFor r.draft.culture r = true := by simp [isFor]
  have absent : (first :: later).find? (isFor r.draft.culture) = none := by
    rw [List.find?_eq_none]
    simpa [isFor] using new
  refine ⟨⟨r, ?_, rfl, rfl⟩, ⟨r, ?_, rfl, rfl, rfl, resolved⟩, ?_⟩
  · rw [← List.cons_append, List.find?_append, absent, Option.none_or, List.find?_singleton]
    exact if_pos here
  · rw [← List.cons_append, List.reverse_concat]
    exact List.find?_cons_of_pos here
  · rw [Revision.defaultCulture_concat]
    obtain ⟨earlier, inside, default⟩ := Revision.exists_defaultCulture first later
    have differs := new earlier inside
    rw [default] at differs
    cases r.draft.isDefault with
    | false => simpa using differs.symm
    | true => simp

end Content

namespace Template

/-- What a template is after some revisions. -/
structure Latest (accepted : List MergeTag) (first : Revision) (later : List Revision)
    (t : Template) : Prop where
  /-- It has one content for every culture, in the order in which they came first. -/
  cultures : t.cultures = ((first :: later).map fun r => r.draft.culture).eraseDups
  contents : ∀ c ∈ t.contents, c.Latest accepted first later

variable {accepted : List MergeTag} {first r : Revision} {later : List Revision} {t : Template}

theorem Latest.mem_cultures (latest : t.Latest accepted first later) {culture : String} :
    culture ∈ t.cultures ↔ ∃ r ∈ first :: later, r.draft.culture = culture := by
  rw [latest.cultures, List.mem_eraseDups, List.mem_map]

theorem Latest.distinct (latest : t.Latest accepted first later) : t.cultures.Nodup := by
  rw [latest.cultures]
  exact nodup_eraseDups _

theorem cleared_eq_map (now : DateTime) (d : Draft) (contents : List Content) :
    (if d.isDefault then clearDefault now contents else contents) =
      contents.map (Content.beside now d) := by
  unfold Content.beside
  cases d.isDefault <;> simp [clearDefault]

/-- A draft replaces the first content for its culture, and all others stay beside it. -/
theorem replaced_eq {now : DateTime} {d : Draft} {old applied : Content} {front back : List Content}
    (here : (old.culture == d.culture) = true)
    (before : ∀ c ∈ front, (c.culture == d.culture) = false) :
    replaced now d applied (front ++ old :: back) =
      front.map (Content.beside now d) ++ applied :: back.map (Content.beside now d) := by
  have besides : ∀ c ∈ front.map (Content.beside now d), (c.culture == d.culture) = false := by
    simpa using before
  rw [replaced, cleared_eq_map, List.map_append, List.map_cons,
    modifyFirst_append besides (by simpa using here)]

/-- Where all cultures are different, a draft replaces one content, and all others stay beside it. -/
theorem mem_replaced {now : DateTime} {d : Draft} {old applied c : Content}
    (distinct : t.cultures.Nodup) (present : t.find? d.culture = some old)
    (inside : c ∈ replaced now d applied t.contents) :
    c = applied ∨ ∃ c' ∈ t.contents, c'.culture ≠ d.culture ∧ c = c'.beside now d := by
  obtain ⟨front, back, parts, here, before⟩ := split_of_find? present
  rw [cultures, parts, List.map_append, List.map_cons, List.nodup_middle,
    (find?_culture present).2, List.nodup_cons] at distinct
  rw [parts, replaced_eq here before] at inside
  rcases List.mem_append.mp inside with early | rest
  · obtain ⟨c', stands, rfl⟩ := List.mem_map.mp early
    exact Or.inr ⟨c', by simp [parts, stands], by simpa using before c' stands, rfl⟩
  · rcases List.mem_cons.mp rest with rfl | late
    · exact Or.inl rfl
    · obtain ⟨c', stands, rfl⟩ := List.mem_map.mp late
      refine Or.inr ⟨c', by simp [parts, stands], ?_, rfl⟩
      intro same
      exact distinct.1 (List.mem_append_right _ (same ▸ List.mem_map_of_mem stands))

/-- Where a content joins the others, they stay beside it. -/
theorem mem_insert {now : DateTime} {d : Draft} {joining c : Content}
    (flag : joining.isDefault = d.isDefault) (inside : c ∈ (t.insert now joining).contents) :
    c = joining ∨ ∃ c' ∈ t.contents, c = c'.beside now d := by
  rw [insert, flag, cleared_eq_map] at inside
  rcases List.mem_append.mp inside with old | last
  · obtain ⟨c', stands, rfl⟩ := List.mem_map.mp old
    exact Or.inr ⟨c', stands, rfl⟩
  · exact Or.inl (List.mem_singleton.mp last)

theorem Latest.cultures_concat (latest : t.Latest accepted first later) :
    ((first :: (later ++ [r])).map fun r => r.draft.culture).eraseDups =
      if r.draft.culture ∈ t.cultures then t.cultures else t.cultures ++ [r.draft.culture] := by
  rw [latest.cultures, ← List.cons_append, List.map_append, List.map_singleton, eraseDups_concat]
  simp only [List.mem_eraseDups]

/-- A template of revisions has contents, so no other becomes the default on its own. -/
theorem Latest.settle (latest : t.Latest accepted first later) (now : DateTime) (c : Content) :
    t.settle now c = c := by
  have started := latest.mem_cultures.mpr ⟨first, List.mem_cons_self, rfl⟩
  rw [Template.settle, if_neg]
  intro empty
  rw [Template.cultures, List.isEmpty_iff.mp empty] at started
  cases started

theorem Latest.upsert_absent (latest : t.Latest accepted first later)
    (acceptable : r.Acceptable accepted) (absent : t.find? r.draft.culture = none) :
    ∃ c after, t.upsertContent r.contentId r.now r.draft accepted = .done c after ∧
      after.Latest accepted first (later ++ [r]) := by
  obtain ⟨checked, tags, resolved⟩ := acceptable
  obtain ⟨c, made, flag, culture⟩ : ∃ c,
      Content.ofDraft r.contentId r.now r.draft accepted = .ok c ∧
        c.isDefault = r.draft.isDefault ∧ c.culture = r.draft.culture :=
    ⟨_, Content.ofDraft_eq_ok.mpr ⟨checked, tags, resolved, rfl⟩, rfl, rfl⟩
  have fresh : r.draft.culture ∉ t.cultures := not_mem_cultures absent
  have new : ∀ earlier ∈ first :: later, earlier.draft.culture ≠ r.draft.culture :=
    fun earlier inside same => fresh (latest.mem_cultures.mpr ⟨earlier, inside, same⟩)
  have ran : t.upsertContent r.contentId r.now r.draft accepted = .done c (t.insert r.now c) := by
    rw [upsertContent_absent absent, addContent, absent, made]
    dsimp only [Outcome.check_ok]
    rw [latest.settle]
  refine ⟨c, _, ran, ?_, ?_⟩
  · rw [cultures_insert, culture, latest.cultures_concat, if_neg fresh]
  · intro c' inside
    rcases mem_insert flag inside with rfl | ⟨old, stands, rfl⟩
    · exact Content.latest_ofDraft new made
    · have other : old.culture ≠ r.draft.culture :=
        fun same => fresh (same ▸ List.mem_map_of_mem stands)
      exact (latest.contents old stands).beside other

theorem Latest.upsert_present (latest : t.Latest accepted first later)
    (acceptable : r.Acceptable accepted) {old : Content}
    (present : t.find? r.draft.culture = some old) :
    ∃ c after, t.upsertContent r.contentId r.now r.draft accepted = .done c after ∧
      after.Latest accepted first (later ++ [r]) := by
  obtain ⟨checked, tags, resolved⟩ := acceptable
  have ran : t.upsertContent r.contentId r.now r.draft accepted =
      .done (old.apply r.now r.draft tags)
        { t with
          contents := replaced r.now r.draft (old.apply r.now r.draft tags) t.contents
          updatedAt := r.now } := by
    rw [upsertContent, present, checked, resolved]
    rfl
  obtain ⟨stands, named⟩ := find?_culture present
  have standing : r.draft.culture ∈ t.cultures := named ▸ List.mem_map_of_mem stands
  refine ⟨_, _, ran, ?_, ?_⟩
  · rw [Template.cultures, map_culture_replaced present, latest.cultures_concat, if_pos standing]
  · intro c inside
    rcases mem_replaced latest.distinct present inside with rfl | ⟨c', stands', other, rfl⟩
    · exact (latest.contents old stands).apply named resolved
    · exact (latest.contents c' stands').beside other

/-- One more draft that can be set is set, and the template is what it should be after it. -/
theorem Latest.upsert (latest : t.Latest accepted first later)
    (acceptable : r.Acceptable accepted) :
    ∃ c after, t.upsertContent r.contentId r.now r.draft accepted = .done c after ∧
      after.Latest accepted first (later ++ [r]) := by
  cases present : t.find? r.draft.culture with
  | none => exact latest.upsert_absent acceptable present
  | some old => exact latest.upsert_present acceptable present

/-- Sets the drafts of revisions in order, as long as none fails. -/
def upsertAll (accepted : List MergeTag) (revisions : List Revision) (t : Template) :
    Except TemplateError Template :=
  revisions.foldlM (fun t r =>
    (t.upsertContent r.contentId r.now r.draft accepted).toExcept.map Prod.snd) t

theorem Latest.upsertAll {revisions : List Revision} (latest : t.Latest accepted first later)
    (acceptable : ∀ r ∈ revisions, r.Acceptable accepted) :
    ∃ final, t.upsertAll accepted revisions = .ok final ∧
      final.Latest accepted first (later ++ revisions) := by
  induction revisions generalizing t later with
  | nil => exact ⟨t, rfl, by rwa [List.append_nil]⟩
  | cons r revisions ih =>
      obtain ⟨now, others⟩ := List.forall_mem_cons.mp acceptable
      obtain ⟨c, after, ran, step⟩ := latest.upsert now
      obtain ⟨final, done, reached⟩ := ih step others
      refine ⟨final, ?_, ?_⟩
      · rw [Template.upsertAll, List.foldlM_cons, ran]
        exact done
      · rwa [List.append_assoc] at reached

theorem latest_create {id typeId : Guid} {name : String}
    (created : create id first.contentId first.now typeId name first.draft accepted = .ok t) :
    t.Latest accepted first [] := by
  obtain ⟨-, c, made, rfl⟩ := create_eq_ok.mp created
  obtain ⟨-, tags, resolved, rfl⟩ := Content.ofDraft_eq_ok.mp made
  obtain ⟨stamp, same⟩ := Content.setDefault_eq first.now true
    ⟨first.contentId, first.draft.culture, first.draft.subject, first.draft.body,
      first.draft.source, tags, first.draft.isDefault, first.now, first.now⟩
  rw [same]
  refine ⟨rfl, List.forall_mem_singleton.mpr ?_⟩
  have here : [first].find? (isFor first.draft.culture) = some first := by simp [isFor]
  exact ⟨⟨first, here, rfl, rfl⟩, ⟨first, here, rfl, rfl, rfl, resolved⟩, by simp [defaultCulture]⟩

/-- The default is the content for the culture that it was asked for last. -/
theorem Latest.default (latest : t.Latest accepted first later) :
    ∃ c, t.defaultContent = some c ∧ c.culture = defaultCulture first later := by
  have standing : defaultCulture first later ∈ t.cultures :=
    latest.mem_cultures.mpr (Revision.exists_defaultCulture first later)
  obtain ⟨c, stands, named⟩ := List.mem_map.mp standing
  have flag := (latest.contents c stands).isDefault.mpr named
  cases found : t.defaultContent with
  | none => exact absurd flag (List.find?_eq_none.mp found c stands)
  | some c' =>
      have inside := latest.contents c' (List.mem_of_find?_eq_some found)
      exact ⟨c', rfl, inside.isDefault.mp (List.find?_some found)⟩

/-- Drafts that can be set one by one can be set in a row, and the last one for a culture counts. The
contents stand in the order in which their cultures came first, with the ids and times they got then;
the default is the last one that was asked for behind the first draft, or else that of the first. -/
theorem upserts_last_writer_wins (id typeId : Guid) {name : String} {accepted : List MergeTag}
    {first : Revision} {later : List Revision} (named : checkName name = .ok ())
    (acceptable : ∀ r ∈ first :: later, r.Acceptable accepted) :
    ∃ start final,
      create id first.contentId first.now typeId name first.draft accepted = .ok start ∧
        start.upsertAll accepted later = .ok final ∧
        final.cultures = ((first :: later).map fun r => r.draft.culture).eraseDups ∧
        (∀ c ∈ final.contents, c.Latest accepted first later) ∧
        ∃ c, final.defaultContent = some c ∧ c.culture = defaultCulture first later := by
  obtain ⟨⟨checked, tags, resolved⟩, others⟩ := List.forall_mem_cons.mp acceptable
  obtain ⟨start, created⟩ : ∃ start,
      create id first.contentId first.now typeId name first.draft accepted = .ok start :=
    ⟨_, create_eq_ok.mpr
      ⟨named, _, Content.ofDraft_eq_ok.mpr ⟨checked, tags, resolved, rfl⟩, rfl⟩⟩
  obtain ⟨final, done, latest⟩ := (latest_create created).upsertAll others
  exact ⟨start, final, created, done, latest.cultures, latest.contents, latest.default⟩

/-- The tag that the drafts of the greeting refer to. -/
def guestTag : MergeTag := ⟨⟨"guest", by decide +kernel⟩, ⟨"guest", by decide⟩, .string⟩

/-- A draft of the greeting for a culture. -/
def greeting (contentId : Nat) (culture subject : String) (isDefault : Bool) : Revision :=
  ⟨⟨BitVec.ofNat 128 contentId⟩, .epoch,
    ⟨culture, subject, "<p>{{guest}}</p>", "[\"{{guest}}\"]", isDefault⟩⟩

/-- Drafts for three cultures, of which two come again and two ask for the default. -/
def greetings : List Revision :=
  [greeting 2 "it" "Ciao" true, greeting 3 "en" "Hello" false, greeting 4 "de" "Hallo" true,
    greeting 5 "it" "Salve" false, greeting 6 "de" "Servus" false]

theorem greetings_kept :
    checkName "Greeting" = .ok () ∧
      (∀ r ∈ greeting 1 "en" "Hi" false :: greetings, r.Acceptable [guestTag]) ∧
      ∃ start final, create ⟨7⟩ ⟨1⟩ .epoch ⟨8⟩ "Greeting" (greeting 1 "en" "Hi" false).draft
          [guestTag] = .ok start ∧
        start.upsertAll [guestTag] greetings = .ok final ∧
        final.cultures = ["en", "it", "de"] ∧
        (∀ c ∈ final.contents,
          c.Latest [guestTag] (greeting 1 "en" "Hi" false) greetings) ∧
        ∃ c, final.defaultContent = some c ∧ c.culture = "de" := by
  have named : checkName "Greeting" = .ok () := by decide +kernel
  have resolved : ∀ r ∈ greeting 1 "en" "Hi" false :: greetings, r.draft.check = .ok () ∧
      contentTags r.draft.source [guestTag] = .ok (Ascending.ofList [guestTag]) := by
    decide +kernel
  have acceptable : ∀ r ∈ greeting 1 "en" "Hi" false :: greetings, r.Acceptable [guestTag] :=
    fun r inside => ⟨(resolved r inside).1, _, (resolved r inside).2⟩
  obtain ⟨start, final, created, done, cultures, contents, c, default, culture⟩ :=
    upserts_last_writer_wins ⟨7⟩ ⟨8⟩ named acceptable
  refine ⟨named, acceptable, start, final, created, done, cultures.trans ?_, contents, c, default,
    culture.trans ?_⟩
  · decide +kernel
  · decide +kernel

end Template

end MailMerge
