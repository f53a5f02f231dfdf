import MailMerge.Proofs.ContentChanges
import MailMerge.Template.Owner
import Mathlib.Data.String.Basic
/-!
Which names and culture codes are accepted. Both are measured in bytes of UTF-8. For a culture code
this makes no difference, since it consists of ASCII characters; a name may hold any characters, so
how many of them it may have depends on the script that it is written in.
-/

set_option autoImplicit false

namespace MailMerge

namespace Text

theorem utf8ByteSize_eq (s : String) : s.utf8ByteSize = String.utf8Len s.toList := by
  rw [← String.utf8ByteSize_ofList, String.ofList_toList]

/-- No character has less than one byte or more than four. -/
theorem length_le_utf8ByteSize (s : String) :
    s.length ≤ s.utf8ByteSize ∧ s.utf8ByteSize ≤ 4 * s.length := by
  rw [utf8ByteSize_eq, ← String.length_toList]
  induction s.toList with
  | nil => exact ⟨Nat.le_refl 0, Nat.le_refl 0⟩
  | cons c cs ih =>
      have least := c.utf8Size_pos
      have most := c.utf8Size_le_four
      rw [String.utf8Len_cons, List.length_cons]
      omega

/-- A text has as many bytes as characters if all of these are ASCII. -/
theorem utf8ByteSize_of_ascii {s : String} (ascii : ∀ c ∈ s.toList, c.toNat < 128) :
    s.utf8ByteSize = s.length := by
  rw [utf8ByteSize_eq, ← String.length_toList]
  generalize s.toList = cs at ascii ⊢
  induction cs with
  | nil => rfl
  | cons c cs ih =>
      have one : c.utf8Size = 1 := by
        rw [Char.utf8Size_eq_one_iff, UInt32.le_iff_toNat_le]
        exact Nat.le_of_lt_succ (ascii c List.mem_cons_self)
      rw [String.utf8Len_cons, one, List.length_cons, ih fun d later =>
        ascii d (List.mem_cons_of_mem c later)]

/-! A text that is cut at a mark is put together again from its pieces, and the pieces come back if
the mark stands in none of them. -/

theorem splitAt_eq_splitOn (mark : Char) (cs : List Char) :
    splitAt (· == mark) cs = cs.splitOn mark := by
  induction cs with
  | nil => rfl
  | cons c cs ih =>
      rw [splitAt, List.splitOn_cons_eq_if_modifyHead, ih]
      cases pieces : cs.splitOn mark with
      | nil => exact absurd pieces (List.splitOn_ne_nil mark cs)
      | cons piece pieces => rfl

theorem intercalate_mark (mark : Char) (first : List Char) (rest : List (List Char)) :
    [mark].intercalate (first :: rest) = first ++ rest.flatMap (mark :: ·) := by
  induction rest generalizing first with
  | nil => simp
  | cons piece rest ih => simp [ih]

theorem eq_of_splitAt {mark : Char} {cs first : List Char} {rest : List (List Char)}
    (pieces : splitAt (· == mark) cs = first :: rest) : cs = first ++ rest.flatMap (mark :: ·) := by
  rw [splitAt_eq_splitOn] at pieces
  rw [← intercalate_mark, ← pieces, List.intercalate_splitOn]

theorem splitAt_joined {mark : Char} {first : List Char} {rest : List (List Char)}
    (free : ∀ piece ∈ first :: rest, mark ∉ piece) :
    splitAt (· == mark) (first ++ rest.flatMap (mark :: ·)) = first :: rest := by
  rw [splitAt_eq_splitOn, ← intercalate_mark]
  exact List.splitOn_intercalate mark free (List.cons_ne_nil first rest)

end Text

/-- A letter of ASCII. -/
def IsLetter (c : Char) : Prop := 'A' ≤ c ∧ c ≤ 'Z' ∨ 'a' ≤ c ∧ c ≤ 'z'

/-- A letter or digit of ASCII. -/
def IsLetterOrDigit (c : Char) : Prop := IsLetter c ∨ '0' ≤ c ∧ c ≤ '9'

theorem isAlpha_iff {c : Char} : c.isAlpha = true ↔ IsLetter c := by
  have letter : c.isAlpha = (c.isUpper || c.isLower) := rfl
  rw [letter, Bool.or_eq_true, ShortCode.isUpper_iff, ShortCode.isLower_iff, IsLetter]

theorem isAlphanum_iff {c : Char} : c.isAlphanum = true ↔ IsLetterOrDigit c := by
  rw [Char.isAlphanum, Bool.or_eq_true, isAlpha_iff, IsLetterOrDigit]
  simp [Char.isDigit, Char.le_def]

theorem IsLetterOrDigit.ascii {c : Char} (plain : IsLetterOrDigit c) : c.toNat < 128 := by
  simp only [IsLetterOrDigit, IsLetter, Char.le_def, UInt32.le_iff_toNat_le] at plain
  change (65 ≤ c.toNat ∧ c.toNat ≤ 90 ∨ 97 ≤ c.toNat ∧ c.toNat ≤ 122) ∨
    48 ≤ c.toNat ∧ c.toNat ≤ 57 at plain
  omega

theorem IsLetterOrDigit.ne_hyphen {c : Char} (plain : IsLetterOrDigit c) : c ≠ '-' := by
  rintro rfl
  exact absurd (isAlphanum_iff.mpr plain) (by decide)

/-- A language: two or three letters. -/
def IsLanguage (cs : List Char) : Prop :=
  2 ≤ cs.length ∧ cs.length ≤ 3 ∧ ∀ c ∈ cs, IsLetter c

/-- A subtag: one to eight letters or digits. -/
def IsSubtag (cs : List Char) : Prop :=
  1 ≤ cs.length ∧ cs.length ≤ 8 ∧ ∀ c ∈ cs, IsLetterOrDigit c

/-- A culture code: a language, then any number of subtags, each behind a hyphen, in at most 35
characters. -/
def IsCulture (code : String) : Prop :=
  code.length ≤ 35 ∧ ∃ (language : List Char) (subtags : List (List Char)),
    IsLanguage language ∧ (∀ subtag ∈ subtags, IsSubtag subtag) ∧
      code.toList = language ++ subtags.flatMap ('-' :: ·)

theorem isLanguage_iff {cs : List Char} : isLanguage cs = true ↔ IsLanguage cs := by
  simp only [isLanguage, IsLanguage, Bool.and_eq_true, decide_eq_true_eq, List.all_eq_true,
    isAlpha_iff, and_assoc]

theorem isSubtag_iff {cs : List Char} : isSubtag cs = true ↔ IsSubtag cs := by
  simp only [isSubtag, IsSubtag, Bool.and_eq_true, decide_eq_true_eq, List.all_eq_true,
    isAlphanum_iff, and_assoc]

section Grammar

variable {language : List Char} {subtags : List (List Char)}

theorem ascii_of_grammar (first : IsLanguage language) (others : ∀ subtag ∈ subtags, IsSubtag subtag) :
    ∀ c ∈ language ++ subtags.flatMap ('-' :: ·), c.toNat < 128 := by
  intro c inside
  rcases List.mem_append.mp inside with here | there
  · exact IsLetterOrDigit.ascii (Or.inl (first.2.2 c here))
  · obtain ⟨subtag, listed, place⟩ := List.mem_flatMap.mp there
    rcases List.mem_cons.mp place with hyphen | behind
    · rw [hyphen]
      decide
    · exact ((others subtag listed).2.2 c behind).ascii

theorem hyphen_free (first : IsLanguage language) (others : ∀ subtag ∈ subtags, IsSubtag subtag) :
    ∀ piece ∈ language :: subtags, '-' ∉ piece := by
  intro piece listed inside
  rcases List.mem_cons.mp listed with here | there
  · rw [here] at inside
    exact IsLetterOrDigit.ne_hyphen (Or.inl (first.2.2 _ inside)) rfl
  · exact ((others piece there).2.2 _ inside).ne_hyphen rfl

end Grammar

/-- The check accepts the texts that the grammar describes. -/
theorem isCultureCode_iff {code : String} : isCultureCode code = true ↔ IsCulture code := by
  rw [isCultureCode, Bool.and_eq_true, decide_eq_true_eq]
  constructor
  · intro accepted
    obtain ⟨⟨-, short⟩, pieces⟩ := accepted
    cases cut : Text.splitAt (· == '-') code.toList with
    | nil =>
        rw [cut] at pieces
        cases pieces
    | cons language subtags =>
        rw [cut, Bool.and_eq_true, List.all_eq_true] at pieces
        have first : IsLanguage language := isLanguage_iff.mp pieces.1
        have others : ∀ subtag ∈ subtags, IsSubtag subtag :=
          fun subtag listed => isSubtag_iff.mp (pieces.2 subtag listed)
        have parts := Text.eq_of_splitAt cut
        have ascii := ascii_of_grammar first others
        rw [← parts] at ascii
        rw [Text.utf8ByteSize_of_ascii ascii] at short
        exact ⟨short, language, subtags, first, others, parts⟩
  · intro code_is
    obtain ⟨short, language, subtags, first, others, parts⟩ := code_is
    have ascii := ascii_of_grammar first others
    have long : 2 ≤ code.length := by
      rw [← String.length_toList, parts, List.length_append]
      exact Nat.le_add_right_of_le first.1
    rw [← parts] at ascii
    rw [Text.utf8ByteSize_of_ascii ascii]
    refine ⟨⟨long, short⟩, ?_⟩
    rw [parts, Text.splitAt_joined (hyphen_free first others), Bool.and_eq_true, List.all_eq_true]
    exact ⟨isLanguage_iff.mpr first, fun subtag listed => isSubtag_iff.mpr (others subtag listed)⟩

theorem checkCulture_of_not {code : String} (wrong : ¬IsCulture code) :
    checkCulture code = .error (.invalidCulture code) := by
  rw [checkCulture, if_neg fun accepted => wrong (isCultureCode_iff.mp accepted)]

theorem Draft.check_of_not_culture {d : Draft} (wrong : ¬IsCulture d.culture) :
    d.check = .error (.invalidCulture d.culture) := by
  rw [Draft.check, checkCulture_of_not wrong]
  rfl

theorem Content.ofDraft_of_not_culture {d : Draft} (wrong : ¬IsCulture d.culture) (id : Guid)
    (now : DateTime) (accepted : List MergeTag) :
    Content.ofDraft id now d accepted = .error (.invalidCulture d.culture) := by
  rw [Content.ofDraft, Draft.check_of_not_culture wrong]

namespace Template

variable {t : Template} {d : Draft}

theorem create_of_not_culture (wrong : ¬IsCulture d.culture) (id contentId : Guid) (now : DateTime)
    (typeId : Guid) (name : String) (accepted : List MergeTag) :
    create id contentId now typeId name d accepted =
      checkName name >>= fun _ => .error (.invalidCulture d.culture) := by
  rw [create, Content.ofDraft_of_not_culture wrong]
  rfl

theorem addContent_of_not_culture (wrong : ¬IsCulture d.culture) (t : Template) (contentId : Guid)
    (now : DateTime) (accepted : List MergeTag) :
    t.addContent contentId now d accepted = .failed
      (if (t.find? d.culture).isSome then .alreadyExists (.content d.culture t.id)
      else .invalidCulture d.culture) t := by
  rw [addContent, Content.ofDraft_of_not_culture wrong]
  cases t.find? d.culture <;> rfl

theorem upsertContent_of_not_culture (wrong : ¬IsCulture d.culture) (t : Template)
    (contentId : Guid) (now : DateTime) (accepted : List MergeTag) :
    t.upsertContent contentId now d accepted = .failed (.invalidCulture d.culture) t := by
  cases present : t.find? d.culture with
  | none =>
      rw [upsertContent_absent present, addContent_of_not_culture wrong, present]
      rfl
  | some old =>
      rw [upsertContent, present, Draft.check_of_not_culture wrong]
      rfl

/-- A call brings no culture into a template that is no culture code. -/
theorem Step.culture_of_mem {accepted : List MergeTag} {after : Template}
    (step : t.Step accepted after) {culture : String} (inside : culture ∈ after.cultures) :
    culture ∈ t.cultures ∨ IsCulture culture := by
  cases step with
  | failed => exact Or.inl inside
  | @added _ now d c absent made =>
      obtain ⟨checked, tags, -, rfl⟩ := Content.ofDraft_eq_ok.mp made
      rw [cultures_insert, settle_culture, List.mem_append, List.mem_singleton] at inside
      refine inside.imp_right fun new => ?_
      rw [new]
      exact isCultureCode_iff.mp (Draft.check_eq_ok.mp checked).1
  | set present _ =>
      rw [Template.cultures, map_culture_replaced present] at inside
      exact Or.inl inside
  | removed _ _ => exact Or.inl ((List.eraseP_sublist.map Content.culture).subset inside)
  | reconciled all =>
      rw [Template.cultures, map_zipWith_setTags _ Content.setTags_culture all] at inside
      exact Or.inl inside

theorem culture_after (calls : List TemplateCall) {culture : String}
    (inside : culture ∈ (t.after calls).cultures) : culture ∈ t.cultures ∨ IsCulture culture := by
  induction calls generalizing t with
  | nil => exact Or.inl inside
  | cons call calls ih =>
      rcases ih inside with before | valid
      · obtain ⟨accepted, given⟩ := call.sees
        exact (call.run_step given t).culture_of_mem before
      · exact Or.inr valid

theorem culture_create {id contentId : Guid} {now : DateTime} {typeId : Guid} {name : String}
    {accepted : List MergeTag} (created : create id contentId now typeId name d accepted = .ok t)
    {culture : String} (inside : culture ∈ t.cultures) : IsCulture culture := by
  obtain ⟨-, c, made, rfl⟩ := create_eq_ok.mp created
  obtain ⟨checked, tags, -, rfl⟩ := Content.ofDraft_eq_ok.mp made
  rw [cultures, List.map_singleton, List.mem_singleton, Content.setDefault_culture] at inside
  rw [inside]
  exact isCultureCode_iff.mp (Draft.check_eq_ok.mp checked).1

/-- Culture codes are exactly the texts of the grammar. Any other text is refused by its own name,
and a draft with it changes nothing, whether it is to start a template, to be added or to be set: in
a template that was created, all cultures are culture codes after any calls, and in any template
those that the calls brought are. -/
theorem culture_codes_exact :
    (∀ code : String, checkCulture code = .ok () ↔ IsCulture code) ∧
    (∀ code : String, ¬IsCulture code → checkCulture code = .error (.invalidCulture code)) ∧
    (∀ d : Draft, ¬IsCulture d.culture → ∀ (contentId : Guid) (now : DateTime)
      (accepted : List MergeTag),
      (∀ (id typeId : Guid) (name : String),
        create id contentId now typeId name d accepted =
          checkName name >>= fun _ => .error (.invalidCulture d.culture)) ∧
      ∀ t : Template,
        t.addContent contentId now d accepted = .failed
          (if (t.find? d.culture).isSome then .alreadyExists (.content d.culture t.id)
          else .invalidCulture d.culture) t ∧
        t.upsertContent contentId now d accepted = .failed (.invalidCulture d.culture) t) ∧
    (∀ (t : Template) (calls : List TemplateCall), ∀ culture ∈ (t.after calls).cultures,
      culture ∈ t.cultures ∨ IsCulture culture) ∧
    ∀ (id contentId : Guid) (now : DateTime) (typeId : Guid) (name : String) (d : Draft)
      (accepted : List MergeTag) (t : Template),
      create id contentId now typeId name d accepted = .ok t →
        ∀ calls : List TemplateCall, ∀ culture ∈ (t.after calls).cultures, IsCulture culture := by
  refine ⟨fun code => checkCulture_eq_ok.trans isCultureCode_iff,
    fun code wrong => checkCulture_of_not wrong, ?_, ?_, ?_⟩
  · intro d wrong contentId now accepted
    constructor
    · intro id typeId name
      exact create_of_not_culture wrong id contentId now typeId name accepted
    · intro t
      exact ⟨addContent_of_not_culture wrong t contentId now accepted,
        upsertContent_of_not_culture wrong t contentId now accepted⟩
  · intro t calls culture inside
    exact culture_after calls inside
  · intro id contentId now typeId name d accepted t created calls culture inside
    rcases culture_after calls inside with before | valid
    · exact culture_create created before
    · exact valid

/-- A draft for a text that is no culture code: a hyphen is missing. -/
def underscored : Draft := ⟨"en_US", "Hello", "<p>Hello</p>", "[]", false⟩

/-- A draft for a culture with a script and a region. -/
def traditional : Draft := { underscored with culture := "zh-Hant-TW" }

/-- A draft for a culture with a region that is a number. -/
def latinAmerican : Draft := { underscored with culture := "es-419" }

/-- A template that starts with the first culture. -/
def salutation : Template :=
  ⟨⟨1⟩, ⟨2⟩, "Salutation",
    [⟨⟨3⟩, "zh-Hant-TW", "Hello", "<p>Hello</p>", "[]", Ascending.empty, true, .epoch, .epoch⟩],
    .epoch, .epoch⟩

theorem underscored_refused :
    checkCulture "en_US" = .error (.invalidCulture "en_US") ∧
      create ⟨1⟩ ⟨3⟩ .epoch ⟨2⟩ "Salutation" underscored [] = .error (.invalidCulture "en_US") ∧
      salutation.upsertContent ⟨4⟩ .epoch underscored [] =
        .failed (.invalidCulture "en_US") salutation ∧
      create ⟨1⟩ ⟨3⟩ .epoch ⟨2⟩ "Salutation" traditional [] = .ok salutation ∧
      IsCulture "zh-Hant-TW" ∧ IsCulture "es-419" := by
  obtain ⟨exactly, refused, drafts, brought, kept⟩ := culture_codes_exact
  have wrong : ¬IsCulture "en_US" := (exactly "en_US").not.mp (by decide +kernel)
  obtain ⟨created, changed⟩ := drafts underscored wrong ⟨3⟩ .epoch []
  have made : create ⟨1⟩ ⟨3⟩ .epoch ⟨2⟩ "Salutation" traditional [] = .ok salutation := by
    decide +kernel
  let calls : List TemplateCall :=
    [.upsertContent ⟨4⟩ .epoch underscored [], .addContent ⟨5⟩ .epoch latinAmerican []]
  have both : (salutation.after calls).cultures = ["zh-Hant-TW", "es-419"] := by decide +kernel
  refine ⟨refused "en_US" wrong, created ⟨1⟩ ⟨2⟩ "Salutation", (changed salutation).2, made, ?_, ?_⟩
  · refine kept ⟨1⟩ ⟨3⟩ .epoch ⟨2⟩ "Salutation" traditional [] salutation made calls _ ?_
    rw [both]
    exact List.mem_cons_self
  · refine (brought salutation calls "es-419" ?_).resolve_left (by decide +kernel)
    rw [both]
    exact List.mem_cons_of_mem _ List.mem_cons_self

end Template

/-- A name that is accepted: it holds more than white space, in at most 256 bytes. -/
def FitsName (name : String) : Prop :=
  (∃ c ∈ name.toList, Text.isBlankChar c = false) ∧ name.utf8ByteSize ≤ 256

instance (name : String) : Decidable (FitsName name) :=
  inferInstanceAs (Decidable (_ ∧ _))

theorem checkName_eq (name : String) : checkName name =
    if FitsName name then .ok () else .error (.invalid .nameLength) := by
  have blank : Text.isBlank name = true ↔ ¬∃ c ∈ name.toList, Text.isBlankChar c = false := by
    simp [Text.isBlank]
  by_cases fits : FitsName name
  · rw [if_pos fits, checkName, if_neg]
    rw [blank, not_or, not_not, Nat.not_lt]
    exact fits
  · rw [if_neg fits, checkName, if_pos]
    rw [blank, ← Nat.not_le, ← not_and_or]
    exact fits

/-- The names of types, owners and templates are measured in bytes. A name that fits is kept without
the white space around it. It has at most 256 characters; the other way round, a name of so many
characters fits if they are all ASCII, and any name that is not blank fits up to 64 characters. -/
theorem names_measured_in_bytes (name : String) :
    (∀ (id : Guid) (now : DateTime), TemplateType.create id now name =
      if FitsName name then .ok ⟨id, Text.trimmed name, [], [], now, now⟩
      else .error (.invalid .nameLength)) ∧
    (∀ (id : Guid) (now : DateTime), DataOwner.create id now name =
      if FitsName name then .ok ⟨id, Text.trimmed name, [], now, now⟩
      else .error (.invalid .nameLength)) ∧
    (∀ (id contentId : Guid) (now : DateTime) (typeId : Guid) (d : Draft)
      (accepted : List MergeTag), d.Settable →
        (FitsName name → ∃ t, Template.create id contentId now typeId name d accepted = .ok t ∧
          t.name = Text.trimmed name) ∧
        (¬FitsName name → Template.create id contentId now typeId name d accepted =
          .error (.invalid .nameLength))) ∧
    (FitsName name → name.length ≤ 256) ∧
    ((∀ c ∈ name.toList, c.toNat < 128) ∨ name.length ≤ 64 →
      (FitsName name ↔
        (∃ c ∈ name.toList, Text.isBlankChar c = false) ∧ name.length ≤ 256)) := by
  obtain ⟨least, most⟩ := Text.length_le_utf8ByteSize name
  refine ⟨?_, ?_, ?_, fun fits => Nat.le_trans least fits.2, ?_⟩
  · intro id now
    rw [TemplateType.create, checkName_eq]
    split <;> rfl
  · intro id now
    rw [DataOwner.create, checkName_eq]
    split <;> rfl
  · intro id contentId now typeId d accepted settable
    obtain ⟨checked, tags, resolved⟩ := (Draft.settable_iff accepted).mp settable
    constructor
    · intro fits
      have named : checkName name = .ok () := by rw [checkName_eq, if_pos fits]
      obtain ⟨c, made⟩ : ∃ c, Content.ofDraft contentId now d accepted = .ok c :=
        ⟨_, Content.ofDraft_eq_ok.mpr ⟨checked, tags, resolved, rfl⟩⟩
      exact ⟨_, Template.create_eq_ok.mpr ⟨named, c, made, rfl⟩, rfl⟩
    · intro unfit
      rw [Template.create, checkName_eq, if_neg unfit]
      rfl
  · intro plain
    apply and_congr_right
    intro _
    rcases plain with ascii | short
    · rw [Text.utf8ByteSize_of_ascii ascii]
    · omega

/-- A name of characters with four bytes. -/
def smileys (count : Nat) : String := String.ofList (List.replicate count '😀')

theorem length_smileys (count : Nat) : (smileys count).length = count := by
  rw [smileys, String.length_ofList, List.length_replicate]

theorem fitsName_smileys {count : Nat} : FitsName (smileys count) ↔ 0 < count ∧ count ≤ 64 := by
  have bytes : String.utf8Len (List.replicate count '😀') = 4 * count := by
    induction count with
    | zero => rfl
    | succ count ih =>
        rw [List.replicate_succ, String.utf8Len_cons, ih]
        rfl
  have solid : Text.isBlankChar '😀' = false := by decide
  simp only [FitsName, smileys, String.toList_ofList, String.utf8ByteSize_ofList, bytes,
    List.mem_replicate]
  constructor
  · intro fits
    obtain ⟨⟨c, ⟨some, -⟩, -⟩, short⟩ := fits
    omega
  · intro range
    exact ⟨⟨'😀', ⟨by omega, rfl⟩, solid⟩, by omega⟩

theorem latinAmerican_settable : Template.latinAmerican.Settable :=
  (Draft.settable_iff []).mpr ⟨by decide +kernel, Ascending.empty, by decide +kernel⟩

theorem smileys_named :
    Template.latinAmerican.Settable ∧
      (∃ t, Template.create ⟨1⟩ ⟨2⟩ .epoch ⟨3⟩ (smileys 64) Template.latinAmerican [] = .ok t ∧
        t.name = Text.trimmed (smileys 64)) ∧
      (smileys 64).length ≤ 256 ∧ FitsName " Ciao " ∧
      Template.create ⟨1⟩ ⟨2⟩ .epoch ⟨3⟩ " " Template.latinAmerican [] =
        .error (.invalid .nameLength) := by
  have fits : FitsName (smileys 64) := fitsName_smileys.mpr (by decide)
  obtain ⟨-, -, created, bound, -⟩ := names_measured_in_bytes (smileys 64)
  obtain ⟨-, -, -, -, plain⟩ := names_measured_in_bytes " Ciao "
  obtain ⟨-, -, blank, -⟩ := names_measured_in_bytes " "
  obtain ⟨made, -⟩ := created ⟨1⟩ ⟨2⟩ .epoch ⟨3⟩ Template.latinAmerican [] latinAmerican_settable
  obtain ⟨-, refused⟩ := blank ⟨1⟩ ⟨2⟩ .epoch ⟨3⟩ Template.latinAmerican [] latinAmerican_settable
  have greeting : ∃ c ∈ " Ciao ".toList, Text.isBlankChar c = false :=
    ⟨'C', by decide +kernel, by decide⟩
  have unfit : ¬FitsName " " := by
    intro fits
    obtain ⟨⟨c, inside, solid⟩, -⟩ := fits
    have space : c = ' ' := List.mem_singleton.mp inside
    rw [space] at solid
    exact absurd solid (by decide)
  exact ⟨latinAmerican_settable, made fits, bound fits,
    (plain (Or.inr (by decide +kernel))).mpr ⟨greeting, by decide +kernel⟩, refused unfit⟩

/-- A name of 65 characters is refused everywhere, though 256 are said to be allowed. -/
theorem smileys_refused :
    (∃ c ∈ (smileys 65).toList, Text.isBlankChar c = false) ∧ (smileys 65).length = 65 ∧
      TemplateType.create ⟨1⟩ .epoch (smileys 65) = .error (.invalid .nameLength) ∧
      DataOwner.create ⟨1⟩ .epoch (smileys 65) = .error (.invalid .nameLength) ∧
      Template.latinAmerican.Settable ∧
      Template.create ⟨1⟩ ⟨2⟩ .epoch ⟨3⟩ (smileys 65) Template.latinAmerican [] =
        .error (.invalid .nameLength) ∧
      TemplateError.message (.invalid .nameLength) =
        "Invalid template: Name must be 1-256 characters" := by
  have refused : checkName (smileys 65) = .error (.invalid .nameLength) := by
    rw [checkName_eq, if_neg fun fits => absurd (fitsName_smileys.mp fits).2 (by decide)]
  have solid : ∃ c ∈ (smileys 65).toList, Text.isBlankChar c = false := by
    rw [smileys, String.toList_ofList]
    exact ⟨'😀', List.mem_replicate.mpr ⟨by decide, rfl⟩, by decide⟩
  refine ⟨solid, length_smileys 65, ?_, ?_, latinAmerican_settable, ?_, by decide +kernel⟩
  · rw [TemplateType.create, refused]
    rfl
  · rw [DataOwner.create, refused]
    rfl
  · rw [Template.create, refused]
    rfl

end MailMerge
