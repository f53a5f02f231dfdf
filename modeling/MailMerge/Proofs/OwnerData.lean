import MailMerge.Proofs.GeneratedCodes
import MailMerge.Proofs.Markup
import MailMerge.Proofs.Rendering
import MailMerge.Proofs.StagedFilling
import MailMerge.Template.Owner
/-!
What the data of an owner is put in for. Values are kept under the names of their tags, and a
placeholder asks for the identifier of its short code. A short code that is made up from a name has
a normal form of the name as its identifier, so a value takes the place of its own placeholder only
where the name is written in that form, or where another value of this name has the same text.
-/

set_option autoImplicit false

namespace MailMerge

/-- Where all names are different, the last value of a kind under a name is the only one. -/
theorem find?_reverse_of_distinct {custom : List CustomTag}
    (distinct : (custom.map CustomTag.name).Nodup) (kind : CustomTag → Bool) (name : String) :
    (custom.reverse.find? fun c => kind c && c.name == name) =
      (custom.find? fun c => c.name == name).filter kind := by
  -- The values are searched from the end, but there is one candidate at most.
  cases found : custom.find? fun c => c.name == name with
  | none =>
      rw [Option.filter_none, List.find?_eq_none]
      intro c held both
      have other := List.find?_eq_none.mp found c (List.mem_reverse.mp held)
      simp at both other
      exact other both.2
  | some c =>
      have held : c ∈ custom := List.mem_of_find?_eq_some found
      have named : c.name = name := by simpa using List.find?_some found
      subst named
      have only {other : CustomTag} (inside : other ∈ custom) (same : other.name = c.name) :
          other = c := List.inj_on_of_nodup_map distinct inside held same
      rw [Option.filter_some]
      split
      · next fits =>
          cases last : custom.reverse.find? fun other => kind other && other.name == c.name with
          | none =>
              have missed := List.find?_eq_none.mp last c (List.mem_reverse.mpr held)
              simp [fits] at missed
          | some other =>
              have test := List.find?_some last
              rw [Bool.and_eq_true, beq_iff_eq] at test
              rw [only (List.mem_reverse.mp (List.mem_of_find?_eq_some last)) test.2]
      · next differs =>
          rw [List.find?_eq_none]
          intro other inside test
          rw [Bool.and_eq_true, beq_iff_eq] at test
          rw [only (List.mem_reverse.mp inside) test.2] at test
          exact differs test.1

theorem lastText?_of_distinct {custom : List CustomTag}
    (distinct : (custom.map CustomTag.name).Nodup) (kind : CustomTag → Bool) (name : String) :
    lastText? kind custom name =
      ((custom.find? fun c => c.name == name).filter kind).map CustomTag.text := by
  rw [lastText?, find?_reverse_of_distinct distinct]

/-- A call that changes the data of an owner. -/
inductive OwnerCall where
  | set (now : DateTime) (c : CustomTag)
  | remove (now : DateTime) (name : String)

/-- The owner after a call, which may succeed or fail. -/
def OwnerCall.run (o : DataOwner) : OwnerCall → DataOwner
  | set now c => o.set now c
  | remove now name => (o.remove now name).state

namespace DataOwner

/-- The owner after some calls. -/
def after (calls : List OwnerCall) (o : DataOwner) : DataOwner := calls.foldl OwnerCall.run o

/-- The names of the values of an owner, in their order. -/
def names (o : DataOwner) : List String := o.customData.map CustomTag.name

/-- No two values of an owner have the same name. -/
def Distinct (o : DataOwner) : Prop := (o.customData.map CustomTag.name).Nodup

variable {o : DataOwner} {name : String} {c : CustomTag}

theorem isSome_get? : (o.get? name).isSome = true ↔ name ∈ o.names := by
  rw [get?, List.find?_isSome, names, List.mem_map]
  simp only [beq_iff_eq]

theorem get?_eq_none : o.get? name = none ↔ name ∉ o.names := by
  rw [← isSome_get?, Option.not_isSome_iff_eq_none]

theorem name_of_get? (found : o.get? name = some c) : c.name = name := by
  simpa using List.find?_some found

/-- A name keeps its place while it is held, and joins the others behind them. -/
theorem names_set (o : DataOwner) (now : DateTime) (c : CustomTag) :
    (o.set now c).names = if c.name ∈ o.names then o.names else o.names ++ [c.name] := by
  by_cases held : c.name ∈ o.names
  · have found : (o.get? c.name).isSome = true := isSome_get?.mpr held
    rw [if_pos held, names, set, if_pos found]
    exact map_modifyFirst fun old here => (eq_of_beq here).symm
  · have missed : ¬(o.get? c.name).isSome = true := mt isSome_get?.mp held
    rw [if_neg held, names, set, if_neg missed, List.map_append]
    rfl

theorem names_remove (o : DataOwner) (now : DateTime) (removed : String) :
    (o.remove now removed).state.names = o.names.erase removed := by
  rw [remove]
  cases held : o.get? removed with
  | none => exact (List.erase_of_not_mem (get?_eq_none.mp held)).symm
  | some c =>
      rw [List.erase_eq_eraseP', names, names, List.eraseP_map]
      rfl

theorem distinct_create {id : Guid} {now : DateTime} {name : String}
    (created : create id now name = .ok o) : o.Distinct := by
  obtain ⟨_, -, ⟨⟩⟩ := bind_eq_ok.mp created
  exact List.nodup_nil

theorem Distinct.set (distinct : o.Distinct) (now : DateTime) (c : CustomTag) :
    (o.set now c).Distinct := by
  show (o.set now c).names.Nodup
  rw [names_set]
  split
  · exact distinct
  · next absent =>
      exact distinct.append (List.nodup_singleton _) (List.disjoint_singleton.mpr absent)

theorem Distinct.remove (distinct : o.Distinct) (now : DateTime) (name : String) :
    (o.remove now name).state.Distinct := by
  show (o.remove now name).state.names.Nodup
  rw [names_remove]
  exact List.Nodup.erase name distinct

theorem Distinct.after (calls : List OwnerCall) (distinct : o.Distinct) :
    (o.after calls).Distinct := by
  induction calls generalizing o with
  | nil => exact distinct
  | cons call calls ih =>
      cases call with
      | set now c => exact ih (distinct.set now c)
      | remove now name => exact ih (distinct.remove now name)

/-- The text of the scalar that an owner has under a name. -/
def scalar? (o : DataOwner) (name : String) : Option String :=
  ((o.get? name).filter isScalar).map CustomTag.text

/-- A value is found under its name. -/
theorem Distinct.get?_name (distinct : o.Distinct) {c : CustomTag} (held : c ∈ o.customData) :
    o.get? c.name = some c := find?_key distinct held

end DataOwner

namespace Markup

/-- A text without characters that have a meaning in HTML is shown as it is. -/
theorem escape_of_plain {cs : List Char} (plain : ∀ c ∈ cs, isMark c = false ∧ c ≠ '&') :
    escape cs = cs := by
  have same (c : Char) (inside : c ∈ cs) : escapeChar c = [c] := by
    obtain ⟨notMark, notAmpersand⟩ := plain c inside
    unfold escapeChar
    split
    case h_6 => rfl
    case h_1 => exact absurd rfl notAmpersand
    all_goals exact absurd notMark (by decide)
  rw [escape, List.flatMap_congr same, List.flatMap_singleton']

end Markup

/-- The text of a short code is a template of this short code alone. -/
theorem compileTemplate_code (code : ShortCode) :
    compileTemplate code.text = [.placeholder code] := by
  have scanned := Mark.scan_code code []
  rw [List.append_nil, Mark.scan] at scanned
  rw [compileTemplate, scanned, List.foldr_cons, List.foldr_nil, Segment.addMark,
    ShortCode.ofChars?_inBraces_eq_ok.mpr rfl]

section Code

variable {code : ShortCode} {keep : Bool} {values : Dict String}

theorem fillTemplate_code_plain :
    fillTemplate ⟨keep, false⟩ (compileTemplate code.text) values =
      (values.get? code.identifier).getD (if keep then code.text else "") := by
  rw [compileTemplate_code, fillTemplate, List.flatMap_singleton, Segment.fill]
  cases values.get? code.identifier with
  | some value => exact String.ofList_toList
  | none => cases keep <;> simp

theorem fillTemplate_code_html :
    fillTemplate ⟨keep, true⟩ (compileTemplate code.text) values =
      String.ofList (Markup.escape
        ((values.get? code.identifier).getD (if keep then code.text else "")).toList) := by
  rw [compileTemplate_code, fillTemplate, List.flatMap_singleton, Segment.fill]
  cases values.get? code.identifier with
  | some value => rfl
  | none =>
      cases keep with
      | true => exact congrArg String.ofList (Markup.escape_of_plain (Segment.plain_code code)).symm
      | false => rfl

end Code

namespace DataOwner

/-- What the data of an owner puts in for a short code. -/
def shown (o : DataOwner) (keep : Bool) (code : ShortCode) : String :=
  (o.scalar? code.identifier).getD (if keep then code.text else "")

section Shown

variable {o : DataOwner} {keep : Bool} {limit : Nat} {contentIds : Nat → String}
  {subject body : String} {tags : TagSet} {resources : List ResourceDescriptor}

/-- Without arguments a placeholder is filled in from the scalars of the owner. -/
theorem Distinct.scalarFor? (distinct : o.Distinct) (tags : TagSet) (name : String) :
    scalarFor? tags Ascending.empty o.customData name = o.scalar? name :=
  lastText?_of_distinct distinct isScalar name

theorem Distinct.shown_of_named (distinct : o.Distinct) {c : CustomTag}
    (held : c ∈ o.customData) (scalar : c.isResource = false)
    (named : c.name = c.tag.shortCode.identifier) : o.shown keep c.tag.shortCode = c.text := by
  rw [shown, scalar?, ← named, distinct.get?_name held, Option.filter_some,
    if_pos (by rw [isScalar, scalar]; rfl)]
  rfl

theorem Distinct.rendered (distinct : o.Distinct) {mail : RenderedEmail}
    (done : (MergeEngine.ofOptions ⟨keep, true, limit⟩).render contentIds subject body tags
      ⟨Ascending.empty, resources⟩ o.customData = .ok mail) (code : ShortCode) :
    (subject = code.text → mail.subject = o.shown keep code) ∧
      (body = code.text →
        mail.html = String.ofList (Markup.escape (o.shown keep code).toList)) := by
  obtain ⟨prepared, _, _, images, -, compiled, rfl⟩ := MergeEngine.render_eq_ok.mp done
  have value : prepared.scalars.get? code.identifier = o.scalar? code.identifier :=
    ((selects_of_prepareMerge images).scalars code.identifier).trans
      (distinct.scalarFor? tags code.identifier)
  cases compiled
  constructor
  · rintro rfl
    exact fillTemplate_code_plain.trans (congrArg (Option.getD · _) value)
  · rintro rfl
    rw [shown, ← value]
    exact fillTemplate_code_html

end Shown

/-- What becomes of the placeholder of a value that an owner has, if nothing else is given for the
mail. Its place is taken by the scalar that the owner has under the identifier of the short code,
which is the value itself if that is its name. A tag that was made from a name has this name exactly
if it is written in lower-case identifier characters. -/
theorem own_placeholder_shown {id : Guid} {now : DateTime} {name : String} {o : DataOwner}
    (created : create id now name = .ok o) (calls : List OwnerCall) {c : CustomTag}
    (held : c ∈ (o.after calls).customData) (scalar : c.isResource = false) (keep : Bool)
    (limit : Nat) (contentIds : Nat → String) (subject body : String) (tags : TagSet)
    (resources : List ResourceDescriptor) :
    let owner := o.after calls
    let code := c.tag.shortCode
    let shown := owner.shown keep code
    let answer := (MergeEngine.ofOptions ⟨keep, true, limit⟩).render contentIds subject body tags
      ⟨Ascending.empty, resources⟩ owner.customData
    ((∃ mail, answer = .ok mail) ↔
        (∀ name encoded, imageFor? tags Ascending.empty owner.customData name = some encoded →
          Attachable limit encoded) ∧
        ∀ d ∈ resources, d.encoding = .base64 → Attachable limit d.value) ∧
      (∀ mail, answer = .ok mail → (subject = code.text → mail.subject = shown) ∧
        (body = code.text → mail.html = String.ofList (Markup.escape shown.toList))) ∧
      (c.name = code.identifier → shown = c.text) ∧
      (owner.get? code.identifier = none → shown = if keep then code.text else "") ∧
      ((∃ raw, MergeTag.ofName raw c.tag.type = .ok c.tag) → (c.name = code.identifier ↔
        ∀ ch ∈ c.name.toList, ShortCode.isNormalChar ch = true)) := by
  intro owner code shown answer
  have distinct : owner.Distinct := (distinct_create created).after calls
  refine ⟨MergeEngine.exists_render, fun mail done => distinct.rendered done code,
    distinct.shown_of_named held scalar, ?_, ?_⟩
  · intro absent
    simp only [shown, DataOwner.shown, scalar?, absent]
    rfl
  · rintro ⟨raw, made⟩
    exact MergeTag.named_by_code_iff made

/-- An owner without values. -/
def acme : DataOwner := ⟨⟨1⟩, "Acme", [], .epoch, .epoch⟩

/-- A value whose name is the identifier of its short code. -/
def company : CustomTag :=
  ⟨⟨⟨"company", by decide +kernel⟩, ⟨"company", by decide⟩, .string⟩, .string "Acme & Co", rfl,
    by decide +kernel⟩

/-- A value whose name is another text than the identifier made from it. -/
def firstName : CustomTag :=
  ⟨⟨⟨"First Name", by decide +kernel⟩, ⟨"first_name", by decide⟩, .string⟩, .string "Ada", rfl,
    by decide +kernel⟩

/-- The owner gets both. -/
def acmeCalls : List OwnerCall :=
  [.set .epoch firstName, .remove .epoch "company", .set .epoch company]

/-- The mail that consists of the placeholder for a short code alone. -/
def placeholderMail (code : ShortCode) : Except RenderError RenderedEmail :=
  (MergeEngine.ofOptions .default).render Nat.repr code.text code.text Ascending.empty
    RenderRequest.empty (acme.after acmeCalls).customData

theorem company_shown :
    company ∈ (acme.after acmeCalls).customData ∧ company.name = "company" ∧
      (∀ mail, placeholderMail company.tag.shortCode = .ok mail →
        mail.subject = "Acme & Co" ∧ mail.html = "Acme &amp; Co") ∧
      ∃ mail, placeholderMail company.tag.shortCode = .ok mail := by
  have created : create ⟨1⟩ .epoch "Acme" = .ok acme := by decide +kernel
  have held : company ∈ (acme.after acmeCalls).customData := by decide +kernel
  have unattached : ∀ name encoded, imageFor? Ascending.empty Ascending.empty
      (acme.after acmeCalls).customData name = some encoded →
        Attachable defaultMaxInlineBytes encoded := by
    intro name encoded selected
    have declared := isSome_imageFor?.mp (Option.isSome_of_eq_some selected)
    obtain ⟨⟨tag, inside, -⟩, -⟩ := declared
    cases inside
  obtain ⟨succeeds, shown, value, -, -⟩ := own_placeholder_shown created acmeCalls held rfl false
    defaultMaxInlineBytes Nat.repr company.tag.shortCode.text company.tag.shortCode.text
    Ascending.empty []
  refine ⟨held, rfl, ?_, succeeds.mpr ⟨unattached, nofun⟩⟩
  intro mail done
  obtain ⟨subject, html⟩ := shown mail done
  rw [value rfl] at subject html
  have escaped : String.ofList (Markup.escape company.text.toList) = "Acme &amp; Co" := by
    decide +kernel
  exact ⟨subject rfl, (html rfl).trans escaped⟩

/-- A value of an owner that its own placeholder does not show. -/
theorem firstName_not_shown :
    create ⟨1⟩ .epoch "Acme" = .ok acme ∧
      CustomTag.ofString "First Name" .string "Ada" = .ok firstName ∧
      firstName ∈ (acme.after acmeCalls).customData ∧ firstName.isResource = false ∧
      firstName.text = "Ada" ∧
      placeholderMail firstName.tag.shortCode = .ok ⟨"", "", "", []⟩ := by
  decide +kernel

end DataOwner

end MailMerge
