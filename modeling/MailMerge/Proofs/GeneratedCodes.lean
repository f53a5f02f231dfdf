import MailMerge.Proofs.ShortCodes
import MailMerge.Template.Type
import MailMerge.Text.LowerCase
/-!
Short codes that are made up from names. The words of a name are joined by underscores and brought
to lower case by the rules for all languages, and then the characters that identifiers do not have
are dropped. Characters beyond ASCII can leave one behind, but none that a second pass would change:
the identifier is a normal form of the name.
-/

set_option autoImplicit false

namespace MailMerge

theorem Text.words_of_solid {cs : List Char} (some : cs ≠ [])
    (solid : ∀ c ∈ cs, isBlankChar c = false) : words cs = [cs] := by
  have whole : splitAt isBlankChar cs = [cs] := by
    clear some
    induction cs with
    | nil => rfl
    | cons c cs ih =>
        rw [splitAt, if_neg (by simp [solid c List.mem_cons_self]), ih fun d later =>
          solid d (List.mem_cons_of_mem c later)]
  simp [words, whole, some]

namespace ShortCode

/-- A character that identifiers made up from names have. -/
def isNormalChar (c : Char) : Bool := isIdentifierChar c && !c.isUpper

theorem ascii_identifierChar {c : Char} (inside : isIdentifierChar c = true) : c.toNat < 128 := by
  have below {limit : Char} (least : c ≤ limit) (small : limit.toNat < 128) : c.toNat < 128 :=
    Nat.lt_of_le_of_lt (UInt32.le_iff_toNat_le.mp least) small
  rcases isIdentifierChar_iff.mp inside with
    ⟨-, upper⟩ | ⟨-, lower⟩ | ⟨-, digit⟩ | rfl | rfl
  · exact below upper (by decide)
  · exact below lower (by decide)
  · exact below digit (by decide)
  · decide
  · decide

theorem solid_identifierChar {c : Char} (inside : isIdentifierChar c = true) :
    Text.isBlankChar c = false := by
  have solid : ∀ n < 128, isIdentifierChar (Char.ofNat n) = true →
      Text.isBlankChar (Char.ofNat n) = false := by decide +kernel
  have here := solid c.toNat (ascii_identifierChar inside)
  rw [Char.ofNat_toNat] at here
  exact here inside

theorem isNormalChar_of_mem {c d : Char} (inside : d ∈ lowerIdentifierChars c) :
    isNormalChar d = true := by
  have letters : ∀ n < 91, 65 ≤ n → isNormalChar (Char.ofNat n).toLower = true := by decide
  rw [lowerIdentifierChars] at inside
  split at inside
  · next upper =>
      rw [List.mem_singleton.mp inside]
      have range := isUpper_iff.mp upper
      have normal := letters c.toNat (Nat.lt_succ_of_le (UInt32.le_iff_toNat_le.mp range.2))
        (UInt32.le_iff_toNat_le.mp range.1)
      rwa [Char.ofNat_toNat] at normal
  · next notUpper =>
      split at inside
      · next identifier =>
          rw [List.mem_singleton.mp inside]
          simp [isNormalChar, identifier, notUpper]
      · split at inside
        · rw [List.mem_singleton.mp inside]
          decide
        · split at inside
          · rw [List.mem_singleton.mp inside]
            decide
          · cases inside

theorem lowerIdentifierChars_normal {c : Char} (normal : isNormalChar c = true) :
    lowerIdentifierChars c = [c] := by
  rw [isNormalChar, Bool.and_eq_true, Bool.not_eq_true'] at normal
  rw [lowerIdentifierChars, if_neg (by simp [normal.2]), if_pos normal.1]

theorem isNormalChar_of_mem_identifier {name : String} {c : Char}
    (inside : c ∈ identifierOfName name) : isNormalChar c = true := by
  obtain ⟨_, -, lowered⟩ := List.mem_flatMap.mp inside
  exact isNormalChar_of_mem lowered

end ShortCode

/-- A name is its own identifier exactly if it has no other characters than such identifiers. -/
theorem ShortCode.identifierOfName_eq_iff {name : String} (some : name.toList ≠ []) :
    identifierOfName name = name.toList ↔ ∀ c ∈ name.toList, isNormalChar c = true := by
  constructor
  · intro same c inside
    rw [← same] at inside
    exact isNormalChar_of_mem_identifier inside
  · intro normal
    have solid (c : Char) (inside : c ∈ name.toList) : Text.isBlankChar c = false := by
      have here := normal c inside
      rw [isNormalChar, Bool.and_eq_true] at here
      exact solid_identifierChar here.1
    have alone : List.intercalate ['_'] [name.toList] = name.toList := by simp
    rw [identifierOfName, Text.words_of_solid some solid, alone,
      List.flatMap_congr fun c inside => lowerIdentifierChars_normal (normal c inside),
      List.flatMap_singleton']

/-- The short code for a name is the one with the identifier for the name. -/
theorem ShortCode.generate_eq_ok {name : String} {code : ShortCode} :
    ShortCode.generate name = .ok code ↔ code.identifier.toList = identifierOfName name := by
  rw [ShortCode.generate, ofName?, ← ofIdentifier?_eq_ok]
  cases ofIdentifier? (identifierOfName name) with
  | ok other =>
      change Except.ok other = Except.ok code ↔ Except.ok other = Except.ok code
      rw [Except.ok.injEq, Except.ok.injEq]
  | error fault => exact ⟨nofun, nofun⟩

theorem NonBlank.check_eq_ok {part : TagPart} {s : String} {t : NonBlank} :
    NonBlank.check part s = .ok t ↔ t.text = s := by
  rw [NonBlank.check]
  constructor
  · intro checked
    split at checked
    · next found =>
        cases checked
        exact text_of_ofString? found
    · cases checked
  · rintro rfl
    rw [ofString?_text]

/-- A tag is made from a name exactly if it has the trimmed name and the short code for it. -/
theorem MergeTag.ofName_eq_ok {name : String} {type : TagType} {tag : MergeTag} :
    ofName name type = .ok tag ↔ tag.name.text = Text.trimmed name ∧ tag.type = type ∧
      tag.shortCode.identifier.toList = ShortCode.identifierOfName tag.name.text := by
  constructor
  · intro made
    obtain ⟨text, checked, made⟩ := bind_eq_ok.mp made
    obtain ⟨code, generated, ⟨⟩⟩ := bind_eq_ok.mp made
    exact ⟨NonBlank.check_eq_ok.mp checked, rfl, ShortCode.generate_eq_ok.mp generated⟩
  · rintro ⟨named, rfl, coded⟩
    have checked : NonBlank.check .name (Text.trimmed name) = .ok tag.name :=
      NonBlank.check_eq_ok.mpr named
    have generated : ShortCode.generate tag.name.text = .ok tag.shortCode :=
      ShortCode.generate_eq_ok.mpr coded
    exact bind_eq_ok.mpr ⟨tag.name, checked, bind_eq_ok.mpr ⟨tag.shortCode, generated, rfl⟩⟩

/-- A tag that is made from a name has the identifier of its short code for a name exactly if the
name is written in lower-case identifier characters. -/
theorem MergeTag.named_by_code_iff {name : String} {type : TagType} {tag : MergeTag}
    (made : ofName name type = .ok tag) : tag.name.text = tag.shortCode.identifier ↔
      ∀ c ∈ tag.name.text.toList, ShortCode.isNormalChar c = true := by
  have some : tag.name.text.toList ≠ [] := by
    intro none
    have solid := tag.name.not_blank
    rw [Text.isBlank, none] at solid
    cases solid
  rw [← ShortCode.identifierOfName_eq_iff some, ← (ofName_eq_ok.mp made).2.2, String.toList_inj,
    eq_comm]

/-! What is left of the full lower case. -/

namespace Text

theorem isIdentifierChar_beyond {c : Char} (beyond : 0x80 ≤ c.toNat) :
    isIdentifierChar c = false := by
  cases inside : isIdentifierChar c with
  | false => rfl
  | true => exact absurd (ShortCode.ascii_identifierChar inside) (Nat.not_lt.mpr beyond)

/-- A number beyond ASCII gives no identifier character, also where it is no code point. -/
theorem isIdentifierChar_ofNat {n : Nat} (beyond : 0x80 ≤ n) :
    isIdentifierChar (Char.ofNat n) = false := by
  by_cases valid : n.isValidChar
  · apply isIdentifierChar_beyond
    rw [Char.ofNat, dif_pos valid]
    exact beyond
  · rw [Char.ofNat, dif_neg valid]
    decide

/-- Among the capitals beyond ASCII only the Kelvin sign has a small letter of ASCII. -/
theorem capitals_beyond : LowerCase.capitals.all (fun (first, last, _, distance) =>
    first = 0x212A ∧ last = 0x212A ∨ 0x80 ≤ (first : Int) + distance) = true := by
  decide

theorem smallLetter?_beyond {c d : Char} (small : smallLetter? c = some d)
    (other : c ≠ '\u212A') : isIdentifierChar d = false := by
  obtain ⟨⟨first, last, step, distance⟩, found, rfl⟩ := Option.map_eq_some_iff.mp small
  have within := List.find?_some found
  have entry := List.all_eq_true.mp capitals_beyond _ (List.mem_of_find?_eq_some found)
  simp only [Bool.and_eq_true, decide_eq_true_eq] at within entry
  obtain ⟨⟨low, high⟩, -⟩ := within
  apply isIdentifierChar_ofNat
  rcases entry with ⟨rfl, rfl⟩ | beyond
  · have kelvin : c = '\u212A' := Char.toNat_inj.mp (Nat.le_antisymm high low)
    exact absurd kelvin other
  · omega

theorem filter_lowerChar_ascii {c : Char} (ascii : c.toNat < 0x80) :
    (lowerChar c).filter isIdentifierChar = ShortCode.lowerIdentifierChars c := by
  have all : ∀ n < 0x80, (lowerChar (Char.ofNat n)).filter isIdentifierChar =
      ShortCode.lowerIdentifierChars (Char.ofNat n) := by decide +kernel
  have here := all c.toNat ascii
  rwa [Char.ofNat_toNat] at here

/-- Of the lower case of a character those are left that `lowerIdentifierChars` gives. -/
theorem filter_lowerChar (c : Char) :
    (lowerChar c).filter isIdentifierChar = ShortCode.lowerIdentifierChars c := by
  by_cases ascii : c.toNat < 0x80
  · exact filter_lowerChar_ascii ascii
  · have outside : isIdentifierChar c = false := isIdentifierChar_beyond (Nat.le_of_not_lt ascii)
    have notUpper : c.isUpper = false := by
      cases upper : c.isUpper with
      | false => rfl
      | true =>
          have inside := ShortCode.isIdentifierChar_iff.mpr (.inl (ShortCode.isUpper_iff.mp upper))
          exact absurd inside (by rw [outside]; decide)
    rw [lowerChar, if_neg ascii, ShortCode.lowerIdentifierChars, notUpper, outside]
    by_cases kelvin : c = '\u212A'
    · subst kelvin
      decide
    · by_cases dotted : c = '\u0130'
      · subst dotted
        decide
      · rw [if_neg dotted, if_neg kelvin, if_neg dotted]
        cases small : smallLetter? c with
        | none => simp [outside]
        | some d => simp [smallLetter?_beyond small kelvin]

/-- A capital sigma has two small letters, and neither of them is left. -/
theorem filter_lowerBehind (before cs : List Char) :
    (lowerBehind before cs).filter isIdentifierChar =
      cs.flatMap ShortCode.lowerIdentifierChars := by
  induction cs generalizing before with
  | nil => rfl
  | cons c cs ih =>
      rw [lowerBehind, List.filter_append, ih, List.flatMap_cons]
      congr 1
      split
      · next sigma =>
          subst sigma
          split <;> decide
      · exact filter_lowerChar c

end Text

namespace ShortCode

/-- What is left of a name: its words, joined by underscores and in lower case, without the
characters that identifiers do not have. -/
def remainder (name : String) : List Char :=
  (Text.lower (List.intercalate ['_'] (Text.words name.toList))).filter isIdentifierChar

theorem identifierOfName_eq (name : String) : identifierOfName name = remainder name :=
  (Text.filter_lowerBehind [] _).symm

theorem generate_blank {name : String} (none : remainder name = []) :
    ShortCode.generate name = .error (.blank .name) := by
  rw [ShortCode.generate, ofName?, identifierOfName_eq, none]
  rfl

/-- Where something is left of a name it is an identifier, since no other characters are left. -/
theorem exists_generate {name : String} (some : remainder name ≠ []) :
    ∃ code, ShortCode.generate name = .ok code ∧
      code.text = String.ofList (inBraces (remainder name)) := by
  have identifier : isIdentifier (remainder name) = true :=
    isIdentifier_iff.mpr ⟨some, fun c inside => (List.mem_filter.mp inside).2⟩
  let code : ShortCode := ⟨String.ofList (remainder name), by rwa [String.toList_ofList]⟩
  refine ⟨code, ?_, ?_⟩
  · rw [generate_eq_ok, identifierOfName_eq]
    exact String.toList_ofList
  · rw [text, String.toList_ofList]

theorem generate_eq_error {name : String} {e : TagError} :
    ShortCode.generate name = .error e ↔ e = .blank .name ∧ remainder name = [] := by
  by_cases none : remainder name = []
  · rw [generate_blank none, Except.error.injEq, eq_comm]
    exact ⟨fun same => ⟨same, none⟩, And.left⟩
  · obtain ⟨code, generated, -⟩ := exists_generate none
    rw [generated]
    exact ⟨nofun, fun failed => absurd failed.2 none⟩

/-- Between two words there is an underscore, which is kept. -/
theorem remainder_of_words {name : String} (two : 2 ≤ (Text.words name.toList).length) :
    remainder name ≠ [] := by
  rw [← identifierOfName_eq, identifierOfName]
  cases parts : Text.words name.toList with
  | nil => simp [parts] at two
  | cons word words =>
      cases words with
      | nil => simp [parts] at two
      | cons next words =>
          have underscore : lowerIdentifierChars '_' = ['_'] := rfl
          rw [List.intercalate_cons_cons, List.flatMap_append, List.flatMap_append,
            List.flatMap_singleton, underscore]
          simp

/-- Only the words of a name count. -/
theorem generate_congr {name other : String}
    (same : Text.words other.toList = Text.words name.toList) :
    ShortCode.generate other = ShortCode.generate name := by
  rw [ShortCode.generate, ShortCode.generate, ofName?, ofName?, identifierOfName, identifierOfName,
    same]

end ShortCode

/-- Where there are no templates, a tag with a new name is accepted exactly if it is named by its
short code. -/
theorem TemplateType.declareTag_bare {tt : TemplateType} {tag : MergeTag} (now : DateTime)
    (bare : tt.templates = []) (fresh : ∀ t ∈ tt.acceptedTags, t.name.text ≠ tag.name.text) :
    (tt.declareTag now tag).answer = .ok () ↔ tag.name.text = tag.shortCode.identifier := by
  have free : ¬(tt.acceptedTags.any fun t => t.name.text == tag.name.text) = true := by
    rw [List.any_eq_true]
    rintro ⟨t, inside, same⟩
    exact fresh t inside (beq_iff_eq.mp same)
  rw [declareTag, eq_comm (a := tag.name.text)]
  by_cases named : tag.shortCode.identifier = tag.name.text
  · rw [if_neg (not_not_intro named), if_neg free, replaceTags, bare, reconcileAll]
    exact iff_of_true rfl named
  · rw [if_pos named]
    exact iff_of_false nofun named

namespace ShortCode

/-- The characters `a` to `z`, `0` to `9`, `_` and `.`. -/
def IsNormalCodeChar (c : Char) : Prop :=
  ('a' ≤ c ∧ c ≤ 'z') ∨ ('0' ≤ c ∧ c ≤ '9') ∨ c = '_' ∨ c = '.'

instance : DecidablePred IsNormalCodeChar := fun c =>
  inferInstanceAs (Decidable (('a' ≤ c ∧ c ≤ 'z') ∨ ('0' ≤ c ∧ c ≤ '9') ∨ c = '_' ∨ c = '.'))

theorem isNormalChar_iff {c : Char} : isNormalChar c = true ↔ IsNormalCodeChar c := by
  simp only [isNormalChar, isIdentifierChar_iff, IsCodeChar, IsNormalCodeChar,
    Bool.and_eq_true, Bool.not_eq_true', ← Bool.not_eq_true, isUpper_iff, Char.le_def]
  constructor
  · rintro ⟨upper | other, notUpper⟩
    · exact absurd upper notUpper
    · exact other
  · intro normal
    refine ⟨Or.inr normal, ?_⟩
    rintro ⟨low, high⟩
    have above : 65 ≤ c.val.toNat := UInt32.le_iff_toNat_le.mp low
    have below : c.val.toNat ≤ 90 := UInt32.le_iff_toNat_le.mp high
    rcases normal with ⟨letter, -⟩ | ⟨-, digit⟩ | rfl | rfl
    · have least : 97 ≤ c.val.toNat := UInt32.le_iff_toNat_le.mp letter
      omega
    · have greatest : c.val.toNat ≤ 57 := UInt32.le_iff_toNat_le.mp digit
      omega
    · exact absurd below (by decide)
    · exact absurd above (by decide)

/-- An identifier that is made from a name is its own identifier, as a name. -/
theorem generate_identifier {name : String} {code : ShortCode}
    (generated : ShortCode.generate name = .ok code) :
    ShortCode.generate code.identifier = .ok code := by
  have made := generate_eq_ok.mp generated
  have normal : ∀ c ∈ code.identifier.toList, isNormalChar c = true := by
    rw [made]
    exact fun c => isNormalChar_of_mem_identifier
  rw [generate_eq_ok, (identifierOfName_eq_iff code.identifier_ne_nil).mpr normal]

end ShortCode

/-- There is a tag for a name that can be declared where its name is not taken exactly if the
trimmed name is written in lower-case identifier characters. -/
theorem MergeTag.declarable_iff {name : String} {type : TagType} {tt : TemplateType}
    (now : DateTime) (bare : tt.templates = [])
    (fresh : ∀ t ∈ tt.acceptedTags, t.name.text ≠ Text.trimmed name) :
    (∃ tag, ofName name type = .ok tag ∧ (tt.declareTag now tag).answer = .ok ()) ↔
      Text.trimmed name ≠ "" ∧ ∀ c ∈ (Text.trimmed name).toList, ShortCode.IsNormalCodeChar c := by
  simp only [← ShortCode.isNormalChar_iff]
  constructor
  · rintro ⟨tag, made, declared⟩
    have named := (ofName_eq_ok.mp made).1
    rw [← named] at fresh ⊢
    refine ⟨?_, (named_by_code_iff made).mp ((tt.declareTag_bare now bare fresh).mp declared)⟩
    intro none
    have solid := tag.name.not_blank
    rw [none] at solid
    cases solid
  · rintro ⟨present, normal⟩
    have some : (Text.trimmed name).toList ≠ [] := by simpa using present
    have solid : Text.isBlank (Text.trimmed name) = false := by
      rw [Bool.eq_false_iff, ne_eq, ← Text.trimmed_eq_empty_iff, Text.trimmed_trimmed]
      exact present
    have identifier : isIdentifier (Text.trimmed name).toList = true :=
      ShortCode.isIdentifier_iff.mpr ⟨some, fun c inside =>
        (Bool.and_eq_true_iff.mp (normal c inside)).1⟩
    let tag : MergeTag := ⟨⟨Text.trimmed name, solid⟩, ⟨Text.trimmed name, identifier⟩, type⟩
    have made : ofName name type = .ok tag :=
      ofName_eq_ok.mpr ⟨rfl, rfl, ((ShortCode.identifierOfName_eq_iff some).mpr normal).symm⟩
    exact ⟨tag, made, (tt.declareTag_bare now bare fresh).mpr rfl⟩

namespace ShortCode

/-- Short codes made from names. What is written as the short code is what is left of the words of
the name, joined by underscores and in lower case; there is no short code exactly if nothing is
left, and no other reason to fail. The identifier is a normal form: it has the characters `a` to
`z`, `0` to `9`, `_` and `.`, depends on the words alone, and stands for itself. Hence a tag that is
made from a name can be declared on a type without templates, where the name is not taken, exactly
if the trimmed name has this form. -/
theorem generate_canonical (name : String) :
    (ShortCode.generate name =
      if remainder name = [] then .error (.blank .name)
      else ShortCode.parse (String.ofList (inBraces (remainder name)))) ∧
    (∀ e, ShortCode.generate name = .error e → e = .blank .name) ∧
    (ShortCode.generate name = .error (.blank .name) ↔ remainder name = []) ∧
    (2 ≤ (Text.words name.toList).length → ∃ code, ShortCode.generate name = .ok code) ∧
    (∀ code, ShortCode.generate name = .ok code →
      code.identifier ≠ "" ∧ (∀ c ∈ code.identifier.toList, IsNormalCodeChar c) ∧
        ShortCode.generate code.identifier = .ok code) ∧
    (∀ other : String, Text.words other.toList = Text.words name.toList →
      ShortCode.generate other = ShortCode.generate name) ∧
    ∀ (type : TagType) (tt : TemplateType) (now : DateTime), tt.templates = [] →
      (∀ t ∈ tt.acceptedTags, t.name.text ≠ Text.trimmed name) →
      ((∃ tag, MergeTag.ofName name type = .ok tag ∧ (tt.declareTag now tag).answer = .ok ()) ↔
        Text.trimmed name ≠ "" ∧ ∀ c ∈ (Text.trimmed name).toList, IsNormalCodeChar c) := by
  refine ⟨?_, fun e failed => (generate_eq_error.mp failed).1, ?_, ?_, ?_, fun _ => generate_congr,
    fun type tt now => MergeTag.declarable_iff now⟩
  · split
    · next none => exact generate_blank none
    · next some =>
        obtain ⟨code, generated, written⟩ := exists_generate some
        rw [generated, ← written, parse_text]
  · rw [generate_eq_error, eq_self, true_and]
  · intro two
    obtain ⟨code, generated, -⟩ := exists_generate (remainder_of_words two)
    exact ⟨code, generated⟩
  · intro code generated
    refine ⟨?_, ?_, generate_identifier generated⟩
    · have some := code.identifier_ne_nil
      simpa using some
    · intro c inside
      rw [generate_eq_ok.mp generated] at inside
      exact isNormalChar_iff.mp (isNormalChar_of_mem_identifier inside)

/-- A type without tags and templates. -/
def bareType : TemplateType := ⟨⟨1⟩, "Mails", [], [], .epoch, .epoch⟩

/-- The Kelvin sign leaves a small letter, the dotted capital one without its dot, and the sharp s
nothing. -/
theorem kelvin_generated :
    (∃ code, ShortCode.generate " \u212Aelvin\u2003\u0130ß " = .ok code ∧
      code.identifier = "kelvin_i" ∧ ShortCode.generate "kelvin_i" = .ok code ∧
      ShortCode.generate "\u212Aelvin \u0130ß" = .ok code) ∧
    (∃ tag, MergeTag.ofName " kelvin_i" .double = .ok tag ∧
      (bareType.declareTag .epoch tag).answer = .ok ()) ∧
    ¬∃ tag, MergeTag.ofName "Kelvin_i" .double = .ok tag ∧
      (bareType.declareTag .epoch tag).answer = .ok () := by
  have words : Text.words " \u212Aelvin\u2003\u0130ß ".toList =
      ["\u212Aelvin".toList, "\u0130ß".toList] := by decide
  obtain ⟨-, -, -, found, normal, same, -⟩ := generate_canonical " \u212Aelvin\u2003\u0130ß "
  obtain ⟨code, generated⟩ := found (by rw [words]; decide)
  have identifier : code.identifier = "kelvin_i" := by
    rw [← String.toList_inj, generate_eq_ok.mp generated]
    decide
  have again := (normal code generated).2.2
  rw [identifier] at again
  have other := same "\u212Aelvin \u0130ß" (by rw [words]; decide)
  obtain ⟨-, -, -, -, -, -, declared⟩ := generate_canonical " kelvin_i"
  obtain ⟨-, -, -, -, -, -, refused⟩ := generate_canonical "Kelvin_i"
  refine ⟨⟨code, generated, identifier, again, other.trans generated⟩, ?_, ?_⟩
  · have normal : (Text.trimmed " kelvin_i").toList.all isNormalChar = true := by decide
    refine (declared .double bareType .epoch rfl nofun).mpr ⟨by decide, ?_⟩
    exact fun c inside => isNormalChar_iff.mp (List.all_eq_true.mp normal c inside)
  · intro made
    have capital := ((refused .double bareType .epoch rfl nofun).mp made).2 'K' (by decide)
    exact absurd capital (by decide)

end ShortCode

end MailMerge
