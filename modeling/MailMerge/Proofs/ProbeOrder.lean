import MailMerge.Proofs.Skeletons
/-!
The order in which the types are tried on a text. The marks of a text tell how it looks, and types
that look different have no text in common. So the order decides between a date and a date-time,
and between an identifier and a number; for every other text at most one type is right.
-/

set_option autoImplicit false

namespace MailMerge

open Calendar (dateSkeletons timeSkeletons)
open Double (numberSkeletons)
open Text (skeleton)

/-- What a text looks like: a day, with or without a time, a time of day, a truth value, or else an
identifier or a number. -/
inductive Look where
  | day
  | clock
  | truth
  | code
  deriving DecidableEq

namespace Look

variable {cs : List Char}

/-- The words for the truth values. -/
def truthWords : List (List Char) := [['t', 'r', 'u', 'e'], ['f', 'a', 'l', 's', 'e']]

/-- What a text looks like, as its marks tell. -/
def ofChars (cs : List Char) : Look :=
  let marks := skeleton cs
  if cs.map Char.toLower ∈ truthWords then truth
  else if marks.head? = some ':' then clock
  else if marks ∈ dateSkeletons ∨ (':' ∈ marks ∧ marks.head? ∈ [some '-', some '+']) then day
  else code

/-- The letters of a word are marks. -/
theorem head_of_truth (word : cs.map Char.toLower ∈ truthWords) :
    (skeleton cs).head?.map Char.toLower ∈ [some 't', some 'f'] := by
  have letters : ∀ w ∈ truthWords, w.head? ∈ [some 't', some 'f'] := by decide
  have marks : ∀ first ∈ [some 't', some 'f'], first.all (fun d => !Text.isFiller d) = true := by
    decide
  have first := letters _ word
  rw [List.head?_map] at first
  rwa [Text.head_skeleton (marks _ first)]

theorem ofChars_truth (word : cs.map Char.toLower ∈ truthWords) : ofChars cs = truth :=
  if_pos word

theorem ofChars_clock (known : skeleton cs ∈ timeSkeletons) : ofChars cs = clock := by
  have head : ∀ s ∈ timeSkeletons, s.head? = some ':' := by decide
  have word : cs.map Char.toLower ∉ truthWords := by
    intro word
    have letter := head_of_truth word
    rw [head _ known] at letter
    exact absurd letter (by decide)
  simp only [ofChars, if_neg word, if_pos (head _ known)]

theorem ofChars_day (sign : (skeleton cs).head? ∈ [some '-', some '+'])
    (known : skeleton cs ∈ dateSkeletons ∨ ':' ∈ skeleton cs) : ofChars cs = day := by
  have other : ∀ first ∈ [some '-', some '+'],
      first ≠ some ':' ∧ first.map Char.toLower ∉ [some 't', some 'f'] := by decide
  obtain ⟨colon, letter⟩ := other _ sign
  have word : cs.map Char.toLower ∉ truthWords := fun word => letter (head_of_truth word)
  simp only [ofChars, if_neg word, if_neg colon]
  exact if_pos (known.imp_right fun inside => ⟨inside, sign⟩)

theorem ofChars_code (word : cs.map Char.toLower ∉ truthWords)
    (head : (skeleton cs).head? ≠ some ':') (date : skeleton cs ∉ dateSkeletons)
    (moment : ':' ∈ skeleton cs → (skeleton cs).head? ∉ [some '-', some '+']) :
    ofChars cs = code := by
  simp only [ofChars, if_neg word, if_neg head]
  refine if_neg ?_
  rintro (known | ⟨inside, sign⟩)
  · exact date known
  · exact moment inside sign

theorem ofChars_date {d : Date} (read : Date.ofChars? cs = some d) : ofChars cs = day := by
  have known := Date.skeleton_of_read read
  have head : ∀ s ∈ dateSkeletons, s.head? ∈ [some '-', some '+'] := by decide
  exact ofChars_day (head _ known) (Or.inl known)

theorem ofChars_dateTime {dt : DateTime} (read : DateTime.ofChars? cs = some dt) :
    ofChars cs = day := by
  rcases DateTime.skeleton_of_read read with ⟨front, known, behind, same, colon⟩ | ⟨d, date, -⟩
  · have head : ∀ s ∈ dateSkeletons, ∀ behind : List Char,
        (s ++ behind).head? ∈ [some '-', some '+'] := by
      simp [dateSkeletons]
    refine ofChars_day ?_ (Or.inr ?_)
    · rw [same]
      exact head front known behind
    · rw [same]
      exact List.mem_append_right front colon
  · exact ofChars_date date

theorem ofChars_number {s : String} {x : Double} (read : Double.ofText? s = some x)
    (finite : x.isFinite = true) : ofChars s.toList = code := by
  have other : ∀ s ∈ numberSkeletons, s ∉ dateSkeletons ∧ ':' ∉ s ∧ s.head? ≠ some ':' ∧
      s.head?.map Char.toLower ∉ [some 't', some 'f'] := by decide
  obtain ⟨date, colon, head, letter⟩ := other _ (Double.skeleton_of_read read finite)
  exact ofChars_code (fun word => letter (head_of_truth word)) head date fun inside =>
    absurd inside colon

theorem count_hyphen_skeleton (cs : List Char) : (skeleton cs).count '-' = cs.count '-' :=
  List.count_filter (by decide)

/-- Hexadecimal digits with no hyphen or four of them look neither like a day nor like a time. -/
theorem ofChars_hex (long : 32 ≤ cs.length) (digits : ∀ c ∈ cs, c = '-' ∨ Guid.IsHexDigit c)
    (hyphens : cs.count '-' = 0 ∨ cs.count '-' = 4) : ofChars cs = code := by
  have colon : ':' ∉ skeleton cs := by
    intro inside
    exact absurd (digits ':' (List.mem_filter.mp inside).1) (by unfold Guid.IsHexDigit; decide)
  have short : ∀ w ∈ truthWords, w.length < 32 := by decide
  have few : ∀ s ∈ dateSkeletons, s.count '-' ≠ 0 ∧ s.count '-' ≠ 4 := by decide
  refine ofChars_code ?_ ?_ ?_ fun inside => absurd inside colon
  · intro word
    have length := short _ word
    rw [List.length_map] at length
    omega
  · intro head
    exact colon (List.mem_of_head? head)
  · intro date
    have count := few _ date
    rw [count_hyphen_skeleton] at count
    omega

theorem ofChars_led (led : Guid.Led cs) : ofChars cs = code := by
  have words : ∀ first ∈ Guid.leads, first ∉ [some 't', some 'f'] := by decide
  have signs : ∀ first ∈ [some '-', some '+'], first.map Char.toLower ∉ Guid.leads := by decide
  have dates : ∀ s ∈ dateSkeletons, s.head?.map Char.toLower ∉ Guid.leads := by decide
  have lead := led
  rw [Guid.Led, ← led.head] at lead
  refine ofChars_code ?_ ?_ (fun date => dates _ date lead) fun _ sign => signs _ sign lead
  · exact fun word => words _ lead (head_of_truth word)
  · intro colon
    rw [colon] at lead
    exact absurd lead (by decide)

theorem ofChars_guid {s : String} {g : Guid} (read : Guid.ofText? s = some g) :
    ofChars s.toList = code := by
  rcases Guid.forms_of_read read with ⟨length, hex⟩ | ⟨length, hyphens, digits⟩ | led
  · refine ofChars_hex (by omega) (fun c inside => Or.inr (hex c inside)) (Or.inl ?_)
    rw [List.count_eq_zero]
    exact fun inside => absurd (hex '-' inside) (by unfold Guid.IsHexDigit; decide)
  · exact ofChars_hex (by omega) digits (Or.inr hyphens)
  · exact ofChars_led led

/-- A word for a truth value. -/
theorem ofChars_bool {s : String} {b : Bool} (read : TagValue.readBool? s = some b) :
    ofChars s.toList = truth := by
  apply ofChars_truth
  simp only [TagValue.readBool?] at read
  split at read
  · next word =>
      rw [word]
      decide
  · split at read
    · next word =>
        rw [word]
        decide
    · cases read

end Look

namespace TagType

/-- What the texts of a type look like, if it shows. -/
def look? : TagType → Option Look
  | dateOnly => some .day
  | timeOnly => some .clock
  | dateTime => some .day
  | guid => some .code
  | double => some .code
  | bool => some .truth
  | string => none
  | image => none

/-- The pairs of types that have texts in common, the one that is tried first in front. -/
def overlaps : List (TagType × TagType) := [(dateOnly, dateTime), (guid, double)]

theorem overlaps_irrefl (t : TagType) : (t, t) ∉ overlaps := by
  cases t <;> decide

theorem overlaps_of_look {a b : TagType} (shown : a.look?.isSome = true)
    (same : a.look? = b.look?) (distinct : a ≠ b) : (a, b) ∈ overlaps ∨ (b, a) ∈ overlaps := by
  have all : ∀ a ∈ all, ∀ b ∈ all, a.look?.isSome = true → a.look? = b.look? → a ≠ b →
      (a, b) ∈ overlaps ∨ (b, a) ∈ overlaps := by decide
  exact all a (mem_all a) b (mem_all b) shown same distinct

end TagType

namespace TagValue

open TagType (overlaps)

variable {raw : String} {t : TagType} {v : TagValue}

/-- A text has a value of a type. -/
def Accepts (raw : String) (t : TagType) : Prop := ∃ v, parse raw t = .ok v

theorem accepts_iff : Accepts raw t ↔ ∃ v, ofText? raw t = some v := by
  simp only [Accepts, parse_eq_ok]

/-- What is read looks like its type. -/
theorem look_of_read (read : ofText? raw t = some v) :
    ∀ look ∈ t.look?, Look.ofChars (Text.trim raw.toList) = look := by
  rintro look shown
  have chars : (Text.trimmed raw).toList = Text.trim raw.toList := String.toList_ofList
  cases t with
  | string => cases shown
  | image => cases shown
  | dateOnly =>
      cases shown
      obtain ⟨_, found, -⟩ := Option.map_eq_some_iff.mp read
      exact Look.ofChars_date found
  | timeOnly =>
      cases shown
      obtain ⟨_, found, -⟩ := Option.map_eq_some_iff.mp read
      exact Look.ofChars_clock (Time.skeleton_of_read found)
  | dateTime =>
      cases shown
      obtain ⟨_, found, -⟩ := Option.map_eq_some_iff.mp read
      exact Look.ofChars_dateTime found
  | guid =>
      cases shown
      obtain ⟨_, found, -⟩ := Option.map_eq_some_iff.mp read
      rw [← chars]
      exact Look.ofChars_guid found
  | double =>
      cases shown
      obtain ⟨_, found, -⟩ := Option.map_eq_some_iff.mp read
      obtain ⟨decimal, finite⟩ := Option.filter_eq_some_iff.mp found
      rw [← chars]
      exact Look.ofChars_number decimal finite
  | bool =>
      cases shown
      obtain ⟨_, found, -⟩ := Option.map_eq_some_iff.mp read
      rw [← chars]
      exact Look.ofChars_bool found

theorem look?_isSome (plain : t ∉ [.string, .image]) : t.look?.isSome = true := by
  cases t with
  | string => exact absurd (by decide) plain
  | image => exact absurd (by decide) plain
  | _ => rfl

/-- Two types that have a text in common are a pair that overlaps. -/
theorem overlaps_of_accepts {a b : TagType} (first : a ∉ [.string, .image])
    (second : b ∉ [.string, .image]) (distinct : a ≠ b) (here : Accepts raw a)
    (there : Accepts raw b) : (a, b) ∈ overlaps ∨ (b, a) ∈ overlaps := by
  obtain ⟨v, here⟩ := accepts_iff.mp here
  obtain ⟨w, there⟩ := accepts_iff.mp there
  obtain ⟨l, looks⟩ := Option.isSome_iff_exists.mp (look?_isSome first)
  obtain ⟨m, other⟩ := Option.isSome_iff_exists.mp (look?_isSome second)
  have same : l = m := (look_of_read here l looks).symm.trans (look_of_read there m other)
  refine TagType.overlaps_of_look (look?_isSome first) ?_ distinct
  rw [looks, other, same]

/-- A date is read as the date-time of its midnight, since nothing in it could be a time. -/
theorem midnight_of_date {d : Date} (read : parse raw .dateOnly = .ok (date d)) :
    parse raw .dateTime = .ok (dateTime ⟨d, Time.midnight⟩) := by
  obtain ⟨_, found, same⟩ := Option.map_eq_some_iff.mp (parse_eq_ok.mp read)
  cases same
  have bare : ((Date.ofChars? (Text.trim raw.toList)).map fun date =>
      (⟨date, Time.midnight⟩ : DateTime)) = some ⟨d, Time.midnight⟩ := by
    rw [found]
    rfl
  have colon : ∀ s ∈ dateSkeletons, ':' ∉ s := by decide
  cases moment : DateTime.ofChars? (Text.trim raw.toList) with
  | none =>
      rw [DateTime.ofChars?] at moment
      simp only [bare, Option.orElse_eq_none] at moment
      cases moment.2.2.2.2
  | some dt =>
      refine parse_eq_ok.mpr (Option.map_eq_some_iff.mpr ⟨_, moment, ?_⟩)
      rcases DateTime.skeleton_of_read moment with
        ⟨front, -, behind, same, inside⟩ | ⟨e, other, rfl⟩
      · have known := Date.skeleton_of_read found
        rw [same] at known
        exact absurd (List.mem_append_right front inside) (colon _ known)
      · rw [found] at other
        cases other
        rfl

/-- A number has too few hyphens for a hyphenated identifier, and no brace or letter in front. -/
theorem plain_of_guid_of_double (identifier : Accepts raw .guid) (number : Accepts raw .double) :
    Guid.Plain (Text.trim raw.toList) := by
  have chars : (Text.trimmed raw).toList = Text.trim raw.toList := String.toList_ofList
  obtain ⟨_, identifier⟩ := accepts_iff.mp identifier
  obtain ⟨_, number⟩ := accepts_iff.mp number
  obtain ⟨_, read, -⟩ := Option.map_eq_some_iff.mp identifier
  obtain ⟨_, found, -⟩ := Option.map_eq_some_iff.mp number
  obtain ⟨decimal, finite⟩ := Option.filter_eq_some_iff.mp found
  have other : ∀ s ∈ numberSkeletons, s.count '-' ≠ 4 ∧
      s.head?.map Char.toLower ∉ Guid.leads := by decide
  obtain ⟨few, first⟩ := other _ (Double.skeleton_of_read decimal finite)
  have forms := Guid.forms_of_read read
  rw [chars] at forms few first
  rcases forms with plain | ⟨-, hyphens, -⟩ | led
  · exact plain
  · rw [Look.count_hyphen_skeleton] at few
    exact absurd hyphens few
  · rw [led.head] at first
    exact absurd led first

/-- Of a pair that overlaps, the one in front is tried first. -/
theorem tried_before {candidates front back : List TagType} {other : TagType}
    (split : TagType.all.filter candidates.contains = front ++ t :: back)
    (pair : (other, t) ∈ overlaps) (inside : other ∈ candidates) : other ∈ front := by
  have order : TagType.all.Pairwise fun a b => (b, a) ∉ overlaps := by decide
  have here : other ∈ TagType.all.filter candidates.contains :=
    List.mem_filter.mpr ⟨TagType.mem_all other, by simpa using inside⟩
  have kept := order.filter candidates.contains
  rw [split] at kept here
  have behind := (List.pairwise_cons.mp (List.pairwise_append.mp kept).2.1).1
  rcases List.mem_append.mp here with before | later
  · exact before
  · rcases List.mem_cons.mp later with rfl | later
    · exact absurd pair (TagType.overlaps_irrefl other)
    · exact absurd pair (behind _ later)

/-- The first type that a text has a value of. -/
theorem parseFirst_eq_ok {candidates : List TagType} (read : parseFirst raw candidates = .ok v) :
    ∃ t ∈ candidates, parse raw t = .ok v ∧
      ∀ other ∈ candidates, (other, t) ∈ overlaps → ¬Accepts raw other := by
  unfold parseFirst at read
  split at read
  · next found =>
      cases read
      obtain ⟨front, t, back, split, here, before⟩ := List.findSome?_eq_some_iff.mp found
      have inside : t ∈ TagType.all.filter candidates.contains := by simp [split]
      refine ⟨t, by simpa using (List.mem_filter.mp inside).2, parse_eq_ok.mpr here, ?_⟩
      intro other candidate pair accepted
      obtain ⟨w, accepted⟩ := accepts_iff.mp accepted
      rw [before other (tried_before split pair candidate)] at accepted
      cases accepted
  · cases read

theorem parseFirst_eq_error {candidates : List TagType} {e : ValueError} :
    parseFirst raw candidates = .error e ↔
      e = .noCandidate raw ∧ ∀ t ∈ candidates, ¬Accepts raw t := by
  have none : (TagType.all.filter candidates.contains).findSome? (ofText? raw) = none ↔
      ∀ t ∈ candidates, ¬Accepts raw t := by
    simp only [List.findSome?_eq_none_iff, List.mem_filter, List.contains_iff_mem, accepts_iff,
      TagType.mem_all, true_and, ← Option.ne_none_iff_exists', not_not]
  rw [← none, parseFirst]
  cases TagType.all.filter candidates.contains |>.findSome? (ofText? raw) with
  | none => simp [eq_comm]
  | some v => simp

/-- Where a text is neither a string nor an image, the order decides between the types of a pair
that overlaps, and nothing else is left to decide. -/
theorem parseFirst_eq_ok_iff {candidates : List TagType} (plain : .string ∉ candidates)
    (bare : .image ∉ candidates) : parseFirst raw candidates = .ok v ↔
      ∃ t ∈ candidates, parse raw t = .ok v ∧
        ∀ other ∈ candidates, (other, t) ∈ overlaps → ¬Accepts raw other := by
  refine ⟨parseFirst_eq_ok, ?_⟩
  rintro ⟨t, inside, read, before⟩
  have known {t : TagType} (inside : t ∈ candidates) : t ∉ [.string, .image] := by
    rw [List.mem_cons, List.mem_singleton]
    rintro (rfl | rfl)
    · exact plain inside
    · exact bare inside
  cases first : parseFirst raw candidates with
  | error e => exact absurd ⟨v, read⟩ ((parseFirst_eq_error.mp first).2 t inside)
  | ok w =>
      obtain ⟨u, candidate, found, least⟩ := parseFirst_eq_ok first
      by_cases same : t = u
      · rw [← found, ← read, same]
      · rcases overlaps_of_accepts (known inside) (known candidate) same ⟨v, read⟩ ⟨w, found⟩ with
          pair | pair
        · exact absurd ⟨v, read⟩ (least t inside pair)
        · exact absurd ⟨w, found⟩ (before u candidate pair)

/-- The order in which the types are tried matters for dates and for identifiers of 32 digits
only. -/
theorem probe_order (raw : String) :
    (∀ a b, a ∉ [.string, .image] → b ∉ [.string, .image] → a ≠ b → Accepts raw a →
        Accepts raw b → (a, b) ∈ overlaps ∨ (b, a) ∈ overlaps) ∧
      (∀ d, parse raw .dateOnly = .ok (date d) →
        parse raw .dateTime = .ok (dateTime ⟨d, Time.midnight⟩)) ∧
      (Accepts raw .guid → Accepts raw .double → Guid.Plain (Text.trim raw.toList)) ∧
      ∀ candidates, .string ∉ candidates → .image ∉ candidates →
        (∀ v, parseFirst raw candidates = .ok v ↔ ∃ t ∈ candidates, parse raw t = .ok v ∧
          ∀ other ∈ candidates, (other, t) ∈ overlaps → ¬Accepts raw other) ∧
        ∀ e, parseFirst raw candidates = .error e ↔
          e = .noCandidate raw ∧ ∀ t ∈ candidates, ¬Accepts raw t :=
  ⟨fun _ _ => overlaps_of_accepts, fun _ => midnight_of_date, plain_of_guid_of_double,
    fun _ plain bare => ⟨fun _ => parseFirst_eq_ok_iff plain bare, fun _ => parseFirst_eq_error⟩⟩

/-- A leap day, with white space around it. -/
def leapDay : String := " 2000-2-29\n"

/-- Digits that make up an identifier as well as a number. -/
def manyDigits : String := "00000000000000000000000000000010"

theorem leapDay_manyDigits_probed :
    (parse leapDay .dateTime = .ok (dateTime ⟨⟨2000, 2, 29, by decide⟩, Time.midnight⟩) ∧
      parseFirst leapDay [.double, .dateTime, .dateOnly, .dateTime] =
        .ok (date ⟨2000, 2, 29, by decide⟩) ∧
      ((.dateTime, .dateOnly) ∈ overlaps ∨ (.dateOnly, .dateTime) ∈ overlaps)) ∧
      Guid.Plain (Text.trim manyDigits.toList) ∧
      parseFirst manyDigits [.double, .guid] = .ok (guid ⟨0x10⟩) := by
  obtain ⟨pairs, midnight, -, tried⟩ := probe_order leapDay
  obtain ⟨-, -, plain, probed⟩ := probe_order manyDigits
  have day : parse leapDay .dateOnly = .ok (date ⟨2000, 2, 29, by decide⟩) := by rfl
  have identifier : parse manyDigits .guid = .ok (guid ⟨0x10⟩) := by rfl
  have number : Accepts manyDigits .double := by
    have read : (ofText? manyDigits .double).isSome = true := by decide +kernel
    exact accepts_iff.mpr (Option.isSome_iff_exists.mp read)
  have moment := midnight _ day
  have leading (t : TagType) : (t, TagType.dateOnly) ∉ overlaps ∧ (t, TagType.guid) ∉ overlaps := by
    cases t <;> decide
  refine ⟨⟨moment, ?_, ?_⟩, plain ⟨_, identifier⟩ number, ?_⟩
  · refine ((tried _ (by decide) (by decide)).1 _).mpr ⟨.dateOnly, by decide, day, ?_⟩
    exact fun other _ before => absurd before (leading other).1
  · exact pairs .dateTime .dateOnly (by decide) (by decide) (by decide) ⟨_, moment⟩ ⟨_, day⟩
  · refine ((probed _ (by decide) (by decide)).1 _).mpr ⟨.guid, by decide, identifier, ?_⟩
    exact fun other _ before => absurd before (leading other).2

end TagValue

end MailMerge
