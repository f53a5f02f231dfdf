import MailMerge.Proofs.Digits
import MailMerge.Tag.Value
import Mathlib.Data.Option.Basic
/-!
The marks of the texts that readers take. Readers of dates, times and numbers differ in how many
digits and how much white space they allow, but each of them takes its marks in a fixed order. So a
text is told by its skeleton, that is, by what is left of it without digits and white space.
-/

set_option autoImplicit false

namespace MailMerge

namespace Text

/-- Digits and white space. -/
def isFiller (c : Char) : Bool := c.isDigit || isBlankChar c

/-- What is left of a text without digits and white space. -/
def skeleton (cs : List Char) : List Char := cs.filter fun c => !isFiller c

/-- A sign, if there is one. -/
def signs : List (List Char) := [[], ['-'], ['+']]

/-- A point, if there is one. -/
def points : List (List Char) := [[], ['.']]

theorem isFiller_of_isDigit {c : Char} (digit : c.isDigit = true) : isFiller c = true := by
  rw [isFiller, digit, Bool.true_or]

theorem isFiller_of_isBlankChar {c : Char} (blank : isBlankChar c = true) :
    isFiller c = true := by
  rw [isFiller, blank, Bool.or_true]

theorem skeleton_append (front back : List Char) :
    skeleton (front ++ back) = skeleton front ++ skeleton back := List.filter_append front back

theorem skeleton_mark {c : Char} (mark : isFiller c = false) (cs : List Char) :
    skeleton (c :: cs) = c :: skeleton cs := List.filter_cons_of_pos (by simp [mark])

theorem skeleton_digits {ds : List Char} (digits : ds.all Char.isDigit = true) :
    skeleton ds = [] := by
  rw [skeleton, List.filter_eq_nil_iff]
  intro c inside
  simp [isFiller_of_isDigit (List.all_eq_true.mp digits c inside)]

theorem skeleton_dropWhile {p : Char → Bool} (filler : ∀ c, p c = true → isFiller c = true)
    (cs : List Char) : skeleton (cs.dropWhile p) = skeleton cs := by
  induction cs with
  | nil => rfl
  | cons c cs ih =>
      rw [List.dropWhile_cons]
      split
      · next more => rw [ih, skeleton, skeleton, List.filter_cons_of_neg (by simp [filler c more])]
      · rfl

theorem skeleton_trimStart (cs : List Char) : skeleton (trimStart cs) = skeleton cs :=
  skeleton_dropWhile (fun _ => isFiller_of_isBlankChar) cs

theorem skeleton_spanDigits (cs : List Char) : skeleton (spanDigits cs).2 = skeleton cs :=
  skeleton_dropWhile (fun _ => isFiller_of_isDigit) cs

/-- Only capital letters have another lower case. -/
theorem toLower_of_isFiller {c : Char} (filler : isFiller c = true) : c.toLower = c := by
  refine dif_neg ?_
  rintro ⟨first, last⟩
  have low : 65 ≤ c.toNat := UInt32.le_iff_toNat_le.mp first
  have high : c.toNat ≤ 90 := UInt32.le_iff_toNat_le.mp last
  rw [isFiller, Bool.or_eq_true] at filler
  rcases filler with digit | blank
  · simp only [Char.isDigit, Bool.and_eq_true, decide_eq_true_eq, UInt32.le_iff_toNat_le] at digit
    have small : c.toNat ≤ 57 := digit.2
    omega
  · simp only [isBlankChar, Bool.or_eq_true, Bool.and_eq_true, decide_eq_true_eq,
      beq_iff_eq] at blank
    omega

/-- Digits and white space cannot stand for a mark, not even in another case. -/
theorem isFiller_of_toLower {c : Char} (mark : isFiller c.toLower = false) :
    isFiller c = false := by
  cases filler : isFiller c with
  | false => rfl
  | true => rw [toLower_of_isFiller filler, filler] at mark; cases mark

/-- A text that starts with a mark still does without digits and white space. -/
theorem head_skeleton {cs : List Char}
    (mark : (cs.head?.map Char.toLower).all (fun d => !isFiller d) = true) :
    (skeleton cs).head? = cs.head? := by
  cases cs with
  | nil => rfl
  | cons c cs =>
      have first : isFiller c.toLower = false := by simpa using mark
      rw [skeleton_mark (isFiller_of_toLower first)]
      rfl

end Text

namespace Calendar

open Text (skeleton signs points)

variable {cs rest : List Char}

/-! Numbers have no marks, and the white space in front of them is none either. -/

theorem number?_skeleton {width n : Nat} (read : number? width cs = some (n, rest)) :
    skeleton cs = skeleton rest := by
  simp only [number?] at read
  split at read
  · cases read
  · cases read
    have digits := List.all_takeWhile (p := Char.isDigit) (l := cs.take width)
    have front : (cs.take width).takeWhile Char.isDigit <+: cs :=
      (List.takeWhile_prefix _).trans (List.take_prefix _ _)
    generalize (cs.take width).takeWhile Char.isDigit = run at digits front
    obtain ⟨behind, rfl⟩ := front
    rw [Text.skeleton_append, Text.skeleton_digits digits, List.nil_append, List.drop_left]

theorem fixed?_skeleton {width n : Nat} (read : fixed? width cs = some (n, rest)) :
    skeleton cs = skeleton rest := by
  simp only [fixed?] at read
  split at read
  · next run =>
      cases read
      have whole := Text.skeleton_append (cs.take width) (cs.drop width)
      rwa [List.take_append_drop, Text.skeleton_digits run.2, List.nil_append] at whole
  · cases read

theorem field?_skeleton {n : Nat} (read : field? cs = some (n, rest)) :
    skeleton cs = skeleton rest := by
  rw [← Text.skeleton_trimStart, number?_skeleton read]

/-- A year may have a sign. -/
theorem year?_skeleton {year : Int} (read : year? cs = some (year, rest)) :
    ∃ sign ∈ signs, skeleton cs = sign ++ skeleton rest := by
  have number {width : Nat} {value : Nat × List Char → Int × List Char} {ds : List Char}
      (found : (number? width ds).map value = some (year, rest))
      (behind : ∀ taken, (value taken).2 = taken.2) : skeleton ds = skeleton rest := by
    obtain ⟨taken, digits, same⟩ := Option.map_eq_some_iff.mp found
    rw [number?_skeleton digits, ← behind taken, same]
  rw [year?] at read
  rw [← Text.skeleton_trimStart]
  split at read
  · next start =>
      rw [start, Text.skeleton_mark (by decide), number read fun _ => rfl]
      exact ⟨['-'], by decide, rfl⟩
  · next start =>
      rw [start, Text.skeleton_mark (by decide), number read fun _ => rfl]
      exact ⟨['+'], by decide, rfl⟩
  · rw [number read fun _ => rfl]
    exact ⟨[], by decide, rfl⟩

theorem mark?_eq_some {c : Char} : mark? c cs = some rest ↔ cs = c :: rest := by
  cases cs with
  | nil => simp [mark?]
  | cons d ds => simp [mark?, eq_comm]

theorem mark?_skeleton {c : Char} (mark : Text.isFiller c = false)
    (read : mark? c cs = some rest) : skeleton cs = c :: skeleton rest := by
  rw [mark?_eq_some.mp read, Text.skeleton_mark mark]

theorem looseMark?_skeleton {lenient : Bool} {c : Char} (mark : Text.isFiller c = false)
    (read : looseMark? lenient c cs = some rest) : skeleton cs = c :: skeleton rest := by
  rw [← mark?_skeleton mark read]
  cases lenient with
  | true => exact (Text.skeleton_trimStart cs).symm
  | false => rfl

theorem fraction?_skeleton {nano : Nat} (read : fraction? cs = some (nano, rest)) :
    ∃ point ∈ points, skeleton cs = point ++ skeleton rest := by
  unfold fraction? at read
  split at read
  · next behind =>
      simp only at read
      split at read
      · cases read
      · cases read
        refine ⟨['.'], by decide, ?_⟩
        rw [Text.skeleton_mark (by decide), Text.skeleton_spanDigits]
        rfl
  · cases read
    exact ⟨[], by decide, rfl⟩

/-- The skeletons of dates. -/
def dateSkeletons : List (List Char) := [['-', '-'], ['-', '-', '-'], ['+', '-', '-']]

/-- The skeletons of times of day. -/
def timeSkeletons : List (List Char) := [[':'], [':', ':'], [':', ':', '.']]

theorem date?_skeleton {date : Date} (read : date? false cs = some (date, rest)) :
    ∃ front ∈ dateSkeletons, skeleton cs = front ++ skeleton rest := by
  simp only [date?, Option.bind_eq_bind, Option.bind_eq_some_iff, Prod.exists, Option.pure_def,
    Option.some.injEq, Prod.mk.injEq] at read
  obtain ⟨_, _, year, _, first, _, _, month, _, second, _, _, day, _, -, -, rfl⟩ := read
  obtain ⟨sign, signed, start⟩ := year?_skeleton year
  have known : ∀ sign ∈ signs, sign ++ ['-', '-'] ∈ dateSkeletons := by decide
  refine ⟨sign ++ ['-', '-'], known sign signed, ?_⟩
  rw [start, looseMark?_skeleton (by decide) first, field?_skeleton month,
    looseMark?_skeleton (by decide) second, field?_skeleton day, List.append_assoc]
  rfl

theorem clock?_skeleton {time : Time} (read : clock? false cs = some (time, rest)) :
    ∃ front ∈ timeSkeletons, skeleton cs = front ++ skeleton rest := by
  simp only [clock?, Option.bind_eq_bind, Option.bind_eq_some_iff, Prod.exists, Option.pure_def,
    Option.some.injEq, Prod.mk.injEq] at read
  obtain ⟨_, _, hour, _, first, _, _, minute, _, second, _, _, seconds, _, _, fraction, _, -, -,
    rfl⟩ := read
  obtain ⟨point, pointed, ends⟩ := fraction?_skeleton fraction
  have known : ∀ point ∈ points, ':' :: ':' :: point ∈ timeSkeletons := by decide
  refine ⟨':' :: ':' :: point, known point pointed, ?_⟩
  rw [field?_skeleton hour, looseMark?_skeleton (by decide) first, field?_skeleton minute,
    looseMark?_skeleton (by decide) second, field?_skeleton seconds, ends]
  rfl

theorem hourMinute?_skeleton {time : Time} (read : hourMinute? cs = some (time, rest)) :
    ∃ front ∈ timeSkeletons, skeleton cs = front ++ skeleton rest := by
  simp only [hourMinute?, Option.bind_eq_bind, Option.bind_eq_some_iff, Prod.exists,
    Option.pure_def, Option.some.injEq, Prod.mk.injEq] at read
  obtain ⟨_, _, hour, _, colon, _, _, minute, _, -, -, rfl⟩ := read
  refine ⟨[':'], by decide, ?_⟩
  rw [field?_skeleton hour, mark?_skeleton (by decide) colon, field?_skeleton minute]
  rfl

theorem dayBreak?_skeleton (read : dayBreak? cs = some rest) :
    ∃ front, skeleton cs = front ++ skeleton rest := by
  unfold dayBreak? at read
  split at read
  · cases read
    exact ⟨['T'], Text.skeleton_mark (by decide) rest⟩
  · cases read
    exact ⟨['t'], Text.skeleton_mark (by decide) rest⟩
  · cases read
    exact ⟨[], rfl⟩
  · cases read

/-- A time stamp starts like a date without a sign and goes on with the colon of a time. -/
theorem stamp?_skeleton {moment : DateTime} (read : stamp? cs = some (moment, rest)) :
    ∃ behind, skeleton cs = ['-', '-'] ++ behind ∧ ':' ∈ behind := by
  obtain ⟨_, year, read⟩ := Option.bind_eq_some_iff.mp read
  obtain ⟨_, first, read⟩ := Option.bind_eq_some_iff.mp read
  obtain ⟨_, month, read⟩ := Option.bind_eq_some_iff.mp read
  obtain ⟨_, second, read⟩ := Option.bind_eq_some_iff.mp read
  obtain ⟨⟨_, behind⟩, day, read⟩ := Option.bind_eq_some_iff.mp read
  obtain ⟨_, between, read⟩ := Option.bind_eq_some_iff.mp read
  obtain ⟨_, hour, read⟩ := Option.bind_eq_some_iff.mp read
  obtain ⟨_, colon, -⟩ := Option.bind_eq_some_iff.mp read
  refine ⟨skeleton behind, ?_, ?_⟩
  · rw [fixed?_skeleton year, mark?_skeleton (by decide) first, fixed?_skeleton month,
      mark?_skeleton (by decide) second, fixed?_skeleton day]
    rfl
  · obtain ⟨front, apart⟩ := dayBreak?_skeleton between
    rw [apart, fixed?_skeleton hour, mark?_skeleton (by decide) colon]
    simp

theorem whole?_eq_some {α : Type} {read : Option (α × List Char)} {a : α} :
    whole? read = some a ↔ read = some (a, []) := by
  cases read with
  | none => simp [whole?]
  | some pair =>
      obtain ⟨b, rest⟩ := pair
      cases rest <;> simp [whole?]

end Calendar

section Readers

open Text (skeleton signs points)
open Calendar

variable {cs : List Char}

theorem Date.skeleton_of_read {d : Date} (read : ofChars? cs = some d) :
    skeleton cs ∈ dateSkeletons := by
  obtain ⟨front, known, same⟩ := date?_skeleton (whole?_eq_some.mp read)
  rwa [same, Text.skeleton, List.filter_nil, List.append_nil]

theorem Time.skeleton_of_read {t : Time} (read : ofChars? cs = some t) :
    skeleton cs ∈ timeSkeletons := by
  have front : ∃ front ∈ timeSkeletons, skeleton cs = front ++ skeleton [] := by
    rcases (Option.orElse_eq_some _ _ _).mp read with clock | ⟨-, short⟩
    · exact clock?_skeleton (whole?_eq_some.mp clock)
    · exact hourMinute?_skeleton (whole?_eq_some.mp short)
  obtain ⟨front, known, same⟩ := front
  rwa [same, Text.skeleton, List.filter_nil, List.append_nil]

/-- A date with a time behind it. -/
theorem DateTime.skeleton_of_parts {between : List Char → Option (List Char)}
    {time : List Char → Option (Time × List Char)} {dt : DateTime}
    (apart : ∀ cs rest, between cs = some rest → ∃ front, skeleton cs = front ++ skeleton rest)
    (clock : ∀ cs rest t, time cs = some (t, rest) →
      ∃ front ∈ timeSkeletons, skeleton cs = front ++ skeleton rest)
    (read : parts? between time cs = some dt) :
    ∃ front ∈ dateSkeletons, ∃ behind, skeleton cs = front ++ behind ∧ ':' ∈ behind := by
  have parts := whole?_eq_some.mp read
  simp only [Option.bind_eq_bind, Option.bind_eq_some_iff, Prod.exists, Option.pure_def,
    Option.some.injEq, Prod.mk.injEq] at parts
  obtain ⟨_, behind, date, _, gap, _, _, shown, -, rfl⟩ := parts
  obtain ⟨front, dates, start⟩ := date?_skeleton date
  obtain ⟨more, middle⟩ := apart _ _ gap
  obtain ⟨last, times, ends⟩ := clock _ _ _ shown
  have colon : ∀ last ∈ timeSkeletons, ':' ∈ last := by decide
  refine ⟨front, dates, skeleton behind, start, ?_⟩
  rw [middle, ends]
  simp [colon last times]

/-- A text that is read as a date-time has a time behind a date, or it is a date and nothing
else. -/
theorem DateTime.skeleton_of_read {dt : DateTime} (read : ofChars? cs = some dt) :
    (∃ front ∈ dateSkeletons, ∃ behind, skeleton cs = front ++ behind ∧ ':' ∈ behind) ∨
      ∃ d, Date.ofChars? cs = some d ∧ dt = ⟨d, Time.midnight⟩ := by
  have letter (cs rest : List Char) (read : mark? 'T' cs = some rest) :
      ∃ front, skeleton cs = front ++ skeleton rest :=
    ⟨['T'], mark?_skeleton (by decide) read⟩
  have space (cs rest : List Char) (read : some (Text.trimStart cs) = some rest) :
      ∃ front, skeleton cs = front ++ skeleton rest := by
    cases read
    exact ⟨[], (Text.skeleton_trimStart cs).symm⟩
  have clock (cs rest : List Char) (t : Time) (read : clock? false cs = some (t, rest)) :=
    clock?_skeleton read
  have short (cs rest : List Char) (t : Time) (read : hourMinute? cs = some (t, rest)) :=
    hourMinute?_skeleton read
  simp only [ofChars?, Option.orElse_eq_some] at read
  rcases read with stamp | ⟨-, joined | ⟨-, spaced | ⟨-, brief | ⟨-, bare⟩⟩⟩⟩
  · exact Or.inl ⟨['-', '-'], by decide, stamp?_skeleton (whole?_eq_some.mp stamp)⟩
  · exact Or.inl (skeleton_of_parts letter clock joined)
  · exact Or.inl (skeleton_of_parts space clock spaced)
  · exact Or.inl (skeleton_of_parts letter short brief)
  · obtain ⟨d, date, rfl⟩ := Option.map_eq_some_iff.mp bare
    exact Or.inr ⟨d, date, rfl⟩

end Readers

namespace Double

open Text (skeleton signs points)

variable {cs : List Char} {negative : Bool} {x : Double}

/-- The letter of an exponent and its sign, if there is one. -/
def exponents : List (List Char) := [] :: ['e', 'E'].flatMap fun c => signs.map (c :: ·)

/-- The skeletons of decimal numbers. -/
def numberSkeletons : List (List Char) :=
  signs.flatMap fun sign => points.flatMap fun point => exponents.map fun exponent =>
    sign ++ (point ++ exponent)

theorem readExponent?_skeleton {e : Int} (read : readExponent? cs = some e) :
    skeleton cs ∈ signs := by
  have digits {ds : List Char} {found : Int}
      (taken : (if !ds.isEmpty && ds.all Char.isDigit then some found else none) = some e) :
      skeleton ds = [] := by
    split at taken
    · next all => exact Text.skeleton_digits (Bool.and_eq_true_iff.mp all).2
    · cases taken
  unfold readExponent? at read
  split at read
  · rw [Text.skeleton_mark (by decide), digits read]
    decide
  · rw [Text.skeleton_mark (by decide), digits read]
    decide
  · rw [digits read]
    decide

theorem spanFraction_skeleton (cs : List Char) :
    ∃ point ∈ points, skeleton cs = point ++ skeleton (spanFraction cs).2 := by
  unfold spanFraction
  split
  · next rest =>
      refine ⟨['.'], by decide, ?_⟩
      rw [Text.skeleton_mark (by decide), Text.skeleton_spanDigits]
      rfl
  · exact ⟨[], by decide, rfl⟩

theorem readMagnitude?_skeleton (read : readMagnitude? negative cs = some x) :
    ∃ point ∈ points, ∃ exponent ∈ exponents, skeleton cs = point ++ exponent := by
  obtain ⟨point, known, behind⟩ := spanFraction_skeleton (Text.spanDigits cs).2
  rw [Text.skeleton_spanDigits] at behind
  refine ⟨point, known, _, ?_, behind⟩
  simp only [readMagnitude?] at read
  split at read
  · cases read
  · split at read
    · next ends =>
        rw [ends]
        decide
    · next c rest more =>
        split at read
        · next letter =>
            obtain ⟨e, exponent, -⟩ := Option.map_eq_some_iff.mp read
            have known : ∀ sign ∈ signs, 'e' :: sign ∈ exponents ∧ 'E' :: sign ∈ exponents := by
              decide
            have found := known _ (readExponent?_skeleton exponent)
            rcases letter with rfl | rfl
            · rw [more, Text.skeleton_mark (by decide)]
              exact found.1
            · rw [more, Text.skeleton_mark (by decide)]
              exact found.2
        · cases read

theorem readUnsigned?_skeleton (read : readUnsigned? negative cs = some x)
    (finite : x.isFinite = true) :
    ∃ point ∈ points, ∃ exponent ∈ exponents, skeleton cs = point ++ exponent := by
  simp only [readUnsigned?] at read
  split at read
  · cases read
    cases finite
  · split at read
    · cases read
      cases finite
    · exact readMagnitude?_skeleton read

theorem skeleton_of_read {s : String} (read : ofText? s = some x) (finite : x.isFinite = true) :
    skeleton s.toList ∈ numberSkeletons := by
  have whole (sign : List Char) (known : sign ∈ signs) {cs : List Char}
      (unsigned : ∃ point ∈ points, ∃ exponent ∈ exponents, skeleton cs = point ++ exponent) :
      sign ++ skeleton cs ∈ numberSkeletons := by
    obtain ⟨point, pointed, exponent, raised, same⟩ := unsigned
    rw [same]
    exact List.mem_flatMap.mpr ⟨sign, known, List.mem_flatMap.mpr ⟨point, pointed,
      List.mem_map_of_mem raised⟩⟩
  unfold ofText? at read
  split at read
  · next start =>
      rw [start, Text.skeleton_mark (by decide)]
      exact whole ['-'] (by decide) (readUnsigned?_skeleton read finite)
  · next start =>
      rw [start, Text.skeleton_mark (by decide)]
      exact whole ['+'] (by decide) (readUnsigned?_skeleton read finite)
  · exact whole [] (by decide) (readUnsigned?_skeleton read finite)

end Double

namespace Guid

/-- A hexadecimal digit of either case. -/
def IsHexDigit (c : Char) : Prop :=
  ('0' ≤ c ∧ c ≤ '9') ∨ ('a' ≤ c ∧ c ≤ 'f') ∨ ('A' ≤ c ∧ c ≤ 'F')

theorem isHexDigit_of_hexValue? {c : Char} {n : Nat} (read : Text.hexValue? c = some n) :
    IsHexDigit c := by
  unfold Text.hexValue? at read
  split at read
  · next digit =>
      rw [Char.isDigit, Bool.and_eq_true, decide_eq_true_eq, decide_eq_true_eq] at digit
      exact Or.inl digit
  · split at read
    · next small => exact Or.inr (Or.inl small)
    · split at read
      · next capital => exact Or.inr (Or.inr capital)
      · cases read

theorem isHexDigit_of_mem {cs : List Char} {start n : Nat}
    (read : Text.hexDigitsValue? start cs = some n) : ∀ c ∈ cs, IsHexDigit c := by
  induction cs generalizing start with
  | nil => exact nofun
  | cons c cs ih =>
      obtain ⟨v, first, rest⟩ := Option.bind_eq_some_iff.mp read
      exact List.forall_mem_cons.mpr ⟨isHexDigit_of_hexValue? first, ih rest⟩

variable {cs : List Char} {g : Guid}

/-- The plain form: 32 hexadecimal digits. -/
def Plain (cs : List Char) : Prop := cs.length = 32 ∧ ∀ c ∈ cs, IsHexDigit c

theorem plain_of_ofHex? (read : ofHex? cs = some g) : Plain cs := by
  unfold ofHex? at read
  split at read
  · next length =>
      obtain ⟨n, digits, -⟩ := Option.map_eq_some_iff.mp read
      exact ⟨length, isHexDigit_of_mem digits⟩
  · cases read

/-- The hyphenated form, as far as it matters here: four hyphens among hexadecimal digits. -/
def Hyphenated (cs : List Char) : Prop :=
  cs.length = 36 ∧ cs.count '-' = 4 ∧ ∀ c ∈ cs, c = '-' ∨ IsHexDigit c

theorem hyphenated_of_ofHyphenated? (length : cs.length = 36) (read : ofHyphenated? cs = some g) :
    Hyphenated cs := by
  simp only [ofHyphenated?] at read
  split at read
  · obtain ⟨digits, hex⟩ := plain_of_ofHex? read
    refine ⟨length, ?_, ?_⟩
    · have parts := List.length_eq_countP_add_countP (p := (· != '-')) (l := cs)
      rw [List.countP_eq_length_filter, digits, length] at parts
      have hyphens : cs.countP (fun c => decide ¬(c != '-') = true) = cs.count '-' :=
        List.countP_congr (by simp)
      rw [hyphens] at parts
      omega
    · intro c inside
      by_cases hyphen : c = '-'
      · exact Or.inl hyphen
      · exact Or.inr (hex c (List.mem_filter.mpr ⟨inside, by simpa using hyphen⟩))
  · cases read

/-- The characters that stand in front of the other forms, a brace and the letter of a scheme. -/
def leads : List (Option Char) := [some '{', some 'u']

/-- Braces or a scheme around the hyphenated form. -/
def Led (cs : List Char) : Prop := cs.head?.map Char.toLower ∈ leads

theorem Led.head (led : Led cs) : (Text.skeleton cs).head? = cs.head? := by
  have marks : ∀ first ∈ leads, first.all (fun d => !Text.isFiller d) = true := by decide
  exact Text.head_skeleton (marks _ led)

theorem forms_of_read {s : String} (read : ofText? s = some g) :
    Plain s.toList ∨ Hyphenated s.toList ∨ Led s.toList := by
  simp only [ofText?] at read
  generalize s.toList = cs at read ⊢
  split at read
  · exact Or.inl (plain_of_ofHex? read)
  · next length => exact Or.inr (Or.inl (hyphenated_of_ofHyphenated? length read))
  · next length =>
      split at read
      · next braces =>
          rw [Led, braces.1]
          exact Or.inr (Or.inr (by decide))
      · cases read
  · next length =>
      split at read
      · next lead =>
          have first := congrArg List.head? lead
          rw [List.head?_map, List.head?_take, if_neg (by decide)] at first
          rw [Led, first]
          exact Or.inr (Or.inr (by decide))
      · cases read
  · cases read

end Guid

end MailMerge
