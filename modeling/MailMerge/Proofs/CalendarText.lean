import MailMerge.Calendar.Read
import MailMerge.Proofs.Digits
/-!
Dates and times that are read back from their texts. Every reader takes what the printer has written
and leaves what stands behind it; the only text that could be taken for another one is that of a
date-time, which is no time stamp since it has no zone.
-/

set_option autoImplicit false

namespace MailMerge

namespace Calendar

open Text (NoDigit paddedDigits)

/-- A run of digits is read as a number where it has the full width or no digit follows. -/
theorem number?_append {width : Nat} {ds rest : List Char} (all : ∀ c ∈ ds, c.isDigit = true)
    (some : ds ≠ []) (fits : ds.length ≤ width) (ends : ds.length = width ∨ NoDigit rest) :
    number? width (ds ++ rest) = .some (Text.digitsValue ds, rest) := by
  have run : ((ds ++ rest).take width).takeWhile Char.isDigit = ds := by
    have last : NoDigit (rest.take (width - ds.length)) := by
      intro c first
      rcases ends with full | ends
      · rw [full, Nat.sub_self] at first
        cases first
      · apply ends c
        rw [List.head?_take] at first
        split at first
        · cases first
        · exact first
    rw [List.take_append, List.take_of_length_le fits, Text.takeWhile_digits all last]
  have present : ds.isEmpty = false := by simpa using some
  rw [number?, run]
  simp [present]

theorem fixed?_padded {width n : Nat} (some : 0 < width) (fits : n < Nat.pow 10 width)
    (rest : List Char) : fixed? width (paddedDigits width n ++ rest) = .some (n, rest) := by
  have length := Text.length_paddedDigits some fits
  have run : (paddedDigits width n ++ rest).take width = paddedDigits width n := by
    rw [List.take_append_of_le_length (Nat.le_of_eq length.symm),
      List.take_of_length_le (Nat.le_of_eq length)]
  have all : (paddedDigits width n).all Char.isDigit = true := by
    rw [List.all_eq_true]
    exact fun c => Text.isDigit_of_mem_paddedDigits
  have behind : (paddedDigits width n ++ rest).drop width = rest := by
    rw [List.drop_append_of_le_length (Nat.le_of_eq length.symm),
      List.drop_of_length_le (Nat.le_of_eq length),
      List.nil_append]
  rw [fixed?, run, behind, if_pos ⟨length, all⟩, Text.digitsValue_paddedDigits]

/-- A field of two digits is read, whatever follows. -/
theorem field?_padded {n : Nat} (fits : n < 100) (rest : List Char) :
    field? (paddedDigits 2 n ++ rest) = some (n, rest) := by
  have all : ∀ c ∈ paddedDigits 2 n, c.isDigit = true := fun c => Text.isDigit_of_mem_paddedDigits
  have length : (paddedDigits 2 n).length = 2 := Text.length_paddedDigits (by decide) fits
  have solid : Text.trimStart (paddedDigits 2 n ++ rest) = paddedDigits 2 n ++ rest := by
    cases front : paddedDigits 2 n with
    | nil => exact absurd front (Text.paddedDigits_ne_nil 2 n)
    | cons c ds =>
        have digit : c.isDigit = true := all c (by simp [front])
        exact Text.trimStart_cons (Text.isBlankChar_of_isDigit digit) _
  rw [field?, solid, number?_append all (Text.paddedDigits_ne_nil 2 n) (Nat.le_of_eq length)
    (Or.inl length),
    Text.digitsValue_paddedDigits]

theorem year?_yearChars (year : Int) {rest : List Char} (ends : NoDigit rest) :
    year? (Date.yearChars year ++ rest) = some (year, rest) := by
  have all : ∀ c ∈ paddedDigits 4 year.natAbs, c.isDigit = true := fun c =>
    Text.isDigit_of_mem_paddedDigits
  have signed (width : Nat) (fits : (paddedDigits 4 year.natAbs).length ≤ width) :
      number? width (paddedDigits 4 year.natAbs ++ rest) = some (year.natAbs, rest) := by
    rw [number?_append all (Text.paddedDigits_ne_nil 4 _) fits (Or.inr ends),
      Text.digitsValue_paddedDigits]
  have whole : (paddedDigits 4 year.natAbs).length ≤
      (paddedDigits 4 year.natAbs ++ rest).length := by
    rw [List.length_append]
    omega
  rw [Date.yearChars]
  split
  · next negative =>
      rw [List.cons_append, year?, Text.trimStart_cons (by decide)]
      simp only [signed _ whole, Option.map_some, Option.some.injEq, Prod.mk.injEq, and_true]
      omega
  · next positive =>
      split
      · rw [List.cons_append, year?, Text.trimStart_cons (by decide)]
        simp only [signed _ whole, Option.map_some, Option.some.injEq, Prod.mk.injEq, and_true]
        omega
      · next small =>
          have length : (paddedDigits 4 year.natAbs).length = 4 := by
            apply Text.length_paddedDigits (by decide)
            simp only [Nat.pow_eq]
            omega
          have read := signed 4 (Nat.le_of_eq length)
          cases front : paddedDigits 4 year.natAbs with
          | nil => exact absurd front (Text.paddedDigits_ne_nil 4 _)
          | cons c ds =>
              have digit : c.isDigit = true := all c (by simp [front])
              rw [front, List.cons_append] at read
              rw [List.cons_append, year?, Text.trimStart_cons (Text.isBlankChar_of_isDigit digit)]
              split
              · next same =>
                  rw [(List.cons.inj same).1] at digit
                  exact absurd digit (by decide)
              · next same =>
                  rw [(List.cons.inj same).1] at digit
                  exact absurd digit (by decide)
              · simp only [read, Option.map_some, Option.some.injEq, Prod.mk.injEq, and_true]
                omega

/-- A text that goes on neither with a digit nor with a fraction. -/
def NoFraction (rest : List Char) : Prop := ∀ c ∈ rest.head?, c.isDigit = false ∧ c ≠ '.'

theorem NoFraction.noDigit {rest : List Char} (ends : NoFraction rest) : NoDigit rest :=
  fun c first => (ends c first).1

/-- A fraction is read in nanoseconds, with however many digits it is written. -/
theorem fraction?_fractionChars {nano : Nat} (fits : nano < nanosPerSecond) {rest : List Char}
    (ends : NoFraction rest) : fraction? (Time.fractionChars nano ++ rest) = some (nano, rest) := by
  have digits (width n : Nat) (short : width ≤ 9) (some : 0 < width)
      (small : n < Nat.pow 10 width) :
      fraction? ('.' :: (paddedDigits width n ++ rest)) =
        .some (Nat.pow 10 (9 - width) * n, rest) := by
    have all : ∀ c ∈ paddedDigits width n, c.isDigit = true := fun c =>
      Text.isDigit_of_mem_paddedDigits
    have length := Text.length_paddedDigits some small
    have present : (paddedDigits width n).isEmpty = false := by
      simpa using Text.paddedDigits_ne_nil width n
    have filled : (paddedDigits width n ++ List.replicate 9 '0').take 9 =
        paddedDigits width n ++ List.replicate (9 - width) '0' := by
      rw [List.take_append, List.take_of_length_le (by omega), length, List.take_replicate]
      congr 2
      omega
    simp only [fraction?, Text.spanDigits_append all ends.noDigit, present, filled]
    rw [Text.digitsValue_append, Text.digitsValue_zeros, Text.digitsValue_paddedDigits,
      List.length_replicate]
    rfl
  simp only [nanosPerSecond] at fits
  rw [Time.fractionChars]
  split
  · next none =>
      subst none
      cases rest with
      | nil => rfl
      | cons c rest =>
          have other := (ends c rfl).2
          rw [List.nil_append, fraction?]
          rintro _ ⟨⟩
          exact other rfl
  · split
    · rw [List.cons_append, digits 3 (nano / 1000000) (by decide) (by decide)
        (by simp only [Nat.pow_eq]; omega)]
      simp only [Nat.pow_eq, Option.some.injEq, Prod.mk.injEq, and_true]
      omega
    · split
      · rw [List.cons_append, digits 6 (nano / 1000) (by decide) (by decide)
          (by simp only [Nat.pow_eq]; omega)]
        simp only [Nat.pow_eq, Option.some.injEq, Prod.mk.injEq, and_true]
        omega
      · rw [List.cons_append, digits 9 nano (by decide) (by decide)
          (by simp only [Nat.pow_eq]; omega)]
        simp

theorem looseMark?_cons {c : Char} (solid : Text.isBlankChar c = false) (lenient : Bool)
    (rest : List Char) : looseMark? lenient c (c :: rest) = some rest := by
  have stands : (if lenient then Text.trimStart (c :: rest) else c :: rest) = c :: rest := by
    rw [Text.trimStart_cons solid, ite_self]
  rw [looseMark?, stands, mark?, if_pos rfl]

theorem daysInMonth_le (year : Int) (month : Nat) : daysInMonth year month ≤ 31 := by
  unfold daysInMonth
  split
  · split <;> omega
  · split <;> omega

/-- A date is read from its text, whatever follows. -/
theorem date?_chars (d : Date) (lenient : Bool) (rest : List Char) :
    date? lenient (d.chars ++ rest) = some (d, rest) := by
  have valid := d.valid
  simp only [isDate, decide_eq_true_eq] at valid
  obtain ⟨-, -, -, month, -, day⟩ := valid
  have days := daysInMonth_le d.year d.month
  have hyphen (rest : List Char) : NoDigit ('-' :: rest) := Text.noDigit_cons (by decide) rest
  have parts : Date.ofParts? d.year d.month d.day = some d := dif_pos d.valid
  simp only [date?, Date.chars, List.append_assoc, List.cons_append, year?_yearChars _ (hyphen _),
    looseMark?_cons (show Text.isBlankChar '-' = false by decide),
    field?_padded (show d.month < 100 by omega), field?_padded (show d.day < 100 by omega),
    parts, Option.bind_eq_bind, Option.bind_some, Option.pure_def]

theorem second_lt (t : Time) : t.second + t.nano / nanosPerSecond < 61 := by
  have valid := t.valid
  simp only [isTime, decide_eq_true_eq] at valid
  obtain ⟨-, -, second, nano, leap⟩ := valid
  have billion : nanosPerSecond = 1000000000 := rfl
  rw [billion] at nano leap ⊢
  omega

/-- A leap second is shown as the second 60. -/
theorem ofClock?_shown (t : Time) :
    Time.ofClock? t.hour t.minute (t.second + t.nano / nanosPerSecond) (t.nano % nanosPerSecond) =
      some t := by
  have valid := t.valid
  simp only [isTime, decide_eq_true_eq] at valid
  obtain ⟨-, -, second, nano, leap⟩ := valid
  have whole : Time.ofParts? t.hour t.minute t.second t.nano = some t := dif_pos t.valid
  have billion : nanosPerSecond = 1000000000 := rfl
  rw [Time.ofClock?]
  by_cases late : nanosPerSecond ≤ t.nano
  · have last : t.second = 59 := leap late
    have sixty : t.second + t.nano / nanosPerSecond = 60 := by
      rw [billion] at late nano ⊢
      omega
    have back : t.nano % nanosPerSecond + nanosPerSecond = t.nano := by
      rw [billion] at late nano ⊢
      omega
    rw [if_pos sixty, back, ← last, whole]
  · have early : t.nano < nanosPerSecond := Nat.lt_of_not_le late
    rw [Nat.div_eq_of_lt early, Nat.mod_eq_of_lt early, Nat.add_zero, if_neg (by omega), whole]

/-- A time of day is read from its text. -/
theorem clock?_chars (t : Time) (lenient : Bool) {rest : List Char} (ends : NoFraction rest) :
    clock? lenient (t.chars ++ rest) = some (t, rest) := by
  have valid := t.valid
  simp only [isTime, decide_eq_true_eq] at valid
  have second := second_lt t
  have fraction : t.nano % nanosPerSecond < nanosPerSecond := Nat.mod_lt _ (by decide)
  simp only [clock?, Time.chars, List.append_assoc, List.cons_append,
    looseMark?_cons (show Text.isBlankChar ':' = false by decide),
    field?_padded (show t.hour < 100 by omega), field?_padded (show t.minute < 100 by omega),
    field?_padded (show t.second + t.nano / nanosPerSecond < 100 by omega),
    fraction?_fractionChars fraction ends, ofClock?_shown, Option.bind_eq_bind, Option.bind_some,
    Option.pure_def]

theorem mark?_cons (c : Char) (rest : List Char) : mark? c (c :: rest) = some rest := by
  rw [mark?, if_pos rfl]

theorem noFraction_nil : NoFraction [] := nofun

/-- The text of a date-time is no time stamp: a year with a sign has not the width of one, and
otherwise there is no zone at the end. -/
theorem stamp?_chars (dt : DateTime) : stamp? dt.chars = none := by
  have signed (c : Char) (rest : List Char) (sign : c.isDigit = false) :
      fixed? 4 (c :: rest) = none := by
    rw [fixed?, if_neg]
    rintro ⟨-, all⟩
    simp [sign] at all
  have step {α β : Type} {read : Option α} {a : α} (next : α → Option β) (done : read = some a) :
      read >>= next = next a := by
    rw [done]
    rfl
  rw [DateTime.chars, Date.chars, Date.yearChars]
  split
  · rw [List.cons_append, List.cons_append, stamp?, signed '-' _ (by decide)]
    rfl
  · split
    · rw [List.cons_append, List.cons_append, stamp?, signed '+' _ (by decide)]
      rfl
    · have day := dt.date.valid
      have time := dt.time.valid
      simp only [isDate, decide_eq_true_eq] at day
      simp only [isTime, decide_eq_true_eq] at time
      have days := daysInMonth_le dt.date.year dt.date.month
      have second := second_lt dt.time
      have fraction : dt.time.nano % nanosPerSecond < nanosPerSecond := Nat.mod_lt _ (by decide)
      have written := fraction?_fractionChars fraction noFraction_nil
      rw [List.append_nil] at written
      have two {n : Nat} (small : n < 100) (rest : List Char) :
          fixed? 2 (paddedDigits 2 n ++ rest) = some (n, rest) :=
        fixed?_padded (by decide) small rest
      have year (rest : List Char) : fixed? 4 (paddedDigits 4 dt.date.year.natAbs ++ rest) =
          some (dt.date.year.natAbs, rest) :=
        fixed?_padded (by decide) (by simp only [Nat.pow_eq]; omega) rest
      simp only [Time.chars, List.append_assoc, List.cons_append]
      rw [stamp?]
      refine (step _ (year _)).trans ?_
      refine (step _ (mark?_cons '-' _)).trans ?_
      refine (step _ (two (by omega) _)).trans ?_
      refine (step _ (mark?_cons '-' _)).trans ?_
      refine (step _ (two (by omega) _)).trans ?_
      refine (step _ rfl).trans ?_
      refine (step _ (two (by omega) _)).trans ?_
      refine (step _ (mark?_cons ':' _)).trans ?_
      refine (step _ (two (by omega) _)).trans ?_
      refine (step _ (mark?_cons ':' _)).trans ?_
      refine (step _ (two (by omega) _)).trans ?_
      refine (step _ written).trans ?_
      rfl

end Calendar

theorem Date.ofChars?_chars (d : Date) : ofChars? d.chars = some d := by
  have read := Calendar.date?_chars d false []
  rw [List.append_nil] at read
  rw [ofChars?, read]
  rfl

theorem Time.ofChars?_chars (t : Time) : ofChars? t.chars = some t := by
  have read := Calendar.clock?_chars t false Calendar.noFraction_nil
  rw [List.append_nil] at read
  rw [ofChars?, read]
  rfl

theorem DateTime.ofChars?_chars (dt : DateTime) : ofChars? dt.chars = some dt := by
  have time := Calendar.clock?_chars dt.time false Calendar.noFraction_nil
  rw [List.append_nil] at time
  have read : parts? (Calendar.mark? 'T') (Calendar.clock? false) dt.chars = some dt := by
    simp only [parts?, DateTime.chars, Calendar.date?_chars, Calendar.mark?_cons, time,
      Option.bind_eq_bind, Option.bind_some, Option.pure_def]
    rfl
  rw [ofChars?, Calendar.stamp?_chars, read]
  rfl

theorem DateTime.minusMinutes?_zero (dt : DateTime) : dt.minusMinutes? 0 = some dt := by
  have valid := dt.time.valid
  simp only [Calendar.isTime, decide_eq_true_eq] at valid
  obtain ⟨hour, minute, -⟩ := valid
  have whole : Time.ofParts? dt.time.hour dt.time.minute dt.time.second dt.time.nano =
      some dt.time := dif_pos dt.time.valid
  have wrapped : ((60 * (dt.time.hour : Int) + dt.time.minute - 0) % 1440).toNat =
      60 * dt.time.hour + dt.time.minute := by omega
  have hours : (60 * dt.time.hour + dt.time.minute) / 60 = dt.time.hour := by omega
  have minutes : (60 * dt.time.hour + dt.time.minute) % 60 = dt.time.minute := by omega
  simp only [minusMinutes?, wrapped, hours, minutes, whole]
  rw [if_neg (by omega), if_neg (by omega)]

/-- A moment is read back from its text, to the nanosecond and in whatever year it lies. -/
theorem DateTime.ofRecordText?_zuluText (dt : DateTime) : ofRecordText? dt.zuluText = some dt := by
  have zone : Calendar.NoFraction ['Z'] := by
    rintro c ⟨⟩
    decide
  have time := Calendar.clock?_chars dt.time true zone
  have offset : Calendar.looseZone? ['Z'] = some (0, []) := rfl
  have solid : Text.trimStart ['Z'] = ['Z'] := Text.trimStart_cons (by decide) []
  have read : Calendar.looseStamp? (dt.chars ++ ['Z']) = some (dt, []) := by
    simp only [Calendar.looseStamp?, DateTime.chars, List.append_assoc, List.cons_append,
      Calendar.date?_chars, Calendar.dayBreak?, time, solid, offset, minusMinutes?_zero,
      Option.bind_eq_bind, Option.bind_some, Option.pure_def]
    rfl
  rw [ofRecordText?, zuluText, String.toList_ofList, read]
  rfl

/-! No white space is written into dates and times. -/

theorem Date.solid_chars (d : Date) : ∀ c ∈ d.chars, Text.isBlankChar c = false := by
  have year : ∀ c ∈ yearChars d.year, Text.isBlankChar c = false := by
    have padded := Text.solid_paddedDigits 4 d.year.natAbs
    rw [yearChars]
    split
    · exact List.forall_mem_cons.mpr ⟨by decide, padded⟩
    · split
      · exact List.forall_mem_cons.mpr ⟨by decide, padded⟩
      · exact padded
  simp only [chars, List.forall_mem_append, List.forall_mem_cons]
  exact ⟨year, by decide, Text.solid_paddedDigits 2 d.month, by decide,
    Text.solid_paddedDigits 2 d.day⟩

theorem Time.solid_chars (t : Time) : ∀ c ∈ t.chars, Text.isBlankChar c = false := by
  have fraction (nano : Nat) : ∀ c ∈ fractionChars nano, Text.isBlankChar c = false := by
    rw [fractionChars]
    split
    · exact nofun
    · split
      · exact List.forall_mem_cons.mpr ⟨by decide, Text.solid_paddedDigits 3 _⟩
      · split
        · exact List.forall_mem_cons.mpr ⟨by decide, Text.solid_paddedDigits 6 _⟩
        · exact List.forall_mem_cons.mpr ⟨by decide, Text.solid_paddedDigits 9 _⟩
  simp only [chars, List.forall_mem_append, List.forall_mem_cons]
  exact ⟨Text.solid_paddedDigits 2 t.hour, by decide, Text.solid_paddedDigits 2 t.minute, by decide,
    Text.solid_paddedDigits 2 _, fraction _⟩

theorem DateTime.solid_chars (dt : DateTime) : ∀ c ∈ dt.chars, Text.isBlankChar c = false := by
  simp only [chars, List.forall_mem_append, List.forall_mem_cons]
  exact ⟨dt.date.solid_chars, by decide, dt.time.solid_chars⟩

end MailMerge
