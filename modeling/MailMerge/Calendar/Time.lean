import MailMerge.Calendar.Date
/-!
Times of day with nanoseconds, and date-times. A leap second is the second 59 with a thousand
million nanoseconds or more.
-/

namespace MailMerge

/-- The nanoseconds of a second. -/
def nanosPerSecond : Nat := 1000000000

/-- Whether hour, minute, second and nanosecond make up a time of day. -/
def Calendar.isTime (hour minute second nano : Nat) : Bool :=
  decide (hour < 24 ∧ minute < 60 ∧ second < 60 ∧ nano < 2 * nanosPerSecond ∧
    (nanosPerSecond ≤ nano → second = 59))

/-- A time of day. -/
structure Time where
  hour : Nat
  minute : Nat
  second : Nat
  nano : Nat
  valid : Calendar.isTime hour minute second nano = true
  deriving DecidableEq

namespace Time

/-- The time with the given parts, if there is one. -/
def ofParts? (hour minute second nano : Nat) : Option Time :=
  if h : Calendar.isTime hour minute second nano = true then some ⟨hour, minute, second, nano, h⟩
  else none

/-- The time with the given parts as a clock shows them: a second 60 is a leap second. -/
def ofClock? (hour minute second nano : Nat) : Option Time :=
  if second = 60 then ofParts? hour minute 59 (nano + nanosPerSecond)
  else ofParts? hour minute second nano

/-- The start of the day. -/
def midnight : Time := ⟨0, 0, 0, 0, by decide⟩

/-- The fraction of a second with three, six or nine digits, the fewest that are exact; a whole
second has none. -/
def fractionChars (nano : Nat) : List Char :=
  if nano = 0 then []
  else if nano % 1000000 = 0 then '.' :: Text.paddedDigits 3 (nano / 1000000)
  else if nano % 1000 = 0 then '.' :: Text.paddedDigits 6 (nano / 1000)
  else '.' :: Text.paddedDigits 9 nano

/-- Hour, minute, second and fraction as a clock shows them. -/
def chars (t : Time) : List Char :=
  Text.paddedDigits 2 t.hour ++ ':' :: (Text.paddedDigits 2 t.minute ++
    ':' :: (Text.paddedDigits 2 (t.second + t.nano / nanosPerSecond) ++
      fractionChars (t.nano % nanosPerSecond)))

end Time

/-- A date and a time of day. -/
structure DateTime where
  date : Date
  time : Time
  deriving DecidableEq

namespace DateTime

/-- The start of the year 1970. -/
def epoch : DateTime := ⟨⟨1970, 1, 1, by decide⟩, Time.midnight⟩

/-- Date and time, joined by the letter T. -/
def chars (dt : DateTime) : List Char := dt.date.chars ++ 'T' :: dt.time.chars

/-- The date-time some minutes before, less than a day; seconds stay as they are. -/
def minusMinutes? (dt : DateTime) (minutes : Int) : Option DateTime :=
  let minute : Int := 60 * dt.time.hour + dt.time.minute - minutes
  let wrapped := (minute % 1440).toNat
  let date? :=
    if minute < 0 then dt.date.previous?
    else if 1440 ≤ minute then dt.date.next?
    else some dt.date
  match date?, Time.ofParts? (wrapped / 60) (wrapped % 60) dt.time.second dt.time.nano with
  | some date, some time => some ⟨date, time⟩
  | _, _ => none

/-- The text of a moment in universal time. -/
def zuluText (dt : DateTime) : String := String.ofList (dt.chars ++ ['Z'])

end DateTime

end MailMerge
