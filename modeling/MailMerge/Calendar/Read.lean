import MailMerge.Calendar.Time
import MailMerge.Text.Blank
/-!
Reading dates, times and moments. A reader takes a part in front of a text and gives it with the
text behind it. Fields of a date or time may have white space in front; fields of a time stamp with
an offset are of fixed width, except in the lenient form, which also allows white space before the
marks between the fields.
-/

namespace MailMerge.Calendar

/-- Reads one to `width` digits. -/
def number? (width : Nat) (cs : List Char) : Option (Nat × List Char) :=
  let run := (cs.take width).takeWhile Char.isDigit
  if run.isEmpty then none else some (Text.digitsValue run, cs.drop run.length)

/-- Reads exactly `width` digits. -/
def fixed? (width : Nat) (cs : List Char) : Option (Nat × List Char) :=
  let run := cs.take width
  if run.length = width ∧ run.all Char.isDigit then some (Text.digitsValue run, cs.drop width)
  else none

/-- Reads a field of up to two digits with white space in front. -/
def field? (cs : List Char) : Option (Nat × List Char) := number? 2 (Text.trimStart cs)

/-- Reads a year with white space in front: up to four digits, or a sign and any digits. -/
def year? (cs : List Char) : Option (Int × List Char) :=
  match Text.trimStart cs with
  | '-' :: rest => (number? rest.length rest).map fun (n, rest) => (-n, rest)
  | '+' :: rest => (number? rest.length rest).map fun (n, rest) => (n, rest)
  | rest => (number? 4 rest).map fun (n, rest) => (n, rest)

/-- Reads the character `c`. -/
def mark? (c : Char) : List Char → Option (List Char)
  | d :: rest => if c = d then some rest else none
  | [] => none

/-- Reads the character `c`, where a lenient text may have white space in front of it. -/
def looseMark? (lenient : Bool) (c : Char) (cs : List Char) : Option (List Char) :=
  mark? c (if lenient then Text.trimStart cs else cs)

/-- Reads a fraction of a second, if there is a point; digits after the ninth are dropped. -/
def fraction? : List Char → Option (Nat × List Char)
  | '.' :: rest =>
    let (run, behind) := Text.spanDigits rest
    if run.isEmpty then none
    else some (Text.digitsValue ((run ++ List.replicate 9 '0').take 9), behind)
  | rest => some (0, rest)

/-- Reads year, month and day. -/
def date? (lenient : Bool) (cs : List Char) : Option (Date × List Char) := do
  let (year, cs) ← year? cs
  let cs ← looseMark? lenient '-' cs
  let (month, cs) ← field? cs
  let cs ← looseMark? lenient '-' cs
  let (day, cs) ← field? cs
  let date ← Date.ofParts? year month day
  return (date, cs)

/-- Reads hour, minute and second with an optional fraction. -/
def clock? (lenient : Bool) (cs : List Char) : Option (Time × List Char) := do
  let (hour, cs) ← field? cs
  let cs ← looseMark? lenient ':' cs
  let (minute, cs) ← field? cs
  let cs ← looseMark? lenient ':' cs
  let (second, cs) ← field? cs
  let (nano, cs) ← fraction? cs
  let time ← Time.ofClock? hour minute second nano
  return (time, cs)

/-- Reads hour and minute. -/
def hourMinute? (cs : List Char) : Option (Time × List Char) := do
  let (hour, cs) ← field? cs
  let cs ← mark? ':' cs
  let (minute, cs) ← field? cs
  let time ← Time.ofParts? hour minute 0 0
  return (time, cs)

/-- What was read, if nothing stands behind it. -/
def whole? {α : Type} : Option (α × List Char) → Option α
  | some (a, []) => some a
  | _ => none

/-- Reads a sign and an offset from universal time, in minutes; `between` reads what stands between
its hours and minutes. -/
def offset? (between : List Char → Option (List Char)) (cs : List Char) :
    Option (Int × List Char) := do
  let (negative, cs) ← match cs with
    | '+' :: rest => some (false, rest)
    | '-' :: rest => some (true, rest)
    | '\u2212' :: rest => some (true, rest)
    | _ => none
  let (hours, cs) ← fixed? 2 cs
  let cs ← between cs
  let (minutes, cs) ← fixed? 2 cs
  if hours < 24 ∧ minutes < 60 then
    let total : Int := 60 * hours + minutes
    return (if negative then -total else total, cs)
  else none

/-- Reads the zone of a time stamp: the letter Z for universal time, or an offset. -/
def zone? (between : List Char → Option (List Char)) : List Char → Option (Int × List Char)
  | 'Z' :: rest => some (0, rest)
  | 'z' :: rest => some (0, rest)
  | cs => offset? between cs

/-- Reads the letter T, of either case, or a space. -/
def dayBreak? : List Char → Option (List Char)
  | 'T' :: rest => some rest
  | 't' :: rest => some rest
  | ' ' :: rest => some rest
  | _ => none

/-- Reads a time stamp with fields of fixed width, and gives the moment in universal time. -/
def stamp? (cs : List Char) : Option (DateTime × List Char) := do
  let (year, cs) ← fixed? 4 cs
  let cs ← mark? '-' cs
  let (month, cs) ← fixed? 2 cs
  let cs ← mark? '-' cs
  let (day, cs) ← fixed? 2 cs
  let cs ← dayBreak? cs
  let (hour, cs) ← fixed? 2 cs
  let cs ← mark? ':' cs
  let (minute, cs) ← fixed? 2 cs
  let cs ← mark? ':' cs
  let (second, cs) ← fixed? 2 cs
  let (nano, cs) ← fraction? cs
  let (offset, cs) ← zone? (mark? ':') cs
  let date ← Date.ofParts? year month day
  let time ← Time.ofClock? hour minute second nano
  let moment ← DateTime.minusMinutes? ⟨date, time⟩ offset
  return (moment, cs)

/-- Reads the zone in the lenient form: the letters UTC, the letter Z, or an offset whose parts are
apart by colons and white space. -/
def looseZone? (cs : List Char) : Option (Int × List Char) :=
  if (cs.take 3).map Char.toLower = ['u', 't', 'c'] then some (0, cs.drop 3)
  else zone? (fun cs => some (cs.dropWhile fun c => c == ':' || Text.isBlankChar c)) cs

/-- Reads a time stamp in the lenient form, and gives the moment in universal time. -/
def looseStamp? (cs : List Char) : Option (DateTime × List Char) := do
  let (date, cs) ← date? true cs
  let cs ← dayBreak? cs
  let (time, cs) ← clock? true cs
  let (offset, cs) ← looseZone? (Text.trimStart cs)
  let moment ← DateTime.minusMinutes? ⟨date, time⟩ offset
  return (moment, Text.trimStart cs)

end Calendar

/-- Reads a date. -/
def Date.ofChars? (cs : List Char) : Option Date := Calendar.whole? (Calendar.date? false cs)

/-- Reads a time of day, with or without seconds. -/
def Time.ofChars? (cs : List Char) : Option Time :=
  Calendar.whole? (Calendar.clock? false cs) <|> Calendar.whole? (Calendar.hourMinute? cs)

namespace DateTime

/-- Reads a date, something between, and a time of day. -/
def parts? (between : List Char → Option (List Char)) (time : List Char → Option (Time × List Char))
    (cs : List Char) : Option DateTime :=
  Calendar.whole? do
    let (date, cs) ← Calendar.date? false cs
    let cs ← between cs
    let (time, cs) ← time cs
    return (⟨date, time⟩, cs)

/-- Reads a time stamp, a date and a time joined by the letter T or by white space, or a date,
which stands for its midnight. -/
def ofChars? (cs : List Char) : Option DateTime :=
  Calendar.whole? (Calendar.stamp? cs)
    <|> parts? (Calendar.mark? 'T') (Calendar.clock? false) cs
    <|> parts? (fun cs => some (Text.trimStart cs)) (Calendar.clock? false) cs
    <|> parts? (Calendar.mark? 'T') Calendar.hourMinute? cs
    <|> (Date.ofChars? cs).map fun date => ⟨date, Time.midnight⟩

/-- Reads a moment as records hold it. -/
def ofRecordText? (s : String) : Option DateTime :=
  Calendar.whole? (Calendar.looseStamp? s.toList)

end DateTime

end MailMerge
