import NestedTx.Text.Ascii
import NestedTx.Text.Blank

/-!
# Dates and times

Days of the calendar that is continued backwards without a break, times of day down to the
nanosecond, and the text that both are written as and read from. A leap second is the last second
of a minute with a billion nanoseconds or more.
-/

namespace NestedTx.Wire

open Text

-- powers are those of the core library, whatever else is imported
attribute [local instance (high)] instPowNat

/-- A day of the calendar. -/
structure Date where
  year : Int
  month : Nat
  day : Nat
  deriving Repr, DecidableEq

/-- A time of day: seconds since midnight and nanoseconds in the second. -/
structure TimeOfDay where
  seconds : Nat
  nanos : Nat
  deriving Repr, DecidableEq

/-- A day and a time of that day. -/
structure Moment where
  date : Date
  time : TimeOfDay
  deriving Repr, DecidableEq

/-- Has the year a 29th of February? -/
def isLeapYear (year : Int) : Bool :=
  year % 4 == 0 && (year % 100 != 0 || year % 400 == 0)

/-- The number of days of a month. -/
def daysInMonth (year : Int) (month : Nat) : Nat :=
  if month = 2 then (if isLeapYear year then 29 else 28)
  else if month = 4 ∨ month = 6 ∨ month = 9 ∨ month = 11 then 30
  else 31

/-- A day of the calendar, if there is such a day and its year is within the supported range. -/
def Date.make? (year : Int) (month day : Nat) : Option Date :=
  if -262143 ≤ year ∧ year ≤ 262142 ∧ 1 ≤ month ∧ month ≤ 12 ∧ 1 ≤ day ∧
      day ≤ daysInMonth year month then
    some ⟨year, month, day⟩
  else none

/-- The days from the start of the year 0 to a day. Years are counted from March, so that a leap
day is the last of its year. -/
def Date.toDays (d : Date) : Int :=
  let year := if d.month ≤ 2 then d.year - 1 else d.year
  let month : Int := if d.month ≤ 2 then d.month + 9 else d.month - 3
  365 * year + year / 4 - year / 100 + year / 400 + (153 * month + 2) / 5 + d.day + 59

/-- The day that is the given number of days after the start of the year 0. -/
def Date.ofDays? (days : Int) : Option Date :=
  let shifted := days - 60
  let era := shifted / 146097
  let inEra := shifted % 146097
  let yearOfEra := (inEra - inEra / 1460 + inEra / 36524 - inEra / 146096) / 365
  let dayOfYear := inEra - (365 * yearOfEra + yearOfEra / 4 - yearOfEra / 100)
  let shiftedMonth := (5 * dayOfYear + 2) / 153
  let day := dayOfYear - (153 * shiftedMonth + 2) / 5 + 1
  let month := if shiftedMonth < 10 then shiftedMonth + 3 else shiftedMonth - 9
  let year := yearOfEra + 400 * era + (if month ≤ 2 then 1 else 0)
  make? year month.toNat day.toNat

/-- A time of day. The second 60 is a leap second; more than 999999999 nanoseconds are allowed in
the second 59 only. -/
def TimeOfDay.make? (hour minute second nanos : Nat) : Option TimeOfDay :=
  let (second, nanos) := if second = 60 then (59, nanos + 1000000000) else (second, nanos)
  if hour < 24 ∧ minute < 60 ∧ second < 60 ∧
      (nanos < 1000000000 ∨ (second = 59 ∧ nanos < 2000000000)) then
    some ⟨(hour * 60 + minute) * 60 + second, nanos⟩
  else none

/-- The moment that lies the given number of microseconds after the start of a day, which is given
by its number. -/
def Moment.ofMicros? (startDay micros : Int) : Option Moment := do
  let date ← Date.ofDays? (startDay + micros / 86400000000)
  let inDay := (micros % 86400000000).toNat
  return ⟨date, ⟨inDay / 1000000, inDay % 1000000 * 1000⟩⟩

/-- The moment in UTC for a local one that is ahead of it by the given number of seconds. -/
def Moment.toUtc? (m : Moment) (ahead : Int) : Option Moment := do
  let seconds := (m.time.seconds : Int) - ahead
  let date ← Date.ofDays? (m.date.toDays + seconds / 86400)
  return ⟨date, ⟨(seconds % 86400).toNat, m.time.nanos⟩⟩

/-! ### Writing -/

/-- A year: four digits, and a sign outside 0 to 9999. -/
def yearText (year : Int) : List Char :=
  if 0 ≤ year ∧ year ≤ 9999 then padded 4 year.toNat
  else (if year < 0 then '-' else '+') :: padded 4 year.natAbs

/-- The text of a day. -/
def Date.text (d : Date) : List Char :=
  yearText d.year ++ '-' :: padded 2 d.month ++ '-' :: padded 2 d.day

/-- A fraction of a second in three, six or nine digits, whichever suffice, or nothing. -/
def fractionText (nanos : Nat) : List Char :=
  if nanos = 0 then []
  else if nanos % 1000000 = 0 then '.' :: padded 3 (nanos / 1000000)
  else if nanos % 1000 = 0 then '.' :: padded 6 (nanos / 1000)
  else '.' :: padded 9 nanos

/-- The text of a time of day. -/
def TimeOfDay.text (t : TimeOfDay) : List Char :=
  let leap := if 1000000000 ≤ t.nanos then 1 else 0
  padded 2 (t.seconds / 3600) ++ ':' :: padded 2 (t.seconds / 60 % 60) ++
    ':' :: padded 2 (t.seconds % 60 + leap) ++ fractionText (t.nanos - leap * 1000000000)

/-- The text of a moment in no particular zone. -/
def Moment.text (m : Moment) : List Char :=
  m.date.text ++ ' ' :: m.time.text

/-- The text of a moment in UTC. -/
def Moment.utcText (m : Moment) : List Char :=
  m.date.text ++ 'T' :: m.time.text ++ "+00:00".toList

/-! ### Reading -/

/-- Reads at most `width` digits, and at least one. -/
def takeNumber? (width : Nat) (cs : List Char) : Option (Nat × List Char) :=
  let ds := (cs.take width).takeWhile isDigit
  if ds = [] then none
  else some (ds.foldl (fun acc c => 10 * acc + (digit? c).getD 0) 0, cs.drop ds.length)

/-- Reads a number of at most two digits, after blanks. -/
def takeField? (cs : List Char) : Option (Nat × List Char) :=
  takeNumber? 2 (cs.dropWhile isBlank)

/-- Reads a year, after blanks: any number of digits behind a sign, or at most four. -/
def takeYear? (cs : List Char) : Option (Int × List Char) :=
  match cs.dropWhile isBlank with
  | '-' :: rest => (takeNumber? rest.length rest).map fun (n, r) => (-(n : Int), r)
  | '+' :: rest => (takeNumber? rest.length rest).map fun (n, r) => ((n : Int), r)
  | cs => (takeNumber? 4 cs).map fun (n, r) => ((n : Int), r)

/-- Reads the given character. -/
def takeMark? (c : Char) : List Char → Option (List Char)
  | d :: rest => if d = c then some rest else none
  | [] => none

/-- Reads a day as `year-month-day`. -/
def takeDate? (cs : List Char) : Option (Date × List Char) := do
  let (year, cs) ← takeYear? cs
  let (month, cs) ← takeField? (← takeMark? '-' cs)
  let (day, cs) ← takeField? (← takeMark? '-' cs)
  return (← Date.make? year month day, cs)

/-- Reads a fraction of a second, if there is a point. Digits after the ninth do not count. -/
def takeFraction? (cs : List Char) : Option (Nat × List Char) :=
  match cs with
  | '.' :: rest => do
    let (n, after) ← takeNumber? 9 rest
    return (n * 10 ^ (9 - (rest.length - after.length)), after.dropWhile isDigit)
  | _ => some (0, cs)

/-- Reads a time of day as `hour:minute:second`, with a fraction. -/
def takeTime? (cs : List Char) : Option (TimeOfDay × List Char) := do
  let (hour, cs) ← takeField? cs
  let (minute, cs) ← takeField? (← takeMark? ':' cs)
  let (second, cs) ← takeField? (← takeMark? ':' cs)
  let (nanos, cs) ← takeFraction? cs
  return (← TimeOfDay.make? hour minute second nanos, cs)

/-- Reads a day and a time of day, with or without blanks between them. -/
def takeMoment? (cs : List Char) : Option (Moment × List Char) := do
  let (date, cs) ← takeDate? cs
  let (time, cs) ← takeTime? (cs.dropWhile isBlank)
  return (⟨date, time⟩, cs)

/-- Reads two digits. -/
def takeTwo? : List Char → Option (Nat × List Char)
  | a :: b :: rest => do return (10 * (← digit? a) + (← digit? b), rest)
  | _ => none

/-- Reads an offset from UTC in seconds, after blanks: `Z`, or a sign, hours and, after colons or
blanks if any, minutes. The sign may be the minus of mathematics. -/
def takeOffset? (cs : List Char) : Option (Int × List Char) :=
  let unsigned : List Char → Option (Nat × List Char) := fun rest => do
    let (hours, rest) ← takeTwo? rest
    match rest.dropWhile fun c => c == ':' || isBlank c with
    | [] => some (3600 * hours, [])
    | rest =>
      let (minutes, rest) ← takeTwo? rest
      if minutes < 60 then some (3600 * hours + 60 * minutes, rest) else none
  match cs.dropWhile isBlank with
  | '+' :: rest => (unsigned rest).map fun (n, r) => ((n : Int), r)
  | '-' :: rest => (unsigned rest).map fun (n, r) => (-(n : Int), r)
  | '\u2212' :: rest => (unsigned rest).map fun (n, r) => (-(n : Int), r)
  | 'Z' :: rest => some (0, rest)
  | 'z' :: rest => some (0, rest)
  | _ => none

/-- The value of a piece after which nothing is left. -/
def whole? {α : Type} (p : Option (α × List Char)) : Option α :=
  match p with
  | some (a, []) => some a
  | _ => none

/-- Reads a day. -/
def Date.read? (cs : List Char) : Option Date :=
  whole? (takeDate? cs)

/-- Reads a time of day. -/
def TimeOfDay.read? (cs : List Char) : Option TimeOfDay :=
  whole? (takeTime? cs)

/-- Reads a moment in no particular zone. -/
def Moment.read? (cs : List Char) : Option Moment :=
  whole? (takeMoment? cs)

/-- Reads a moment with an offset, and the offset. -/
def Moment.readWithOffset? (cs : List Char) : Option (Moment × Int) := do
  let (m, cs) ← takeMoment? cs
  let offset ← whole? (takeOffset? cs)
  return (m, offset)

/-- Reads a moment with an offset of less than a day, in UTC. -/
def Moment.readUtc? (cs : List Char) : Option Moment := do
  let (m, offset) ← readWithOffset? cs
  if offset.natAbs < 86400 then m.toUtc? offset else none

end NestedTx.Wire
