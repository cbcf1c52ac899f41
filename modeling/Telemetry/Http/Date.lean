import Telemetry.Bytes
import Telemetry.Numeral

/-!
# HTTP dates

A date in a header is written in one of three forms, always in Greenwich time. It is read as the
number of seconds since the start of 1970, and only if there is such a day and its weekday is the
one that is given.
-/

namespace Telemetry.Http

/-- A date as it is written. Months, days and weekdays count from 1, weekdays from Monday. -/
structure Date where
  year : Nat
  month : Nat
  day : Nat
  weekday : Nat
  hour : Nat
  minute : Nat
  second : Nat
  deriving DecidableEq, Repr

namespace Date

/-- A year with 366 days. -/
def isLeapYear (year : Nat) : Bool :=
  year % 4 == 0 && (year % 100 != 0 || year % 400 == 0)

/-- The lengths of the months. -/
def monthLengths (year : Nat) : List Nat :=
  [31, if isLeapYear year then 29 else 28, 31, 30, 31, 30, 31, 31, 30, 31, 30, 31]

/-- The number of days before the start of a year, counted from the start of the year 1. -/
def daysBefore (year : Nat) : Nat :=
  let past := year - 1
  365 * past + past / 4 - past / 100 + past / 400

/-- The number of days since the start of 1970. -/
def days (d : Date) : Nat :=
  let months := ((monthLengths d.year).take (d.month - 1)).foldl (· + ·) 0
  daysBefore d.year - daysBefore 1970 + months + (d.day - 1)

/-- There is such a moment. The first day of 1970 was a Thursday. -/
def isValid (d : Date) : Bool :=
  1970 ≤ d.year && d.year ≤ 9999 && 1 ≤ d.day &&
    (monthLengths d.year)[d.month - 1]?.any (d.day ≤ ·) &&
    d.weekday == (d.days + 3) % 7 + 1 && d.hour < 24 && d.minute < 60 && d.second < 60

/-- The number of seconds since the start of 1970. -/
def seconds (d : Date) : Nat :=
  ((d.days * 24 + d.hour) * 60 + d.minute) * 60 + d.second

/-! ### Reading -/

/-- A reader of the parts of a date. -/
abbrev Reader (α : Type) := StateT (List Char) Option α

/-- Reads a given text. -/
def literal (text : String) : Reader Unit := fun input =>
  if text.toList.isPrefixOf input then some ((), input.drop text.length) else none

/-- Reads a number of exactly `width` digits. -/
def digits (width : Nat) : Reader Nat := fun input =>
  if width ≤ input.length then
    (Numeral.number? (input.take width)).map fun n => (n, input.drop width)
  else none

/-- Reads a day of two digits, the first of which may be a space. -/
def paddedDay : Reader Nat := fun input =>
  match input with
  | ' ' :: rest => digits 1 rest
  | _ => digits 2 input

/-- Reads one of several names, and gives its place among them from 1 on. -/
def oneOf (names : List String) : Reader Nat := fun input => do
  let i ← names.findIdx? fun name => name.toList.isPrefixOf input
  let name ← names[i]?
  some (i + 1, input.drop name.length)

/-- The names of the weekdays. -/
def weekdays : List String :=
  ["Monday", "Tuesday", "Wednesday", "Thursday", "Friday", "Saturday", "Sunday"]

/-- The names of the months by their first three letters. -/
def months : List String :=
  ["Jan", "Feb", "Mar", "Apr", "May", "Jun", "Jul", "Aug", "Sep", "Oct", "Nov", "Dec"]

/-- The names of the weekdays by their first three letters. -/
def shortWeekdays : List String :=
  ["Mon", "Tue", "Wed", "Thu", "Fri", "Sat", "Sun"]

/-- Reads a time of the day. -/
def time : Reader (Nat × Nat × Nat) := do
  let hour ← digits 2
  literal ":"
  let minute ← digits 2
  literal ":"
  let second ← digits 2
  pure (hour, minute, second)

/-- Reads the usual form, as in `Sun, 06 Nov 1994 08:49:37 GMT`. -/
def usualForm : Reader Date := do
  let weekday ← oneOf shortWeekdays
  literal ", "
  let day ← digits 2
  literal " "
  let month ← oneOf months
  literal " "
  let year ← digits 4
  literal " "
  let (hour, minute, second) ← time
  literal " GMT"
  pure { year, month, day, weekday, hour, minute, second }

/-- Reads the form with a year of two digits, as in `Sunday, 06-Nov-94 08:49:37 GMT`. Years below
70 are those after 2000. -/
def shortYearForm : Reader Date := do
  let weekday ← oneOf weekdays
  literal ", "
  let day ← digits 2
  literal "-"
  let month ← oneOf months
  literal "-"
  let short ← digits 2
  literal " "
  let (hour, minute, second) ← time
  literal " GMT"
  let year := if short < 70 then 2000 + short else 1900 + short
  pure { year, month, day, weekday, hour, minute, second }

/-- Reads the form with the year at the end, as in `Sun Nov  6 08:49:37 1994`. -/
def yearLastForm : Reader Date := do
  let weekday ← oneOf shortWeekdays
  literal " "
  let month ← oneOf months
  literal " "
  let day ← paddedDay
  literal " "
  let (hour, minute, second) ← time
  literal " "
  let year ← digits 4
  pure { year, month, day, weekday, hour, minute, second }

/-- The date that a reader finds in a whole text. -/
def whole? (read : Reader Date) (text : List Char) : Option Date :=
  match read text with
  | some (date, []) => some date
  | _ => none

/-- Reads a date, and blanks around it. -/
def parse? (text : String) : Option Date :=
  let chars := (Text.trim text).toList
  let date := (whole? usualForm chars).or
    ((whole? shortYearForm chars).or (whole? yearLastForm chars))
  date.filter isValid

end Date

end Telemetry.Http
