import SignalCatalog.Binary64
import SignalCatalog.Text.Numeral

/-!
# Dates

Days of the Gregorian calendar, extended to all years from -262143 to 262142. A date is written as
year, month and day; a year outside 0 to 9999 carries its sign. Spreadsheets count days from
1899-12-30.
-/

namespace SignalCatalog

namespace Date

def isLeap (year : Int) : Bool :=
  year % 4 = 0 && (year % 100 ≠ 0 || year % 400 = 0)

def daysInMonth (year : Int) (month : Nat) : Nat :=
  match month with
  | 2 => if isLeap year then 29 else 28
  | 4 | 6 | 9 | 11 => 30
  | _ => 31

/-- A day of the supported range. -/
def Valid (year : Int) (month day : Nat) : Prop :=
  -262143 ≤ year ∧ year ≤ 262142 ∧ 1 ≤ month ∧ month ≤ 12 ∧ 1 ≤ day ∧ day ≤ daysInMonth year month

instance (year : Int) (month day : Nat) : Decidable (Valid year month day) := by
  unfold Valid; infer_instance

end Date

structure Date where
  year : Int
  month : Nat
  day : Nat
  valid : Date.Valid year month day
deriving DecidableEq

namespace Date

def of? (year : Int) (month day : Nat) : Option Date :=
  if h : Valid year month day then some ⟨year, month, day, h⟩ else none

/-- The day from which spreadsheets count. -/
def epoch : Date := ⟨1899, 12, 30, by decide⟩

instance : Inhabited Date := ⟨epoch⟩

/-- At least four digits; a sign in front of a year outside 0 to 9999. -/
def yearText (year : Int) : String :=
  if year < 0 then "-" ++ Text.padded 4 year.natAbs
  else if 9999 < year then "+" ++ Text.padded 4 year.natAbs
  else Text.padded 4 year.natAbs

def text (date : Date) : String :=
  yearText date.year ++ "-" ++ Text.padded 2 date.month ++ "-" ++ Text.padded 2 date.day

/-- Whether a date is earlier than another. -/
def before (a b : Date) : Bool :=
  a.year < b.year || (a.year = b.year &&
    (a.month < b.month || (a.month = b.month && a.day < b.day)))

/-- The number of days from 0000-03-01 to a date, with years that start in March. -/
def dayNumber (date : Date) : Int :=
  let y := if date.month ≤ 2 then date.year - 1 else date.year
  let m : Int := (date.month + 9) % 12
  365 * y + y / 4 - y / 100 + y / 400 + (m * 306 + 5) / 10 + (date.day - 1)

/-- The date a number of days after 0000-03-01. -/
def ofDayNumber? (n : Int) : Option Date :=
  let era := n / 146097
  let doe := n % 146097
  let yoe := (doe - doe / 1460 + doe / 36524 - doe / 146096) / 365
  let doy := doe - (365 * yoe + yoe / 4 - yoe / 100)
  let mp := (5 * doy + 2) / 153
  let day := doy - (153 * mp + 2) / 5 + 1
  let month := if mp < 10 then mp + 3 else mp - 9
  let year := yoe + era * 400 + (if month ≤ 2 then 1 else 0)
  of? year month.toNat day.toNat

/-- The largest number of days that spreadsheets accept, 9999-12-31. -/
def maxSerial : Int := 2958465

/-- The day of a spreadsheet's number; the time of day in its fraction is dropped. -/
def ofSerial? (serial : Binary64) : Option Date := do
  let value ← serial.value?
  if 1 ≤ value ∧ value ≤ (maxSerial : Rat) then ofDayNumber? (epoch.dayNumber + value.floor)
  else none

end Date

end SignalCatalog
