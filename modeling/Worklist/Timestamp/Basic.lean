import Worklist.Text.Numeral

/-!
# Points in time

A point in time is a day of the Gregorian calendar, continued in both directions, and a time of
that day in universal time, down to the nanosecond. A minute may have a sixty-first second.

A timestamp is written with as many groups of three fraction digits as it needs. Years outside of
four digits carry a sign.
-/

namespace Worklist

/-- Whether a year has a twenty-ninth of February. -/
def isLeapYear (year : Int) : Bool :=
  year % 4 == 0 && (year % 100 != 0 || year % 400 == 0)

/-- The number of days of a month, counted from one. -/
def daysInMonth (year : Int) (month : Nat) : Nat :=
  if month = 2 then (if isLeapYear year then 29 else 28)
  else if month = 4 ∨ month = 6 ∨ month = 9 ∨ month = 11 then 30
  else 31

/-- A day of the calendar. -/
structure Day where
  /-- The year; zero is the year before the first. -/
  year : Int
  /-- The month, from one. -/
  month : Nat
  /-- The day of the month, from one. -/
  day : Nat
  /-- The calendar has the day. -/
  valid : 1 ≤ month ∧ month ≤ 12 ∧ 1 ≤ day ∧ day ≤ daysInMonth year month
  deriving DecidableEq

/-- A day, if the calendar has it. -/
def Day.make? (year : Int) (month day : Nat) : Option Day :=
  if h : 1 ≤ month ∧ month ≤ 12 ∧ 1 ≤ day ∧ day ≤ daysInMonth year month then
    some ⟨year, month, day, h⟩
  else none

/-- Every month has at least twenty-eight days. -/
theorem daysInMonth_pos (year : Int) (month : Nat) : 1 ≤ daysInMonth year month := by
  unfold daysInMonth
  split
  · split <;> decide
  · split <;> decide

/-- The day after. -/
def Day.next (d : Day) : Day :=
  if h : d.day + 1 ≤ daysInMonth d.year d.month then
    ⟨d.year, d.month, d.day + 1, d.valid.1, d.valid.2.1, Nat.le_add_left 1 _, h⟩
  else if h : d.month + 1 ≤ 12 then
    ⟨d.year, d.month + 1, 1, Nat.le_add_left 1 _, h, Nat.le_refl 1, daysInMonth_pos _ _⟩
  else ⟨d.year + 1, 1, 1, by decide, by decide, by decide, daysInMonth_pos _ _⟩

/-- The day before. -/
def Day.previous (d : Day) : Day :=
  if h : 1 ≤ d.day - 1 then
    ⟨d.year, d.month, d.day - 1, d.valid.1, d.valid.2.1, h,
      Nat.le_trans (Nat.sub_le _ _) d.valid.2.2.2⟩
  else if h : 1 ≤ d.month - 1 then
    ⟨d.year, d.month - 1, daysInMonth d.year (d.month - 1), h,
      Nat.le_trans (Nat.sub_le _ _) d.valid.2.1, daysInMonth_pos _ _, Nat.le_refl _⟩
  else ⟨d.year - 1, 12, 31, by decide, by decide, by decide, Nat.le_of_eq rfl⟩

/-- A point in time. -/
structure Timestamp where
  day : Day
  /-- The hour of the day. -/
  hour : Nat
  /-- The minute of the hour. -/
  minute : Nat
  /-- The second of the minute; sixty is a leap second. -/
  second : Nat
  /-- The nanosecond of the second. -/
  nanosecond : Nat
  /-- All parts are within their bounds. -/
  valid : hour < 24 ∧ minute < 60 ∧ second ≤ 60 ∧ nanosecond < 1000000000
  deriving DecidableEq

namespace Timestamp

/-- A year: four digits, or a sign and at least four digits. -/
def yearText (year : Int) : List Char :=
  if 0 ≤ year ∧ year ≤ 9999 then Text.padded 4 year.toNat
  else (if year < 0 then '-' else '+') :: Text.padded 4 year.natAbs

/-- The fraction of a second in none, three, six or nine digits. -/
def fractionText (nanosecond : Nat) : List Char :=
  if nanosecond = 0 then []
  else if nanosecond % 1000000 = 0 then '.' :: Text.padded 3 (nanosecond / 1000000)
  else if nanosecond % 1000 = 0 then '.' :: Text.padded 6 (nanosecond / 1000)
  else '.' :: Text.padded 9 nanosecond

/-- The written form. -/
def chars (t : Timestamp) : List Char :=
  yearText t.day.year ++ '-' :: Text.padded 2 t.day.month ++ '-' :: Text.padded 2 t.day.day ++
    'T' :: Text.padded 2 t.hour ++ ':' :: Text.padded 2 t.minute ++ ':' :: Text.padded 2 t.second ++
    fractionText t.nanosecond ++ ['Z']

/-- The written form as a text. -/
def text (t : Timestamp) : String :=
  String.ofList t.chars

end Timestamp

end Worklist
