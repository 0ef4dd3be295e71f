import GraphQuery.Number.Integer

/-! # The calendar

* `Date`, `Clock` and `Moment` are a day, a time of day and both together.
* `isoText` writes the international format.
* `weekDay`, `weekFrom` and `isoWeek` tell the day and the week that a day belongs to. -/

namespace GraphQuery

open GraphQuery.Number

/-- A day of the calendar. -/
structure Date where
  year : Nat
  month : Nat
  day : Nat
deriving DecidableEq, Repr

/-- A time of day; `offset` is the distance from universal time in millionths of a second, if known. -/
structure Clock where
  hour : Nat
  minute : Nat
  second : Nat
  micro : Nat
  offset : Option Int
deriving DecidableEq, Repr

/-- A day together with a time of day. -/
structure Moment where
  date : Date
  clock : Clock
deriving DecidableEq, Repr

/-- A number in decimal with zeros in front up to a width. -/
def paddedText (width n : Nat) : String :=
  let digits := Nat.toDigits 10 n
  String.ofList (List.replicate (width - digits.length) '0' ++ digits)

/-! ### Writing -/

/-- `2024-02-03` -/
def Date.isoText (d : Date) : String :=
  paddedText 4 d.year ++ "-" ++ paddedText 2 d.month ++ "-" ++ paddedText 2 d.day

/-- `04:05:06` -/
def Clock.baseText (c : Clock) : String :=
  paddedText 2 c.hour ++ ":" ++ paddedText 2 c.minute ++ ":" ++ paddedText 2 c.second

/-- The millionths of a second behind a point, where there are any. -/
def fractionText (micro : Nat) : String := if micro = 0 then "" else "." ++ paddedText 6 micro

/-- `+02:00`, with seconds and millionths where there are some. -/
def offsetText (micros : Int) : String :=
  let n := micros.natAbs / 1000000
  let micro := micros.natAbs % 1000000
  (if micros < 0 then "-" else "+") ++ paddedText 2 (n / 3600) ++ ":" ++
    paddedText 2 (n / 60 % 60) ++
    (if n % 60 = 0 && micro = 0 then "" else ":" ++ paddedText 2 (n % 60) ++ fractionText micro)

/-- `04:05:06`, with the fraction and the offset where there are any. -/
def Clock.isoText (c : Clock) : String :=
  c.baseText ++ fractionText c.micro ++ (c.offset.map offsetText).getD ""

/-- The day and the time of day with a separator between them. -/
def Moment.textWith (separator : String) (m : Moment) : String :=
  m.date.isoText ++ separator ++ m.clock.isoText

/-- `2024-02-03T04:05:06` -/
def Moment.isoText (m : Moment) : String := m.textWith "T"

example : Date.isoText ⟨2024, 2, 3⟩ = "2024-02-03" := by decide
example : offsetText (-5400500000) = "-01:30:00.500000" := by decide

end GraphQuery

/-! ### Days of the week and of the year

The calendar is the one of today at all times. `weekDay` counts from Sunday; `weekFrom` numbers the
weeks of a year by the day on which they begin, `isoWeek` by their Thursday. `Date.checked?` and
`Date.ofWeek?` are the days that there are. -/

namespace GraphQuery

/-- Whether a year has a 29th of February. -/
def isLeapYear (year : Nat) : Bool := year % 4 == 0 && (year % 100 != 0 || year % 400 == 0)

/-- The number of days before a month of a year. -/
def daysBeforeMonth (year month : Nat) : Nat :=
  (([31, if isLeapYear year then 29 else 28, 31, 30, 31, 30, 31, 31, 30, 31, 30, 31] : List Nat).take
    (month - 1)).foldl (· + ·) 0

/-- The place of a day in its year, counted from one. -/
def Date.yearDay (d : Date) : Nat := daysBeforeMonth d.year d.month + d.day

/-- The number of days before a year, counted from the year one. -/
def daysBeforeYear (year : Nat) : Nat :=
  let y := year - 1
  y * 365 + y / 4 - y / 100 + y / 400

/-- The day of the week, Sunday being zero. -/
def Date.weekDay (d : Date) : Nat := (daysBeforeYear d.year + d.yearDay) % 7

/-- The week of the year when weeks begin on a day of the week, Sunday being zero. Days before the
first such day belong to week zero. -/
def Date.weekFrom (first : Nat) (d : Date) : Nat := (d.yearDay + 6 - (d.weekDay + 7 - first) % 7) / 7

/-- The number of weeks of a year whose weeks begin on Monday and belong to the year of their
Thursday. -/
def weeksOfYear (year : Nat) : Nat :=
  let start := Date.weekDay ⟨year, 1, 1⟩
  if start = 4 ∨ (start = 3 ∧ isLeapYear year) then 53 else 52

/-- The year and the week of a day, where a week begins on Monday and belongs to the year of its
Thursday. -/
def Date.isoWeek (d : Date) : Nat × Nat :=
  let week := (d.yearDay + 10 - (if d.weekDay = 0 then 7 else d.weekDay)) / 7
  if week = 0 then (d.year - 1, weeksOfYear (d.year - 1))
  else if week = 53 ∧ weeksOfYear d.year = 52 then (d.year + 1, 1)
  else (d.year, week)

/-- The number of days of a year. -/
def yearLength (year : Nat) : Nat := if isLeapYear year then 366 else 365

/-- The number of days of a month. -/
def monthLength (year month : Nat) : Nat := daysBeforeMonth year (month + 1) - daysBeforeMonth year month

/-- A day of the years one to 9999, if the calendar has it. -/
def Date.checked? (d : Date) : Option Date :=
  if 1 ≤ d.year ∧ d.year ≤ 9999 ∧ 1 ≤ d.month ∧ d.month ≤ 12 ∧ 1 ≤ d.day ∧
    d.day ≤ monthLength d.year d.month then some d
  else none

/-- The day at a place in a year, counted from one. -/
def Date.ofYearDay (year place : Nat) : Date :=
  let month := ((List.range 12).filter fun m => daysBeforeMonth year (m + 1) < place).length
  ⟨year, month, place - daysBeforeMonth year month⟩

/-- The day of a week that begins on Monday and belongs to the year of its Thursday; days are counted
from one. -/
def Date.ofWeek? (year week day : Nat) : Option Date :=
  if 1 ≤ year ∧ 1 ≤ week ∧ week ≤ weeksOfYear year ∧ 1 ≤ day ∧ day ≤ 7 then
    let fourth := (Date.weekDay ⟨year, 1, 4⟩ + 6) % 7
    let place := week * 7 + day + 3 - fourth
    if place ≤ 7 then Date.checked? (Date.ofYearDay (year - 1) (yearLength (year - 1) + place - 7))
    else if yearLength year < place - 7 then
      Date.checked? (Date.ofYearDay (year + 1) (place - 7 - yearLength year))
    else Date.checked? (Date.ofYearDay year (place - 7))
  else none

/-! ### Instants -/

/-- The seconds since midnight. -/
def Clock.secondOfDay (c : Clock) : Nat := c.hour * 3600 + c.minute * 60 + c.second

/-- Whether two times of day are the same instant of a day. Of two distances from universal time that
differ, only whole seconds count. -/
def Clock.same (a b : Clock) : Bool :=
  match a.offset, b.offset with
  | some x, some y =>
    if x = y then a == b
    else
      (a.secondOfDay : Int) - Int.fdiv x 1000000 == b.secondOfDay - Int.fdiv y 1000000 &&
        a.micro == b.micro
  | _, _ => a == b

/-- The millionths of a second since the beginning of the year one, on the clock of the moment. -/
def Moment.micros (m : Moment) : Int :=
  ((daysBeforeYear m.date.year + m.date.yearDay) * 86400 + m.clock.secondOfDay) * 1000000 + m.clock.micro

/-- Whether two moments are the same instant. -/
def Moment.same (a b : Moment) : Bool :=
  match a.clock.offset, b.clock.offset with
  | some x, some y => a.micros - x == b.micros - y
  | _, _ => a == b

/-! ### Names -/

/-- The names of the days of the week. -/
def weekDayNames : List String :=
  ["Sunday", "Monday", "Tuesday", "Wednesday", "Thursday", "Friday", "Saturday"]

/-- The names of the months. -/
def monthNames : List String :=
  ["January", "February", "March", "April", "May", "June", "July", "August", "September", "October",
    "November", "December"]

/-- The name at a place. -/
def nameAt (names : List String) (place : Nat) : String := (names[place]?).getD ""

/-- The first three letters of a name. -/
def shortened (name : String) : String := String.ofList (name.toList.take 3)

example : Date.weekDay ⟨2024, 2, 3⟩ = 6 := by decide
example : Date.isoWeek ⟨2021, 1, 3⟩ = (2020, 53) := by decide
example : Date.ofWeek? 2020 53 7 = some ⟨2021, 1, 3⟩ := by decide +kernel

end GraphQuery
