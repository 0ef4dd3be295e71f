import GraphQuery.Calendar

/-! # Dates and times from the international format

`Date.parse?`, `Clock.parse?` and `Moment.parse?` read a day, a time of day, and both together.  Queries
only write this format (`Date.isoText`); it is read where values come in from outside: a program that is
given its commands as texts has no other form for the days and times among their arguments.

* A day is `2024-02-03`, or the sixth day of a week `2024-W05-6`, or the first day of one `2024-W05`;
  the dashes may be left out.
* A time of day is `04:05:06.789`, from the left as far as it is known; the colons may be left out. The
  distance from universal time may follow it.
* Between a day and a time of day stands any one character. -/

namespace GraphQuery

open GraphQuery.Number

/-- A run of exactly `width` ASCII digits as a number, and what follows it. -/
def fixedNumber? (width : Nat) (cs : List Char) : Option (Nat × List Char) :=
  let digits := cs.take width
  if digits.length = width ∧ digits.all Text.isPlainDigit then
    some (ofDigits (digits.map fun c => c.toNat - 48), cs.drop width)
  else none

/-! ### Days -/

/-- What follows a dash, if there has to be one. -/
def afterDash? (dashed : Bool) (cs : List Char) : Option (List Char) :=
  if dashed then (if cs.head? = some '-' then some cs.tail else none) else some cs

/-- The day at the beginning of a text. -/
def Date.ofChars? (cs : List Char) : Option Date := do
  let (year, rest) ← fixedNumber? 4 cs
  let dashed := rest.head? = some '-'
  match if dashed then rest.tail else rest with
  | 'W' :: rest =>
    let (week, rest) ← fixedNumber? 2 rest
    if rest.isEmpty then Date.ofWeek? year week 1
    else
      let (day, _) ← fixedNumber? 1 (← afterDash? dashed rest)
      Date.ofWeek? year week day
  | rest =>
    let (month, rest) ← fixedNumber? 2 rest
    let (day, _) ← fixedNumber? 2 (← afterDash? dashed rest)
    Date.checked? ⟨year, month, day⟩

/-- Reads a day. -/
def Date.parse? (s : String) : Option Date :=
  if s.length ∈ [7, 8, 10] then Date.ofChars? s.toList else none

/-! ### Times of day -/

/-- A time as it is written: hours, minutes, seconds and millionths, and whether something is left
behind them. -/
structure WrittenTime where
  numbers : List Nat
  micro : Nat
  hasRest : Bool

namespace WrittenTime

/-- A fraction of a second in millionths; further digits do not count. -/
def fraction? (numbers : List Nat) (cs : List Char) : Option WrittenTime :=
  let six := cs.take 6
  if six.all Text.isPlainDigit then
    let digits := (six ++ List.replicate 6 '0').take 6
    some ⟨numbers, ofDigits (digits.map fun c => c.toNat - 48),
      !((cs.drop 6).dropWhile Text.isPlainDigit).isEmpty⟩
  else none

/-- Reads up to `more` numbers of two digits behind others. Whether colons stand between them is known
from the first one on; a fraction comes behind a point, a comma, or the last number. -/
def read? (numbers : List Nat) (colons : Option Bool) : (more : Nat) → List Char → Option WrittenTime
  | 0, cs => fraction? numbers cs
  | more + 1, cs => do
    let (n, rest) ← fixedNumber? 2 cs
    let numbers := numbers ++ [n]
    match rest with
    | [] => some ⟨numbers, 0, false⟩
    | [_] => some ⟨numbers, 0, true⟩
    | c :: later =>
      let colons := colons.getD (c = ':')
      if colons && c = ':' then read? numbers (some colons) more later
      else if c = '.' ∨ c = ',' then fraction? numbers later
      else if colons then none
      else read? numbers (some colons) more rest

/-- The number at a place, zero if it is left out. -/
def number (t : WrittenTime) (place : Nat) : Nat := (t.numbers[place]?).getD 0

/-- The whole seconds since midnight. -/
def seconds (t : WrittenTime) : Nat := t.number 0 * 3600 + t.number 1 * 60 + t.number 2

/-- The time as the distance from universal time, which is less than a day. A fraction of the first
second does not count. -/
def offset? (t : WrittenTime) (negative : Bool) : Option Int :=
  if t.hasRest then none
  else
    let micros := if t.seconds = 0 then 0 else t.seconds * 1000000 + t.micro
    if micros < 86400 * 1000000 then some (signed negative micros) else none

/-- The time as a time of day. -/
def clock? (t : WrittenTime) (offset : Option Int) : Option Clock :=
  if t.number 0 < 24 ∧ t.number 1 < 60 ∧ t.number 2 < 60 then
    some ⟨t.number 0, t.number 1, t.number 2, t.micro, offset⟩
  else none

end WrittenTime

/-- A time of day; one character in front of the distance from universal time does not count. -/
def Clock.ofChars? (cs : List Char) : Option Clock := do
  let (time, zone) := cs.span (!"+-Z".toList.contains ·)
  let t ← WrittenTime.read? [] none 3 time
  match zone with
  | [] => if t.hasRest then none else t.clock? none
  | 'Z' :: rest => if rest.isEmpty then t.clock? (some 0) else none
  | sign :: rest => t.clock? (some (← (← WrittenTime.read? [] none 3 rest).offset? (sign = '-')))

/-- Reads a time of day, behind which a T may stand. -/
def Clock.parse? (s : String) : Option Clock :=
  match s.toList with
  | 'T' :: cs => Clock.ofChars? cs
  | cs => Clock.ofChars? cs

/-! ### Both together -/

/-- The length of a week behind a year: with its day if an odd number of digits follows the week, up
to a separator. -/
def weekLength (cs : List Char) : Nat :=
  let size := 7 + ((cs.drop 7).takeWhile Text.isPlainDigit).length
  if size < 9 then size else if size % 2 = 0 then 7 else 8

/-- The length of the day at the beginning of a text. -/
def dateLength (cs : List Char) : Nat :=
  let isAt (place : Nat) (c : Char) : Bool := cs[place]? = some c
  if cs.length = 7 then 7
  else if isAt 4 '-' && !isAt 5 'W' then 10
  else if isAt 4 '-' then
    if isAt 8 '-' && !((cs[10]?).any Text.isPlainDigit) then 10 else 8
  else if isAt 4 'W' then weekLength cs
  else 8

/-- Reads a day and a time of day; without a time it is midnight. -/
def Moment.parse? (s : String) : Option Moment := do
  let cs := s.toList
  let size := dateLength cs
  let date ← Date.ofChars? (cs.take size)
  match cs.drop size with
  | [] => return ⟨date, ⟨0, 0, 0, 0, none⟩⟩
  | _ :: rest => return ⟨date, ← Clock.ofChars? rest⟩

example : Date.parse? "2024-W05-6" = some ⟨2024, 2, 3⟩ := by decide +kernel
example : Clock.parse? "0405+02" = some ⟨4, 5, 0, 0, some 7200000000⟩ := by decide +kernel

end GraphQuery
