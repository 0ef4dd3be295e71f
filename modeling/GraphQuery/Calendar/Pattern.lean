import GraphQuery.Calendar
import GraphQuery.Text.Case

/-! # Dates and times under a pattern

`Moment.format` writes a moment under a pattern such as `%d.%m.%Y`: a directive stands for a part of
the moment, all else for itself. A day is a moment at midnight, and a time of day one on the first day
of 1900.

A directive is a percent sign, marks, a width, a modifier and a letter, of which only the letter is
always there: `%d`, `%-d`, `%^a`, `%10Y`, `%Ey`. One that means nothing is written as it stands.

The millionths `%f` and the zone `%z`, `%Z` are put into the pattern before the other directives are
read, so their text can become a part of one. -/

namespace GraphQuery

/-! ### Parts of a moment -/

/-- What stands in front of a part that is narrower than it should be. -/
inductive Fill where
  | zeros
  | blanks
  | nothing
deriving DecidableEq, Repr

/-- A part of a moment. -/
inductive Part where
  /-- a number with its least number of digits and what fills it up to them -/
  | number (n : Int) (digits : Nat) (fill : Fill)
  /-- a text that can be written in capitals -/
  | text (s : String)
  /-- a name, of which the other case is capitals -/
  | name (s : String)
  /-- a half of the day, of which the other case is small letters -/
  | half (s : String)
  /-- a text that keeps its case -/
  | fixed (s : String)
  /-- the name of a zone that is not known -/
  | nameless
  /-- a part that is not known, of no width -/
  | unknown

/-- How a directive asks for its part. -/
structure Style where
  fill : Option Fill
  inCapitals : Bool
  inOtherCase : Bool
  width : Nat

namespace Style

/-- The style of a directive without marks. -/
def plain : Style := ⟨none, false, false, 0⟩

/-- A text with characters in front up to a width. -/
def widened (width : Nat) (c : Char) (s : String) : String :=
  String.ofList (List.replicate (width - s.length) c) ++ s

/-- A letter as a capital, if one letter is enough for that. -/
def capital (c : Char) : Char := match Text.upperChar c with
  | [d] => d
  | _ => c

def capitals (s : String) : String := s.map capital
def smallLetters (s : String) : String := s.map Char.toLower

/-- A number in a style. Without a mark it is filled as usual; a width counts as digits, unless
nothing is to be filled. -/
def number (st : Style) (n : Int) (digits : Nat) (usual : Fill) : String :=
  let sign := if n < 0 then "-" else ""
  let text := toString n.natAbs
  match st.fill.getD usual with
  | .zeros => sign ++ widened (max digits st.width - sign.length) '0' text
  | .blanks => widened (max digits st.width) ' ' (sign ++ text)
  | .nothing => widened st.width ' ' (sign ++ text)

/-- A text in a style. -/
def text (st : Style) (s : String) : String :=
  widened st.width (if st.fill = some .zeros then '0' else ' ') s

/-- A part in a style. -/
def write (st : Style) : Part → String
  | .number n digits usual => st.number n digits usual
  | .text s => st.text (if st.inCapitals then capitals s else s)
  | .name s => st.text (if st.inCapitals || st.inOtherCase then capitals s else s)
  | .half s => st.text (if st.inOtherCase then smallLetters s else s)
  | .fixed s => st.text s
  | .nameless => if st.fill = some .nothing then "" else st.text ""
  | .unknown => ""

end Style

namespace Moment

def dayName (m : Moment) : String := nameAt weekDayNames m.date.weekDay
def monthName (m : Moment) : String := nameAt monthNames (m.date.month - 1)

/-- The hour on a dial of twelve hours. -/
def dialHour (m : Moment) : Nat := if m.clock.hour % 12 = 0 then 12 else m.clock.hour % 12

/-- The half of the day. -/
def dayHalf (m : Moment) : String := if m.clock.hour < 12 then "AM" else "PM"

/-- `02/03/24` -/
def shortDate (m : Moment) : String :=
  paddedText 2 m.date.month ++ "/" ++ paddedText 2 m.date.day ++ "/" ++ paddedText 2 (m.date.year % 100)

/-- `Sat Feb  3 04:05:06 2024` -/
def longText (m : Moment) : String :=
  shortened m.dayName ++ " " ++ shortened m.monthName ++ " " ++
    Style.widened 2 ' ' (toString m.date.day) ++ " " ++ m.clock.baseText ++ " " ++ toString m.date.year

/-- The seconds since the beginning of 1970, as if the clock showed universal time. -/
def epochSecond (m : Moment) : Int :=
  let days : Int := (daysBeforeYear m.date.year + m.date.yearDay : Nat) - (daysBeforeYear 1970 + 1 : Nat)
  days * 86400 + (m.clock.hour * 3600 + m.clock.minute * 60 + m.clock.second : Nat)

/-- `+0200`, with seconds where there are some. -/
def zoneText (m : Moment) : String := match m.clock.offset with
  | none => ""
  | some micros => String.ofList ((offsetText micros).toList.filter (· ≠ ':'))

/-- The name of the zone, from its distance to universal time. -/
def zoneName (m : Moment) : String := match m.clock.offset with
  | none => ""
  | some 0 => "UTC"
  | some micros => "UTC" ++ offsetText micros

/-- A number of two digits. -/
def pair (n : Nat) : Part := .number n 2 .zeros

/-- The part of a moment that a letter stands for. -/
def part? (m : Moment) : Char → Option Part
  | 'Y' => some (.number m.date.year 1 .zeros)
  | 'C' => some (.number (m.date.year / 100 : Nat) 1 .zeros)
  | 'G' => some (.number m.date.isoWeek.1 1 .zeros)
  | 's' => some (.text (toString m.epochSecond))
  | 'y' => some (pair (m.date.year % 100))
  | 'm' => some (pair m.date.month)
  | 'd' => some (pair m.date.day)
  | 'H' => some (pair m.clock.hour)
  | 'I' => some (pair m.dialHour)
  | 'M' => some (pair m.clock.minute)
  | 'S' => some (pair m.clock.second)
  | 'U' => some (pair (m.date.weekFrom 0))
  | 'W' => some (pair (m.date.weekFrom 1))
  | 'V' => some (pair m.date.isoWeek.2)
  | 'g' => some (pair (m.date.isoWeek.1 % 100))
  | 'j' => some (.number m.date.yearDay 3 .zeros)
  | 'w' => some (.number m.date.weekDay 1 .zeros)
  | 'u' => some (.number (if m.date.weekDay = 0 then 7 else m.date.weekDay : Nat) 1 .zeros)
  | 'e' => some (.number m.date.day 2 .blanks)
  | 'k' => some (.number m.clock.hour 2 .blanks)
  | 'l' => some (.number m.dialHour 2 .blanks)
  | 'p' => some (.half m.dayHalf)
  | 'P' => some (.fixed (Style.smallLetters m.dayHalf))
  | 'A' => some (.name m.dayName)
  | 'a' => some (.name (shortened m.dayName))
  | 'B' => some (.name m.monthName)
  | 'b' | 'h' => some (.name (shortened m.monthName))
  | 'F' => some (.text (toString m.date.year ++ "-" ++ paddedText 2 m.date.month ++ "-" ++
      paddedText 2 m.date.day))
  | 'D' | 'x' => some (.text m.shortDate)
  | 'T' | 'X' => some (.text m.clock.baseText)
  | 'R' => some (.text (paddedText 2 m.clock.hour ++ ":" ++ paddedText 2 m.clock.minute))
  | 'r' => some (.text (paddedText 2 m.dialHour ++ ":" ++ paddedText 2 m.clock.minute ++ ":" ++
      paddedText 2 m.clock.second ++ " " ++ m.dayHalf))
  | 'c' => some (.text m.longText)
  | 'n' => some (.text "\n")
  | 't' => some (.text "\t")
  | '%' => some (.text "%")
  | 'Z' => some .nameless
  | 'z' => some .unknown
  | _ => none

/-- What is put into a pattern for a percent sign and the character behind it. -/
def inserted (m : Moment) : Char → List Char
  | 'f' => (paddedText 6 m.clock.micro).toList
  | 'z' => m.zoneText.toList
  | 'Z' => m.zoneName.toList
  | c => ['%', c]

/-- A pattern with the millionths and the zone in it; percent signs are taken with what is behind
them. -/
def insertZone (m : Moment) : List Char → List Char
  | '%' :: c :: rest => m.inserted c ++ m.insertZone rest
  | c :: rest => c :: m.insertZone rest
  | [] => []

end Moment

/-! ### Directives -/

/-- A directive as far as it has been read: its characters, and what they say. -/
structure Directive where
  read : List Char
  style : Style
  modifier : Option Char

namespace Directive

/-- A directive of which only the percent sign has been read. -/
def start : Directive := ⟨['%'], Style.plain, none⟩

/-- The widest that a directive can be. -/
def widest : Nat := 1000000

/-- A style with one more mark; none if the character is no mark. -/
def marked? (st : Style) : Char → Option Style
  | '_' => some { st with fill := some .blanks }
  | '-' => some { st with fill := some .nothing }
  | '0' => some { st with fill := some .zeros }
  | '^' => some { st with inCapitals := true }
  | '#' => some { st with inOtherCase := true }
  | _ => none

/-- The letters that cannot follow a modifier. -/
def barred : Char → List Char
  | 'E' => "aAbhBdeDFHIkljMmSUVgGWw".toList
  | _ => "aAcDFxXY".toList

/-- A directive with one more character in front of its letter; none if the character is the
letter. -/
def extended? (d : Directive) (c : Char) : Option Directive :=
  let longer := { d with read := d.read ++ [c] }
  match d.modifier, marked? d.style c with
  | none, some style =>
    if d.style.width = 0 then some { longer with style }
    else if c = '0' then some (digit longer c)
    else none
  | none, none =>
    if Text.isPlainDigit c then some (digit longer c)
    else if c = 'E' ∨ c = 'O' then some { longer with modifier := some c }
    else none
  | some _, _ => none
where
  digit (d : Directive) (c : Char) : Directive :=
    { d with style.width := min widest (d.style.width * 10 + (c.toNat - 48)) }

/-- A directive that means nothing. -/
def asItStands (d : Directive) (last : List Char) : String :=
  d.style.write (.text (String.ofList (d.read ++ last)))

/-- A directive whose letter cannot follow its modifier. The short name of a month asks for capitals
first. -/
def refused (d : Directive) (letter : Char) : String :=
  let raised := d.style.inOtherCase && (letter = 'b' || letter = 'h')
  { d with style.inCapitals := d.style.inCapitals || raised }.asItStands [letter]

/-- What a directive stands for once its letter is there. -/
def finish (d : Directive) (m : Moment) (letter : Char) : String :=
  if (d.modifier.map barred).any (letter ∈ ·) then d.refused letter
  else
    match m.part? letter with
    | some part => d.style.write part
    | none => d.asItStands [letter]

end Directive

namespace Moment

/-- A moment under a pattern, character by character; `open?` is the directive that is being read. -/
def formatChars (m : Moment) : (open? : Option Directive) → List Char → String
  | none, [] => ""
  | some d, [] => d.asItStands []
  | none, c :: rest =>
    if c = '%' then m.formatChars (some Directive.start) rest
    else String.singleton c ++ m.formatChars none rest
  | some d, c :: rest =>
    match d.extended? c with
    | some d => m.formatChars (some d) rest
    | none => d.finish m c ++ m.formatChars none rest

/-- The characters that there is room for under a pattern of some length. -/
def room (length : Nat) : Nat := 1024 * ((length + 3) / 4).nextPowerOfTwo

/-- A moment under a pattern. The pattern ends at a zero character, and a text that there is no room
for is left out. -/
def format (pattern : String) (m : Moment) : String :=
  let cs := m.insertZone (pattern.toList.takeWhile (· ≠ '\x00'))
  let s := m.formatChars none cs
  if s.length < room cs.length then s else ""

end Moment

/-- The pattern in which dates are stored and sent unless another one is chosen. -/
def standardPattern : String := "%Y-%m-%d %H:%M:%S"

def Date.format (pattern : String) (d : Date) : String :=
  Moment.format pattern ⟨d, ⟨0, 0, 0, 0, none⟩⟩

def Clock.format (pattern : String) (c : Clock) : String := Moment.format pattern ⟨⟨1900, 1, 1⟩, c⟩

example : Date.format standardPattern ⟨2024, 2, 3⟩ = "2024-02-03 00:00:00" := by decide +kernel
example : Date.format "%-d. %^b %06Y" ⟨2024, 2, 3⟩ = "3. FEB 002024" := by
  decide +kernel

end GraphQuery
