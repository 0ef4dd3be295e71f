import GraphQuery.Text.Character

/-! # Reading integers

An integer is written with blanks around it, an optional sign, and decimal digits of any script
with at most one low line between two of them. `readInteger?` reads that form, up to
`maxIntegerDigits` digits. -/

namespace GraphQuery.Number

open GraphQuery.Text

/-- The longest run of digits that is read as an integer. -/
def maxIntegerDigits : Nat := 4300

/-- The digits of a numeral, first digit first; a low line may stand between two digits. -/
def numeralDigits? : List Char → Option (List Nat)
  | [] => none
  | [c] => (digitValue? c).map ([·])
  | c :: '_' :: rest => do
    let d ← digitValue? c
    let ds ← numeralDigits? rest
    return d :: ds
  | c :: rest => do
    let d ← digitValue? c
    let ds ← numeralDigits? rest
    return d :: ds

/-- The number that a list of decimal digits denotes. -/
def ofDigits (digits : List Nat) : Nat := digits.foldl (fun n d => 10 * n + d) 0

/-- Cuts off a sign: whether it is a minus, and what follows it. -/
def splitSign : List Char → Bool × List Char
  | '-' :: cs => (true, cs)
  | '+' :: cs => (false, cs)
  | cs => (false, cs)

/-- The integer with the given sign and size. -/
def signed (negative : Bool) (size : Nat) : Int := if negative then -(size : Int) else size

/-- The number of digits at the beginning of a numeral; none if a low line stands between or behind them
that belongs to none of them. -/
def runLength? : List Char → Option Nat
  | [] => some 0
  | c :: rest =>
    if (digitValue? c).isNone then some 0
    else match rest with
      | '_' :: d :: more =>
        if (digitValue? d).isSome then (runLength? (d :: more)).map (· + 1) else none
      | ['_'] => none
      | rest => (runLength? rest).map (· + 1)
termination_by cs => cs.length

/-- The number of digits with which a text begins, if they are too many. -/
def excessDigits? (cs : List Char) : Option Nat :=
  (runLength? (splitSign (trimWhere isNumeralBlank cs)).2).filter (maxIntegerDigits < ·)

/-- The integer that a text spells. -/
def readIntegerChars? (cs : List Char) : Option Int := do
  let (negative, body) := splitSign (trimWhere isNumeralBlank cs)
  let digits ← numeralDigits? body
  if digits.length ≤ maxIntegerDigits then some (signed negative (ofDigits digits)) else none

/-- The integer that a text spells. -/
def readInteger? (s : String) : Option Int := readIntegerChars? s.toList

example : readInteger? " -1_0 " = some (-10) := by decide
example : readInteger? "1__0" = none := by decide

end GraphQuery.Number
