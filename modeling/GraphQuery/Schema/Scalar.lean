import GraphQuery.Schema.Issue
import GraphQuery.Value.Coercion

/-! # Reading values

Fields are read leniently: a text may stand for a number, a number without fraction for an integer,
a word for a truth value.

* `readText`, `readInteger`, `readDouble`, `readTruth` read one value each.
* `atLeast`, `atMost` and `textLength` are the limits that a field may set.
* `readList`, `readProperties` and `readAssignments` read what holds several values. -/

namespace GraphQuery.Schema

open GraphQuery GraphQuery.Number GraphQuery.Text

/-! ### Texts -/

/-- A text, or bytes that encode one. -/
def readText : Value → Checked String
  | .text s => .ok s
  | .bytes bs =>
    match String.fromUTF8? (ByteArray.mk bs.toArray) with
    | some s => .ok s
    | none => .fail .textEncoding
  | _ => .fail .textType

/-- Limits on the length of a text, counted in characters. -/
def textLength (least most : Option Nat) (s : String) : Checked String :=
  if least.any (s.length < ·) then .fail .textTooShort
  else if most.any (· < s.length) then .fail .textTooLong
  else .ok s

/-- A text that is not empty. -/
def readName (v : Value) : Checked String := (readText v).bind (textLength (some 1) none)

/-! ### Integers -/

/-- ASCII digits with single low lines between them. -/
def plainDigits? (cs : List Char) : Option (List Nat) :=
  if cs.all fun c => isPlainDigit c || c == '_' then numeralDigits? cs else none

/-- What follows leading zeros, low lines among them included: a numeral, which may have a minus of its
own. One character is left of a numeral of zeros alone, or of zeros before a point. -/
def afterZeros (last : Char) : List Char → Option (List Char)
  | [] => some [last]
  | c :: cs =>
    if c = '0' ∨ c = '_' then afterZeros c cs
    else if isPlainDigit c || c = '-' then some (c :: cs)
    else if c = '.' then some (last :: c :: cs)
    else none

/-- A numeral without its leading zeros; it has to start with a digit. -/
def significant? : List Char → Option (List Char)
  | [] => none
  | c :: cs =>
    if c = '0' then afterZeros c cs else if isPlainDigit c then some (c :: cs) else none

/-- A numeral without a fraction of zeros. Behind a point there has to be at least one. -/
def wholePart? (cs : List Char) : Option (List Char) :=
  let whole := cs.takeWhile (· ≠ '.')
  match cs.drop whole.length with
  | [] => some whole
  | _ :: zeros => if !zeros.isEmpty && zeros.all (· = '0') then some whole else none

/-- The digits behind a minus that follows leading zeros: a low line may come first, a zero only if it
is alone. -/
def lateDigits? (cs : List Char) : Option (List Nat) := do
  match ← plainDigits? (if cs.head? = some '_' then cs.tail else cs) with
  | 0 :: _ :: _ => none
  | digits => some digits

/-- The sign and the digits of a numeral without its leading zeros. Only one sign may be a minus. -/
def signedDigits? (negative : Bool) : List Char → Option (Bool × List Nat)
  | '-' :: cs => if negative then none else (lateDigits? cs).map (true, ·)
  | cs => (plainDigits? cs).map (negative, ·)

/-- The integer that a text spells; a fraction of zeros may follow it. Inside, there is none for a
numeral that is too long without its leading zeros. -/
def integerText? (s : String) : Option (Option Int) := do
  let (negative, body) := splitSign (trimWhere isNumeralBlank s.toList)
  let (negative, digits) ← signedDigits? negative (← wholePart? (← significant? body))
  if digits.length ≤ maxIntegerDigits then some (some (signed negative (ofDigits digits)))
  else some none

/-- A text as an integer. -/
def readIntegerText (s : String) : Checked Int :=
  match integerText? s with
  | some (some n) => .ok n
  | some none => .fail .integerSize
  | none => .fail .integerText

/-- Whether a number is less than `2 ^ 63` in size. -/
def isMachineSize (n : Int) : Bool := n.natAbs < Nat.pow 2 63

/-- A double without fraction as an integer. The one that is just too small is of the wrong type. -/
def readWholeNumber (n : Int) : Checked Int :=
  if isMachineSize n then .ok n
  else .fail (if n = -(Nat.pow 2 63 : Int) then .integerType else .integerSize)

/-- An integer: a number without fraction, a truth value, or a text that spells one. -/
def readInteger : Value → Checked Int
  | .int n => .ok n
  | .bool b => .ok (if b then 1 else 0)
  | .double x =>
    if !x.isFinite then .fail .infinite
    else if !x.isIntegral then .fail .integerFraction
    else readWholeNumber x.truncate
  | .text s => readIntegerText s
  | .bytes bs =>
    match String.fromUTF8? (ByteArray.mk bs.toArray) with
    | some s => readIntegerText s
    | none => .fail .integerText
  | _ => .fail .integerType

/-! ### Doubles -/

/-- Whether no low line stands at an end or next to another one. -/
def hasSingleLowLines : List Char → Bool
  | [] => true
  | ['_'] => false
  | '_' :: '_' :: _ => false
  | _ :: rest => hasSingleLowLines rest

/-- A numeral without the low lines in it, none of which may stand at an end or next to another
one. -/
def withoutLowLines? (cs : List Char) : Option (List Char) :=
  if cs.contains '_' && cs.head? != some '_' && hasSingleLowLines cs then some (cs.filter (· ≠ '_'))
  else none

/-- A double in ASCII characters without low lines. -/
def plainDouble? (cs : List Char) : Option Double :=
  if cs.all fun c => c.toNat < 128 && c ≠ '_' then Double.readBare? cs else none

/-- A text as a double. There may be blanks around it, or else single low lines inside it. -/
def readDoubleText (s : String) : Checked Double :=
  ((plainDouble? (trimWhere isNumeralBlank s.toList)).or
    ((withoutLowLines? s.toList).bind plainDouble?)).elim (.fail .doubleText) .ok

/-- A double: a number, a truth value, or a text that spells one. -/
def readDouble : Value → Checked Double
  | .double x => .ok x
  | .int n => (Double.ofInt? n).elim (.fail .doubleType) .ok
  | .bool b => .ok (Double.ofIntRatio (if b then 1 else 0) 1)
  | .text s => readDoubleText s
  | .bytes bs =>
    match String.fromUTF8? (ByteArray.mk bs.toArray) with
    | some s => readDoubleText s
    | none => .fail .doubleText
  | _ => .fail .doubleType

/-! ### Truth values -/

/-- The words for true. -/
def trueWords : List String := ["1", "t", "true", "yes", "y", "on"]

/-- The words for false. -/
def falseWords : List String := ["0", "f", "false", "no", "n", "off"]

/-- A word as a truth value. -/
def readTruthText (s : String) : Checked Bool :=
  let word := String.ofList (Double.smallLetters s.toList)
  if word ∈ trueWords then .ok true
  else if word ∈ falseWords then .ok false
  else .fail .truthText

/-- A number as a truth value. -/
def readTruthNumber (n : Int) : Checked Bool :=
  if n = 0 then .ok false
  else if n = 1 then .ok true
  else if isMachineSize n || n = -(Nat.pow 2 63 : Int) then .fail .truthText
  else .fail .truthType

/-- A truth value: itself, zero or one, or a word for one. -/
def readTruth : Value → Checked Bool
  | .bool b => .ok b
  | .int n => readTruthNumber n
  | .double x =>
    if x.isIntegral && isMachineSize x.truncate then readTruthNumber x.truncate
    else .fail .truthType
  | .text s => readTruthText s
  | .bytes bs =>
    match String.fromUTF8? (ByteArray.mk bs.toArray) with
    | some s => readTruthText s
    | none => .fail .truthText
  | _ => .fail .truthType

/-! ### Choices and absence -/

/-- One of a few texts. -/
def readChoice {α : Type} (choices : List (String × α)) : Value → Checked α
  | .text s => (lookup? s choices).elim (.fail .notAChoice) .ok
  | _ => .fail .notAChoice

/-- A value that may be null. -/
def readOptional {α : Type} (read : Value → Checked α) : Value → Checked (Option α)
  | .null => .ok none
  | v => (read v).map some

/-! ### Fields of a table -/

/-- The value of a field that has to be there. -/
def required {α : Type} (fields : Properties) (name : String) (read : Value → Checked α) :
    Checked α :=
  Checked.inside name (match lookup? name fields with
    | some v => read v
    | none => .fail .missing)

/-- The value of a field, or what stands for it when it is not there. -/
def defaulted {α : Type} (fields : Properties) (name : String) (absent : α)
    (read : Value → Checked α) : Checked α :=
  Checked.inside name (match lookup? name fields with
    | some v => read v
    | none => .ok absent)

/-- Which of some names are among given fields. -/
def givenNames (names : List String) (fields : Properties) : List String :=
  names.filter fun name => (lookup? name fields).isSome

/-- Names with one more, unless it is there. -/
def withName (name : String) (names : List String) : List String :=
  if name ∈ names then names else names ++ [name]

example : (readInteger (.text " 1_000.00 ")).toOption = some 1000 := by decide
example : (readInteger (.text "-0__12.0")).toOption = some (-12) := by decide
example : (readInteger (.text "0_0-5")).toOption = some (-5) := by decide
example : (readInteger (.text "4.5")).toOption = none := by decide

end GraphQuery.Schema

/-! ### Reading collections

* `readList` reads what can be gone through and is neither a text nor a map.
* `readProperties` reads a map whose keys are texts, `readAssignments` one whose values are texts as
  well. -/

namespace GraphQuery.Schema

open GraphQuery

/-- The members of a value that counts as a list. -/
def listMembers? : Value → Option (List Value)
  | .text _ | .bytes _ | .map _ _ | .node _ | .link _ => none
  | v => v.members?

/-- A list, given as anything that counts as one. -/
def readList {α : Type} (read : Value → Checked α) (wrong : IssueCode) (v : Value) :
    Checked (List α) :=
  match v with
  | .set xs => Checked.each read xs
  | v =>
    match listMembers? v with
    | some xs => Checked.each read xs
    | none => .fail wrong

/-- Limits on the number of members: too many are noticed before the members are read, too few
afterwards. -/
def readLimitedList {α : Type} (read : Value → Checked α) (least most : Option Nat) (v : Value) :
    Checked (List α) :=
  match listMembers? v with
  | none => .fail .listType
  | some xs =>
    if most.any (· < xs.length) then .fail .listTooLong
    else do
      let read ← Checked.each read xs
      if least.any (read.length < ·) then .fail .listTooShort else .ok read

/-- A list of texts. -/
def readTexts : Value → Checked (List String) := readList readText .listType

/-- The entries of a map whose keys are texts. -/
def textEntries (entries : List (Value × Value)) : Properties :=
  entries.filterMap fun e => e.1.text?.map fun k => (k, e.2)

/-- The step to a key of a map inside a place. -/
def keyStep : Value → String
  | .text s => s
  | .bool b => if b then "1" else "0"
  | v => v.literal

/-- A key of a map, which has to be a text. -/
def readKey (key : Value) : Checked String :=
  Checked.inside (keyStep key) (Checked.inside "[key]" (readText key))

/-- Reads the entries of a map one after another. -/
def readEntries {α : Type} (read : Value → Checked α) :
    List (Value × Value) → Checked (List (String × α))
  | [] => .ok []
  | (key, v) :: rest =>
    (((readKey key).and (Checked.inside (keyStep key) (read v))).and (readEntries read rest)).map
      fun p => p.1 :: p.2

/-- A map with texts for keys. -/
def readMap {α : Type} (read : Value → Checked α) (v : Value) : Checked (List (String × α)) :=
  match v.entries? with
  | some entries => (readEntries read entries).map fun es => putAll [] es
  | none => .fail .mapType

/-- Named values. -/
def readProperties : Value → Checked Properties := readMap .ok

/-- Names of properties with the names that are bound to them. -/
def readAssignments : Value → Checked (List (String × String)) := readMap readText

end GraphQuery.Schema
