import GraphQuery.Number.Integer

/-! # Double precision numbers

A `Double` is kept as its 64 bits, so every operation here is exact integer arithmetic followed by
one rounding.

* `Double.magnitude` gives a finite number as `m * 2 ^ q`.
* `Double.ofRatio` rounds a ratio of natural numbers to the nearest double, ties to even.
* `Double.read?` reads decimal texts, with the words for infinity and for no number.
* `Double.text` writes the shortest decimal text. -/

namespace GraphQuery.Number

open GraphQuery.Text

/-- A double precision number, by its bits: sign, eleven bits of exponent, 52 of fraction. -/
structure Double where
  bits : Nat
deriving DecidableEq, Repr, Inhabited

namespace Double

/-- The bits of the sign. -/
def signBit : Nat := Nat.pow 2 63

/-- The bits of positive infinity. -/
def infinityBits : Nat := 2047 * Nat.pow 2 52

def zero : Double := ⟨0⟩
def infinity : Double := ⟨infinityBits⟩
def nan : Double := ⟨infinityBits + Nat.pow 2 51⟩

def isNegative (x : Double) : Bool := x.bits / signBit % 2 == 1
def exponent (x : Double) : Nat := x.bits / Nat.pow 2 52 % Nat.pow 2 11
def fraction (x : Double) : Nat := x.bits % Nat.pow 2 52

/-- Not a number. -/
def isNaN (x : Double) : Bool := x.exponent == 2047 && x.fraction != 0

/-- One of the two infinities. -/
def isInfinite (x : Double) : Bool := x.exponent == 2047 && x.fraction == 0

/-- A finite number. -/
def isFinite (x : Double) : Bool := x.exponent != 2047

/-- The size of a finite number as `m * 2 ^ q`. -/
def magnitude (x : Double) : Nat × Int :=
  if x.exponent = 0 then (x.fraction, -1074)
  else (x.fraction + Nat.pow 2 52, (x.exponent : Int) - 1075)

/-- Zero of either sign. -/
def isZero (x : Double) : Bool := x.isFinite && x.magnitude.1 == 0

/-- The number with the sign set. -/
def withSign (negative : Bool) (x : Double) : Double :=
  if negative then ⟨x.bits + signBit⟩ else x

/-- `num / den` to the nearest natural number, a tie to the even one. -/
def roundHalfEven (num den : Nat) : Nat :=
  let down := num / den
  let rest := num % den
  if 2 * rest > den ∨ (2 * rest = den ∧ down % 2 = 1) then down + 1 else down

/-- `num / (den * 2 ^ q)` as a ratio of natural numbers. -/
def scaled (num den : Nat) (q : Int) : Nat × Nat :=
  if 0 ≤ q then (num, den * Nat.pow 2 q.toNat) else (num * Nat.pow 2 (-q).toNat, den)

/-- The bits of the double nearest to `num / den`, a tie to the even one. -/
def nearestBits (num den : Nat) : Nat :=
  if num = 0 then 0 else
    let guess : Int := max ((num.log2 : Int) - den.log2 - 53) (-1074)
    let wide := scaled num den guess
    let q := if wide.1 / wide.2 ≥ Nat.pow 2 53 then guess + 1 else guess
    let ratio := scaled num den q
    min ((q + 1074).toNat * Nat.pow 2 52 + roundHalfEven ratio.1 ratio.2) infinityBits

/-- The double nearest to the ratio, with the given sign. -/
def ofRatio (negative : Bool) (num den : Nat) : Double := withSign negative ⟨nearestBits num den⟩

/-- The double nearest to `digits * 10 ^ power`. -/
def ofDecimal (negative : Bool) (digits : Nat) (power : Int) : Double :=
  let width : Int := (Nat.toDigits 10 digits).length
  if digits = 0 ∨ power + width < -400 then withSign negative ⟨0⟩
  else if power + width > 400 then withSign negative infinity
  else if 0 ≤ power then ofRatio negative (digits * Nat.pow 10 power.toNat) 1
  else ofRatio negative digits (Nat.pow 10 (-power).toNat)

/-- The double nearest to an integer; none when it is out of range. -/
def ofInt? (n : Int) : Option Double :=
  let x := ofRatio (n < 0) n.natAbs 1
  if x.isFinite then some x else none

/-- A finite number as a ratio. -/
def ratio (x : Double) : Int × Nat :=
  let (m, q) := x.magnitude
  if 0 ≤ q then (signed x.isNegative (m * Nat.pow 2 q.toNat), 1)
  else (signed x.isNegative m, Nat.pow 2 (-q).toNat)

/-- The integer next to a finite number on the side of zero. -/
def truncate (x : Double) : Int := x.ratio.1.tdiv x.ratio.2

/-- Whether a finite number is an integer. -/
def isIntegral (x : Double) : Bool := x.isFinite && x.ratio.1 % x.ratio.2 == 0

/-- Rounds an exact ratio. -/
def ofIntRatio (num : Int) (den : Nat) : Double := ofRatio (num < 0) num.natAbs den

/-- The difference of two doubles. -/
def sub (x y : Double) : Double :=
  if x.isNaN || y.isNaN then nan
  else if x.isInfinite then
    if y.isInfinite && x.isNegative == y.isNegative then nan else x
  else if y.isInfinite then withSign (!y.isNegative) infinity
  else ofIntRatio (x.ratio.1 * y.ratio.2 - y.ratio.1 * x.ratio.2) (x.ratio.2 * y.ratio.2)

/-- The product of two doubles. -/
def mul (x y : Double) : Double :=
  if x.isNaN || y.isNaN then nan
  else if x.isInfinite || y.isInfinite then
    if x.isZero || y.isZero then nan else withSign (x.isNegative != y.isNegative) infinity
  else
    ofRatio (x.isNegative != y.isNegative) (x.ratio.1.natAbs * y.ratio.1.natAbs)
      (x.ratio.2 * y.ratio.2)

/-- Digits of a decimal text: the number they spell and how many there are. No digits are allowed. -/
def decimalRun? (cs : List Char) : Option (Nat × Nat) :=
  if cs.isEmpty then some (0, 0)
  else (numeralDigits? cs).map fun ds => (ofDigits ds, ds.length)

/-- The exponent after its letter. -/
def exponentPart? (cs : List Char) : Option Int := do
  let (negative, body) := splitSign cs
  let digits ← numeralDigits? body
  return signed negative (ofDigits digits)

/-- An unsigned decimal text: digits, a point, an exponent. -/
def readUnsigned? (negative : Bool) (cs : List Char) : Option Double := do
  let mantissa := cs.takeWhile fun c => c ≠ 'e' ∧ c ≠ 'E'
  let power ← match cs.drop mantissa.length with
    | [] => some 0
    | _ :: rest => exponentPart? rest
  let whole := mantissa.takeWhile (· ≠ '.')
  let part := (mantissa.drop whole.length).drop 1
  let (a, n) ← decimalRun? whole
  let (b, k) ← decimalRun? part
  if n + k = 0 then none
  else some (ofDecimal negative (a * Nat.pow 10 k + b) (power - k))

/-- ASCII small letters, for the words of a number text. -/
def smallLetters (cs : List Char) : List Char :=
  cs.map fun c => if 65 ≤ c.toNat ∧ c.toNat ≤ 90 then Char.ofNat (c.toNat + 32) else c

/-- The double that a text without blanks spells. -/
def readBare? (cs : List Char) : Option Double :=
  let (negative, body) := splitSign cs
  let word := String.ofList (smallLetters body)
  if word = "inf" ∨ word = "infinity" then some (withSign negative infinity)
  else if word = "nan" then some (withSign negative nan)
  else readUnsigned? negative body

/-- The double that a text spells, with blanks around it. -/
def readChars? (cs : List Char) : Option Double := readBare? (trimWhere isNumeralBlank cs)

/-- The double that a text spells. -/
def read? (s : String) : Option Double := readChars? s.toList

end Double

end GraphQuery.Number

/-! ### The shortest decimal text of a double

* `Double.shortest` finds the fewest digits whose number lies among the reals that round to a given
  double, and of those digits the nearest.
* `Double.text` writes them: positional from `0.0001` up to sixteen digits before the point, with an
  exponent of at least two digits otherwise. -/

namespace GraphQuery.Number.Double

/-- The reals that round to `m * 2 ^ q`, in quarters of the last place: low end, high end, and
whether the ends belong to them. -/
def roundingInterval (m : Nat) (q : Int) : Nat × Nat × Bool :=
  (if m = Nat.pow 2 52 ∧ -1074 < q then 4 * m - 1 else 4 * m - 2, 4 * m + 2, m % 2 == 0)

/-- The power `p` with `10 ^ (p - 1) ≤ num / den < 10 ^ p`. -/
def decimalPoint (num den : Nat) : Int :=
  if den ≤ num then (Nat.toDigits 10 (num / den)).length
  else
    let width := (Nat.toDigits 10 (den / num)).length
    if num * Nat.pow 10 (width - 1) = den then 2 - (width : Int) else 1 - (width : Int)

/-- One grid of the search: of the two neighbours of the number on the grid of `count` digits, the
nearest that lies in the interval, of two equally near the even one. All quantities are quarters of the last place over `den`. -/
def gridHit? (num low high den : Nat) (closed : Bool) (point : Int) (count : Nat) : Option Nat :=
  let step := point - count
  let up := if 0 ≤ step then Nat.pow 10 step.toNat else 1
  let down := if 0 ≤ step then 1 else Nat.pow 10 (-step).toNat
  let below := num * down / (den * up)
  let inside (c : Nat) : Bool :=
    let v := c * up * den
    if closed then low * down ≤ v && v ≤ high * down else low * down < v && v < high * down
  let distance (c : Nat) : Nat := (Int.subNatNat (c * up * den) (num * down)).natAbs
  match inside below, inside (below + 1) with
  | true, true =>
    let nearer := distance (below + 1) < distance below
    let tie := distance (below + 1) = distance below ∧ below % 2 = 1
    some (if nearer ∨ tie then below + 1 else below)
  | true, false => some below
  | false, true => some (below + 1)
  | false, false => none

/-- The first grid with a hit, with `tries` grids left. -/
def search (num low high den : Nat) (closed : Bool) (point : Int) : (count tries : Nat) → Nat × Nat
  | count, 0 => (num, count)
  | count, tries + 1 =>
    match gridHit? num low high den closed point count with
    | some digits => (digits, count)
    | none => search num low high den closed point (count + 1) tries

/-- The digits of a positive finite number without trailing zeros, and the place of the decimal
point before them: the number is `0.digits * 10 ^ point`. -/
def shortest (x : Double) : List Char × Int :=
  let (m, q) := x.magnitude
  let (low, high, closed) := roundingInterval m q
  let unit := if 2 ≤ q then Nat.pow 2 (q - 2).toNat else 1
  let den := if 2 ≤ q then 1 else Nat.pow 2 (2 - q).toNat
  let point := decimalPoint (4 * m * unit) den
  let (digits, count) := search (4 * m * unit) (low * unit) (high * unit) den closed point 1 17
  let written := Nat.toDigits 10 digits
  let carried : Int := if written.length > count then 1 else 0
  ((written.reverse.dropWhile (· == '0')).reverse, point + carried)

/-- How a decimal number is laid out. -/
structure Layout where
  /-- The least power of ten of a first digit that is written without an exponent. -/
  leastPositional : Int
  /-- The least power of ten of a first digit that needs an exponent again. -/
  leastScientific : Int
  /-- The least count of digits of an exponent. -/
  exponentDigits : Nat
deriving Repr

/-- Values are written positionally from a ten-thousandth to below ten to the sixteenth, and an
exponent has two digits or more. -/
def valueLayout : Layout := ⟨-4, 16, 2⟩

/-- The digits with the decimal point among them; there is always one digit behind it. -/
def positional (digits : List Char) (point : Int) : List Char :=
  if point ≤ 0 then '0' :: '.' :: (List.replicate (-point).toNat '0' ++ digits)
  else
    let whole := digits.take point.toNat ++ List.replicate (point.toNat - digits.length) '0'
    let part := digits.drop point.toNat
    whole ++ '.' :: (if part.isEmpty then ['0'] else part)

/-- The digits with an exponent behind them. -/
def scientific (layout : Layout) (digits : List Char) (point : Int) : List Char :=
  let power := point - 1
  let size := Nat.toDigits 10 power.natAbs
  let mantissa := digits.take 1 ++ (if digits.length > 1 then '.' :: digits.drop 1 else [])
  mantissa ++ 'e' :: (if power < 0 then '-' else '+') ::
    (List.replicate (layout.exponentDigits - size.length) '0' ++ size)

/-- The text of a double. -/
def text (x : Double) : String :=
  if x.isNaN then "nan"
  else
    let sign := if x.isNegative then ['-'] else []
    if x.isInfinite then String.ofList (sign ++ ['i', 'n', 'f'])
    else if x.isZero then String.ofList (sign ++ ['0', '.', '0'])
    else
      let (digits, point) := x.shortest
      let power := point - 1
      if valueLayout.leastPositional ≤ power ∧ power < valueLayout.leastScientific then
        String.ofList (sign ++ positional digits point)
      else String.ofList (sign ++ scientific valueLayout digits point)

end GraphQuery.Number.Double
