import PascalFront.Numeral.Binary64
/-!
# The shortest decimal of a binary number

A binary number is written with the fewest decimal digits that read back as
the same number, and of the decimals with that many digits with the nearest
one. The decimals that read back are those in an interval around the number
which reaches half-way to its two neighbours, ends included when the mantissa
is even; so for one digit, two digits and so on the two grid points next to
the number are tried, and seventeen digits always suffice.

The layout is positional for decimal exponents from -4 to 15, with at least
one digit after the point, and with an exponent of at least two digits
otherwise.
-/

namespace PascalFront.Binary64

/-- The decimal digits of a whole number. -/
def decimalDigits (n : Nat) : List Char := Nat.toDigits 10 n

/-- The decimals that read back as a magnitude: the ends of their interval and
the magnitude itself, over a common denominator. -/
structure Interval where
  /-- The magnitude. -/
  value : Nat
  /-- The lower end. -/
  low : Nat
  /-- The upper end. -/
  high : Nat
  /-- The common denominator of the three. -/
  den : Nat
  /-- Whether the ends belong to the interval. -/
  closed : Bool

namespace Interval

/-- The interval around a magnitude, in quarters of what the last bit of its
mantissa counts. Below a power of two the neighbour is only half as far away as
above it. -/
def around (m : Magnitude) : Interval :=
  let narrow := m.mantissa = Nat.pow 2 52 ∧ m.scale ≠ 0
  let quarter := Nat.pow 2 (m.scale - 1076)
  { value := 4 * m.mantissa * quarter
    low := (4 * m.mantissa - if narrow then 1 else 2) * quarter
    high := (4 * m.mantissa + 2) * quarter
    den := Nat.pow 2 (1076 - m.scale)
    closed := m.mantissa % 2 = 0 }

/-- Whether `num / den` lies in the interval. -/
def contains (i : Interval) (num den : Nat) : Bool :=
  if i.closed then i.low * den ≤ num * i.den && num * i.den ≤ i.high * den
  else i.low * den < num * i.den && num * i.den < i.high * den

/-- The exponent of the leading decimal digit of the number. -/
def leading (i : Interval) : Int :=
  if i.den ≤ i.value then
    ((decimalDigits (i.value / i.den)).length : Int) - 1
  else
    let count := (decimalDigits (i.den / i.value)).length
    if i.den ≤ i.value * Nat.pow 10 (count - 1) then 1 - (count : Int) else -(count : Int)

/-- The grid point of step `10 ^ exponent` that stands for the number, if one
of its two neighbours on the grid is in the interval. Of two the nearer is
taken, and the even one if both are equally near. -/
def onGrid? (i : Interval) (exponent : Int) : Option Nat :=
  let up := Nat.pow 10 exponent.toNat
  let down := Nat.pow 10 (-exponent).toNat
  let num := i.value * down
  let den := i.den * up
  let below := num / den
  let above := below + 1
  match i.contains (below * up) down, i.contains (above * up) down with
  | true, true => some (roundDiv num den)
  | true, false => some below
  | false, true => some above
  | false, false => none

/-- The shortest decimal, as digits and an exponent of ten, with at most
`tries` digits more than `count`. -/
def search (i : Interval) (leading : Int) : (tries count : Nat) → Nat × Int
  | 0, count => (i.value / i.den, count)
  | tries + 1, count =>
    let exponent := leading - count
    match i.onGrid? exponent with
    | some digits => (digits, exponent)
    | none => search i leading tries (count + 1)

end Interval

/-- The digits of the shortest decimal of a magnitude that is not zero, without
zeros at the end, and the number of them that stand before the point. -/
def shortestDigits (m : Magnitude) : List Char × Int :=
  let interval := Interval.around m
  let (digits, power) := interval.search interval.leading 17 0
  let all := decimalDigits digits
  ((all.reverse.dropWhile (· = '0')).reverse, all.length + power)

/-- The exponent of ten, with its sign and at least two digits. -/
def exponentText (exponent : Int) : List Char :=
  let digits := decimalDigits exponent.natAbs
  (if exponent < 0 then '-' else '+') ::
    (List.replicate (2 - digits.length) '0' ++ digits)

/-- Digits of which `point` stand before the point, in the layout of real
numbers. -/
def layOut (digits : List Char) (point : Int) : List Char :=
  if point < -3 ∨ 16 < point then
    let fraction := digits.tail
    digits.take 1 ++ (if fraction.isEmpty then [] else '.' :: fraction)
      ++ 'e' :: exponentText (point - 1)
  else if point ≤ 0 then
    '0' :: '.' :: (List.replicate (-point).toNat '0' ++ digits)
  else
    let whole := digits.take point.toNat
    let fraction := digits.drop point.toNat
    whole ++ List.replicate (point.toNat - whole.length) '0'
      ++ '.' :: (if fraction.isEmpty then ['0'] else fraction)

/-- The sign of a number. -/
def signText (negative : Bool) : List Char := if negative then ['-'] else []

/-- **The text of a binary number**: its shortest decimal. -/
def text : Binary64 → List Char
  | .nan => "nan".toList
  | .infinite negative => signText negative ++ "inf".toList
  | .finite negative magnitude =>
    signText negative ++
      if magnitude.mantissa = 0 then "0.0".toList
      else
        let (digits, point) := shortestDigits magnitude
        layOut digits point

end PascalFront.Binary64
