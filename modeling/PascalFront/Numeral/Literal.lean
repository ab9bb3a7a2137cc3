import PascalFront.Numeral.Shortest
import PascalFront.Text.Blank
import PascalFront.Text.Digit
/-!
# Numeric literals

A literal with a point denotes a real number, any other an integer. A lexer
hands over nothing but ASCII digits and a point; tokens that come from
elsewhere may also have blanks around the number, a sign, an exponent after a
real number, single underscores between digits, and the decimal digits of any
script.

An integer of more than 4300 digits is refused, zeros in front counted.
-/

namespace PascalFront

/-- **The value of a numeric literal.** -/
inductive Number where
  /-- A whole number. -/
  | integer (value : Int)
  /-- A real number. -/
  | real (value : Binary64)
  deriving DecidableEq, Repr

namespace Number

open Text

/-- The greatest number of digits of an integer. -/
def maxDigits : Nat := 4300

/-- Whether a character is a blank of ASCII that may surround a number; the
four separators `\x1c` to `\x1f` may not. -/
def isPadding (c : Char) : Bool := c = ' ' || ('\t' ≤ c && c ≤ '\r')

/-- A character of a number in ASCII: a blank from beyond ASCII counts as a
space, and a digit of another script as the digit of the same value. -/
def toAscii (c : Char) : Char :=
  if c.toNat < 128 then c
  else if isBlank c then ' '
  else match digitValue? c with
    | some value => Nat.digitChar value
    | none => c

/-- The text of a number in ASCII, without the blanks around it. -/
def trimmed (text : List Char) : List Char :=
  let ascii := (text.map toAscii).dropWhile isPadding
  (ascii.reverse.dropWhile isPadding).reverse

/-- A sign, if there is one, and what follows it. -/
def takeSign : List Char → Bool × List Char
  | '-' :: rest => (true, rest)
  | '+' :: rest => (false, rest)
  | text => (false, text)

/-- The text without its underscores, provided each stands between two
digits. The flag says whether a digit stands before the text. -/
def joinDigits? : (afterDigit : Bool) → List Char → Option (List Char)
  | _, [] => some []
  | afterDigit, '_' :: c :: rest =>
    if afterDigit && isDigit c then (joinDigits? true rest).map (c :: ·) else none
  | _, c :: rest =>
    if c = '_' then none else (joinDigits? (isDigit c) rest).map (c :: ·)

/-- The value of a row of digits. -/
def digitsValue (digits : List Char) : Nat :=
  digits.foldl (fun value c => 10 * value + (c.toNat - '0'.toNat)) 0

/-- A value with its sign. -/
def signed (negative : Bool) (value : Nat) : Int := if negative then -value else value

/-- The integer that a text denotes. -/
def integer? (text : List Char) : Option Int := do
  let (negative, body) := takeSign (trimmed text)
  let digits ← joinDigits? false body
  if digits.isEmpty || !digits.all isDigit || maxDigits < digits.length then none
  else some (signed negative (digitsValue digits))

/-- The exponent at the end of a real number; none at all is zero. -/
def exponent? : List Char → Option Int
  | [] => some 0
  | c :: rest =>
    let (negative, digits) := takeSign rest
    if (c = 'e' || c = 'E') && !digits.isEmpty && digits.all isDigit then
      some (signed negative (digitsValue digits))
    else none

/-- The digits before the point, the digits after it, and what follows
them. -/
def splitPoint (text : List Char) : List Char × List Char × List Char :=
  let whole := text.takeWhile isDigit
  match text.dropWhile isDigit with
  | '.' :: rest => (whole, rest.takeWhile isDigit, rest.dropWhile isDigit)
  | rest => (whole, [], rest)

/-- The real number that a text denotes: digits with a point among them, before
them or after them, or none, and an exponent. -/
def real? (text : List Char) : Option Binary64 := do
  let (negative, body) := takeSign (← joinDigits? false (trimmed text))
  let (whole, fraction, rest) := splitPoint body
  let exponent ← exponent? rest
  let digits := whole ++ fraction
  if digits.isEmpty then none
  else some (.ofDecimal negative (digitsValue digits) digits.length
    (exponent - fraction.length))

/-- **The number that a literal denotes**, if it denotes one. -/
def ofLiteral? (literal : List Char) : Option Number :=
  if '.' ∈ literal then (real? literal).map .real else (integer? literal).map .integer

/-- The text of a number. -/
def text : Number → String
  | .integer value => toString value
  | .real value => String.ofList value.text

end Number

end PascalFront
