import PascalFront.Text.Printable
/-!
# Quoted text

Where a message shows a piece of source text it is put between quotes, on one
line and in printable characters only. The quotes are single ones, unless the
text holds a single quote and no double one. Inside, the backslash and the
quote in use are escaped by a backslash, line feed, carriage return and tab
have their letters, and any other unprintable character is written as the
shortest of `\xHH`, `\uHHHH` and `\UHHHHHHHH` that holds its code point.
-/

namespace PascalFront.Text

/-- The last `width` hexadecimal digits of a number, in lower case. -/
def hexDigits : (width : Nat) → Nat → List Char
  | 0, _ => []
  | width + 1, n => hexDigits width (n / 16) ++ [Nat.digitChar (n % 16)]

@[simp] theorem length_hexDigits (width n : Nat) : (hexDigits width n).length = width := by
  induction width generalizing n with
  | zero => rfl
  | succ width ih => simp [hexDigits, ih]

/-- An unprintable character by its code point. -/
def escapeCodePoint (c : Char) : List Char :=
  let point := c.toNat
  if point < 0x100 then '\\' :: 'x' :: hexDigits 2 point
  else if point < 0x10000 then '\\' :: 'u' :: hexDigits 4 point
  else '\\' :: 'U' :: hexDigits 8 point

/-- The quote that a text is put between. -/
def quoteMark (text : List Char) : Char :=
  if '\'' ∈ text ∧ '"' ∉ text then '"' else '\''

/-- A character as it stands between quotes `mark`. -/
def escapeChar (mark c : Char) : List Char :=
  if c = mark ∨ c = '\\' then ['\\', c]
  else if c = '\n' then ['\\', 'n']
  else if c = '\r' then ['\\', 'r']
  else if c = '\t' then ['\\', 't']
  else if isPrintable c then [c]
  else escapeCodePoint c

/-- A text between quotes. -/
def quoted (text : List Char) : List Char :=
  let mark := quoteMark text
  mark :: (text.flatMap (escapeChar mark) ++ [mark])

/-- A string between quotes. -/
def quotedString (text : String) : String := String.ofList (quoted text.toList)

end PascalFront.Text
