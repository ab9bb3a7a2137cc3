import PascalFront.Numeral.Literal
import PascalFront.Toml.Reader
import PascalFront.Toml.Value
/-!
# Texts, numbers and dates of settings files

Texts stand between quotes. Between double quotes a backslash starts an escape,
between single quotes everything stands for itself; three quotes open a text
that may have several lines, and up to two more quotes directly before the
closing three belong to it.

Of a number the longest stretch in the format is taken, underscores between its
digits set aside. What is left over then does not fit what has to follow a
value.
-/

namespace PascalFront.Toml

open Reader

/-! ## Texts -/

/-- The value of a hexadecimal digit. -/
def hexValue? (c : Char) : Option Nat :=
  if c.isDigit then some (c.toNat - '0'.toNat)
  else if 'a' ≤ c && c ≤ 'f' then some (c.toNat - 'a'.toNat + 10)
  else if 'A' ≤ c && c ≤ 'F' then some (c.toNat - 'A'.toNat + 10)
  else none

/-- The number that hexadecimal digits denote. -/
def hexNumber? (digits : List Char) : Option Nat :=
  digits.foldlM (fun value c => (hexValue? c).map (16 * value + ·)) 0

/-- The character with a code point of `count` hexadecimal digits. -/
def codePoint (count : Nat) : Reader Char := do
  let digits := (← get).take count
  drop count
  match hexNumber? digits with
  | none => malformed
  | some point =>
    if digits.length = count ∧ point.isValidChar then return Char.ofNat point else malformed

/-- What an escape of one letter stands for. -/
def simpleEscape? : Char → Option Char
  | 'b' => some '\x08'
  | 't' => some '\t'
  | 'n' => some '\n'
  | 'f' => some '\x0c'
  | 'r' => some '\r'
  | '"' => some '"'
  | '\\' => some '\\'
  | _ => none

/-- What an escape stands for, behind its backslash. In a text of several lines
a backslash at the end of a line stands for nothing, and takes the blanks behind
it along. -/
def escape (multiline : Bool) : Reader (List Char) := do
  match ← next? with
  | none => malformed
  | some c =>
    if multiline && isAnyBlank c then
      if c ≠ '\n' then
        skipBlanks
        match ← next? with
        | none => return []
        | some d => if d ≠ '\n' then malformed
      skipWhile isAnyBlank
      return []
    else if c = 'u' then return [← codePoint 4]
    else if c = 'U' then return [← codePoint 8]
    else
      match simpleEscape? c with
      | some d => return [d]
      | none => malformed

/-- A text between double quotes, behind the opening ones. -/
def basicText (multiline : Bool) : Reader (List Char) :=
  loop (fun reversed => do
    match ← next? with
    | none => malformed
    | some '"' => do
      if !multiline then return .inr reversed.reverse
      if ← accept "\"\"" then return .inr reversed.reverse
      return .inl ('"' :: reversed)
    | some '\\' => do return .inl ((← escape multiline).reverse ++ reversed)
    | some c =>
      if isControl c && !(multiline && c = '\n') then malformed
      return .inl (c :: reversed)) []

/-- A text between single quotes, behind the opening ones. -/
def literalText (multiline : Bool) : Reader (List Char) :=
  loop (fun reversed => do
    match ← next? with
    | none => malformed
    | some '\'' => do
      if !multiline then return .inr reversed.reverse
      if ← accept "''" then return .inr reversed.reverse
      return .inl ('\'' :: reversed)
    | some c =>
      if isControl c && !(multiline && c = '\n') then malformed
      return .inl (c :: reversed)) []

/-- Up to two quotes that still belong to a text of several lines. -/
def extraQuotes (mark : Char) : Reader (List Char) := do
  let quotes := ((← get).takeWhile (· = mark)).take 2
  drop quotes.length
  return quotes

/-- A text of several lines, behind the opening quotes. -/
def multilineText (mark : Char) (content : Bool → Reader (List Char)) : Reader (List Char) := do
  let _ ← accept "\n"
  let value ← content true
  return value ++ (← extraQuotes mark)

/-- A text between double quotes. -/
def doubleQuoted : Reader (List Char) := do
  if ← accept "\"\"\"" then multilineText '"' basicText
  else do
    expect "\""
    basicText false

/-- A text between single quotes. -/
def singleQuoted : Reader (List Char) := do
  if ← accept "'''" then multilineText '\'' literalText
  else do
    expect "'"
    literalText false

/-! ## Numbers -/

/-- Digits with single underscores between them, without the underscores, and
what follows. -/
def digitRun (isDigit : Char → Bool) : List Char → List Char × List Char
  | [] => ([], [])
  | '_' :: c :: rest =>
    if isDigit c then
      let (digits, rest) := digitRun isDigit rest
      (c :: digits, rest)
    else ([], '_' :: c :: rest)
  | c :: rest =>
    if isDigit c then
      let (digits, rest) := digitRun isDigit rest
      (c :: digits, rest)
    else ([], c :: rest)

/-- Digits, the first of which is not preceded by an underscore. -/
def digits? (isDigit : Char → Bool) : List Char → Option (List Char × List Char)
  | [] => none
  | c :: rest => if isDigit c then some (digitRun isDigit (c :: rest)) else none

/-- An integer in the base that its letter names. -/
def radixInteger? : List Char → Option (Int × List Char)
  | '0' :: letter :: rest => do
    let base ←
      match letter with
      | 'x' => some 16
      | 'o' => some 8
      | 'b' => some 2
      | _ => none
    let (digits, rest) ← digits? (fun c => (hexValue? c).any (· < base)) rest
    some (digits.foldl (fun value c => base * value + (hexValue? c).getD 0) 0, rest)
  | _ => none

/-- The digits before the point of a decimal number: a zero alone, or digits
that do not start with one. -/
def wholeDigits? : List Char → Option (List Char × List Char)
  | '0' :: rest => some (['0'], rest)
  | text => digits? Char.isDigit text

/-- The digits behind a point; none if no digit follows the point. -/
def fraction (text : List Char) : List Char × List Char :=
  match text with
  | '.' :: rest => (digits? Char.isDigit rest).getD ([], text)
  | _ => ([], text)

/-- An exponent of ten. -/
def exponent? : List Char → Option (Int × List Char)
  | [] => none
  | c :: rest => do
    if c ≠ 'e' ∧ c ≠ 'E' then none
    let (negative, rest) := Number.takeSign rest
    let (digits, rest) ← digits? Char.isDigit rest
    some (Number.signed negative (Number.digitsValue digits), rest)

/-- A decimal number. It is real if it has a fraction or an exponent. -/
def decimal? (text : List Char) : Option (Except Defect Value × List Char) := do
  let (negative, body) := Number.takeSign text
  let (whole, rest) ← wholeDigits? body
  let (behind, rest) := fraction rest
  let exponent := exponent? rest
  if behind.isEmpty && exponent.isNone then
    some (if Number.maxDigits < whole.length then .error .integerTooLong
      else .ok (.integer (Number.signed negative (Number.digitsValue whole))), rest)
  else
    let (power, rest) := exponent.getD (0, rest)
    let digits := whole ++ behind
    some (.ok (.real (.ofDecimal negative (Number.digitsValue digits) digits.length
      (power - behind.length))), rest)

/-- An infinity or what is no number. -/
def special? (text : List Char) : Option (Value × List Char) :=
  let (negative, body) := Number.takeSign text
  match body with
  | 'i' :: 'n' :: 'f' :: rest => some (.real (.infinite negative), rest)
  | 'n' :: 'a' :: 'n' :: rest => some (.real .nan, rest)
  | _ => none

/-! ## Dates and times -/

/-- A number of exactly `count` digits between two bounds. -/
def fixedNumber? (count low high : Nat) (text : List Char) : Option (Nat × List Char) :=
  let digits := text.take count
  if digits.length = count ∧ digits.all Char.isDigit then
    let value := Number.digitsValue digits
    if low ≤ value ∧ value ≤ high then some (value, text.drop count) else none
  else none

/-- The text behind a character. -/
def behind? (p : Char → Bool) : List Char → Option (List Char)
  | [] => none
  | c :: rest => if p c then some rest else none

/-- The number of days of a month. -/
def daysIn (year month : Nat) : Nat :=
  if month = 2 then
    if year % 4 = 0 ∧ (year % 100 ≠ 0 ∨ year % 400 = 0) then 29 else 28
  else if month ∈ [4, 6, 9, 11] then 30
  else 31

/-- Whether there is such a date, and the text behind it. -/
def date? (text : List Char) : Option (Bool × List Char) := do
  let (year, text) ← fixedNumber? 4 0 9999 text
  let (month, text) ← fixedNumber? 2 1 12 (← behind? (· = '-') text)
  let (day, text) ← fixedNumber? 2 1 31 (← behind? (· = '-') text)
  some (1 ≤ year && day ≤ daysIn year month, text)

/-- The text behind a time of day. Any fraction of a second belongs to it. -/
def afterTime? (text : List Char) : Option (List Char) := do
  let (_, text) ← fixedNumber? 2 0 23 text
  let (_, text) ← fixedNumber? 2 0 59 (← behind? (· = ':') text)
  let (_, text) ← fixedNumber? 2 0 59 (← behind? (· = ':') text)
  match text with
  | '.' :: d :: rest =>
    some (if d.isDigit then rest.dropWhile Char.isDigit else text)
  | _ => some text

/-- The text behind an offset from universal time, if there is one. -/
def afterOffset (text : List Char) : List Char :=
  match text with
  | [] => []
  | c :: rest =>
    if c = 'Z' ∨ c = 'z' then rest
    else if c = '+' ∨ c = '-' then
      (do
        let (_, rest) ← fixedNumber? 2 0 23 rest
        let (_, rest) ← fixedNumber? 2 0 59 (← behind? (· = ':') rest)
        some rest : Option (List Char)).getD text
    else text

/-- The text behind a time of day with its offset that follows a date, if there
is one. -/
def afterDate (text : List Char) : List Char :=
  ((behind? (fun c => c = 'T' || c = 't' || c = ' ') text).bind afterTime?).elim text afterOffset

/-- A date, a time or both; refused if there is no such date. -/
def moment? (text : List Char) : Option (Except Defect Value × List Char) :=
  let written (rest : List Char) : Value :=
    .moment (String.ofList (text.take (text.length - rest.length)))
  match date? text with
  | some (valid, rest) =>
    let rest := afterDate rest
    some (if valid then .ok (written rest) else .error .malformed, rest)
  | none => (afterTime? text).map fun rest => (.ok (written rest), rest)

/-- A number, a date or a time. -/
def unquoted : Reader Value := do
  let ofResult (result : Except Defect Value) : Reader Value :=
    match result with
    | .ok value => return value
    | .error defect => throw defect
  if let some result ← attempt moment? then return ← ofResult result
  if let some value ← attempt radixInteger? then return .integer value
  if let some result ← attempt decimal? then return ← ofResult result
  if let some value ← attempt special? then return value
  malformed

end PascalFront.Toml
