import PascalFront.Fault
import PascalFront.Text.Digit
import PascalFront.Text.Letter
/-!
# Lexemes

A lexeme is a token without its place. Which one starts at a character is
decided by that character: a digit starts a number, a quote a string literal, a
letter or underscore a word, and anything else must be an operator or a
punctuation mark. Each lexeme is as long as it can be.

The spelling of a lexeme is the stretch of text that it was read from. Only a
string literal is spelled otherwise than its value: between quotes, and with
each quote in it written twice.
-/

namespace PascalFront

/-- **A token without its place**, and the text behind it. -/
structure Lexeme where
  /-- The kind of the token. -/
  kind : Kind
  /-- The text of the token, or the string that a string literal denotes. -/
  value : List Char
  /-- What follows. -/
  rest : List Char
  deriving DecidableEq, Repr

namespace Lexeme

open Text

/-- The content of a string literal as it stands between the quotes. -/
def doubleQuotes (value : List Char) : List Char :=
  value.flatMap fun c => if c = '\'' then ['\'', '\''] else [c]

/-- How a token is written in a text. -/
def spell (kind : Kind) (value : List Char) : List Char :=
  if kind = .text then '\'' :: (doubleQuotes value ++ ['\'']) else value

/-- The stretch of text that a lexeme was read from. -/
def spelling (l : Lexeme) : List Char := spell l.kind l.value

/-- Whether a word may start with a character. -/
def startsWord (c : Char) : Bool := isLetter c || c = '_'

/-- Whether a word may go on with a character. -/
def continuesWord (c : Char) : Bool := isLetter c || isDigit c || c = '_'

/-- The word that starts with `c`. -/
def word (c : Char) (rest : List Char) : Lexeme :=
  let value := c :: rest.takeWhile continuesWord
  ⟨.ofWord value, value, rest.dropWhile continuesWord⟩

/-- The number that starts with the digit `c`. A point belongs to it only if a
digit follows the point. -/
def number (c : Char) (rest : List Char) : Lexeme :=
  let whole := c :: rest.takeWhile isDigit
  match rest.dropWhile isDigit with
  | '.' :: d :: more =>
    if isDigit d then
      ⟨.number, whole ++ '.' :: d :: more.takeWhile isDigit, more.dropWhile isDigit⟩
    else ⟨.number, whole, '.' :: d :: more⟩
  | more => ⟨.number, whole, more⟩

/-- What a string literal denotes, read behind its opening quote, and the text
behind the closing one; `none` if there is no closing quote. -/
def content? : List Char → Option (List Char × List Char)
  | [] => none
  | '\'' :: '\'' :: rest => (content? rest).map fun (value, more) => ('\'' :: value, more)
  | c :: rest =>
    if c = '\'' then some ([], rest)
    else (content? rest).map fun (value, more) => (c :: value, more)

/-- The operator or punctuation mark that starts with `c`. -/
def mark? (c : Char) (rest : List Char) : Option Lexeme :=
  let single := (Kind.ofMark? c).map fun kind => ⟨kind, [c], rest⟩
  match rest with
  | [] => single
  | d :: more =>
    match Kind.ofMarks? c d with
    | some kind => some ⟨kind, [c, d], more⟩
    | none => single

/-- **The lexeme that starts with `c`**, or why there is none. -/
def read (c : Char) (rest : List Char) : Except LexicalCause Lexeme :=
  if isDigit c then .ok (number c rest)
  else if c = '\'' then
    match content? rest with
    | some (value, more) => .ok ⟨.text, value, more⟩
    | none => .error .unterminated
  else if startsWord c then .ok (word c rest)
  else
    match mark? c rest with
    | some lexeme => .ok lexeme
    | none => .error (.unexpected c)

/-! ## The spelling is what was read -/

/-- No keyword and no identifier is a string literal. -/
theorem ofWord_ne_text (value : List Char) : Kind.ofWord value ≠ .text := by
  unfold Kind.ofWord
  cases found : Kind.keywords.lookup (Kind.lowered value) with
  | none => decide
  | some kind =>
    have listed : kind ∈ Kind.keywords.map Prod.snd := by
      rw [List.lookup_eq_some_iff] at found
      obtain ⟨before, behind, split, _⟩ := found
      rw [split]
      simp
    intro same
    subst same
    revert listed
    decide

/-- A word is spelled as it was read. -/
theorem spelling_word (c : Char) (rest : List Char) :
    c :: rest = (word c rest).spelling ++ (word c rest).rest := by
  simp [word, spelling, spell, ofWord_ne_text]

/-- A number is spelled as it was read. -/
theorem spelling_number (c : Char) (rest : List Char) :
    c :: rest = (number c rest).spelling ++ (number c rest).rest := by
  have whole : rest = rest.takeWhile isDigit ++ rest.dropWhile isDigit :=
    (List.takeWhile_append_dropWhile).symm
  unfold number
  split
  · rename_i d more point
    rw [point] at whole
    split <;> simpa [spelling, spell] using whole
  · simp [spelling, spell]

/-- A string literal is spelled as it was read. -/
theorem spelling_content {rest value more : List Char} (h : content? rest = some (value, more)) :
    rest = doubleQuotes value ++ '\'' :: more := by
  fun_induction content? rest generalizing value more with
  | case1 => simp at h
  | case2 rest ih =>
    obtain ⟨⟨value', more'⟩, inner, same⟩ := Option.map_eq_some_iff.1 h
    obtain ⟨rfl, rfl⟩ := Prod.mk.inj same
    simp [doubleQuotes, ih inner]
  | case3 rest _ =>
    obtain ⟨rfl, rfl⟩ := Prod.mk.inj (Option.some.inj h)
    simp [doubleQuotes]
  | case4 c rest _ notQuote ih =>
    obtain ⟨⟨value', more'⟩, inner, same⟩ := Option.map_eq_some_iff.1 h
    obtain ⟨rfl, rfl⟩ := Prod.mk.inj same
    simp [doubleQuotes, notQuote, ih inner]

/-- An operator or punctuation mark is spelled as it was read. -/
theorem spelling_mark {c : Char} {rest : List Char} {l : Lexeme} (h : mark? c rest = some l) :
    c :: rest = l.spelling ++ l.rest ∧ l.spelling ≠ [] := by
  have single : ∀ kind, Kind.ofMark? c = some kind → kind ≠ .text := by
    intro kind found
    unfold Kind.ofMark? at found
    split at found <;> simp_all <;> (subst found; decide)
  unfold mark? at h
  split at h
  · obtain ⟨kind, found, rfl⟩ := Option.map_eq_some_iff.1 h
    simp [spelling, spell, single kind found]
  · rename_i d more
    split at h
    · rename_i kind found
      obtain rfl := Option.some.inj h
      have : kind ≠ .text := by
        unfold Kind.ofMarks? at found
        split at found <;> simp_all <;> (subst found; decide)
      simp [spelling, spell, this]
    · obtain ⟨kind, found, rfl⟩ := Option.map_eq_some_iff.1 h
      simp [spelling, spell, single kind found]

/-- **The spelling of a lexeme is the text it was read from**, and it is not
empty. -/
theorem spelling_read {c : Char} {rest : List Char} {l : Lexeme} (h : read c rest = .ok l) :
    c :: rest = l.spelling ++ l.rest ∧ l.spelling ≠ [] := by
  unfold read at h
  split at h
  · obtain rfl := Except.ok.inj h
    refine ⟨spelling_number c rest, ?_⟩
    unfold number
    split
    · split <;> simp [spelling, spell]
    · simp [spelling, spell]
  · split at h
    · rename_i quote
      split at h
      · rename_i value more found
        obtain rfl := Except.ok.inj h
        refine ⟨?_, by simp [spelling, spell]⟩
        simp [spelling, spell, quote, spelling_content found]
      · simp at h
    · split at h
      · obtain rfl := Except.ok.inj h
        exact ⟨spelling_word c rest, by simp [word, spelling, spell, ofWord_ne_text]⟩
      · split at h
        · rename_i lexeme found
          obtain rfl := Except.ok.inj h
          exact spelling_mark found
        · simp at h

/-- A lexeme takes at least one character. -/
theorem length_rest_lt {c : Char} {rest : List Char} {l : Lexeme} (h : read c rest = .ok l) :
    l.rest.length < (c :: rest).length := by
  obtain ⟨split, notEmpty⟩ := spelling_read h
  rw [split, List.length_append]
  have := List.length_pos_iff.2 notEmpty
  omega

end Lexeme

end PascalFront
