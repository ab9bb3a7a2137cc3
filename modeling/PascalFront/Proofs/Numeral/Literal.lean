import Mathlib.Data.List.TakeWhile
import PascalFront.Numeral.Literal
import PascalFront.Proofs.Token.Lexeme
/-!
# Which numerals have a value

A lexer writes numbers with digits and at most one point between two of them. Such a
numeral denotes a number unless it has no point and more digits than an integer may have
(`Number.isSome_ofLiteral?`).
-/

namespace PascalFront.Number

open Text

variable {text : List Char} {c : Char}

/-- A digit or the point. -/
def IsNumeral (c : Char) : Prop := isDigit c = true ∨ c = '.'

/-- The characters of a numeral are of ASCII, and none of them is a blank, a sign or an
underscore. -/
theorem IsNumeral.spec (h : IsNumeral c) :
    toAscii c = c ∧ isPadding c = false ∧ c ≠ '-' ∧ c ≠ '+' ∧ c ≠ '_' := by
  have digits : ∀ n < 58, 48 ≤ n → toAscii (.ofNat n) = .ofNat n ∧ isPadding (.ofNat n) = false ∧
      Char.ofNat n ≠ '-' ∧ Char.ofNat n ≠ '+' ∧ Char.ofNat n ≠ '_' := by decide
  rcases h with digit | rfl
  · obtain ⟨low, high⟩ : '0' ≤ c ∧ c ≤ '9' := by simpa [isDigit] using digit
    have named := digits c.toNat (Nat.lt_succ_of_le high) low
    rwa [Char.ofNat_toNat] at named
  · decide

/-- There is nothing around a numeral. -/
theorem trimmed_of_isNumeral (numeral : ∀ c ∈ text, IsNumeral c) : trimmed text = text := by
  have same : text.map toAscii = text := by
    simpa using List.map_congr_left fun c listed => (numeral c listed).spec.1
  have stays (others : List Char) (numeral : ∀ c ∈ others, IsNumeral c) :
      others.dropWhile isPadding = others := by
    cases others with
    | nil => rfl
    | cons c others => simp [(numeral c List.mem_cons_self).spec.2.1]
  rw [trimmed, same, stays text numeral, stays text.reverse (by simpa using numeral),
    List.reverse_reverse]

/-- What does not begin with a sign has none. -/
theorem takeSign_of_head (unsigned : ∀ c ∈ text.head?, c ≠ '-' ∧ c ≠ '+') :
    takeSign text = (false, text) := by
  unfold takeSign
  split
  · exact absurd rfl (unsigned '-' rfl).1
  · exact absurd rfl (unsigned '+' rfl).2
  · rfl

/-- A numeral has no sign. -/
theorem takeSign_of_isNumeral (numeral : ∀ c ∈ text, IsNumeral c) :
    takeSign text = (false, text) := by
  refine takeSign_of_head fun c first => ?_
  obtain ⟨-, -, minus, plus, -⟩ := (numeral c (List.mem_of_mem_head? first)).spec
  exact ⟨minus, plus⟩

/-- A numeral has no underscores. -/
theorem joinDigits?_of_isNumeral (numeral : ∀ c ∈ text, IsNumeral c) (afterDigit : Bool) :
    joinDigits? afterDigit text = some text := by
  induction text generalizing afterDigit with
  | nil => rfl
  | cons c others ih =>
    have other := (numeral c List.mem_cons_self).spec.2.2.2.2
    have behind := ih (fun d listed => numeral d (List.mem_cons_of_mem c listed)) (isDigit c)
    unfold joinDigits?
    split
    · rename_i none
      exact absurd none (List.cons_ne_nil c others)
    · rename_i same
      exact absurd (List.cons.inj same).1 other
    · rename_i same
      obtain ⟨rfl, rfl⟩ := List.cons.inj same
      rw [if_neg other, behind]
      rfl

/-- The digits before a point and those behind it are told apart, up to what is no digit. -/
theorem splitPoint_append {whole fraction : List Char} (digits : ∀ c ∈ whole, isDigit c = true)
    (digits' : ∀ c ∈ fraction, isDigit c = true) (rest : List Char) (ends : ∀ c ∈ rest.head?, isDigit c = false) :
    splitPoint (whole ++ '.' :: (fraction ++ rest)) = (whole, fraction, rest) := by
  have point : isDigit '.' = false := by decide
  have none : rest.takeWhile isDigit = [] ∧ rest.dropWhile isDigit = rest := by
    cases rest with
    | nil => exact ⟨rfl, rfl⟩
    | cons c rest => simp [ends c rfl]
  unfold splitPoint
  rw [List.takeWhile_append_of_pos digits, List.dropWhile_append_of_pos digits]
  simp [point, List.takeWhile_append_of_pos digits', List.dropWhile_append_of_pos digits', none]

/-- **A row of digits denotes an integer** unless there are too many of them. -/
theorem isSome_integer? (digits : IsDigits text) (short : text.length ≤ maxDigits) :
    (integer? text).isSome := by
  have numeral : ∀ c ∈ text, IsNumeral c := fun c listed => .inl (digits.2 c listed)
  have fits : (text.isEmpty || !text.all isDigit || decide (maxDigits < text.length)) = false := by
    simpa [digits.1, Nat.not_lt.2 short] using digits.2
  rw [integer?, trimmed_of_isNumeral numeral, takeSign_of_isNumeral numeral]
  simp only [joinDigits?_of_isNumeral numeral, Option.bind_eq_bind, Option.bind_some, fits]
  rfl

/-- **Digits with a point between them denote a real number.** -/
theorem isSome_real? {whole fraction : List Char} (digits : IsDigits whole)
    (digits' : IsDigits fraction) : (real? (whole ++ '.' :: fraction)).isSome := by
  have numeral : ∀ c ∈ whole ++ '.' :: fraction, IsNumeral c := by
    intro c listed
    rcases List.mem_append.1 listed with front | behind
    · exact .inl (digits.2 c front)
    · exact (List.mem_cons.1 behind).elim .inr fun listed => .inl (digits'.2 c listed)
  have split : splitPoint (whole ++ '.' :: fraction) = (whole, fraction, []) := by
    simpa using splitPoint_append digits.2 digits'.2 [] (by simp)
  rw [real?, trimmed_of_isNumeral numeral]
  simp only [joinDigits?_of_isNumeral numeral, Option.bind_eq_bind, Option.bind_some,
    takeSign_of_isNumeral numeral, split, exponent?]
  simp [digits.1]

/-- **A numeral of a lexer denotes a number** if it has a point or no more digits than an
integer may have. -/
theorem isSome_ofLiteral? (denotes : Kind.number.Denotes text)
    (short : '.' ∉ text → text.length ≤ maxDigits) : (ofLiteral? text).isSome := by
  unfold ofLiteral?
  rcases denotes with digits | ⟨whole, fraction, rfl, digits, digits'⟩
  · have noPoint : '.' ∉ text := fun listed => absurd (digits.2 _ listed) (by decide)
    rw [if_neg noPoint, Option.isSome_map]
    exact isSome_integer? digits (short noPoint)
  · rw [if_pos (by simp), Option.isSome_map]
    exact isSome_real? digits digits'

end PascalFront.Number
