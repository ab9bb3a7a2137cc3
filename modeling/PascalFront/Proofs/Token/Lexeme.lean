import Mathlib.Data.List.TakeWhile
import PascalFront.Proofs.Text.Lowercase
import PascalFront.Token.Lexeme
/-!
# What a lexeme is

`Lexeme.read` decides by the first character and then takes characters as long
as it can. What it should find is described here by the result alone: which
texts a kind of token may have (`Kind.Denotes`), and which texts may not follow
such a token because it would have been longer (`Kind.Longest`).

That it finds this is `Lexeme.read_spec`.
-/

namespace PascalFront

open Text Lexeme

/-- A word: a letter or an underscore, and behind it letters, digits and
underscores. -/
def IsWord : List Char → Prop
  | [] => False
  | c :: rest => startsWord c = true ∧ ∀ d ∈ rest, continuesWord d = true

/-- A row of digits, at least one. -/
def IsDigits (text : List Char) : Prop := text ≠ [] ∧ ∀ c ∈ text, isDigit c = true

namespace Kind

/-- The operators and punctuation marks. -/
def marks : List (String × Kind) := [
  ("+", plus), ("-", minus), ("*", times), ("/", divide),
  ("=", equal), ("<>", notEqual), ("<", less), (">", greater),
  ("<=", lessEqual), (">=", greaterEqual), (":=", assign),
  (";", semicolon), (":", colon), (",", comma), (".", dot), ("(", openParen), (")", closeParen)]

/-- **Which values the tokens of a kind have.** A number is a row of digits, or
two with a point between them; a string literal may denote any text; an
identifier is a word whose lower-case form is no keyword. Every other kind is
that of a word whose lower-case form is the keyword of this kind, or that of the
mark itself. -/
def Denotes (kind : Kind) (value : List Char) : Prop :=
  match kind with
  | number => IsDigits value ∨
      ∃ whole fraction, value = whole ++ '.' :: fraction ∧ IsDigits whole ∧ IsDigits fraction
  | text => True
  | identifier => IsWord value ∧
      ∀ entry ∈ keywords, String.ofList (lowercase value) ≠ entry.1
  | kind => (IsWord value ∧ (String.ofList (lowercase value), kind) ∈ keywords) ∨
      (String.ofList value, kind) ∈ marks

/-- **What may follow a token that could not be longer.** A word is not followed
by a character that goes on with it, a number not by a digit and, if it has no
point yet, not by a point and a digit, a string literal not by a quote, and a
mark not by the character that would make another mark or a comment of it. -/
def Longest (kind : Kind) (value rest : List Char) : Prop :=
  match kind with
  | number => (∀ c ∈ rest.head?, isDigit c = false) ∧
      ('.' ∉ value → ∀ c more, rest = '.' :: c :: more → isDigit c = false)
  | text => rest.head? ≠ some '\''
  | less => rest.head? ≠ some '>' ∧ rest.head? ≠ some '='
  | greater | colon => rest.head? ≠ some '='
  | openParen => rest.head? ≠ some '*'
  | _ => IsWord value → ∀ c ∈ rest.head?, continuesWord c = false

/-- No token that takes text is the end of the input. -/
theorem Denotes.ne_endOfInput {kind : Kind} {value : List Char} (h : kind.Denotes value) :
    kind ≠ endOfInput := by
  rintro rfl
  rcases h with ⟨-, listed⟩ | listed
  · simp [keywords] at listed
  · simp [marks] at listed

/-- A keyword or mark denotes what the tables say of it. -/
theorem denotes_of_listed {kind : Kind} {value : List Char}
    (listed : (IsWord value ∧ (String.ofList (lowercase value), kind) ∈ keywords) ∨
      (String.ofList value, kind) ∈ marks) : kind.Denotes value := by
  cases kind
  case number | text | identifier =>
    exfalso
    rcases listed with ⟨-, listed⟩ | listed
    · simp [keywords] at listed
    · simp [marks] at listed
  all_goals exact listed

/-- **A word has the kind that its lower-case form denotes.** -/
theorem denotes_ofWord {word : List Char} (isWord : IsWord word) : (ofWord word).Denotes word := by
  unfold ofWord
  cases found : keywords.lookup (lowered word) with
  | none =>
    refine ⟨isWord, fun entry listed same => ?_⟩
    have := (lowercase_eq_keyword_iff listed word).1 same
    rw [List.lookup_eq_none_iff] at found
    simpa [this] using found entry listed
  | some kind =>
    obtain ⟨before, behind, split, -⟩ := List.lookup_eq_some_iff.1 found
    have listed : (lowered word, kind) ∈ keywords := by
      rw [split]
      simp
    have same := (lowercase_eq_keyword_iff listed word).2 rfl
    refine denotes_of_listed (.inl ⟨isWord, ?_⟩)
    rwa [same]

/-- A word is an identifier or a keyword. -/
theorem ofWord_mem (word : List Char) : ofWord word ∈ identifier :: keywords.map Prod.snd := by
  unfold ofWord
  cases found : keywords.lookup (lowered word) with
  | none => exact List.mem_cons_self
  | some kind =>
    obtain ⟨before, behind, split, -⟩ := List.lookup_eq_some_iff.1 found
    rw [split]
    simp

/-- A word is as long as can be where no character goes on with it. -/
theorem longest_ofWord {word rest : List Char}
    (stops : ∀ c ∈ rest.head?, continuesWord c = false) : (ofWord word).Longest word rest := by
  have wordKind := ofWord_mem word
  generalize ofWord word = kind at wordKind
  cases kind
  case number | text | less | greater | colon | openParen => exact absurd wordKind (by decide)
  all_goals exact fun _ => stops

/-- The marks of one character are listed. -/
theorem mem_marks_of_mark {c : Char} {kind : Kind} (found : ofMark? c = some kind) :
    (String.ofList [c], kind) ∈ marks := by
  unfold ofMark? at found
  split at found <;> simp_all <;> (subst found; decide)

/-- The marks of two characters are listed. -/
theorem mem_marks_of_marks {c d : Char} {kind : Kind} (found : ofMarks? c d = some kind) :
    (String.ofList [c, d], kind) ∈ marks := by
  unfold ofMarks? at found
  split at found <;> simp_all <;> (subst found; decide)

/-- A mark of one character is as long as can be if it makes no other mark and
no comment with what follows. -/
theorem longest_of_mark {c : Char} {rest : List Char} {kind : Kind} (notWord : startsWord c = false)
    (found : ofMark? c = some kind) (alone : ∀ d ∈ rest.head?, ofMarks? c d = none)
    (noComment : c = '(' → rest.head? ≠ some '*') : kind.Longest [c] rest := by
  have other : IsWord [c] → ∀ d ∈ rest.head?, continuesWord d = false :=
    fun isWord => absurd isWord.1 (by simp [notWord])
  have notBy (d : Char) (pair : (ofMarks? c d).isSome) : rest.head? ≠ some d := by
    intro next
    rw [alone d next] at pair
    exact absurd pair (by decide)
  unfold ofMark? at found
  split at found
  case h_6 => obtain rfl := Option.some.inj found; exact ⟨notBy '>' rfl, notBy '=' rfl⟩
  case h_7 => obtain rfl := Option.some.inj found; exact notBy '=' rfl
  case h_9 => obtain rfl := Option.some.inj found; exact notBy '=' rfl
  case h_12 => obtain rfl := Option.some.inj found; exact noComment rfl
  case h_14 => exact absurd found (by simp)
  all_goals obtain rfl := Option.some.inj found; exact other

/-- A mark of two characters is as long as can be. -/
theorem longest_of_marks {c d : Char} {rest : List Char} {kind : Kind}
    (notWord : startsWord c = false) (found : ofMarks? c d = some kind) :
    kind.Longest [c, d] rest := by
  have other : IsWord [c, d] → ∀ e ∈ rest.head?, continuesWord e = false :=
    fun isWord => absurd isWord.1 (by simp [notWord])
  unfold ofMarks? at found
  split at found
  case h_5 => exact absurd found (by simp)
  all_goals obtain rfl := Option.some.inj found; exact other

end Kind

namespace Lexeme

/-- Nothing that goes on stands behind all that goes on. -/
theorem head?_dropWhile_false (p : Char → Bool) (text : List Char) :
    ∀ c ∈ (text.dropWhile p).head?, p c = false := by
  intro c next
  have := List.head?_dropWhile_not p text
  rwa [next] at this

/-- A digit and the digits behind it are a row of digits. -/
theorem isDigits_cons {c : Char} (digit : isDigit c = true) (rest : List Char) :
    IsDigits (c :: rest.takeWhile isDigit) :=
  ⟨List.cons_ne_nil _ _, List.forall_mem_cons.2 ⟨digit, fun _ => List.mem_takeWhile_imp⟩⟩

/-- **A number** has the value of one and is as long as can be. -/
theorem number_spec {c : Char} (digit : isDigit c = true) (rest : List Char) :
    Kind.number.Denotes (number c rest).value ∧
      Kind.number.Longest (number c rest).value (number c rest).rest := by
  have behind := head?_dropWhile_false isDigit rest
  unfold number
  split
  · rename_i d more point
    split
    · rename_i fraction
      refine ⟨.inr ⟨_, _, rfl, isDigits_cons digit rest, isDigits_cons fraction more⟩,
        head?_dropWhile_false isDigit more, fun noPoint => absurd ?_ noPoint⟩
      simp
    · rename_i noFraction
      refine ⟨.inl (isDigits_cons digit rest), ?_, fun _ e other same => ?_⟩
      · rwa [point] at behind
      · obtain ⟨-, same⟩ := List.cons.inj same
        obtain ⟨rfl, -⟩ := List.cons.inj same
        exact Bool.eq_false_iff.2 noFraction
  · rename_i noPoint
    exact ⟨.inl (isDigits_cons digit rest), behind, fun _ d more same => absurd same (noPoint d more)⟩

/-- No quote stands behind the quote that closes a string literal. -/
theorem head?_content {rest value more : List Char} (h : content? rest = some (value, more)) :
    more.head? ≠ some '\'' := by
  fun_induction content? rest generalizing value more with
  | case1 => simp at h
  | case2 rest ih | case4 c rest _ _ ih =>
    obtain ⟨⟨value', more'⟩, inner, same⟩ := Option.map_eq_some_iff.1 h
    obtain ⟨-, rfl⟩ := Prod.mk.inj same
    exact ih inner
  | case3 rest single =>
    obtain ⟨-, rfl⟩ := Prod.mk.inj (Option.some.inj h)
    intro quote
    obtain ⟨tail, rfl⟩ := List.head?_eq_some_iff.1 quote
    exact single tail rfl rfl

/-- A letter or underscore starts a word. -/
theorem isWord_word {c : Char} (starts : startsWord c = true) (rest : List Char) :
    IsWord (word c rest).value :=
  ⟨starts, fun _ => List.mem_takeWhile_imp⟩

/-- **A mark** is listed and as long as can be. -/
theorem mark_spec {c : Char} {rest : List Char} {l : Lexeme} (notWord : startsWord c = false)
    (noComment : c = '(' → rest.head? ≠ some '*') (found : mark? c rest = some l) :
    l.kind.Denotes l.value ∧ l.kind.Longest l.value l.rest := by
  have single (alone : ∀ d ∈ rest.head?, Kind.ofMarks? c d = none)
      (found : (Kind.ofMark? c).map (fun kind => (⟨kind, [c], rest⟩ : Lexeme)) = some l) :
      l.kind.Denotes l.value ∧ l.kind.Longest l.value l.rest := by
    obtain ⟨kind, mark, rfl⟩ := Option.map_eq_some_iff.1 found
    exact ⟨Kind.denotes_of_listed (.inr (Kind.mem_marks_of_mark mark)),
      Kind.longest_of_mark notWord mark alone noComment⟩
  unfold mark? at found
  split at found
  · exact single (by simp) found
  · split at found
    · rename_i d more kind pair
      obtain rfl := Option.some.inj found
      exact ⟨Kind.denotes_of_listed (.inr (Kind.mem_marks_of_marks pair)),
        Kind.longest_of_marks notWord pair⟩
    · rename_i d more alone
      exact single (by simpa using alone) found

/-- **A lexeme has the kind that its text denotes, and could not be longer**,
provided that no comment starts where it was read. -/
theorem read_spec {c : Char} {rest : List Char} {l : Lexeme} (h : read c rest = .ok l)
    (noComment : c = '(' → rest.head? ≠ some '*') :
    l.kind.Denotes l.value ∧ l.kind.Longest l.value l.rest := by
  unfold read at h
  split at h
  · rename_i digit
    obtain rfl := Except.ok.inj h
    have kind : (number c rest).kind = .number := by
      unfold number
      split
      · split <;> rfl
      · rfl
    rw [kind]
    exact number_spec digit rest
  · split at h
    · split at h
      · rename_i value more content
        obtain rfl := Except.ok.inj h
        exact ⟨trivial, head?_content content⟩
      · exact absurd h (by simp)
    · split at h
      · rename_i starts
        obtain rfl := Except.ok.inj h
        exact ⟨Kind.denotes_ofWord (isWord_word starts rest),
          Kind.longest_ofWord (head?_dropWhile_false continuesWord rest)⟩
      · rename_i notWord
        split at h
        · rename_i lexeme mark
          obtain rfl := Except.ok.inj h
          exact mark_spec (Bool.eq_false_iff.2 notWord) noComment mark
        · exact absurd h (by simp)

end Lexeme

end PascalFront
