import PascalFront.Token.Layout
import PascalFront.Token.Lexeme
/-!
# Reading tokens

A token is read by passing over the layout before it and taking the lexeme
there. At the end of the text the token is the end of the input, and it stays
that. A character that starts no token is not passed over, so that reading
again finds the same fault; a string literal that is not closed uses up the
text, so that the end of the input follows.

Since every other token takes at least one character, reading all tokens of a
text ends.
-/

namespace PascalFront

/-- **The tokens of a text** up to the end of the input or the first fault. -/
structure Reading where
  /-- The tokens; the last is the end of the input unless there is a fault. -/
  tokens : List Token
  /-- What ended the reading early. -/
  fault : Option Fault
  /-- Where the reading stopped. -/
  cursor : Cursor
  deriving DecidableEq, Repr

namespace Cursor

/-- The place behind blanks and comments. -/
def skipLayout (c : Cursor) : Cursor := Layout.outside.skip c.position c.rest

/-- Passing over layout adds no text. -/
theorem length_skipLayout_le (c : Cursor) : c.skipLayout.rest.length ≤ c.rest.length :=
  Layout.length_skip_le ..

/-- The token with a lexeme's kind and value that starts at a position. -/
def tokenOf (l : Lexeme) (start : Position) : Token :=
  ⟨l.kind, String.ofList l.value, some start, some (start.afterAll l.spelling)⟩

/-- Where reading goes on after a lexical cause: behind the text if a string
literal runs that far, and otherwise at the same character. -/
def afterFailure (c : Cursor) : LexicalCause → Cursor
  | .unterminated => c.atEnd
  | _ => c

/-- The token at a place without layout, or the fault there, and the place
behind it. -/
def take (c : Cursor) : Except Fault Token × Cursor :=
  match c.rest with
  | [] => (.ok (.endAt (some c.position)), c)
  | first :: rest =>
    match Lexeme.read first rest with
    | .ok l => (.ok (tokenOf l c.position), ⟨l.rest, c.position.afterAll l.spelling⟩)
    | .error cause =>
      (.error (.lexical cause (String.singleton first) c.position), c.afterFailure cause)

/-- At the end of the text there is only that end. -/
theorem take_of_nil {c : Cursor} (text : c.rest = []) :
    c.take = (.ok (.endAt (some c.position)), c) := by
  rw [take, text]

/-- Where a lexeme starts it is taken. -/
theorem take_of_lexeme {c : Cursor} {first : Char} {rest : List Char} {l : Lexeme}
    (text : c.rest = first :: rest) (found : Lexeme.read first rest = .ok l) :
    c.take = (.ok (tokenOf l c.position), ⟨l.rest, c.position.afterAll l.spelling⟩) := by
  simp only [take, text, found]

/-- Where no lexeme starts there is a fault. -/
theorem take_of_cause {c : Cursor} {first : Char} {rest : List Char} {cause : LexicalCause}
    (text : c.rest = first :: rest) (found : Lexeme.read first rest = .error cause) :
    c.take = (.error (.lexical cause (String.singleton first) c.position),
      c.afterFailure cause) := by
  simp only [take, text, found]

/-- **Reads the next token**, or the fault at it. -/
def next (c : Cursor) : Except Fault Token × Cursor := c.skipLayout.take

/-- A fault in place of a token is lexical, and its cause decides where the reading
stops. -/
theorem exists_cause {c after : Cursor} {fault : Fault} (read : c.next = (.error fault, after)) :
    ∃ cause found p, fault = .lexical cause found p ∧ after = c.skipLayout.afterFailure cause := by
  unfold next at read
  rcases split : c.skipLayout.rest with - | ⟨first, rest⟩
  · rw [take_of_nil split] at read
    exact absurd (Prod.mk.inj read).1 (by simp)
  · cases met : Lexeme.read first rest with
    | ok l =>
      rw [take_of_lexeme split met] at read
      exact absurd (Prod.mk.inj read).1 (by simp)
    | error cause =>
      rw [take_of_cause split met] at read
      obtain ⟨same, rfl⟩ := Prod.mk.inj read
      exact ⟨cause, _, _, (Except.error.inj same).symm, rfl⟩

/-- A token other than the end of the input takes text. -/
theorem length_rest_take_lt {c after : Cursor} {t : Token} (h : c.take = (.ok t, after))
    (notEnd : t.isEnd = false) : after.rest.length < c.rest.length := by
  unfold take at h
  split at h
  · obtain rfl := Except.ok.inj (Prod.mk.inj h).1
    simp at notEnd
  · rename_i first rest text
    split at h
    · rename_i l found
      obtain ⟨_, rfl⟩ := Prod.mk.inj h
      rw [text]
      exact Lexeme.length_rest_lt found
    · simp at h

/-- A token other than the end of the input takes text. -/
theorem length_rest_lt {c after : Cursor} {t : Token} (h : c.next = (.ok t, after))
    (notEnd : t.isEnd = false) : after.rest.length < c.rest.length :=
  Nat.lt_of_lt_of_le (length_rest_take_lt h notEnd) c.length_skipLayout_le

/-- **Reads all tokens.** -/
def readAll (c : Cursor) : Reading :=
  match read : c.next with
  | (.error fault, after) => ⟨[], some fault, after⟩
  | (.ok t, after) =>
    if h : t.isEnd then ⟨[t], none, after⟩
    else
      have : after.rest.length < c.rest.length := length_rest_lt read (by simpa using h)
      let others := after.readAll
      ⟨t :: others.tokens, others.fault, others.cursor⟩
termination_by c.rest.length

/-- A fault ends the reading. -/
theorem readAll_of_error {c after : Cursor} {fault : Fault} (read : c.next = (.error fault, after)) :
    c.readAll = ⟨[], some fault, after⟩ := by
  rw [readAll]
  split <;> simp_all

/-- The end of the input ends the reading. -/
theorem readAll_of_end {c after : Cursor} {t : Token} (read : c.next = (.ok t, after))
    (last : t.isEnd) : c.readAll = ⟨[t], none, after⟩ := by
  rw [readAll]
  split <;> simp_all

/-- Any other token is followed by what is read behind it. -/
theorem readAll_of_more {c after : Cursor} {t : Token} (read : c.next = (.ok t, after))
    (notLast : ¬ t.isEnd) :
    c.readAll = ⟨t :: after.readAll.tokens, after.readAll.fault, after.readAll.cursor⟩ := by
  rw [readAll]
  split <;> simp_all

end Cursor

end PascalFront
