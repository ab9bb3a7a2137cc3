import Mathlib.Data.List.TakeWhile
import PascalFront.Token.Reader
/-!
# Places in a text

A cursor, a token or a fault carries positions that were counted up while the
text was read. What they should be is said here without any reading: the line
of a place is one more than the number of newlines before it, the column one
more than the number of characters behind the last of these, and the offset the
number of all characters before it.

`Position.inText_add` says that counting up gives just that. A cursor stands at
a place of the text if what it has still to read is the text from there on and
its position is that of the place; taking a piece off the front, passing over
layout and running to the end keep it in the text.
-/

namespace PascalFront

/-- **The position in a text behind its first `count` characters.** -/
def Position.inText (text : List Char) (count : Nat) : Position where
  line := 1 + (text.take count).count '\n'
  column := 1 + ((text.take count).reverse.takeWhile (· ≠ '\n')).length
  offset := count

namespace Position

/-- One character further on, the position moves behind that character. -/
theorem inText_succ {text : List Char} {count : Nat} {c : Char} (h : text[count]? = some c) :
    inText text (count + 1) = (inText text count).after c := by
  have taken : text.take (count + 1) = text.take count ++ [c] := by
    rw [List.take_add_one, h]
    rfl
  by_cases newline : c = '\n'
  · rw [inText, inText, taken, after, if_pos newline, newline]
    simp [Int.add_assoc]
  · rw [inText, inText, taken, after, if_neg newline]
    simp [newline, Int.add_comm]

/-- The position behind a piece of the text. -/
theorem inText_add {text : List Char} {count : Nat} {piece rest : List Char}
    (h : text.drop count = piece ++ rest) :
    inText text (count + piece.length) = (inText text count).afterAll piece := by
  induction piece generalizing count with
  | nil => rfl
  | cons c piece ih =>
    have here : text[count]? = some c := by
      rw [← List.head?_drop, h]
      rfl
    have behind : text.drop (count + 1) = piece ++ rest := by
      rw [← List.tail_drop, h]
      rfl
    rw [afterAll_cons, ← inText_succ here, ← ih behind, List.length_cons]
    congr 1
    omega

/-- Lines are counted from one, so no position in a text is zero. -/
theorem inText_ne_zero (text : List Char) (count : Nat) : inText text count ≠ .zero := by
  intro h
  have line : (1 : Int) + (text.take count).count '\n' = 0 := congrArg Position.line h
  omega

/-- A span between positions in a text runs from one to the other. -/
theorem between_inText (text : List Char) (first last : Nat) :
    Span.between (inText text first) (inText text last) =
      ⟨inText text first, inText text last⟩ := by
  rw [Span.between, if_neg]
  exact not_or.2 ⟨inText_ne_zero text first, inText_ne_zero text last⟩

end Position

variable {text : List Char}

/-- A token stands in a text: it begins and ends at positions of the text, in
this order. -/
def Token.StandsIn (text : List Char) (t : Token) : Prop :=
  ∃ first last, first ≤ last ∧ last ≤ text.length ∧
    t.start = some (.inText text first) ∧ t.stop = some (.inText text last)

/-- A fault stands in a text: it is a lexical one, it names the character at its
position, and its span runs from there to one character further on. -/
def Fault.StandsIn (text : List Char) (fault : Fault) : Prop :=
  ∃ cause place c, text[place]? = some c ∧
    fault = .lexical cause (String.singleton c) (.inText text place) ∧
    fault.place? = some ⟨.inText text place, .inText text (place + 1)⟩

namespace Cursor

/-- A cursor stands in a text behind the first `place` characters of it. -/
def StandsAt (text : List Char) (place : Nat) (c : Cursor) : Prop :=
  place ≤ text.length ∧ c.rest = text.drop place ∧ c.position = .inText text place

/-- Before the whole text. -/
theorem standsAt_ofText (text : String) : (ofText text).StandsAt text.toList 0 :=
  ⟨Nat.zero_le _, rfl, rfl⟩

/-- Taking a piece off the front moves the place behind that piece. -/
theorem StandsAt.behind {place : Nat} {c : Cursor} (h : c.StandsAt text place)
    {piece rest : List Char} (split : c.rest = piece ++ rest) :
    StandsAt text (place + piece.length) ⟨rest, c.position.afterAll piece⟩ := by
  obtain ⟨within, here, position⟩ := h
  rw [here] at split
  have lengths := congrArg List.length split
  rw [List.length_drop, List.length_append] at lengths
  refine ⟨by omega, ?_, ?_⟩
  · show rest = text.drop (place + piece.length)
    rw [← List.drop_drop, split, List.drop_left]
  · show c.position.afterAll piece = _
    rw [position, Position.inText_add split]

/-- Layout is passed over in the text. -/
theorem StandsAt.skipLayout {place : Nat} {c : Cursor} (h : c.StandsAt text place) :
    ∃ further, place ≤ further ∧ c.skipLayout.StandsAt text further := by
  obtain ⟨skipped, split, position⟩ := Layout.exists_skip .outside c.position c.rest
  refine ⟨place + skipped.length, by omega, ?_⟩
  have := h.behind split
  rwa [← position] at this

/-- The end of the text is a place in it. -/
theorem StandsAt.atEnd {place : Nat} {c : Cursor} (h : c.StandsAt text place) :
    c.atEnd.StandsAt text text.length := by
  have moved := h.behind (List.append_nil c.rest).symm
  obtain ⟨within, here, _⟩ := h
  have : place + c.rest.length = text.length := by
    rw [here, List.length_drop]
    omega
  rwa [this] at moved

/-- A cursor with nothing left to read stands at the end of the text. -/
theorem StandsAt.position_of_nil {place : Nat} {c : Cursor} (h : c.StandsAt text place) (exhausted : c.rest = []) :
    c.position = .inText text text.length := by
  obtain ⟨within, here, position⟩ := h
  rw [here, List.drop_eq_nil_iff] at exhausted
  rw [position, Nat.le_antisymm within exhausted]

end Cursor

end PascalFront
