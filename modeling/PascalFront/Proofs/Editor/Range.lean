import PascalFront.Editor.Range
import PascalFront.Proofs.Token.Place
/-!
# Places of a text in an editor

An editor counts the lines and characters before a place from zero. So the place of an offset
is the number of newlines before it, and the number of characters behind the last of these
(`Place.inText`). As long as a text has no more characters than the greatest number of an
editor, every span in it has a range (`Range.ofSpan?_inText`), and places are in the order of
their offsets (`Place.inText_mono`), also from one line to another.
-/

namespace PascalFront.Editor

namespace Place

/-- **One place is not behind another**: it is on an earlier line, or not further on in the
same one. -/
def NotAfter (a b : Place) : Prop := a.line < b.line ∨ a.line = b.line ∧ a.character ≤ b.character

/-- Both numbers of a place are numbers of an editor. -/
def InBounds (a : Place) : Prop := a.line ≤ maxCoordinate ∧ a.character ≤ maxCoordinate

variable {a b c : Place}

theorem NotAfter.refl (a : Place) : a.NotAfter a := .inr ⟨rfl, Nat.le_refl _⟩

theorem NotAfter.trans (first : a.NotAfter b) (second : b.NotAfter c) : a.NotAfter c := by
  unfold NotAfter at *
  omega

/-- **The place in a text behind its first `count` characters.** -/
def inText (text : List Char) (count : Nat) : Place where
  line := (text.take count).count '\n'
  character := ((text.take count).reverse.takeWhile (· ≠ '\n')).length

variable {text : List Char} {count first last : Nat}

/-- Neither number is greater than that of the characters before the place. -/
theorem inText_le (text : List Char) (count : Nat) :
    (inText text count).line ≤ count ∧ (inText text count).character ≤ count := by
  have taken : (text.take count).length ≤ count := List.length_take_le ..
  refine ⟨List.count_le_length.trans taken, ?_⟩
  refine (List.takeWhile_sublist _).length_le.trans ?_
  rwa [List.length_reverse]

/-- One character further on, the place moves behind that character. -/
theorem inText_succ {c : Char} (here : text[count]? = some c) :
    inText text (count + 1) =
      if c = '\n' then ⟨(inText text count).line + 1, 0⟩
      else ⟨(inText text count).line, (inText text count).character + 1⟩ := by
  have taken : text.take (count + 1) = text.take count ++ [c] := by
    rw [List.take_add_one, here]
    rfl
  by_cases newline : c = '\n'
  · rw [inText, taken, if_pos newline, newline]
    simp [inText]
  · rw [inText, taken, if_neg newline]
    simp [inText, newline]

/-- Behind the end of a text there is no other place. -/
theorem inText_succ_of_none (none_ : text[count]? = none) :
    inText text (count + 1) = inText text count := by
  have within := List.getElem?_eq_none_iff.1 none_
  rw [inText, inText, List.take_of_length_le within, List.take_of_length_le (by omega)]

/-- **Places are in the order of their offsets.** -/
theorem inText_mono (text : List Char) (ordered : first ≤ last) :
    (inText text first).NotAfter (inText text last) := by
  induction ordered with
  | refl => exact .refl _
  | @step last _ ih =>
    refine ih.trans ?_
    cases here : text[last]? with
    | none =>
      rw [inText_succ_of_none here]
      exact .refl _
    | some c =>
      rw [inText_succ here]
      split
      · exact .inl (Nat.lt_succ_self _)
      · exact .inr ⟨rfl, Nat.le_succ _⟩

/-- A number counted from one that an editor has. -/
theorem coordinate?_of_le (short : count ≤ maxCoordinate) :
    coordinate? (1 + (count : Int)) = some count := by
  unfold coordinate?
  rw [if_pos (by omega)]
  congr 1
  omega

/-- **The place of a position in a text** that is not too long. -/
theorem ofPosition?_inText (text : List Char) (short : count ≤ maxCoordinate) :
    ofPosition? (.inText text count) = some (inText text count) := by
  obtain ⟨line, character⟩ := inText_le text count
  have lineFound : coordinate? (Position.inText text count).line = some (inText text count).line :=
    coordinate?_of_le (line.trans short)
  have columnFound :
      coordinate? (Position.inText text count).column = some (inText text count).character :=
    coordinate?_of_le (character.trans short)
  rw [ofPosition?, lineFound, columnFound]
  rfl

/-- A number that an editor has is the number counted from zero. -/
theorem eq_of_coordinate? {n : Nat} (found : coordinate? (1 + (count : Int)) = some n) :
    n = count ∧ n ≤ maxCoordinate := by
  unfold coordinate? at found
  split at found
  · have := Option.some.inj found
    omega
  · exact absurd found (by simp)

/-- The place of a position in a text, if an editor has its numbers. -/
theorem eq_of_ofPosition? (found : ofPosition? (.inText text count) = some a) :
    a = inText text count ∧ a.InBounds := by
  obtain ⟨line, lineFound, found⟩ := Option.bind_eq_some_iff.1 found
  obtain ⟨character, characterFound, found⟩ := Option.bind_eq_some_iff.1 found
  obtain ⟨rfl, lineShort⟩ := eq_of_coordinate? lineFound
  obtain ⟨rfl, characterShort⟩ := eq_of_coordinate? characterFound
  obtain rfl := Option.some.inj found
  exact ⟨rfl, lineShort, characterShort⟩

/-- Its numbers are numbers of an editor. -/
theorem inBounds_inText (text : List Char) (short : count ≤ maxCoordinate) :
    (inText text count).InBounds := by
  obtain ⟨line, character⟩ := inText_le text count
  exact ⟨line.trans short, character.trans short⟩

end Place

namespace Range

/-- **A range is valid**: it does not end before it starts, and an editor has its numbers. -/
structure Valid (r : Range) : Prop where
  /-- The start is not behind the end. -/
  ordered : r.start.NotAfter r.stop
  /-- The numbers of the start. -/
  start : r.start.InBounds
  /-- The numbers of the end. -/
  stop : r.stop.InBounds

/-- **One range contains another.** -/
def Contains (r inner : Range) : Prop := r.start.NotAfter inner.start ∧ inner.stop.NotAfter r.stop

/-- **The range in a text** from one offset to another. -/
def inText (text : List Char) (first last : Nat) : Range := ⟨.inText text first, .inText text last⟩

variable {text : List Char} {first last first' last' : Nat}

/-- **The range of a span in a text** that is not too long. -/
theorem ofSpan?_inText (text : List Char) (ordered : first ≤ last)
    (short : last ≤ maxCoordinate) :
    ofSpan? ⟨.inText text first, .inText text last⟩ = some (inText text first last) := by
  have notZero : (Span.mk (.inText text first) (.inText text last)).isZero = false :=
    decide_eq_false fun zero => Position.inText_ne_zero text first (congrArg Span.start zero)
  rw [ofSpan?, notZero, Place.ofPosition?_inText text (ordered.trans short),
    Place.ofPosition?_inText text short]
  rfl

/-- It is valid. -/
theorem valid_inText (text : List Char) (ordered : first ≤ last) (short : last ≤ maxCoordinate) :
    (inText text first last).Valid :=
  ⟨Place.inText_mono text ordered, Place.inBounds_inText text (ordered.trans short),
    Place.inBounds_inText text short⟩

/-- The range of a span in a text, if an editor has its numbers. -/
theorem eq_of_ofSpan? {r : Range}
    (found : ofSpan? ⟨.inText text first, .inText text last⟩ = some r) :
    r = inText text first last ∧ r.start.InBounds ∧ r.stop.InBounds := by
  have notZero : (Span.mk (.inText text first) (.inText text last)).isZero = false :=
    decide_eq_false fun zero => Position.inText_ne_zero text first (congrArg Span.start zero)
  rw [ofSpan?, notZero] at found
  obtain ⟨start, startFound, found⟩ := Option.bind_eq_some_iff.1 found
  obtain ⟨stop, stopFound, found⟩ := Option.bind_eq_some_iff.1 found
  obtain rfl := Option.some.inj found
  obtain ⟨rfl, startBounds⟩ := Place.eq_of_ofPosition? startFound
  obtain ⟨rfl, stopBounds⟩ := Place.eq_of_ofPosition? stopFound
  exact ⟨rfl, startBounds, stopBounds⟩

/-- A range contains those between its offsets. -/
theorem contains_inText (text : List Char) (before : first ≤ first') (behind : last' ≤ last) :
    (inText text first last).Contains (inText text first' last') :=
  ⟨Place.inText_mono text before, Place.inText_mono text behind⟩

end Range

end PascalFront.Editor
