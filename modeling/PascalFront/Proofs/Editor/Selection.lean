import PascalFront.Proofs.Editor.Session
import PascalFront.Proofs.Text.Utf16
import PascalFront.Proofs.Token.Stretch
/-!
# What a range selects in an editor

An editor that is given a range finds its two places by the rule of its protocol: it counts line
ends of all three sorts, and along a line the code units of UTF-16. The places that are published
are counted by newlines and characters. So the range of a notice selects just what is wrong with
a text if, and only if, both ways of counting agree at its start and at its end
(`Notice.selects_iff`). They differ behind a carriage return that stands alone, and behind a
character of two code units on the same line (`Notice.not_selects_wide`).
-/

namespace PascalFront

open Text

namespace Editor

/-- The code units of a text before the place that an editor finds. -/
def Place.unitsIn (text : List Char) (p : Place) : Nat :=
  Utf16.unitsBefore text p.line p.character

namespace Place

variable {text : List Char} {count : Nat}

/-- **An editor finds a place of the text** just when both ways of counting agree on what stands
before it. -/
theorem unitsIn_inText (text : List Char) (count : Nat) :
    (inText text count).unitsIn text = (Utf16.encode (text.take count)).length ↔
      Utf16.CountedAlike (text.take count) := by
  have found := Utf16.unitsBefore_eq_iff (text.take count) (text.drop count)
  rw [List.take_append_drop] at found
  exact found

end Place

namespace Range

variable {text : List Char} {first last : Nat} {r : Range}

/-- **The code units that a range selects** in a text. -/
def selected (text : List Char) (r : Range) : List UInt16 :=
  ((Utf16.encode text).take (r.stop.unitsIn text)).drop (r.start.unitsIn text)

/-- **A range selects a piece of a text**: an editor finds its places at the start and the end of
the piece. -/
structure Selects (text : List Char) (first last : Nat) (r : Range) : Prop where
  /-- The start. -/
  start : r.start.unitsIn text = (Utf16.encode (text.take first)).length
  /-- The end. -/
  stop : r.stop.unitsIn text = (Utf16.encode (text.take last)).length

/-- Then just that piece is selected. -/
theorem Selects.selected_eq (h : r.Selects text first last) (ordered : first ≤ last) :
    r.selected text = Utf16.encode (text.extract first last) := by
  have front (place : Nat) : text.extract 0 place = text.take place := rfl
  have piece : text.take last = text.take first ++ text.extract first last := by
    rw [← front, ← front, extract_append text (Nat.zero_le first) ordered]
  have whole : Utf16.encode text =
      Utf16.encode (text.take last) ++ Utf16.encode (text.drop last) := by
    rw [← Utf16.encode_append, List.take_append_drop]
  rw [selected, h.start, h.stop, whole, List.take_left, piece, Utf16.encode_append, List.drop_left]

/-- **The range of a piece selects it** just when both ways of counting agree at its start and
its end. -/
theorem selects_inText (text : List Char) (first last : Nat) :
    (inText text first last).Selects text first last ↔
      Utf16.CountedAlike (text.take first) ∧ Utf16.CountedAlike (text.take last) := by
  rw [← Place.unitsIn_inText, ← Place.unitsIn_inText]
  exact ⟨fun ⟨start, stop⟩ => ⟨start, stop⟩, fun ⟨start, stop⟩ => ⟨start, stop⟩⟩

end Range

/-- What is published about a text that is refused, if anything is: one notice with the range of
its fault. -/
theorem Documents.open?_of_refused {docs docs' : Documents} {uri text : String} {fault : Fault}
    {notices : List Notice} (refused : Program.ofText text = .error fault)
    (opens : docs.open? uri text = some (docs', notices)) :
    ∃ notice, notices = [notice] ∧ Range.ofPlace? fault.place? = some notice.range := by
  obtain ⟨d, analysed, opens⟩ := Option.bind_eq_some_iff.1 opens
  obtain ⟨-, ⟨p, accepted, -⟩ | ⟨fault', notice, refused', told, -, -, notices_⟩⟩ :=
    Document.of_analyse? analysed
  · exact absurd (refused.symm.trans accepted) (by simp)
  · obtain rfl := Except.error.inj (refused.symm.trans refused')
    obtain ⟨range, found, told⟩ := Option.bind_eq_some_iff.1 told
    obtain ⟨-, rfl⟩ := Prod.mk.inj (Option.some.inj opens)
    exact ⟨notice, notices_, by rw [found, ← Option.some.inj told]⟩

namespace Notice

/-- **The range of a notice selects what is wrong with the text** just when both ways of counting
agree at its start and its end; what is selected then is the piece of the text that is the token
or the character, or nothing at the end. A text that is not too long has such a notice. -/
theorem selects_iff (docs : Documents) (uri text : String) (fault : Fault)
    (refused : Program.ofText text = .error fault) :
    ∃ first last, Offends text fault first last ∧
      (text.length ≤ maxCoordinate →
        ∃ docs' notice, docs.open? uri text = some (docs', [notice])) ∧
      ∀ docs' notices, docs.open? uri text = some (docs', notices) →
        ∃ notice, notices = [notice] ∧
          (notice.range.Selects text.toList first last ↔
            Utf16.CountedAlike (text.toList.take first) ∧
              Utf16.CountedAlike (text.toList.take last)) ∧
          (notice.range.Selects text.toList first last →
            notice.range.selected text.toList =
              Utf16.encode (text.toList.extract first last)) := by
  obtain ⟨first, last, offends⟩ := exists_offends refused
  refine ⟨first, last, offends, fun short => ?_, fun docs' notices opens => ?_⟩
  · rcases docs.open?_spec uri short with ⟨p, -, accepted, -⟩ | ⟨_, docs', notice, -, opens, -⟩
    · exact absurd (refused.symm.trans accepted) (by simp)
    · exact ⟨docs', notice, opens⟩
  · obtain ⟨notice, rfl, found⟩ := Documents.open?_of_refused refused opens
    rw [offends.place?] at found
    obtain ⟨same, -⟩ := Range.eq_of_ofSpan? found
    refine ⟨notice, rfl, ?_, fun selects => selects.selected_eq offends.bounds.1⟩
    rw [same]
    exact Range.selects_inText ..

/-- An operand is missing on the second line, and the first one has an end of two characters and a
character of two code units. -/
theorem selects_iff_pair :
    ∃ docs' notice, Documents.empty.open? "a.pas" "program p; {😀}\r\nbegin x := ;" =
        some (docs', [notice]) ∧
      notice.range.selected "program p; {😀}\r\nbegin x := ;".toList = Utf16.encode [';'] := by
  have refused : Program.ofText "program p; {😀}\r\nbegin x := ;" =
      .error (.grammatical (.missing .expression) (some ⟨⟨2, 12, 27⟩, ⟨2, 13, 28⟩⟩)) :=
    Program.eq_error_of_fault? (by decide +kernel)
  obtain ⟨first, last, offends, opens, selects⟩ := selects_iff .empty "a.pas" _ _ refused
  obtain ⟨rfl, rfl⟩ : first = 27 ∧ last = 28 := offends.eq_of_place? rfl
  obtain ⟨docs', notice, opens⟩ := opens (by decide)
  obtain ⟨_, same, alike, selected⟩ := selects _ _ opens
  obtain rfl := (List.cons.inj same).1
  refine ⟨docs', notice, opens, ?_⟩
  rw [selected (alike.2 (by decide +kernel))]
  rfl

/-- **A character of two code units** before a place on its line moves what is selected. So the
range of a notice does not always select what is wrong. -/
theorem not_selects_wide :
    ¬ ∀ (docs : Documents) (uri text : String) (fault : Fault),
      Program.ofText text = .error fault →
      ∀ docs' notices, docs.open? uri text = some (docs', notices) →
        ∃ notice first last, notices = [notice] ∧ Offends text fault first last ∧
          notice.range.selected text.toList = Utf16.encode (text.toList.extract first last) := by
  intro everywhere
  have refused : Program.ofText "{😀}?" = .error (.lexical (.unexpected '?') "?" ⟨1, 4, 3⟩) :=
    Program.eq_error_of_fault? (by decide +kernel)
  obtain ⟨_, _, -, opens, -⟩ := selects_iff .empty "a.pas" _ _ refused
  obtain ⟨docs', notice, opens⟩ := opens (by decide)
  obtain ⟨_, first, last, same, offends, selected⟩ := everywhere _ _ _ _ refused _ _ opens
  obtain rfl := (List.cons.inj same).1
  obtain ⟨rfl, rfl⟩ : first = 3 ∧ last = 4 := offends.eq_of_place? rfl
  obtain ⟨_, same, found⟩ := Documents.open?_of_refused refused opens
  obtain rfl := (List.cons.inj same).1
  have range : notice.range = ⟨⟨0, 3⟩, ⟨0, 4⟩⟩ := (Option.some.inj found).symm
  -- The second unit of the emoji is the third one of the line, so the brace is selected.
  rw [range] at selected
  exact absurd selected (by decide +kernel)

end Notice

end Editor

end PascalFront
