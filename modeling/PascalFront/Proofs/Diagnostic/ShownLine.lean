import PascalFront.Diagnostic.Renderer
import PascalFront.Proofs.Grammar.Lazy
import PascalFront.Proofs.Token.Requests
import PascalFront.Proofs.Text.Lines
/-!
# The line that is shown with a fault

Every fault of a text has a place in it (`Program.exists_place`). Its picture shows
the line around that place with carets below, as long as newlines are the only line
breaks up to the end of that line (`Renderer.render_refused`). Any other line break
before it counts for the display and not for positions, so that the line shown is an
earlier one or a part of it (`Renderer.render_formFeed`).
-/

namespace PascalFront

open TokenStream

/-- **A fault of a text lies in the text.** -/
theorem Program.exists_place {text : String} {fault : Fault} (refused : ofText text = .error fault) :
    ∃ place stop, place ≤ text.toList.length ∧
      fault.place? = some ⟨.inText text.toList place, stop⟩ := by
  obtain ⟨-, -, -, tokens, faults⟩ := (Cursor.standsAt_ofText text).readAll
  rcases exists_offending refused with met | ⟨complaint, t, listed, rfl⟩
  · obtain ⟨_, place, c, here, -, spans⟩ := faults _ met
    exact ⟨place, _, (List.getElem?_eq_some_iff.1 here).1.le, spans⟩
  · obtain ⟨first, last, order, within, start, stop⟩ := tokens t listed
    refine ⟨first, .inText text.toList last, order.trans within, ?_⟩
    rw [Fault.place?, Token.span, Token.startPosition, Token.stopPosition, start, stop]
    exact congrArg some (Position.between_inText ..)

namespace Diagnostic

/-- **The picture of a fault with the line around its place**, which is not shown where it
is empty at the end of the text. -/
def pictureAround (color : Bool) (filename : String) (fault : Fault) (text : List Char)
    (place : Nat) (stop : Position) : String :=
  let span : Span := ⟨.inText text place, stop⟩
  let line := String.ofList (Text.lineAround text place)
  "\n".intercalate
    ([(fault.diagnostic filename).headerRow color,
      "  " ++ painted color .boldBlue "-->" ++ " " ++ filename ++ ":" ++ span.start.text,
      bar color] ++
    if Text.lineAround text place = [] ∧ text.length ≤ place then []
    else [sourceRow color span line, caretRow color .error span line])

/-- The source line with the number of a place. -/
theorem sourceLine?_displayLines {text : String} {place : Nat}
    (plain : Text.NewlinesOnly text.toList place) :
    sourceLine? (displayLines text) (Position.inText text.toList place).line =
      if Text.lineAround text.toList place = [] ∧ text.toList.length ≤ place then none
      else some (String.ofList (Text.lineAround text.toList place)) := by
  have line : (Position.inText text.toList place).line =
      1 + (text.toList.take place).count '\n' := rfl
  have number : ((Position.inText text.toList place).line - 1).toNat =
      (text.toList.take place).count '\n' := by omega
  have counted : 1 ≤ (Position.inText text.toList place).line := by omega
  rw [sourceLine?, if_pos counted, number, displayLines, List.getElem?_map,
    Text.getElem?_lines plain]
  split <;> rfl

/-- **The rows for a fault at a place**: the heading, the place, a bar, and below them the line
around the place with its carets, unless that line is empty at the end of the text. -/
theorem rows_displayLines {color : Bool} {filename text : String} {fault : Fault} {place : Nat}
    {stop : Position} (lies : fault.place? = some ⟨.inText text.toList place, stop⟩)
    (plain : Text.NewlinesOnly text.toList place) :
    (fault.diagnostic filename).rows color (displayLines text) =
      [(fault.diagnostic filename).headerRow color,
        "  " ++ painted color .boldBlue "-->" ++ " " ++ filename ++ ":" ++
          (Position.inText text.toList place).text,
        bar color] ++
      if Text.lineAround text.toList place = [] ∧ text.toList.length ≤ place then []
      else [sourceRow color ⟨.inText text.toList place, stop⟩
          (String.ofList (Text.lineAround text.toList place)),
        caretRow color .error ⟨.inText text.toList place, stop⟩
          (String.ofList (Text.lineAround text.toList place))] := by
  have labels : (fault.diagnostic filename).labels =
      [{ span := ⟨.inText text.toList place, stop⟩, message := "" }] := by
    rw [Fault.diagnostic, lies]
    rfl
  have notes : (fault.diagnostic filename).notes = [] := rfl
  rw [rows, labels, notes, List.flatMap_singleton, List.map_nil, List.append_nil, labelRows,
    sourceLine?_displayLines plain]
  by_cases empty : Text.lineAround text.toList place = [] ∧ text.toList.length ≤ place
  · simp only [if_pos empty]
    rfl
  · simp only [if_neg empty]
    rfl

/-- The picture with the lines of the text shows the line around the place. -/
theorem picture_displayLines {color : Bool} {filename text : String} {fault : Fault} {place : Nat}
    {stop : Position} (lies : fault.place? = some ⟨.inText text.toList place, stop⟩)
    (plain : Text.NewlinesOnly text.toList place) :
    (fault.diagnostic filename).picture color (displayLines text) =
      pictureAround color filename fault text.toList place stop :=
  congrArg ("\n".intercalate ·) (rows_displayLines lies plain)

end Diagnostic

namespace Renderer

/-- A text that was registered is what a diagnostic about the file is shown with. -/
theorem render_addSource (r : Renderer) (disk : Entry) (filename text : String) (d : Diagnostic)
    (about : d.filename = filename) (some_ : d.labels ≠ []) :
    (r.addSource filename text).render disk d =
      .ok (d.picture r.color (displayLines text), r.addSource filename text) := by
  have known : (r.addSource filename text).linesOf disk d.filename =
      .ok (displayLines text, r.addSource filename text) := by
    rw [linesOf, about, addSource, List.lookup_cons_self]
    rfl
  rw [render, if_neg (by simpa using some_), known]
  rfl

/-- **A fault is shown with the line that it lies on.** A refused text has its fault at a
place. If up to the end of the line around it newlines are the only line breaks, that line
is the one shown, with the number that positions give it, and none is shown only if it is
empty at the end of the text. -/
theorem render_refused (r : Renderer) (disk : Entry) (filename text : String) (fault : Fault)
    (refused : Program.ofText text = .error fault) :
    ∃ place stop, place ≤ text.toList.length ∧
      fault.place? = some ⟨.inText text.toList place, stop⟩ ∧
      (Text.NewlinesOnly text.toList place →
        (r.addSource filename text).render disk (fault.diagnostic filename) =
          .ok (Diagnostic.pictureAround r.color filename fault text.toList place stop,
            r.addSource filename text)) := by
  obtain ⟨place, stop, within, lies⟩ := Program.exists_place refused
  refine ⟨place, stop, within, lies, fun plain => ?_⟩
  rw [render_addSource r disk filename text _ rfl, Diagnostic.picture_displayLines lies plain]
  rw [Fault.diagnostic, lies]
  simp

/-- A sum without its second operand, on the third line. -/
theorem render_refused_sum :
    ∃ fault, Program.ofText "program p;\n\n begin x := 1 +;" = .error fault ∧
      Text.NewlinesOnly "program p;\n\n begin x := 1 +;".toList 27 ∧
      ((Renderer.new false).addSource "a.pas" "program p;\n\n begin x := 1 +;").render (.folder [])
          (fault.diagnostic "a.pas") =
        .ok ("error[E200]: Expected expression\n  --> a.pas:3:16\n     |\n     3 |  begin x := 1 +;\n     |                ^",
          (Renderer.new false).addSource "a.pas" "program p;\n\n begin x := 1 +;") := by
  have refused : Program.ofText "program p;\n\n begin x := 1 +;" =
      .error (.grammatical (.missing .expression) (some ⟨⟨3, 16, 27⟩, ⟨3, 17, 28⟩⟩)) :=
    Program.eq_error_of_fault? (by decide +kernel)
  have plain : Text.NewlinesOnly "program p;\n\n begin x := 1 +;".toList 27 := by decide
  refine ⟨_, refused, plain, ?_⟩
  obtain ⟨place, stop, -, lies, shown⟩ := render_refused (Renderer.new false) (.folder []) "a.pas"
    _ _ refused
  have span := Option.some.inj lies
  obtain rfl : place = 27 :=
    (Int.ofNat.inj (congrArg (fun s : Span => s.start.offset) span)).symm
  obtain rfl : stop = ⟨3, 17, 28⟩ := (congrArg Span.stop span).symm
  rw [shown plain]
  have picture : Diagnostic.pictureAround false "a.pas" (.grammatical (.missing .expression)
      (some ⟨⟨3, 16, 27⟩, ⟨3, 17, 28⟩⟩)) "program p;\n\n begin x := 1 +;".toList 27 ⟨3, 17, 28⟩ =
      "error[E200]: Expected expression\n  --> a.pas:3:16\n     |\n     3 |  begin x := 1 +;\n     |                ^" := by
    decide +kernel
  exact congrArg (fun shown => Except.ok (shown, _)) picture

/-- **A form feed before the place moves the display to another line than positions.** So
not every fault is shown with the line that it lies on. -/
theorem render_formFeed :
    ¬ ∀ (text : String) (fault : Fault), Program.ofText text = .error fault →
      ∃ place stop, place ≤ text.toList.length ∧
        fault.place? = some ⟨.inText text.toList place, stop⟩ ∧
        ∀ (r : Renderer) (disk : Entry) (filename : String),
          (r.addSource filename text).render disk (fault.diagnostic filename) =
            .ok (Diagnostic.pictureAround r.color filename fault text.toList place stop,
              r.addSource filename text) := by
  intro everywhere
  have refused : Program.ofText "\x0c?" = .error (.lexical (.unexpected '?') "?" ⟨1, 2, 1⟩) :=
    Program.eq_error_of_fault? (by decide +kernel)
  obtain ⟨place, stop, -, lies, shown⟩ := everywhere _ _ refused
  have span := Option.some.inj lies
  obtain rfl : place = 1 := (Int.ofNat.inj (congrArg (fun s : Span => s.start.offset) span)).symm
  obtain rfl : stop = ⟨1, 3, 2⟩ := (congrArg Span.stop span).symm
  have rendered := render_addSource (Renderer.new false) (.folder []) "a.pas" "\x0c?"
    (Fault.diagnostic (.lexical (.unexpected '?') "?" ⟨1, 2, 1⟩) "a.pas") rfl (by decide)
  have same := congrArg Prod.fst
    (Except.ok.inj (rendered.symm.trans (shown (Renderer.new false) (.folder []) "a.pas")))
  -- The display has an empty first line there, and positions have the whole text.
  exact absurd same (by decide +kernel)

end Renderer

end PascalFront
