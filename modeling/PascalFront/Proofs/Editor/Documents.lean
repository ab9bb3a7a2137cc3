import PascalFront.Proofs.Editor.Notice
import PascalFront.Proofs.Editor.Outline
/-!
# Opening documents

Opening a document, or changing it to a text, never fails as long as an editor has enough
numbers for the text. What is published is one notice whose range is just what is wrong, or
none; then the document has an outline, whose ranges are nested as the routines of the program
are (`Documents.opened`).
-/

namespace PascalFront.Editor

namespace Documents

/-- What opening a document yields if it can be analysed. -/
theorem open?_of_analyse? (docs : Documents) {uri text : String} {d : Document}
    (analysed : Document.analyse? uri text = some d) :
    docs.open? uri text = some (docs.put uri d, d.notices) := by
  rw [open?, analysed]
  rfl

/-- Changing a document to a text is opening it with that text. -/
theorem change?_concat (docs : Documents) (uri text : String) (texts : List String) :
    docs.change? uri (texts ++ [text]) = docs.open? uri text := by
  rw [change?, List.getLast?_concat, Option.getD_some]

/-- The program of a document that has just been put. -/
theorem program?_put (docs : Documents) (uri : String) (d : Document) :
    (docs.put uri d).program? uri = d.program? := by
  rw [program?, get?_put_self]
  rfl

/-- **What is published when a document is opened**: nothing about a program, and one notice
in the words of the fault otherwise. -/
theorem open?_spec (docs : Documents) (uri : String) {text : String}
    (short : text.length ≤ maxCoordinate) :
    (∃ p docs', Program.ofText text = .ok p ∧ docs.open? uri text = some (docs', [])) ∨
    ∃ fault docs' notice, Program.ofText text = .error fault ∧
      docs.open? uri text = some (docs', [notice]) ∧ notice.code = fault.code ∧
      notice.message = s!"[{fault.code}] {fault.message}" := by
  obtain ⟨d, analysed⟩ := Document.exists_analyse? uri short
  have opens := docs.open?_of_analyse? analysed
  obtain ⟨-, ⟨p, accepted, -, silent⟩ | ⟨fault, notice, refused, -, tells, -, notices⟩⟩ :=
    Document.of_analyse? analysed
  · exact .inl ⟨p, _, accepted, silent ▸ opens⟩
  · exact .inr ⟨fault, _, notice, refused, notices ▸ opens, tells.code, tells.message⟩

/-- **Opening a document is always possible**, and so is changing it, if the text is not too
long. A text that is no program has one notice, whose range is valid and covers just what is
wrong. A program has none, and an outline: a module with one symbol for each declaration, in
their order and below that of the routine whose body declares it. Each symbol has a name, and
its range is valid and contains those of the symbols below it. -/
theorem opened (docs : Documents) (uri text : String) (short : text.length ≤ maxCoordinate) :
    ∃ docs' notices, docs.open? uri text = some (docs', notices) ∧
      (∀ texts, docs.change? uri (texts ++ [text]) = some (docs', notices)) ∧
      ((∃ fault notice, Program.ofText text = .error fault ∧ notices = [notice] ∧
          notice.range.Valid ∧ Covers text notice.range fault) ∨
        ∃ p root, Program.ofText text = .ok p ∧ notices = [] ∧ docs'.program? uri = some p ∧
          Symbol.ofProgram? p = some root ∧ root.Outlines p ∧
          ∀ s, root.IsIn s → s.WellNested) := by
  obtain ⟨d, analysed⟩ := Document.exists_analyse? uri short
  have opens := docs.open?_of_analyse? analysed
  refine ⟨_, _, opens, fun texts => (change?_concat ..).trans opens, ?_⟩
  obtain ⟨-, ⟨p, accepted, program, silent⟩ | ⟨fault, notice, refused, -, tells, -, notices⟩⟩ :=
    Document.of_analyse? analysed
  · obtain ⟨root, found, outlines⟩ :=
      Symbol.exists_ofProgram? p (Symbol.ranged_program short accepted)
    exact .inr ⟨p, root, accepted, silent, (program?_put ..).trans program, found, outlines,
      fun s inside => outlines.wellNested short accepted inside⟩
  · exact .inl ⟨fault, notice, refused, notices, tells.valid, tells.covers⟩

/-- A routine with two variables of one type, and an operand that is missing on the second
line. -/
theorem opened_routine :
    (∃ p root,
      Program.ofText "program p; procedure q; var a, b: real; begin end; begin end." = .ok p ∧
      Symbol.ofProgram? p = some root ∧ root.Outlines p ∧ ∀ s, root.IsIn s → s.WellNested) ∧
    ∃ docs' notice, empty.open? "p.pas" "program p;\nbegin x := end." = some (docs', [notice]) ∧
      notice.range.Valid := by
  constructor
  · obtain ⟨_, _, -, -, refused | accepted⟩ := opened empty "p.pas"
      "program p; procedure q; var a, b: real; begin end; begin end." (by decide +kernel)
    · obtain ⟨fault, -, refused, -⟩ := refused
      have accepted : (Program.ofText
          "program p; procedure q; var a, b: real; begin end; begin end.").isOk = true := by
        decide +kernel
      rw [refused] at accepted
      exact absurd accepted Bool.false_ne_true
    · obtain ⟨p, root, accepted, -, -, found, outlines, nested⟩ := accepted
      exact ⟨p, root, accepted, found, outlines, nested⟩
  · obtain ⟨docs', _, opens, -, refused | accepted⟩ := opened empty "p.pas"
      "program p;\nbegin x := end." (by decide +kernel)
    · obtain ⟨fault, notice, -, rfl, valid, -⟩ := refused
      exact ⟨docs', notice, opens, valid⟩
    · obtain ⟨p, -, accepted, -⟩ := accepted
      have refused : (Program.ofText "program p;\nbegin x := end.").isOk = false := by
        decide +kernel
      rw [accepted] at refused
      exact absurd refused Bool.noConfusion

end Documents

end PascalFront.Editor
