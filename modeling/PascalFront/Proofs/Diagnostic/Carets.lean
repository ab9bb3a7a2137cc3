import PascalFront.Proofs.Diagnostic.ShownLine
import PascalFront.Proofs.Editor.Notice
import PascalFront.Proofs.Token.Stretch
/-!
# The carets below a fault

Below the line that is shown with a fault there is a row of carets. Its two measures are
taken from the span of the fault: how many carets there are, and how far they are indented.

There are as many carets as what is wrong has characters on the line where it begins, and one
at the end of the text (`Renderer.carets_count`). They do not stand below it. The line is
behind a number that is aligned to four digits, the carets are behind a bar without such a
number, and the margins differ in width by two columns, or by more when the number has more
digits. So the carets are that far to the left (`Renderer.carets_shifted`).
-/

namespace PascalFront

open Text

/-- What a piece of a text has on its first line. -/
def Text.firstLine (piece : List Char) : List Char := piece.takeWhile (· ≠ '\n')

namespace Text

variable {piece : List Char}

/-- A piece without a newline is on one line. -/
theorem firstLine_of_notMem (oneLine : '\n' ∉ piece) : firstLine piece = piece := by
  refine List.takeWhile_eq_self_iff.2 fun c listed => ?_
  exact decide_eq_true fun newline => oneLine (newline ▸ listed)

/-- The first line ends in a piece with a newline, whatever comes behind. -/
theorem firstLine_append_of_mem (broken : '\n' ∈ piece) (rest : List Char) :
    firstLine (piece ++ rest) = firstLine piece := by
  refine List.takeWhile_append.trans (if_neg fun whole => ?_)
  have all := List.takeWhile_eq_self_iff.1 ((List.takeWhile_prefix _).eq_of_length whole)
  exact absurd (all _ broken) (by decide)

/-- What comes behind a piece makes its first line no shorter. -/
theorem length_firstLine_le (piece rest : List Char) :
    (firstLine piece).length ≤ (firstLine (piece ++ rest)).length := by
  by_cases broken : '\n' ∈ piece
  · rw [firstLine_append_of_mem broken]
  · have ahead : firstLine (piece ++ rest) = piece ++ firstLine rest :=
      List.takeWhile_append_of_pos (List.takeWhile_eq_self_iff.1 (firstLine_of_notMem broken))
    rw [ahead, firstLine_of_notMem broken, List.length_append]
    omega

/-- The line around a place is what stands before the place on it and the first line from the
place on. -/
theorem lineAround_eq (text : List Char) (place : Nat) :
    lineAround text place = (lastLine (text.take place)).reverse ++ firstLine (text.drop place) :=
  rfl

end Text

namespace Position

/-- Each newline leads to another line. -/
theorem line_afterAll (p : Position) (piece : List Char) :
    (p.afterAll piece).line = p.line + piece.count '\n' := by
  induction piece generalizing p with
  | nil => simp
  | cons c piece ih =>
    rw [afterAll_cons, ih, after]
    by_cases newline : c = '\n'
    · rw [if_pos newline, newline, List.count_cons_self]
      dsimp only
      omega
    · rw [if_neg newline, List.count_cons_of_ne newline]

/-- On one line each character takes a column. -/
theorem column_afterAll (p : Position) {piece : List Char} (oneLine : '\n' ∉ piece) :
    (p.afterAll piece).column = p.column + piece.length := by
  induction piece generalizing p with
  | nil => simp
  | cons c piece ih =>
    obtain ⟨other, behind⟩ := not_or.1 (mt List.mem_cons.2 oneLine)
    rw [afterAll_cons, ih _ behind, after, if_neg (Ne.symm other), List.length_cons]
    dsimp only
    omega

/-- The column of a place counts what stands before it on its line. -/
theorem column_inText (text : List Char) (place : Nat) :
    (inText text place).column = 1 + (lastLine (text.take place)).length :=
  rfl

end Position

variable {text filename : String} {fault : Fault} {first last : Nat}

/-! ## How many carets there are -/

namespace Diagnostic

/-- **The carets below a piece of a text** are as many as it has characters on its first line,
and at least one. -/
theorem caretCount_inText (text : List Char) (ordered : first ≤ last)
    (within : last ≤ text.length) :
    caretCount ⟨.inText text first, .inText text last⟩ (String.ofList (lineAround text first)) =
      max 1 (firstLine (text.extract first last)).length := by
  have stop := Position.afterAll_extract text ordered within
  have line := Position.line_afterAll (.inText text first) (text.extract first last)
  rw [stop] at line
  rw [caretCount]
  dsimp only
  by_cases broken : '\n' ∈ text.extract first last
  · -- what is left of the line from the first place on belongs to the piece
    have count := List.count_pos_iff.2 broken
    have rest := firstLine_append_of_mem broken (text.drop last)
    rw [extract_append_drop text ordered] at rest
    rw [if_neg (by omega), Position.column_inText, String.length_ofList, lineAround_eq, rest,
      List.length_append, List.length_reverse]
    congr 1
    omega
  · have column := Position.column_afterAll (.inText text first) broken
    rw [stop] at column
    rw [List.count_eq_zero_of_not_mem broken] at line
    rw [if_pos (by omega), firstLine_of_notMem broken, column]
    congr 1
    omega

end Diagnostic

namespace Editor

/-- What is wrong with a text does not begin with a newline. -/
theorem Offends.firstLine_ne_nil (h : Offends text fault first last) (some_ : first < last) :
    firstLine (text.toList.extract first last) ≠ [] := by
  have spans := h.place?
  cases h with
  | token _ lies =>
    obtain ⟨c, more, spelled, -, notBlank, -⟩ := Lexeme.read_spell lies.denotes lies.longest
    have other : c ≠ '\n' := by
      rintro rfl
      exact absurd notBlank (by decide)
    rw [lies.spelled, spelled, firstLine, List.takeWhile_cons_of_pos (by simpa using other)]
    exact List.cons_ne_nil _ _
  | ending => exact absurd some_ (Nat.lt_irrefl _)
  | character here met =>
    have bound := (List.getElem?_eq_some_iff.1 here).1
    have line : (Position.inText text.toList (first + 1)).line =
        (Position.inText text.toList first).line :=
      (congrArg (·.stop.line) (Option.some.inj spans)).symm
    rw [← Position.afterAll_extract text.toList (Nat.le_add_right first 1) bound,
      Position.line_afterAll] at line
    have oneLine : '\n' ∉ text.toList.extract first (first + 1) :=
      List.count_eq_zero.1 (by omega)
    rw [firstLine_of_notMem oneLine, ← List.length_pos_iff, List.extract, List.length_take,
      List.length_drop]
    omega

end Editor

/-! ## The two rows -/

namespace Diagnostic

/-- Aligning makes a text no longer than it must be. -/
theorem length_alignRight (width : Nat) (text : String) :
    (alignRight width text).length = max width text.length := by
  rw [alignRight, repeated, String.length_append, String.length_ofList, List.length_replicate]
  omega

/-- The characters of a row of carets: a bar, spaces and the carets. -/
theorem toList_caretRow (severity : Severity) (span : Span) (line : String) :
    (caretRow false severity span line).toList =
      [' ', ' ', ' ', ' ', ' ', '|', ' '] ++
        (List.replicate (span.start.column - 1).toNat ' ' ++
          List.replicate (caretCount span line) '^') := by
  have bar : (bar false ++ " ").toList = [' ', ' ', ' ', ' ', ' ', '|', ' '] := by decide +kernel
  rw [caretRow, String.toList_append, String.toList_append, bar, List.append_assoc]
  simp only [repeated, painted, Bool.false_eq_true, if_false, String.toList_ofList]

/-- The row of a source line is the line behind a margin with its number. -/
theorem exists_margin (span : Span) (line : String) :
    ∃ margin, (sourceRow false span line).toList = margin ++ line.toList ∧
      margin.length = 5 + max 4 (toString span.start.line).length := by
  refine ⟨(numberedBar false span.start.line ++ " ").toList, by rw [sourceRow, String.toList_append],
    ?_⟩
  have space : " ".length = 1 := rfl
  have indent : "  ".length = 2 := rfl
  have bar : " |".length = 2 := rfl
  rw [String.length_toList, numberedBar, painted, if_neg (by decide), String.length_append,
    String.length_append, String.length_append, length_alignRight, space, indent, bar]
  omega

/-- The first caret is behind the bar and the spaces. -/
theorem idxOf_caret (severity : Severity) (span : Span) (line : String) :
    (caretRow false severity span line).toList.idxOf '^' =
      7 + (span.start.column - 1).toNat := by
  have some_ : 1 ≤ caretCount span line := by
    unfold caretCount
    split <;> exact Nat.le_max_left ..
  obtain ⟨count, more⟩ := Nat.exists_eq_add_of_le' some_
  rw [toList_caretRow, List.idxOf_append_of_notMem (by decide), List.idxOf_append_of_notMem,
    more, List.replicate_succ, List.idxOf_cons_self, List.length_replicate]
  · rfl
  · intro listed
    exact absurd (List.eq_of_mem_replicate listed) (by decide)

/-- There are no other carets in the row. -/
theorem count_caret (severity : Severity) (span : Span) (line : String) :
    (caretRow false severity span line).toList.count '^' = caretCount span line := by
  rw [toList_caretRow, List.count_append, List.count_append, List.count_replicate_self,
    List.count_replicate, if_neg (by decide), List.count_eq_zero_of_not_mem (by decide)]
  omega

/-- **The carets below what is wrong**: one at the end of the text, and else as many as what is
wrong has characters on its first line. -/
theorem caretCount_offends (offends : Editor.Offends text fault first last) :
    caretCount ⟨.inText text.toList first, .inText text.toList last⟩
        (String.ofList (lineAround text.toList first)) =
      if first = last then 1 else (firstLine (text.toList.extract first last)).length := by
  obtain ⟨ordered, within⟩ := offends.bounds
  rw [caretCount_inText text.toList ordered within]
  split
  · rename_i empty
    rw [empty, List.extract, Nat.sub_self, List.take_zero]
    rfl
  · rename_i some_
    exact max_eq_right
      (List.length_pos_iff.2 (offends.firstLine_ne_nil (lt_of_le_of_ne ordered some_)))

/-- They are no more than what is left of the line there. -/
theorem caretCount_le (offends : Editor.Offends text fault first last) (before : first < last) :
    caretCount ⟨.inText text.toList first, .inText text.toList last⟩
        (String.ofList (lineAround text.toList first)) ≤
      (firstLine (text.toList.drop first)).length := by
  have rest := length_firstLine_le (text.toList.extract first last) (text.toList.drop last)
  rw [extract_append_drop text.toList before.le] at rest
  rwa [caretCount_offends offends, if_neg before.ne]

/-- With so few carets the row of carets is not longer than the row above. -/
theorem length_caretRow_le (severity : Severity) {all : List Char}
    (fits : caretCount ⟨.inText all first, .inText all last⟩
        (String.ofList (lineAround all first)) ≤ (firstLine (all.drop first)).length) :
    (caretRow false severity ⟨.inText all first, .inText all last⟩
        (String.ofList (lineAround all first))).toList.length ≤
      (sourceRow false ⟨.inText all first, .inText all last⟩
        (String.ofList (lineAround all first))).toList.length := by
  obtain ⟨margin, split, length⟩ := exists_margin ⟨.inText all first, .inText all last⟩
    (String.ofList (lineAround all first))
  rw [split, toList_caretRow]
  generalize caretCount _ _ = carets at fits ⊢
  rw [String.toList_ofList, lineAround_eq, Position.column_inText]
  simp only [List.length_append, List.length_replicate, List.length_cons, List.length_nil,
    List.length_reverse, length]
  omega

/-- **The two rows for what is wrong with a text.** If newlines are the only line breaks of the
text and the picture of its fault has a line with carets below, these are the line around the
place of what is wrong and the carets for its span. -/
theorem exists_rows (refused : Program.ofText text = .error fault)
    (plain : ∀ c ∈ text.toList, isLineBreak c = true → c = '\n')
    {heading place bar row carets : String}
    (shown : (fault.diagnostic filename).rows false (displayLines text) =
      [heading, place, bar, row, carets]) :
    ∃ first last, Editor.Offends text fault first last ∧
      row = sourceRow false ⟨.inText text.toList first, .inText text.toList last⟩
        (String.ofList (lineAround text.toList first)) ∧
      carets = caretRow false .error ⟨.inText text.toList first, .inText text.toList last⟩
        (String.ofList (lineAround text.toList first)) := by
  obtain ⟨first, last, offends⟩ := Editor.exists_offends refused
  refine ⟨first, last, offends, ?_⟩
  have newlines : NewlinesOnly text.toList first := by
    intro c listed
    refine plain c ?_
    rcases List.mem_append.1 listed with before | behind
    · exact List.mem_of_mem_take before
    · exact List.mem_of_mem_drop ((List.takeWhile_sublist _).mem behind)
  rw [rows_displayLines offends.place? newlines] at shown
  by_cases empty : lineAround text.toList first = [] ∧ text.toList.length ≤ first
  · rw [if_pos empty] at shown
    exact absurd (congrArg List.length shown) (by simp)
  · rw [if_neg empty] at shown
    simp only [List.cons_append, List.nil_append, List.cons.injEq] at shown
    obtain ⟨-, -, -, line, below, -⟩ := shown
    exact ⟨line.symm, below.symm⟩

end Diagnostic

/-! ## What is rendered -/

namespace Renderer

open Diagnostic

/-- What is rendered for a fault of a text that was registered are the rows of its picture. -/
theorem render_rows (disk : Entry) (refused : Program.ofText text = .error fault)
    {rows : List String} (shown : (fault.diagnostic filename).rows false (displayLines text) = rows) :
    ((new false).addSource filename text).render disk (fault.diagnostic filename) =
      .ok ("\n".intercalate rows, (new false).addSource filename text) := by
  obtain ⟨place, stop, -, lies⟩ := Program.exists_place refused
  have labels : (fault.diagnostic filename).labels ≠ [] := by
    rw [Fault.diagnostic, lies]
    exact List.cons_ne_nil _ _
  rw [render_addSource (new false) disk filename text _ rfl labels, ← shown]
  rfl

/-- Newlines are the only line breaks of a text if they are so character by character. -/
theorem plain_of_all {text : String}
    (all : text.toList.all (fun c => !isLineBreak c || c = '\n') = true) :
    ∀ c ∈ text.toList, isLineBreak c = true → c = '\n' := by
  intro c listed breaks
  simpa [breaks] using List.all_eq_true.1 all c listed

/-- **The carets stand to the left of what is wrong.** In a text with newlines as its only line
breaks, the first caret is as many columns before the one where what is wrong begins in the
row above as the number of the line has more than two digits, and two columns before it if the
number has fewer than four. At the end of the text that column is the one behind the row. -/
theorem carets_shifted (text filename : String) (fault : Fault)
    (refused : Program.ofText text = .error fault)
    (plain : ∀ c ∈ text.toList, isLineBreak c = true → c = '\n')
    (heading place bar row carets : String)
    (shown : (fault.diagnostic filename).rows false (displayLines text) =
      [heading, place, bar, row, carets]) :
    (∀ disk, ((new false).addSource filename text).render disk (fault.diagnostic filename) =
      .ok ("\n".intercalate [heading, place, bar, row, carets],
        (new false).addSource filename text)) ∧
    ∃ first last before, Editor.Offends text fault first last ∧
      row.toList = before ++ firstLine (text.toList.drop first) ∧ '^' ∈ carets.toList ∧
      carets.toList.idxOf '^' +
          (max 4 (toString (Position.inText text.toList first).line).length - 2) =
        before.length := by
  refine ⟨fun disk => render_rows disk refused shown, ?_⟩
  obtain ⟨first, last, offends, rfl, rfl⟩ := exists_rows refused plain shown
  obtain ⟨margin, split, length⟩ := exists_margin
    ⟨.inText text.toList first, .inText text.toList last⟩
    (String.ofList (lineAround text.toList first))
  refine ⟨first, last, margin ++ (lastLine (text.toList.take first)).reverse, offends, ?_, ?_, ?_⟩
  · rw [split, String.toList_ofList, lineAround_eq, List.append_assoc]
  · rw [← List.count_pos_iff, count_caret, caretCount_inText text.toList offends.bounds.1
      offends.bounds.2]
    omega
  · rw [idxOf_caret, List.length_append, length, List.length_reverse, Position.column_inText]
    dsimp only
    omega

/-- On the second line the second operand of a sum is missing, and the caret is two columns to
the left of the semicolon. -/
theorem carets_shifted_sum : ∃ row carets,
    ((new false).addSource "a.pas" "program p;\nbegin x := 1 +; end.").render (.folder [])
        (Fault.diagnostic (.grammatical (.missing .expression) (some ⟨⟨2, 15, 25⟩, ⟨2, 16, 26⟩⟩))
          "a.pas") =
      .ok ("\n".intercalate ["error[E200]: Expected expression", "  --> a.pas:2:15", "     |", row,
        carets], (new false).addSource "a.pas" "program p;\nbegin x := 1 +; end.") ∧
      row.toList.idxOf ';' = 23 ∧ carets.toList.idxOf '^' = 21 := by
  have refused : Program.ofText "program p;\nbegin x := 1 +; end." =
      .error (.grammatical (.missing .expression) (some ⟨⟨2, 15, 25⟩, ⟨2, 16, 26⟩⟩)) :=
    Program.eq_error_of_fault? (by decide +kernel)
  have plain : ∀ c ∈ "program p;\nbegin x := 1 +; end.".toList, isLineBreak c = true → c = '\n' :=
    plain_of_all (by decide)
  have shown : (Fault.diagnostic (.grammatical (.missing .expression)
      (some ⟨⟨2, 15, 25⟩, ⟨2, 16, 26⟩⟩)) "a.pas").rows false
        (displayLines "program p;\nbegin x := 1 +; end.") =
      ["error[E200]: Expected expression", "  --> a.pas:2:15", "     |",
        "     2 | begin x := 1 +; end.", "     |               ^"] := by
    decide +kernel
  obtain ⟨rendered, first, last, before, offends, split, -, columns⟩ :=
    carets_shifted _ "a.pas" _ refused plain _ _ _ _ _ shown
  obtain ⟨rfl, rfl⟩ : first = 25 ∧ last = 26 := offends.eq_of_place? rfl
  refine ⟨_, _, rendered _, by decide +kernel, ?_⟩
  have width : before.length = 23 := by
    have lengths := congrArg List.length split
    rw [List.length_append] at lengths
    have rest : (firstLine ("program p;\nbegin x := 1 +; end.".toList.drop 25)).length = 6 := by
      decide +kernel
    have all : "     2 | begin x := 1 +; end.".toList.length = 29 := by decide +kernel
    omega
  have excess : max 4 (toString (Position.inText
      "program p;\nbegin x := 1 +; end.".toList 25).line).length - 2 = 2 := by
    decide +kernel
  rw [excess, width] at columns
  omega

/-- **The carets do not stand below what is wrong**, not even below the only character of a
text. -/
theorem not_carets_below :
    ¬ ∀ (text filename : String) (fault : Fault), Program.ofText text = .error fault →
      (∀ c ∈ text.toList, isLineBreak c = true → c = '\n') →
      ∀ heading place bar row carets,
        (fault.diagnostic filename).rows false (displayLines text) =
          [heading, place, bar, row, carets] →
        ∃ first last before, Editor.Offends text fault first last ∧
          row.toList = before ++ firstLine (text.toList.drop first) ∧
          carets.toList.idxOf '^' = before.length := by
  intro everywhere
  have refused : Program.ofText "?" = .error (.lexical (.unexpected '?') "?" ⟨1, 1, 0⟩) :=
    Program.eq_error_of_fault? (by decide +kernel)
  have shown : (Fault.diagnostic (.lexical (.unexpected '?') "?" ⟨1, 1, 0⟩) "a.pas").rows false
      (displayLines "?") = ["error[E100]: Unexpected character '?'", "  --> a.pas:1:1", "     |",
        "     1 | ?", "     | ^"] := by
    decide +kernel
  obtain ⟨first, last, before, offends, split, column⟩ :=
    everywhere _ _ _ refused (plain_of_all (by decide)) _ _ _ _ _ shown
  obtain ⟨rfl, rfl⟩ : first = 0 ∧ last = 1 := offends.eq_of_place? rfl
  have lengths := congrArg List.length split
  rw [List.length_append, ← column] at lengths
  -- the line is behind nine columns, and the caret behind seven
  exact absurd lengths (by decide +kernel)

/-- **There are as many carets as what is wrong has characters on its first line**, in a text
with newlines as its only line breaks: all of them if it is on one line, and else those up to
the end of that line. A lexical fault has one caret, and so has the end of the text. Except
there the carets are no more than what is left of the line, and do not reach beyond the row
above. -/
theorem carets_count (text filename : String) (fault : Fault)
    (refused : Program.ofText text = .error fault)
    (plain : ∀ c ∈ text.toList, isLineBreak c = true → c = '\n')
    (heading place bar row carets : String)
    (shown : (fault.diagnostic filename).rows false (displayLines text) =
      [heading, place, bar, row, carets]) :
    (∀ disk, ((new false).addSource filename text).render disk (fault.diagnostic filename) =
      .ok ("\n".intercalate [heading, place, bar, row, carets],
        (new false).addSource filename text)) ∧
    ∃ first last, Editor.Offends text fault first last ∧
      carets.toList.count '^' = (if first = last then 1
        else (firstLine (text.toList.extract first last)).length) ∧
      ((∃ cause found p, fault = .lexical cause found p) → carets.toList.count '^' = 1) ∧
      (first < last →
        carets.toList.count '^' ≤ (firstLine (text.toList.drop first)).length ∧
        carets.length ≤ row.length) := by
  refine ⟨fun disk => render_rows disk refused shown, ?_⟩
  obtain ⟨first, last, offends, rfl, rfl⟩ := exists_rows refused plain shown
  refine ⟨first, last, offends, ?_, ?_, fun before => ?_⟩
  · rw [count_caret, caretCount_offends offends]
  · rintro ⟨cause, found, p, rfl⟩
    obtain ⟨ordered, within⟩ := offends.bounds
    have atMost : (firstLine (text.toList.extract first last)).length ≤ last - first :=
      (List.takeWhile_sublist _).length_le.trans (List.length_take_le ..)
    cases offends with
    | character =>
      rw [count_caret, caretCount_inText text.toList ordered within]
      omega
  · have fits := caretCount_le offends before
    refine ⟨by rwa [count_caret], ?_⟩
    rw [← String.length_toList, ← String.length_toList]
    exact length_caretRow_le .error fits

/-- Where a semicolon should be there is a string literal that goes on on the next line; two of
its characters are on the first one. -/
theorem carets_count_string : ∃ carets,
    ((new false).addSource "a.pas" "program p; begin x := 1 'a\nbc' end.").render (.folder [])
        (Fault.diagnostic (.grammatical (.missing .semicolonAfterStatement)
          (some ⟨⟨1, 25, 24⟩, ⟨2, 4, 30⟩⟩)) "a.pas") =
      .ok ("\n".intercalate ["error[E200]: Expected ';' after statement", "  --> a.pas:1:25",
        "     |", "     1 | program p; begin x := 1 'a", carets],
        (new false).addSource "a.pas" "program p; begin x := 1 'a\nbc' end.") ∧
      carets.toList.count '^' = 2 := by
  have refused : Program.ofText "program p; begin x := 1 'a\nbc' end." =
      .error (.grammatical (.missing .semicolonAfterStatement)
        (some ⟨⟨1, 25, 24⟩, ⟨2, 4, 30⟩⟩)) :=
    Program.eq_error_of_fault? (by decide +kernel)
  have plain : ∀ c ∈ "program p; begin x := 1 'a\nbc' end.".toList,
      isLineBreak c = true → c = '\n' :=
    plain_of_all (by decide)
  have shown : (Fault.diagnostic (.grammatical (.missing .semicolonAfterStatement)
      (some ⟨⟨1, 25, 24⟩, ⟨2, 4, 30⟩⟩)) "a.pas").rows false
        (displayLines "program p; begin x := 1 'a\nbc' end.") =
      ["error[E200]: Expected ';' after statement", "  --> a.pas:1:25", "     |",
        "     1 | program p; begin x := 1 'a", "     |                         ^^"] := by
    decide +kernel
  obtain ⟨rendered, first, last, offends, count, -, -⟩ :=
    carets_count _ "a.pas" _ refused plain _ _ _ _ _ shown
  obtain ⟨rfl, rfl⟩ : first = 24 ∧ last = 30 := offends.eq_of_place? rfl
  refine ⟨_, rendered _, ?_⟩
  rw [count]
  decide +kernel

end Renderer

end PascalFront
