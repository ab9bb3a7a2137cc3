import PascalFront.CommandLine.Outcome
import PascalFront.Diagnostic.Renderer
import PascalFront.Proofs.Numeral.Written
import PascalFront.Proofs.Text.Lines
/-!
# Colours add nothing but escapes

A picture with colours is the picture without them and instructions to the terminal around
some of its pieces. Where the texts in it hold no escapes of their own, removing the escapes
leaves the picture without colours (`Renderer.render_uncoloured`).

A function that removes escapes is described by what it does at the front of a text: it keeps
every other character and drops each instruction that sets a paint (`Text.RemovesPaint`). So
it can be followed through a picture from left to right, piece by piece (`Text.RemovesPaint.Leaves`),
and nothing that stands in one piece has a bearing on the next.
-/

namespace PascalFront

namespace Text

/-! ## Removing escapes -/

/-- The characters between the opening of an escape sequence and its letter. -/
def isColourParameter (c : Char) : Bool := c.isDigit || c = ';' || c = '?'

/-- What follows the letter of an escape sequence whose opening has been read; `none` where no
sequence is complete. -/
def afterColour? (text : List Char) : Option (List Char) :=
  match text.dropWhile isColourParameter with
  | [] => none
  | c :: rest => if c.isAlpha then some rest else none

/-- A sequence is not empty. -/
theorem length_lt_of_afterColour? {text rest : List Char} (h : afterColour? text = some rest) :
    rest.length < text.length := by
  have parameters := (List.dropWhile_suffix (l := text) isColourParameter).length_le
  unfold afterColour? at h
  split at h
  · simp at h
  · next c others e =>
    split at h
    · obtain rfl := Option.some.inj h
      rw [e, List.length_cons] at parameters
      omega
    · simp at h

/-- **The text without its escape sequences**, each of which is `ESC [`, then any number of
digits, semicolons and question marks, and then one letter. -/
def withoutColours : List Char → List Char
  | [] => []
  | '\x1b' :: '[' :: text =>
    match found : afterColour? text with
    | some rest =>
      have : rest.length < text.length := length_lt_of_afterColour? found
      withoutColours rest
    | none => escapeMark :: '[' :: withoutColours text
  | c :: text => c :: withoutColours text
termination_by text => text.length
decreasing_by all_goals (simp_wf; try omega)

/-- The characters that tell a paint. -/
def isPaintParameter (c : Char) : Bool := c.isDigit || c = ';'

/-- **A function that removes the instructions to set a paint**, and keeps what is no escape. -/
structure RemovesPaint (remove : List Char → List Char) : Prop where
  /-- An empty text stays. -/
  nil : remove [] = []
  /-- A character that opens no instruction stays. -/
  keeps (c : Char) (rest : List Char) (other : c ≠ escapeMark) : remove (c :: rest) = c :: remove rest
  /-- An instruction of digits and semicolons and the letter for paint goes. -/
  drops (parameters rest : List Char) (only : parameters.all isPaintParameter = true) :
    remove ('\x1b' :: '[' :: (parameters ++ 'm' :: rest)) = remove rest

/-- Removing escape sequences removes paint. -/
theorem removesPaint_withoutColours : RemovesPaint withoutColours where
  nil := by rw [withoutColours]
  keeps c rest other := by
    rw [withoutColours]
    exact fun _ opened => (other opened).elim
  drops parameters rest only := by
    have inside (c : Char) (listed : c ∈ parameters) : isColourParameter c = true := by
      have paint := List.all_eq_true.1 only c listed
      exact Bool.or_eq_true_iff.2 (.inl paint)
    have found : afterColour? (parameters ++ 'm' :: rest) = some rest := by
      rw [afterColour?, List.dropWhile_append_of_pos inside]
      rfl
    rw [withoutColours]
    split
    · rename_i rest' found'
      obtain rfl := Option.some.inj (found.symm.trans found')
      rfl
    · rename_i none_
      exact absurd (found.symm.trans none_) (by simp)

/-- Removing all instructions to the terminal removes paint. -/
theorem removesPaint_stripEscapes : RemovesPaint stripEscapes where
  nil := by rw [stripEscapes]
  keeps c rest other := by
    rw [stripEscapes]
    exact fun _ opened => (other opened).elim
  drops parameters rest only := by
    have inside (c : Char) (listed : c ∈ parameters) : isEscapeParameter c = true := by
      have paint := List.all_eq_true.1 only c listed
      rcases Bool.or_eq_true_iff.1 paint with digit | semicolon
      · simp only [Char.isDigit, Bool.and_eq_true, decide_eq_true_eq] at digit
        have high : c ≤ '?' := UInt32.le_trans digit.2 (by decide)
        exact Bool.and_eq_true_iff.2 ⟨decide_eq_true digit.1, decide_eq_true high⟩
      · obtain rfl := of_decide_eq_true semicolon
        rfl
    have found : afterEscape? (parameters ++ 'm' :: rest) = some rest := by
      rw [afterEscape?, List.dropWhile_append_of_pos inside]
      rfl
    rw [stripEscapes]
    split
    · rename_i rest' found'
      obtain rfl := Option.some.inj (found.symm.trans found')
      rfl
    · rename_i none_
      exact absurd (found.symm.trans none_) (by simp)

/-! ## Texts without escapes -/

/-- A text without escapes. -/
def EscapeFree (text : String) : Prop := escapeMark ∉ text.toList

instance (text : String) : Decidable (EscapeFree text) :=
  inferInstanceAs (Decidable (escapeMark ∉ text.toList))

/-- Two texts without escapes, one behind the other, have none. -/
theorem EscapeFree.append {first second : String} (h : EscapeFree first) (h' : EscapeFree second) :
    EscapeFree (first ++ second) := by
  rw [EscapeFree, String.toList_append]
  exact fun listed => (List.mem_append.1 listed).elim h h'

/-- The text of an integer has none. -/
theorem escapeFree_toString (value : Int) : EscapeFree (toString value) := by
  intro listed
  rcases Number.isDigit_toString value _ listed with digit | minus
  · exact absurd digit (by decide)
  · exact absurd minus (by decide)

/-- Nor has the same character over and over, unless it is an escape. -/
theorem escapeFree_repeated {c : Char} (other : c ≠ escapeMark) (count : Nat) :
    EscapeFree (Diagnostic.repeated count c) := by
  rw [EscapeFree, Diagnostic.repeated, String.toList_ofList]
  exact fun listed => other (List.eq_of_mem_replicate listed).symm

/-- The lines of a text without escapes have none. -/
theorem escapeFree_of_mem_displayLines {text line : String} (free : EscapeFree text)
    (listed : line ∈ displayLines text) : EscapeFree line := by
  obtain ⟨characters, ofText, rfl⟩ := List.mem_map.1 listed
  rw [EscapeFree, String.toList_ofList]
  exact fun within => free (mem_of_mem_lines ofText within)

namespace RemovesPaint

variable {remove : List Char → List Char} {first first' second second' text : String}

/-- An instruction to set a paint goes. -/
theorem paint (removes : RemovesPaint remove) (paint : Paint) (rest : List Char) :
    remove (paint.code.toList ++ rest) = remove rest := by
  cases paint with
  | boldRed => exact removes.drops ['1', ';', '3', '1'] rest (by decide)
  | boldYellow => exact removes.drops ['1', ';', '3', '3'] rest (by decide)
  | boldCyan => exact removes.drops ['1', ';', '3', '6'] rest (by decide)
  | boldBlue => exact removes.drops ['1', ';', '3', '4'] rest (by decide)
  | bold => exact removes.drops ['1'] rest (by decide)
  | plain => exact removes.drops ['0'] rest (by decide)

/-- **What is left of a piece** at the front of any text. -/
def Leaves (remove : List Char → List Char) (piece left : String) : Prop :=
  ∀ rest, remove (piece.toList ++ rest) = left.toList ++ remove rest

/-- A text without escapes stays. -/
theorem leaves_self (removes : RemovesPaint remove) (free : EscapeFree text) :
    Leaves remove text text := by
  intro rest
  rw [EscapeFree] at free
  generalize text.toList = characters at free ⊢
  induction characters with
  | nil => rfl
  | cons c others ih =>
    obtain ⟨other, behind⟩ := List.ne_and_not_mem_of_not_mem_cons free
    rw [List.cons_append, removes.keeps c _ (Ne.symm other), ih behind, List.cons_append]

/-- One piece behind the other. -/
theorem Leaves.append (h : Leaves remove first first') (h' : Leaves remove second second') :
    Leaves remove (first ++ second) (first' ++ second') := by
  intro rest
  rw [String.toList_append, List.append_assoc, h, h', String.toList_append, List.append_assoc]

/-- **Of a painted text the text is left.** -/
theorem leaves_painted (removes : RemovesPaint remove) (paint : Paint) (free : EscapeFree text) :
    Leaves remove (Diagnostic.painted true paint text) (Diagnostic.painted false paint text) := by
  intro rest
  show remove ((paint.code ++ text ++ Paint.plain.code).toList ++ rest) = text.toList ++ remove rest
  rw [String.toList_append, String.toList_append, List.append_assoc, List.append_assoc,
    removes.paint, removes.leaves_self free, removes.paint]

/-- Of rows, what is left of each. -/
theorem leaves_rows (removes : RemovesPaint remove) {rows rows' : List String}
    (each : List.Forall₂ (Leaves remove) rows rows') :
    Leaves remove ("\n".intercalate rows) ("\n".intercalate rows') := by
  induction each with
  | nil => exact fun _ => rfl
  | cons first others ih =>
    cases others with
    | nil => simpa using first
    | cons =>
      rw [String.intercalate_cons_cons, String.intercalate_cons_cons]
      exact (first.append (removes.leaves_self (by decide))).append ih

/-- What is left of a whole text. -/
theorem Leaves.remove_eq (h : Leaves remove first second) (removes : RemovesPaint remove) :
    remove first.toList = second.toList := by
  simpa [removes.nil] using h []

end RemovesPaint

end Text

open Text RemovesPaint

/-! ## Pictures -/

namespace Diagnostic

/-- **No text of a diagnostic has escapes in it.** -/
structure IsEscapeFree (d : Diagnostic) : Prop where
  /-- The code has none. -/
  code : EscapeFree d.code
  /-- The message has none. -/
  message : EscapeFree d.message
  /-- The name of the file has none. -/
  filename : EscapeFree d.filename
  /-- What is said about each place has none. -/
  labels : ∀ label ∈ d.labels, EscapeFree label.message
  /-- The notes have none. -/
  notes : ∀ note ∈ d.notes, EscapeFree note

variable {remove : List Char → List Char} {d : Diagnostic} {source : List String} {label : Label}

/-- A line that is shown is a line of the source. -/
theorem mem_of_sourceLine? {number : Int} {line : String}
    (found : sourceLine? source number = some line) : line ∈ source := by
  unfold sourceLine? at found
  split at found
  · exact List.mem_of_getElem? found
  · simp at found

/-- What is left of the heading. -/
theorem leaves_headerRow (removes : RemovesPaint remove) (free : d.IsEscapeFree) :
    Leaves remove (d.headerRow true) (d.headerRow false) := by
  have word : EscapeFree d.severity.word := by cases d.severity <;> decide
  refine .append (removes.leaves_painted _ ?_) (removes.leaves_painted _ ?_)
  · exact .append (.append (word.append (by decide)) free.code) (by decide)
  · exact .append (by decide) free.message

/-- What is left of the bar of a label. -/
theorem leaves_bar (removes : RemovesPaint remove) : Leaves remove (bar true) (bar false) :=
  .append (removes.leaves_self (by decide)) (removes.leaves_painted _ (by decide))

/-- What is left of a source line with its number. -/
theorem leaves_sourceRow (removes : RemovesPaint remove) (span : Span) {line : String}
    (free : EscapeFree line) : Leaves remove (sourceRow true span line) (sourceRow false span line) := by
  have number : EscapeFree (alignRight 4 (toString span.start.line) ++ " |") :=
    .append (.append (escapeFree_repeated (by decide) _) (escapeFree_toString _)) (by decide)
  have numbered : Leaves remove (numberedBar true span.start.line) (numberedBar false span.start.line) :=
    .append (removes.leaves_self (by decide)) (removes.leaves_painted _ number)
  exact .append (numbered.append (removes.leaves_self (by decide))) (removes.leaves_self free)

/-- What is left of the row of carets. -/
theorem leaves_caretRow (removes : RemovesPaint remove) (severity : Severity) (span : Span)
    (line : String) :
    Leaves remove (caretRow true severity span line) (caretRow false severity span line) := by
  refine .append (.append (.append (leaves_bar removes) (removes.leaves_self (by decide))) ?_) ?_
  · exact removes.leaves_self (escapeFree_repeated (by decide) _)
  · exact removes.leaves_painted _ (escapeFree_repeated (by decide) _)

/-- What is left of the row of a note. -/
theorem leaves_noteRow (removes : RemovesPaint remove) {note : String} (free : EscapeFree note) :
    Leaves remove (noteRow true note) (noteRow false note) := by
  refine .append (.append (.append (removes.leaves_self (by decide)) ?_) ?_) (removes.leaves_self free)
  · exact removes.leaves_painted _ (by decide)
  · exact removes.leaves_self (by decide)

/-- **What is left of the rows of a label**, if the line that it shows has no escapes. -/
theorem leaves_labelRows (removes : RemovesPaint remove) (filename : EscapeFree d.filename)
    (message : EscapeFree label.message)
    (shown : ∀ line ∈ sourceLine? source label.span.start.line, EscapeFree line) :
    List.Forall₂ (Leaves remove) (d.labelRows true source label) (d.labelRows false source label) := by
  have start : EscapeFree label.span.start.text :=
    .append (.append (escapeFree_toString _) (by decide)) (escapeFree_toString _)
  have place : Leaves remove
      ("  " ++ painted true .boldBlue "-->" ++ " " ++ d.filename ++ ":" ++ label.span.start.text)
      ("  " ++ painted false .boldBlue "-->" ++ " " ++ d.filename ++ ":" ++ label.span.start.text) := by
    have indented : EscapeFree "  " := by decide
    have pointing : EscapeFree "-->" := by decide
    have blank : EscapeFree " " := by decide
    have arrow := (removes.leaves_self indented).append (removes.leaves_painted .boldBlue pointing)
    have named := (arrow.append (removes.leaves_self blank)).append (removes.leaves_self filename)
    exact (named.append (removes.leaves_self (by decide))).append (removes.leaves_self start)
  unfold labelRows
  refine List.rel_append (List.rel_append (.cons place (.cons (leaves_bar removes) .nil)) ?_) ?_
  · cases found : sourceLine? source label.span.start.line with
    | none => exact .nil
    | some line =>
      exact .cons (leaves_sourceRow removes _ (shown line found))
        (.cons (leaves_caretRow removes _ _ _) .nil)
  · split
    · exact .nil
    · exact .cons (.append ((leaves_bar removes).append (removes.leaves_self (by decide)))
        (removes.leaves_painted _ message)) .nil

/-- **Of a picture with colours the picture without them is left**, if the lines that it shows
have no escapes. -/
theorem leaves_picture (removes : RemovesPaint remove) (free : d.IsEscapeFree)
    (shown : ∀ label ∈ d.labels, ∀ line ∈ sourceLine? source label.span.start.line, EscapeFree line) :
    Leaves remove (d.picture true source) (d.picture false source) := by
  refine removes.leaves_rows (.cons (leaves_headerRow removes free) (List.rel_append ?_ ?_))
  · refine List.rel_flatMap (R := fun label label' => label = label' ∧ label ∈ d.labels)
      (List.forall₂_same.2 fun label listed => ⟨rfl, listed⟩) ?_
    rintro label _ ⟨rfl, listed⟩
    exact leaves_labelRows removes free.filename (free.labels label listed) (shown label listed)
  · refine List.forall₂_map_left_iff.2 (List.forall₂_map_right_iff.2 (List.forall₂_same.2 ?_))
    exact fun note listed => leaves_noteRow removes (free.notes note listed)

end Diagnostic

/-! ## Renderings -/

namespace Renderer

/-- **A renderer with the given texts registered**, one after the other. -/
def registering (color : Bool) (registered : List (String × String)) : Renderer :=
  registered.foldl (fun r entry => r.addSource entry.1 entry.2) (new color)

variable {registered : List (String × String)} {d : Diagnostic}

/-- What is known when texts have been registered; the last one comes first. -/
theorem registering_eq (color : Bool) (registered : List (String × String)) :
    registering color registered =
      ⟨color, (registered.map fun entry => (entry.1, displayLines entry.2)).reverse⟩ := by
  induction registered using List.reverseRecOn with
  | nil => rfl
  | append_singleton earlier entry ih =>
    rw [registering, List.foldl_concat, ← registering, ih, List.map_append, List.reverse_append]
    rfl

/-- **A diagnostic about a registered file is shown** with or without colours, and the lines
shown are lines of registered texts. Nothing is learnt from it. -/
theorem render_registering (disk : Entry) (known : d.filename ∈ registered.map Prod.fst) :
    ∃ source : List String,
      (∀ line ∈ source, ∃ entry ∈ registered, line ∈ displayLines entry.2) ∧
      ∀ color, (registering color registered).render disk d =
        .ok (d.picture color source, registering color registered) := by
  by_cases noLabels : d.labels.isEmpty = true
  · exact ⟨[], by simp, fun color => by rw [render, if_pos noLabels, registering_eq]; rfl⟩
  · let sources := (registered.map fun entry => (entry.1, displayLines entry.2)).reverse
    cases found : sources.lookup d.filename with
    | none =>
      obtain ⟨entry, listed, same⟩ := List.mem_map.1 known
      have differs := List.lookup_eq_none_iff.1 found (entry.1, displayLines entry.2)
        (List.mem_reverse.2 (List.mem_map_of_mem listed))
      simp [same] at differs
    | some source =>
      obtain ⟨before, behind, cut, -⟩ := List.lookup_eq_some_iff.1 found
      have listed : (d.filename, source) ∈ sources := by simp [cut]
      obtain ⟨entry, ofEntry, same⟩ := List.mem_map.1 (List.mem_reverse.1 listed)
      refine ⟨source, fun line within => ⟨entry, ofEntry, ?_⟩, fun color => ?_⟩
      · have ofText : displayLines entry.2 = source := congrArg Prod.snd same
        rwa [ofText]
      · have looked : (registering color registered).linesOf disk d.filename =
            .ok (source, registering color registered) := by
          rw [registering_eq, linesOf, found]
          rfl
        rw [render, if_neg noLabels, looked, registering_eq]
        rfl

/-- **Colours add nothing but escapes.** With registered texts, and where no text involved has
an escape in it, a diagnostic about one of them is shown with colours and without, whatever its
severity, labels and notes; and the colours off, the picture with colours is the one without.
Printing off a terminal takes them off just so. -/
theorem render_uncoloured (disk : Entry) (known : d.filename ∈ registered.map Prod.fst)
    (free : d.IsEscapeFree) (sources : ∀ entry ∈ registered, EscapeFree entry.2) :
    ∃ coloured,
      (registering true registered).render disk d =
        .ok (coloured, registering true registered) ∧
      (registering false registered).render disk d =
        .ok (String.ofList (withoutColours coloured.toList), registering false registered) ∧
      CommandLine.printed false coloured = String.ofList (withoutColours coloured.toList) := by
  obtain ⟨source, ofSources, shown⟩ := render_registering disk known
  have lines (line : String) (listed : line ∈ source) : EscapeFree line := by
    obtain ⟨entry, ofEntry, ofText⟩ := ofSources line listed
    exact escapeFree_of_mem_displayLines (sources entry ofEntry) ofText
  have left {remove : List Char → List Char} (removes : RemovesPaint remove) :
      remove (d.picture true source).toList = (d.picture false source).toList :=
    (Diagnostic.leaves_picture removes free fun label _ line found =>
      lines line (Diagnostic.mem_of_sourceLine? found)).remove_eq removes
  refine ⟨_, shown true, ?_, ?_⟩
  · rw [left removesPaint_withoutColours, String.ofList_toList]
    exact shown false
  · rw [left removesPaint_withoutColours, CommandLine.printed, if_neg (by decide),
      left removesPaint_stripEscapes]

/-- A warning with two labels, one of which goes beyond the end of its line, and a note. -/
theorem render_uncoloured_warning :
    let d : Diagnostic :=
      { severity := .warning, code := "W1", message := "x is set twice", filename := "a.pas"
        labels := [⟨⟨⟨2, 3, 8⟩, ⟨3, 4, 16⟩⟩, "again", .primary⟩, ⟨⟨⟨7, 1, 0⟩, .zero⟩, "", .secondary⟩]
        notes := ["the first value is lost"] }
    d.IsEscapeFree ∧ ∃ coloured,
      (registering true [("a.pas", "begin\n  x := 1;\nend.")]).render (.folder []) d =
        .ok (coloured, registering true [("a.pas", "begin\n  x := 1;\nend.")]) ∧
      String.ofList (withoutColours coloured.toList) =
        "warning[W1]: x is set twice\n  --> a.pas:2:3\n     |\n     2 |   x := 1;\n     |   ^^^^^^^\n     |   again\n  --> a.pas:7:1\n     |\n  = note: the first value is lost" := by
  intro d
  have free : d.IsEscapeFree := ⟨by decide, by decide, by decide, by decide, by decide⟩
  have known : d.filename ∈ [("a.pas", "begin\n  x := 1;\nend.")].map Prod.fst := by decide
  obtain ⟨coloured, shown, uncoloured, -⟩ := render_uncoloured (.folder []) known free (by decide)
  refine ⟨free, coloured, shown, ?_⟩
  have picture : (registering false [("a.pas", "begin\n  x := 1;\nend.")]).render (.folder []) d =
      .ok ("warning[W1]: x is set twice\n  --> a.pas:2:3\n     |\n     2 |   x := 1;\n     |   ^^^^^^^\n     |   again\n  --> a.pas:7:1\n     |\n  = note: the first value is lost",
        registering false [("a.pas", "begin\n  x := 1;\nend.")]) := by
    decide +kernel
  exact congrArg Prod.fst (Except.ok.inj (uncoloured.symm.trans picture))

end Renderer

end PascalFront
