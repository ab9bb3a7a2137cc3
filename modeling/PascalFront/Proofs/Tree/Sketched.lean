import PascalFront.Proofs.Numeral.Written
import PascalFront.Proofs.Text.Quoted
import PascalFront.Proofs.Tree.Indented
import PascalFront.Proofs.Tree.Relabelled
/-!
# Sketches as trees of lines

A sketch is written in lines that belong together by their indentation, so it is a tree of lines
that is written (`Sketch.lines_eq`). Every line begins with the name of a sort or of a part, and
the values behind the names are put in a form that can be printed; so no line begins with a space
of its own, and none has a line end in it (`Sketch.each_ofProgram`).
-/

namespace PascalFront

namespace Sketch

open LineTree (leaf Each EachAll Flush)

/-! ## A sketch as a tree of lines -/

mutual

/-- **The tree of lines of a sketch**, the spans left out. -/
def lineTree : Sketch → LineTree
  | node sort _ parts => .node sort (partsTrees parts)

/-- The trees of lines of a part, one or none. -/
def partTrees : Part → List LineTree
  | .text name value => [leaf (name ++ ": " ++ Text.quotedString value)]
  | .boolean name value => [leaf (name ++ ": " ++ truthText value)]
  | .number name value => [leaf (name ++ ": " ++ value.text)]
  | .absent _ => []
  | .child name sketch => [.node (name ++ ":") [lineTree sketch]]
  | .children name [] => [leaf (name ++ ": []")]
  | .children name (sketch :: rest) => [.node (name ++ ":") (lineTree sketch :: manyTrees rest)]

/-- The trees of lines of parts one after another. -/
def partsTrees : List Part → List LineTree
  | [] => []
  | part :: rest => partTrees part ++ partsTrees rest

/-- The trees of lines of nodes one after another. -/
def manyTrees : List Sketch → List LineTree
  | [] => []
  | sketch :: rest => lineTree sketch :: manyTrees rest

end

mutual

/-- **The lines of a sketch are those of its tree of lines.** -/
theorem lines_eq (depth : Nat) (s : Sketch) : lines false depth s = (lineTree s).lines depth := by
  match s with
  | node sort span parts =>
    rw [lines, lineTree, LineTree.lines, partsLines_eq]
    rfl

theorem partLines_eq (depth : Nat) (part : Part) :
    partLines false depth part = LineTree.linesAll depth (partTrees part) := by
  match part with
  | .text .. | .boolean .. | .number .. | .absent _ | .children _ [] =>
    simp [partLines, partTrees, leaf, LineTree.linesAll, LineTree.lines]
  | .child name sketch =>
    simp [partLines, partTrees, LineTree.linesAll, LineTree.lines, lines_eq]
  | .children name (sketch :: rest) =>
    simp [partLines, partTrees, LineTree.linesAll, LineTree.lines, lines_eq, manyLines_eq]

theorem partsLines_eq (depth : Nat) (parts : List Part) :
    partsLines false depth parts = LineTree.linesAll depth (partsTrees parts) := by
  match parts with
  | [] => simp [partsLines, partsTrees, LineTree.linesAll]
  | part :: rest =>
    rw [partsLines, partsTrees, partLines_eq, partsLines_eq, LineTree.linesAll_concat]

theorem manyLines_eq (depth : Nat) (sketches : List Sketch) :
    manyLines false depth sketches = LineTree.linesAll depth (manyTrees sketches) := by
  match sketches with
  | [] => simp [manyLines, manyTrees, LineTree.linesAll]
  | sketch :: rest =>
    rw [manyLines, manyTrees, LineTree.linesAll, lines_eq, manyLines_eq]

end

/-! ## What stands in the lines -/

instance : DecidablePred Flush :=
  fun line => inferInstanceAs (Decidable (line.toList.head? ≠ some ' '))

/-- **A line of a sketch** does not begin with a space and can be printed. -/
def IsLabel (line : String) : Prop := Flush line ∧ line.toList.all Text.isPrintable = true

instance : DecidablePred IsLabel :=
  fun line => inferInstanceAs (Decidable (Flush line ∧ line.toList.all Text.isPrintable = true))

/-- The name of a sort or of a part. -/
def IsName (name : String) : Prop := name ≠ "" ∧ IsLabel name

instance : DecidablePred IsName :=
  fun name => inferInstanceAs (Decidable (name ≠ "" ∧ IsLabel name))

theorem IsName.append {name rest : String} (h : IsName name)
    (printable : rest.toList.all Text.isPrintable = true) : IsLabel (name ++ rest) := by
  obtain ⟨notEmpty, flush, printable'⟩ := h
  unfold IsLabel Flush at *
  rw [String.toList_append, List.all_append, printable', printable]
  refine ⟨?_, rfl⟩
  rw [List.head?_append_of_ne_nil _ (by simpa using notEmpty)]
  exact flush

theorem IsName.valued {name value : String} (h : IsName name)
    (printable : ∀ c ∈ value.toList, Text.isPrintable c = true) :
    IsLabel (name ++ ": " ++ value) := by
  have colon : ": ".toList.all Text.isPrintable = true := by decide +kernel
  rw [String.append_assoc]
  refine h.append ?_
  rw [String.toList_append, List.all_append, colon, List.all_eq_true.2 printable]
  rfl

/-- The lines of a part are such lines. -/
def Labelled (part : Part) : Prop := EachAll IsLabel (partTrees part)

section

-- The names are fixed texts, so that they are names is decided wherever one of them is used.
variable {name : String}

theorem labelled_text (value : String) (h : IsName name := by decide +kernel) :
    Labelled (.text name value) := by
  refine ⟨⟨h.valued ?_, trivial⟩, trivial⟩
  rw [Text.quotedString, String.toList_ofList]
  exact Text.isPrintable_quoted value.toList

theorem labelled_boolean (value : Bool) (h : IsName name := by decide +kernel) :
    Labelled (.boolean name value) :=
  ⟨⟨h.valued (List.all_eq_true.1 (by cases value <;> decide +kernel)), trivial⟩, trivial⟩

theorem labelled_number (value : Number) (h : IsName name := by decide +kernel) :
    Labelled (.number name value) :=
  ⟨⟨h.valued value.isPrintable_text, trivial⟩, trivial⟩

theorem labelled_absent (name : String) : Labelled (.absent name) := trivial

theorem labelled_child {s : Sketch} (below : (lineTree s).Each IsLabel)
    (h : IsName name := by decide +kernel) : Labelled (.child name s) :=
  ⟨⟨h.append (by decide +kernel), below, trivial⟩, trivial⟩

theorem labelled_children {sketches : List Sketch} (below : EachAll IsLabel (manyTrees sketches))
    (h : IsName name := by decide +kernel) : Labelled (.children name sketches) := by
  cases sketches with
  | nil => exact ⟨⟨h.append (by decide +kernel), trivial⟩, trivial⟩
  | cons s rest => exact ⟨⟨h.append (by decide +kernel), below⟩, trivial⟩

theorem each_node {sort : String} {span : Span} {parts : List Part}
    (labelled : parts.Forall Labelled) (h : IsName sort := by decide +kernel) :
    (lineTree (node sort span parts)).Each IsLabel := by
  refine ⟨h.2, ?_⟩
  induction parts with
  | nil => exact trivial
  | cons part rest ih =>
    rw [List.forall_cons] at labelled
    exact LineTree.eachAll_concat.2 ⟨labelled.1, ih labelled.2⟩

end

theorem each_ofName (n : Name) : (lineTree (ofName n)).Each IsLabel :=
  each_node (labelled_text n.text)

mutual

theorem each_ofExpr (e : Expr) : (lineTree (ofExpr e)).Each IsLabel := by
  match e with
  | .name n => exact each_ofName n
  | .number value _ => exact each_node (labelled_number value)
  | .text value _ => exact each_node (labelled_text value)
  | .boolean value _ => exact each_node (labelled_boolean value)
  | .binary operator left right _ =>
    exact each_node ⟨labelled_text operator, labelled_child (each_ofExpr left),
      labelled_child (each_ofExpr right)⟩
  | .unary operator operand _ =>
    exact each_node ⟨labelled_text operator, labelled_child (each_ofExpr operand)⟩
  | .call callee items _ =>
    exact each_node ⟨labelled_text callee, labelled_children (each_ofExprs items)⟩

theorem each_ofExprs (items : List Expr) : EachAll IsLabel (manyTrees (ofExprs items)) := by
  match items with
  | [] => exact trivial
  | e :: rest => exact ⟨each_ofExpr e, each_ofExprs rest⟩

end

mutual

theorem each_ofStatement (s : Statement) : (lineTree (ofStatement s)).Each IsLabel := by
  match s with
  | .assignment target value _ =>
    exact each_node ⟨labelled_child (each_ofName target), labelled_child (each_ofExpr value)⟩
  | .conditional condition thenBranch elseBranch _ =>
    exact each_node ⟨labelled_child (each_ofExpr condition),
      labelled_child (each_ofStatement thenBranch), labelled_elsePart elseBranch⟩
  | .repetition condition body _ =>
    exact each_node ⟨labelled_child (each_ofExpr condition),
      labelled_child (each_ofStatement body)⟩
  | .counting counter first last body direction _ =>
    exact each_node ⟨labelled_child (each_ofName counter), labelled_child (each_ofExpr first),
      labelled_child (each_ofExpr last), labelled_child (each_ofStatement body),
      labelled_text direction.word⟩
  | .call callee items _ =>
    exact each_node ⟨labelled_text callee, labelled_children (each_ofExprs items)⟩
  | .compound statements _ => exact each_node (labelled_children (each_ofStatements statements))

theorem labelled_elsePart (branch : Option Statement) : Labelled (elsePart branch) := by
  match branch with
  | none => exact labelled_absent _
  | some s => exact labelled_child (each_ofStatement s)

theorem each_ofStatements (items : List Statement) :
    EachAll IsLabel (manyTrees (ofStatements items)) := by
  match items with
  | [] => exact trivial
  | s :: rest => exact ⟨each_ofStatement s, each_ofStatements rest⟩

end

theorem each_ofParameter (p : Parameter) : (lineTree (ofParameter p)).Each IsLabel :=
  each_node ⟨labelled_text p.name, labelled_text p.typeName, labelled_boolean p.byReference⟩

theorem each_ofParameters (parameters : List Parameter) :
    EachAll IsLabel (manyTrees (parameters.map ofParameter)) := by
  induction parameters with
  | nil => exact trivial
  | cons p rest ih => exact ⟨each_ofParameter p, ih⟩

mutual

theorem each_ofDeclaration (d : Declaration) : (lineTree (ofDeclaration d)).Each IsLabel := by
  match d with
  | .var name typeName _ => exact each_node ⟨labelled_text name, labelled_text typeName⟩
  | .function name parameters returnType body _ =>
    exact each_node ⟨labelled_text name, labelled_children (each_ofParameters parameters),
      labelled_text returnType, labelled_bodyPart body⟩
  | .procedure name parameters body _ =>
    exact each_node ⟨labelled_text name, labelled_children (each_ofParameters parameters),
      labelled_bodyPart body⟩

theorem labelled_bodyPart (body : Option Block) : Labelled (bodyPart body) := by
  match body with
  | none => exact labelled_absent _
  | some (.mk statements declarations _) =>
    exact labelled_child (each_node ⟨labelled_children (each_ofStatements statements),
      labelled_children (each_ofDeclarations declarations)⟩)

theorem each_ofDeclarations (items : List Declaration) :
    EachAll IsLabel (manyTrees (ofDeclarations items)) := by
  match items with
  | [] => exact trivial
  | d :: rest => exact ⟨each_ofDeclaration d, each_ofDeclarations rest⟩

end

/-- **The lines of the sketch of a program** do not begin with a space by themselves and can be
printed. -/
theorem each_ofProgram (p : Program) : (lineTree (ofProgram p)).Each IsLabel :=
  each_node ⟨labelled_text p.name, labelled_children (each_ofDeclarations p.declarations),
    labelled_children (each_ofStatements p.statements)⟩

end Sketch

end PascalFront
