import PascalFront.Proofs.Tree.Sketched
/-!
# A tree is recovered from its sketch

The first line of a node names its sort, and the sort tells which parts there are, under which
names and in which order. A part that may be absent is the last one, and of a part that is a row
of nodes it is seen whether the row is empty. So trees whose sketches have the same lines are the
same up to their spans (`Sketch.ofProgram_inj`): the texts, truth values and numbers in them have
different forms if they are different, and the nodes below are compared by induction.
-/

namespace PascalFront

namespace Sketch

open LineTree (leaf)

variable {name : String} {rest rest' : List Part}

/-! ## Parts -/

theorem quotedString_inj {v w : String} : Text.quotedString v = Text.quotedString w ↔ v = w := by
  refine ⟨fun same => ?_, fun same => by rw [same]⟩
  exact String.toList_injective (Text.quoted_injective (String.ofList_injective same))

theorem truthText_inj {v w : Bool} : truthText v = truthText w ↔ v = w := by
  cases v <;> cases w <;> decide

@[simp] theorem parts_text_inj {v w : String} :
    partsTrees (.text name v :: rest) = partsTrees (.text name w :: rest') ↔
      v = w ∧ partsTrees rest = partsTrees rest' := by
  simp [partsTrees, partTrees, leaf, quotedString_inj]

@[simp] theorem parts_boolean_inj {v w : Bool} :
    partsTrees (.boolean name v :: rest) = partsTrees (.boolean name w :: rest') ↔
      v = w ∧ partsTrees rest = partsTrees rest' := by
  simp [partsTrees, partTrees, leaf, truthText_inj]

@[simp] theorem parts_number_inj {v w : Number} :
    partsTrees (.number name v :: rest) = partsTrees (.number name w :: rest') ↔
      v = w ∧ partsTrees rest = partsTrees rest' := by
  simp [partsTrees, partTrees, leaf, Number.text_injective.eq_iff]

@[simp] theorem parts_child_inj {s t : Sketch} :
    partsTrees (.child name s :: rest) = partsTrees (.child name t :: rest') ↔
      lineTree s = lineTree t ∧ partsTrees rest = partsTrees rest' := by
  simp [partsTrees, partTrees]

@[simp] theorem parts_children_inj {l m : List Sketch} :
    partsTrees (.children name l :: rest) = partsTrees (.children name m :: rest') ↔
      manyTrees l = manyTrees m ∧ partsTrees rest = partsTrees rest' := by
  cases l <;> cases m <;> simp [partsTrees, partTrees, leaf, manyTrees]

@[simp] theorem partsTrees_absent : partsTrees (.absent name :: rest) = partsTrees rest := rfl

@[simp] theorem partsTrees_nil : partsTrees [] = [] := rfl

@[simp] theorem partsTrees_child_ne_nil {s : Sketch} :
    partsTrees (.child name s :: rest) ≠ [] := by
  simp [partsTrees, partTrees]

@[simp] theorem lineTree_node_inj {sort sort' : String} {span span' : Span}
    {parts parts' : List Part} :
    lineTree (node sort span parts) = lineTree (node sort' span' parts') ↔
      sort = sort' ∧ partsTrees parts = partsTrees parts' := by
  simp [lineTree]

/-! ## Expressions -/

theorem ofName_inj {m n : Name} :
    lineTree (ofName m) = lineTree (ofName n) ↔
      m.relabelled .unplaced = n.relabelled .unplaced := by
  simp [ofName, Name.relabelled]

mutual

/-- **The sketch of an expression tells the expression**, without its spans. -/
theorem ofExpr_inj (e e' : Expr) :
    lineTree (ofExpr e) = lineTree (ofExpr e') ↔
      e.relabelled .unplaced = e'.relabelled .unplaced := by
  -- The first line tells whether the other expression is of the same form as this one.
  match e with
  | .name n =>
    cases e' <;> simp [ofExpr, ofName, Expr.relabelled, Name.relabelled]
  | .number value _ | .text value _ | .boolean value _ =>
    cases e' <;> simp [ofExpr, ofName, Expr.relabelled]
  | .binary operator left right _ =>
    cases e' <;> simp [ofExpr, ofName, Expr.relabelled, ofExpr_inj left,
      ofExpr_inj right]
  | .unary operator operand _ =>
    cases e' <;> simp [ofExpr, ofName, Expr.relabelled, ofExpr_inj operand]
  | .call callee items _ =>
    cases e' <;> simp [ofExpr, ofName, Expr.relabelled, ofExprs_inj items]

/-- The sketches of expressions tell the expressions. -/
theorem ofExprs_inj (items items' : List Expr) :
    manyTrees (ofExprs items) = manyTrees (ofExprs items') ↔
      items.map (Expr.relabelled .unplaced) = items'.map (Expr.relabelled .unplaced) := by
  match items with
  | [] => cases items' <;> simp [ofExprs, manyTrees]
  | e :: rest => cases items' <;> simp [ofExprs, manyTrees, ofExpr_inj e, ofExprs_inj rest]

end

/-! ## Statements -/

theorem directionWord_inj {d d' : Direction} : d.word = d'.word ↔ d = d' := by
  cases d <;> cases d' <;> decide

mutual

/-- **The sketch of a statement tells the statement**, without its spans. -/
theorem ofStatement_inj (s s' : Statement) :
    lineTree (ofStatement s) = lineTree (ofStatement s') ↔
      s.relabelled .unplaced = s'.relabelled .unplaced := by
  match s with
  | .assignment target value _ =>
    cases s' <;> simp [ofStatement, Statement.relabelled_conditional, Statement.relabelled,
      ofName_inj, ofExpr_inj]
  | .conditional condition thenBranch elseBranch _ =>
    cases s' <;> simp [ofStatement, Statement.relabelled_conditional, Statement.relabelled,
      ofExpr_inj, ofStatement_inj thenBranch, elsePart_inj elseBranch]
  | .repetition condition body _ =>
    cases s' <;> simp [ofStatement, Statement.relabelled_conditional, Statement.relabelled,
      ofExpr_inj, ofStatement_inj body]
  | .counting counter first last body direction _ =>
    cases s' <;> simp [ofStatement, Statement.relabelled_conditional, Statement.relabelled,
      ofName_inj, ofExpr_inj, ofStatement_inj body, directionWord_inj]
  | .call callee items _ =>
    cases s' <;> simp [ofStatement, Statement.relabelled_conditional, Statement.relabelled,
      ofExprs_inj]
  | .compound statements _ =>
    cases s' <;> simp [ofStatement, Statement.relabelled_conditional, Statement.relabelled,
      ofStatements_inj statements]

/-- The part for the branch behind `else` tells whether there is one, and which. -/
theorem elsePart_inj (branch branch' : Option Statement) :
    partsTrees [elsePart branch] = partsTrees [elsePart branch'] ↔
      branch.map (Statement.relabelled .unplaced) = branch'.map (Statement.relabelled .unplaced) := by
  match branch with
  | none => cases branch' <;> simp [elsePart, partsTrees_child_ne_nil.symm]
  | some s => cases branch' <;> simp [elsePart, ofStatement_inj s]

/-- The sketches of statements tell the statements. -/
theorem ofStatements_inj (items items' : List Statement) :
    manyTrees (ofStatements items) = manyTrees (ofStatements items') ↔
      items.map (Statement.relabelled .unplaced) = items'.map (Statement.relabelled .unplaced) := by
  match items with
  | [] => cases items' <;> simp [ofStatements, manyTrees]
  | s :: rest =>
    cases items' <;> simp [ofStatements, manyTrees, ofStatement_inj s, ofStatements_inj rest]

end

/-! ## Declarations -/

theorem ofParameter_inj (p q : Parameter) :
    lineTree (ofParameter p) = lineTree (ofParameter q) ↔
      p.relabelled .unplaced = q.relabelled .unplaced := by
  simp [ofParameter, Parameter.relabelled]

theorem ofParameters_inj (items items' : List Parameter) :
    manyTrees (items.map ofParameter) = manyTrees (items'.map ofParameter) ↔
      items.map (Parameter.relabelled .unplaced) = items'.map (Parameter.relabelled .unplaced) := by
  induction items generalizing items' with
  | nil => cases items' <;> simp [manyTrees]
  | cons p rest ih => cases items' <;> simp [manyTrees, ofParameter_inj, ih]

mutual

/-- **The sketch of a declaration tells the declaration**, without its spans. -/
theorem ofDeclaration_inj (d d' : Declaration) :
    lineTree (ofDeclaration d) = lineTree (ofDeclaration d') ↔
      d.relabelled .unplaced = d'.relabelled .unplaced := by
  match d with
  | .var name typeName _ =>
    cases d' <;> simp [ofDeclaration, Declaration.relabelled]
  | .function name parameters returnType body _ =>
    cases d' <;> simp [ofDeclaration, Declaration.relabelled, ofParameters_inj,
      bodyPart_inj body]
  | .procedure name parameters body _ =>
    cases d' <;> simp [ofDeclaration, Declaration.relabelled, ofParameters_inj,
      bodyPart_inj body]

/-- The part for the body of a routine tells whether there is one, and which. -/
theorem bodyPart_inj (body body' : Option Block) :
    partsTrees [bodyPart body] = partsTrees [bodyPart body'] ↔
      Block.relabelledOption .unplaced body = Block.relabelledOption .unplaced body' := by
  match body with
  | none =>
    rcases body' with - | ⟨statements', declarations', span'⟩ <;>
      simp [bodyPart, Block.relabelledOption, partsTrees_child_ne_nil.symm]
  | some (.mk statements declarations span) =>
    rcases body' with - | ⟨statements', declarations', span'⟩ <;>
      simp [bodyPart, Block.relabelledOption, ofBlock, ofStatements_inj,
        ofDeclarations_inj declarations]

/-- The sketches of declarations tell the declarations. -/
theorem ofDeclarations_inj (items items' : List Declaration) :
    manyTrees (ofDeclarations items) = manyTrees (ofDeclarations items') ↔
      items.map (Declaration.relabelled .unplaced) =
        items'.map (Declaration.relabelled .unplaced) := by
  match items with
  | [] => cases items' <;> simp [ofDeclarations, manyTrees]
  | d :: rest =>
    cases items' <;> simp [ofDeclarations, manyTrees, ofDeclaration_inj d, ofDeclarations_inj rest]

end

/-- **The sketch of a program tells the program**, without its spans. -/
theorem ofProgram_inj (p q : Program) :
    lineTree (ofProgram p) = lineTree (ofProgram q) ↔
      p.relabelled .unplaced = q.relabelled .unplaced := by
  simp [ofProgram, Program.relabelled, ofStatements_inj, ofDeclarations_inj]

end Sketch

end PascalFront
