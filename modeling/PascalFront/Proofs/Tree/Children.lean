import PascalFront.Proofs.Tree.StandsOn
import PascalFront.Proofs.Tree.Rules
/-!
# Children on tokens

What a node stands on its children stand on: each on a stretch of the tokens of
the node. The parts of a node are on stretches one behind the other
(`Node.InOrder`); what is declared at a node is staggered, each beginning where
the one before begins or later (`Node.Staggered`). So every node in a tree stands
on a stretch of the tokens of the whole tree (`Node.StandsOn.of_isIn`).
-/

namespace PascalFront

open Standing

namespace Node

/-- **Nodes in order**: they stand on stretches of tokens one behind the other. -/
inductive InOrder : List Node → List Token → Prop where
  | nil (u : List Token) : InOrder [] u
  | cons {n : Node} {others : List Node} {v u : List Token} (gap : List Token) (first : n.StandsOn v)
      (behind : InOrder others u) : InOrder (n :: others) (gap ++ (v ++ u))

/-- **Nodes staggered**: each stands on a stretch of tokens that begins where the
one before begins or later. -/
inductive Staggered : List Node → List Token → Prop where
  | nil (u : List Token) : Staggered [] u
  | cons {n : Node} {others : List Node} {v u : List Token} (gap : List Token) (first : n.StandsOn v)
      (further : Staggered others (v ++ u)) : Staggered (n :: others) (gap ++ (v ++ u))

variable {α : Type} {ns others : List Node} {n : Node} {u v w : List Token}

/-! ## Stretches -/

/-- More tokens in front. -/
theorem InOrder.prepend (h : InOrder ns u) (w : List Token) : InOrder ns (w ++ u) := by
  cases h with
  | nil => exact .nil _
  | cons gap first behind =>
    rw [← List.append_assoc]
    exact .cons (w ++ gap) first behind

/-- More tokens in front. -/
theorem InOrder.prepend_one (h : InOrder ns u) (t : Token) : InOrder ns (t :: u) := h.prepend [t]

/-- Nodes and others behind them. -/
theorem InOrder.append (h : InOrder ns u) (behind : InOrder others w) :
    InOrder (ns ++ others) (u ++ w) := by
  induction h with
  | nil u => exact behind.prepend u
  | cons gap first _ ih =>
    rw [List.append_assoc, List.append_assoc]
    exact .cons gap first ih

/-- More tokens behind. -/
theorem InOrder.extend (h : InOrder ns u) (w : List Token) : InOrder ns (u ++ w) := by
  rw [← List.append_nil ns]
  exact h.append (.nil w)

/-- One node on all of the tokens. -/
theorem InOrder.single (h : n.StandsOn u) : InOrder [n] u := by
  have := InOrder.cons [] h (.nil [])
  rwa [List.nil_append, List.append_nil] at this

/-- More tokens in front. -/
theorem Staggered.prepend (h : Staggered ns u) (w : List Token) : Staggered ns (w ++ u) := by
  cases h with
  | nil => exact .nil _
  | cons gap first further =>
    rw [← List.append_assoc]
    exact .cons (w ++ gap) first further

/-- More tokens in front. -/
theorem Staggered.prepend_one (h : Staggered ns u) (t : Token) : Staggered ns (t :: u) := h.prepend [t]

/-- Nodes and others that begin behind them. -/
theorem Staggered.append (h : Staggered ns u) (behind : Staggered others w) :
    Staggered (ns ++ others) (u ++ w) := by
  induction h with
  | nil u => exact behind.prepend u
  | cons gap first _ ih =>
    rw [List.append_assoc, List.append_assoc]
    rw [List.append_assoc] at ih
    exact .cons gap first ih

/-- More tokens behind. -/
theorem Staggered.extend (h : Staggered ns u) (w : List Token) : Staggered ns (u ++ w) := by
  rw [← List.append_nil ns]
  exact h.append (.nil w)

/-- A node in front that begins no later than the others. -/
theorem Staggered.front (first : n.StandsOn u) (h : Staggered others u) :
    Staggered (n :: others) u := by
  rw [← List.append_nil u, ← List.nil_append (u ++ [])]
  exact .cons [] first (h.extend [])

/-- One node on all of the tokens. -/
theorem Staggered.single (h : n.StandsOn u) : Staggered [n] u := .front h (.nil u)

/-- Each of the nodes stands on a stretch. -/
theorem InOrder.exists_infix (h : InOrder ns u) (listed : n ∈ ns) : ∃ v, v <:+: u ∧ n.StandsOn v := by
  induction h with
  | nil => exact absurd listed List.not_mem_nil
  | @cons c others v u gap first _ ih =>
    rcases List.mem_cons.1 listed with rfl | listed
    · exact ⟨v, ⟨gap, u, List.append_assoc ..⟩, first⟩
    · obtain ⟨w, inside, on⟩ := ih listed
      refine ⟨w, inside.trans ?_, on⟩
      rw [← List.append_assoc]
      exact (List.suffix_append ..).isInfix

/-- Each of the nodes stands on a stretch. -/
theorem Staggered.exists_infix (h : Staggered ns u) (listed : n ∈ ns) :
    ∃ v, v <:+: u ∧ n.StandsOn v := by
  induction h with
  | nil => exact absurd listed List.not_mem_nil
  | @cons c others v u gap first _ ih =>
    rcases List.mem_cons.1 listed with rfl | listed
    · exact ⟨v, ⟨gap, u, List.append_assoc ..⟩, first⟩
    · obtain ⟨w, inside, on⟩ := ih listed
      exact ⟨w, inside.trans (List.suffix_append ..).isInfix, on⟩

/-! ## Rows -/

section Rows

variable {On : α → List Token → Prop} {f : α → Node} {items : List α}

/-- A row of things is in order. -/
theorem InOrder.of_row (each : ∀ a u, On a u → InOrder [f a] u) (h : Row On items u) :
    InOrder (items.map f) u := by
  induction h with
  | nil => exact .nil _
  | cons first _ ih => exact (each _ _ first).append ih

/-- Things with separators between them are in order. -/
theorem InOrder.of_listed {Separates : Token → Prop} (each : ∀ a u, On a u → (f a).StandsOn u)
    (h : Listed Separates On items u) : InOrder (items.map f) u := by
  induction h with
  | single first => exact .single (each _ _ first)
  | cons first _ _ ih => exact (InOrder.single (each _ _ first)).append (ih.prepend_one _)

/-- The arguments of a call are in order. -/
theorem InOrder.of_arguments (each : ∀ a u, On a u → (f a).StandsOn u) (h : Arguments On items u) :
    InOrder (items.map f) u := by
  cases h with
  | none => exact .nil _
  | some onItems _ => exact (InOrder.of_listed each onItems).extend _

/-- Lists one behind the other are staggered if each list is. -/
theorem Staggered.of_joined {On : List α → List Token → Prop}
    (each : ∀ as u, On as u → Staggered (as.map f) u) (h : Joined On items u) :
    Staggered (items.map f) u := by
  induction h with
  | nil => exact .nil _
  | cons here _ ih =>
    rw [List.map_append]
    exact (each _ _ here).append ih

/-- What a group declares is staggered, each on the tokens from its name on. -/
theorem Staggered.of_group {type : Token} {On : Token → List Token → α → Prop}
    (each : ∀ name u a, name.kind = .identifier → u.head? = some name → u.getLast? = some type →
      On name u a → (f a).StandsOn u)
    (h : Group type On items u) : Staggered (items.map f) u ∧ u.getLast? = some type := by
  induction h with
  | last isName _ on => exact ⟨.single (each _ _ _ isName rfl rfl on), rfl⟩
  | @more a others u name comma isName _ on _ ih =>
    have back : (name :: comma :: u).getLast? = some type := by
      rw [List.getLast?_cons_cons, List.getLast?_cons, ih.2]
      rfl
    exact ⟨.front (each _ _ _ isName rfl back on) ((ih.1.prepend_one comma).prepend_one name), back⟩

/-- Lists with separators between them are staggered if each list is. -/
theorem Staggered.of_listed {Separates : Token → Prop} {On : List α → List Token → Prop}
    {lists : List (List α)} (each : ∀ as u, On as u → Staggered (as.map f) u)
    (h : Listed Separates On lists u) : Staggered (lists.flatten.map f) u := by
  induction h with
  | single first =>
    rw [List.flatten_singleton]
    exact each _ _ first
  | cons first _ _ ih =>
    rw [List.flatten_cons, List.map_append]
    exact (each _ _ first).append (ih.prepend_one _)

/-- Nodes that all stand on the same tokens are staggered. -/
theorem Staggered.of_all (h : ∀ a ∈ items, (f a).StandsOn u) : Staggered (items.map f) u := by
  induction items with
  | nil => exact .nil u
  | cons a items ih =>
    exact .front (h a List.mem_cons_self) (ih fun a listed => h a (List.mem_cons_of_mem _ listed))

/-- Everything that a group declares stands behind a name. -/
theorem exists_of_group {type : Token} {On : Token → List Token → α → Prop} {a : α}
    (h : Group type On items u) (listed : a ∈ items) : ∃ name v, On name v a := by
  induction h with
  | last _ _ on =>
    obtain rfl := List.mem_singleton.1 listed
    exact ⟨_, _, on⟩
  | more _ _ on _ ih =>
    rcases List.mem_cons.1 listed with rfl | listed
    · exact ⟨_, _, on⟩
    · exact ih listed

end Rows

/-! ## The children of each node -/

/-- A name on its token. -/
theorem standsOn_name {t : Token} (isName : t.kind = .identifier) :
    (expression (.name ⟨t.value, t.span⟩)).StandsOn [t] :=
  Expr.Forms.standsOn (.name isName rfl) (Span.runsOver_spanOver [t])

/-- One expression. -/
theorem InOrder.one {e : Expr} (h : e.StandsOn u) : InOrder [expression e] u := .single h

/-- The parts of an expression are in order. -/
theorem inOrder_expression {e : Expr} (h : e.StandsOn u) : InOrder (expression e).parts u := by
  cases h with
  | @mk _ core _ form enclosed runs =>
    have inside : InOrder (expression e).parts core := by
      cases form with
      | name | number | text | true | false => exact .nil _
      | binary onLeft _ onRight => exact (InOrder.one onLeft).append ((InOrder.one onRight).prepend_one _)
      | unary _ onOperand => exact (InOrder.one onOperand).prepend_one _
      | call _ _ onItems =>
        exact ((InOrder.of_arguments (fun _ _ => id) onItems).prepend_one _).prepend_one _
    clear form runs
    induction enclosed with
    | bare => exact inside
    | around _ _ _ ih => exact (ih.extend _).prepend_one _

/-- A statement with the semicolon behind it. -/
theorem inOrder_terminated {s : Statement} (h : s.Terminated u) : InOrder [statement s] u := by
  cases h with
  | bare on => exact InOrder.single (n := statement s) on
  | semicolon _ _ on => exact (InOrder.single (n := statement s) on).extend _

/-- Statements one behind the other are in order. -/
theorem inOrder_statements {items : List Statement} (h : Row Statement.Terminated items u) :
    InOrder (items.map statement) u :=
  .of_row (fun _ _ => inOrder_terminated) h

/-- The parts of a statement are in order. -/
theorem inOrder_statement {s : Statement} (h : s.StandsOn u) : InOrder (statement s).parts u := by
  cases h with
  | assignment isName _ onValue _ =>
    exact (InOrder.single (standsOn_name isName)).append ((InOrder.one onValue).prepend_one _)
  | call _ _ onItems _ =>
    exact ((InOrder.of_arguments (fun _ _ => id) onItems).prepend_one _).prepend_one _
  | choice _ onCondition _ onBranch _ =>
    exact ((InOrder.one onCondition).append ((inOrder_terminated onBranch).prepend_one _)).prepend_one _
  | @twoChoices first then_ else_ _ _ _ _ _ _ _ _ onCondition _ onBranch _ onOther _ =>
    have branches := (inOrder_terminated onBranch).append
      ((inOrder_terminated onOther).prepend_one else_)
    exact ((InOrder.one onCondition).append (branches.prepend_one then_)).prepend_one first
  | repetition _ onCondition _ onBody _ =>
    exact ((InOrder.one onCondition).append ((inOrder_terminated onBody).prepend_one _)).prepend_one _
  | @counting first _ assign way do_ _ _ _ _ _ _ _ _ _ isName _ onStart _ onStop _ onBody _ =>
    have range := (InOrder.one onStop).append ((inOrder_terminated onBody).prepend_one do_)
    have behind := (InOrder.one onStart).append (range.prepend_one way)
    exact ((InOrder.single (standsOn_name isName)).append (behind.prepend_one assign)).prepend_one first
  | compound _ onItems _ _ => exact ((inOrder_statements onItems).extend _).prepend_one _

/-- Variables of one type are staggered. -/
theorem staggered_variables {ds : List Declaration} (h : Variables ds u) :
    Staggered (ds.map declaration) u := by
  cases h with
  | mk isType group _ =>
    refine (Staggered.of_group (fun name v d isName front back on => ?_) group).1.extend _
    exact Declaration.StandsOn.var front back isName isType on

/-- A section of variables or a routine is staggered. -/
theorem staggered_section {ds : List Declaration}
    (h : Standing.Section Declaration.StandsOn ds u) : Staggered (ds.map declaration) u := by
  cases h with
  | varSection _ onGroups =>
    exact (Staggered.of_joined (fun _ _ => staggered_variables) onGroups).prepend_one _
  | routine _ on => exact .single on

/-- Declarations are staggered. -/
theorem staggered_declarations {ds : List Declaration}
    (h : Joined (Standing.Section Declaration.StandsOn) ds u) : Staggered (ds.map declaration) u :=
  .of_joined (fun _ _ => staggered_section) h

/-- Parameters of one type are staggered. -/
theorem staggered_parameters {formal : List Parameter} (h : Parameters formal u) :
    Staggered (formal.map parameter) u := by
  cases h with
  | values _ group => exact (Staggered.of_group (fun _ _ _ _ _ _ on => on.2.2) group).1
  | references _ _ group =>
    refine Staggered.of_all fun p listed => ?_
    obtain ⟨_, _, on⟩ := exists_of_group group listed
    exact on.2.2

/-- The parameters of a routine are staggered. -/
theorem staggered_formal {formal : List Parameter} (h : Formal formal u) :
    Staggered (formal.map parameter) u := by
  cases h with
  | absent | empty => exact .nil _
  | some _ onGroups _ =>
    exact ((Staggered.of_listed (fun _ _ => staggered_parameters) onGroups).extend _).prepend_one _

/-- The parts of a node are in order. -/
theorem StandsOn.parts (h : n.StandsOn u) : InOrder n.parts u := by
  cases n with
  | program p =>
    cases h with
    | mk _ _ _ _ _ onItems _ _ _ =>
      exact (((inOrder_statements onItems).extend _).prepend_one _).prepend _
        |>.prepend_one _ |>.prepend_one _ |>.prepend_one _
  | declaration d =>
    cases h with
    | var _ _ _ _ on =>
      obtain ⟨span, rfl⟩ := on.form
      exact .nil _
    | @procedure _ _ _ _ _ body _ _ _ _ _ _ _ onBody _ _ =>
      have on : InOrder [block body] _ := .single onBody
      exact (((on.extend _).prepend_one _).prepend _).prepend_one _
        |>.prepend_one _
    | @function _ _ _ _ _ _ _ body _ _ _ _ _ _ _ _ _ onBody _ _ =>
      have on : InOrder [block body] _ := .single onBody
      exact (((on.extend _).prepend [_, _, _]).prepend _).prepend_one _
        |>.prepend_one _
  | parameter p => exact .nil u
  | block b =>
    cases h with
    | mk _ _ onItems _ _ => exact (((inOrder_statements onItems).extend _).prepend_one _).prepend _
  | statement s => exact inOrder_statement h
  | expression e => exact inOrder_expression h

/-- What is declared at a node is staggered. -/
theorem StandsOn.declared (h : n.StandsOn u) : Staggered n.declared u := by
  cases n with
  | program p =>
    cases h with
    | mk _ _ _ onDeclared _ _ _ _ _ =>
      exact ((staggered_declarations onDeclared).extend _).prepend [_, _, _]
  | declaration d =>
    cases h with
    | var _ _ _ _ on =>
      obtain ⟨span, rfl⟩ := on.form
      exact .nil _
    | procedure _ _ onFormal _ _ _ _ => exact ((staggered_formal onFormal).extend _).prepend [_, _]
    | function _ _ onFormal _ _ _ _ _ _ => exact ((staggered_formal onFormal).extend _).prepend [_, _]
  | block b =>
    cases h with
    | mk onDeclared _ _ _ _ => exact (staggered_declarations onDeclared).extend _
  | parameter p => exact .nil u
  | statement s => exact .nil u
  | expression e => exact .nil u

/-- A child stands on a stretch of the tokens of its node. -/
theorem StandsOn.child {c : Node} (h : n.StandsOn u) (listed : c ∈ n.children) :
    ∃ v, v <:+: u ∧ c.StandsOn v := by
  rcases List.mem_append.1 listed with declared | part
  · exact h.declared.exists_infix declared
  · exact h.parts.exists_infix part

/-- **Every node in a tree stands on a stretch of its tokens.** -/
theorem StandsOn.of_isIn {root : Node} (h : root.StandsOn u) (inside : IsIn root n) :
    ∃ v, v <:+: u ∧ n.StandsOn v := by
  induction inside with
  | root => exact ⟨u, List.infix_rfl, h⟩
  | child _ listed ih =>
    obtain ⟨v, within, on⟩ := ih
    obtain ⟨w, further, on⟩ := on.child listed
    exact ⟨w, further.trans within, on⟩

/-- The span of a node runs over its tokens. -/
theorem StandsOn.runs (h : n.StandsOn u) : n.span.RunsOver u := by
  cases n with
  | program p => cases h with | mk _ _ _ _ _ _ _ _ runs => exact runs
  | declaration d =>
    cases h with
    | var _ _ _ _ on => exact on.span
    | procedure _ _ _ _ _ _ runs => exact runs
    | function _ _ _ _ _ _ _ _ runs => exact runs
  | parameter p => exact h.span
  | block b => cases h with | mk _ _ _ _ runs => exact runs
  | statement s =>
    cases h with
    | assignment _ _ _ runs | call _ _ _ runs | choice _ _ _ _ runs | twoChoices _ _ _ _ _ _ runs
    | repetition _ _ _ _ runs | counting _ _ _ _ _ _ _ _ runs | compound _ _ _ runs => exact runs
  | expression e => exact Expr.StandsOn.runs h

/-- A node stands on some token. -/
theorem StandsOn.ne_nil (h : n.StandsOn u) : u ≠ [] := by
  cases n with
  | program p => cases h with | mk => exact List.cons_ne_nil _ _
  | declaration d =>
    cases h with
    | var front =>
      rintro rfl
      exact absurd front (by simp)
    | procedure | function => exact List.cons_ne_nil _ _
  | parameter p =>
    obtain ⟨t, front, -⟩ := h.first
    rintro rfl
    exact absurd front (by simp)
  | block b => cases h with | mk => simp
  | statement s => cases h <;> exact List.cons_ne_nil _ _
  | expression e => exact Expr.StandsOn.ne_nil h

end Node

end PascalFront
