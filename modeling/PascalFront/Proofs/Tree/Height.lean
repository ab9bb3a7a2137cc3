import PascalFront.Proofs.Tree.SelfContained
/-!
# How high trees are

The limit on nesting bounds the tree of a program along every way down, apart from the
steps that go from an operator to its left operand: these open no level, since operators
of one rank are read one after the other. All other steps are paid for by levels. A
statement or expression opens one level; a routine opens one and makes two nodes, its
declaration and its body (`Symbol.slack`). So a way down a program has at most two such
steps for each level, and one more (`Program.steps_le`).

Left operands are not bounded. The operands of a sum are read in a loop, and each round
makes what was read so far the left operand of the next operator.
-/

namespace PascalFront

open Grammar

namespace Node

/-- **A way down a tree**, from a node to a child again and again. The steps from an
operator to its left operand are counted apart from all others. -/
inductive Way : Node → (left others : Nat) → Node → Prop where
  /-- No step. -/
  | here (n : Node) : Way n 0 0 n
  /-- To the left operand. -/
  | left {operator : String} {first second : Expr} {span : Span} {left others : Nat} {n : Node}
      (way : Way (.expression first) left others n) :
      Way (.expression (.binary operator first second span)) (left + 1) others n
  /-- To the right operand. -/
  | right {operator : String} {first second : Expr} {span : Span} {left others : Nat} {n : Node}
      (way : Way (.expression second) left others n) :
      Way (.expression (.binary operator first second span)) left (others + 1) n
  /-- To a child of any other node. -/
  | child {root c n : Node} {left others : Nat}
      (noOperator : ∀ operator first second span,
        root ≠ .expression (.binary operator first second span))
      (listed : c ∈ root.children) (way : Way c left others n) : Way root left (others + 1) n

variable {root n c : Node} {left others slack limit : Nat}

/-- A way stays in the tree. -/
theorem Way.isIn (way : Way root left others n) : IsIn root n := by
  induction way with
  | here => exact .root
  | left _ ih | right _ ih => exact ih.of_child (by simp [children, declared, parts])
  | child _ listed _ ih => exact ih.of_child listed

/-- A child is one step away. -/
theorem exists_step (listed : c ∈ root.children) : ∃ left others, Way root left others c := by
  by_cases noOperator : ∀ operator first second span,
      root ≠ .expression (.binary operator first second span)
  · exact ⟨0, 1, .child noOperator listed (.here c)⟩
  · simp only [not_forall, ne_eq, not_not] at noOperator
    obtain ⟨operator, first, second, span, rfl⟩ := noOperator
    simp only [children, declared, parts, List.nil_append, List.mem_cons, List.not_mem_nil,
      or_false] at listed
    rcases listed with rfl | rfl
    · exact ⟨1, 0, .left (.here _)⟩
    · exact ⟨0, 1, .right (.here _)⟩

/-- A way goes on to a child. -/
theorem Way.exists_further (way : Way root left others n) (listed : c ∈ n.children) :
    ∃ left others, Way root left others c := by
  induction way with
  | here => exact exists_step listed
  | left _ ih =>
    obtain ⟨left, others, way⟩ := ih listed
    exact ⟨left + 1, others, .left way⟩
  | right _ ih =>
    obtain ⟨left, others, way⟩ := ih listed
    exact ⟨left, others + 1, .right way⟩
  | child noOperator above _ ih =>
    obtain ⟨left, others, way⟩ := ih listed
    exact ⟨left, others + 1, .child noOperator above way⟩

/-- **There is a way to each node of a tree.** -/
theorem IsIn.exists_way (inside : IsIn root n) : ∃ left others, Way root left others n := by
  induction inside with
  | root => exact ⟨0, 0, .here root⟩
  | child _ listed ih =>
    obtain ⟨left, others, way⟩ := ih
    exact way.exists_further listed

/-! ## Ways of bounded length -/

/-- **No way down from a node is too long**: each leaves `slack` of the steps that are
allowed, not counting those to left operands. -/
def IsWithin (slack limit : Nat) (n : Node) : Prop :=
  ∀ left others m, Way n left others m → others + slack ≤ limit

/-- The root alone is within the limit. -/
theorem IsWithin.le (h : n.IsWithin slack limit) : slack ≤ limit := by
  simpa using h 0 0 n (.here n)

/-- More steps may be allowed, and less of them left. -/
theorem IsWithin.mono (h : n.IsWithin slack limit) {slack' limit' : Nat}
    (less : slack' + limit ≤ slack + limit') : n.IsWithin slack' limit' := by
  intro left others m way
  have := h left others m way
  omega

/-- What is within the limit below each child with one step more is within the limit. -/
theorem isWithin_of_children
    (noOperator : ∀ operator first second span,
      n ≠ .expression (.binary operator first second span)) (self : slack ≤ limit)
    (below : ∀ c ∈ n.children, c.IsWithin (slack + 1) limit) : n.IsWithin slack limit := by
  intro left others m way
  cases way with
  | here => omega
  | left | right => exact (noOperator _ _ _ _ rfl).elim
  | child _ listed way =>
    have := below _ listed _ _ _ way
    omega

/-- An operator costs a step to its right operand only. -/
theorem isWithin_binary {operator : String} {first second : Expr} {span : Span}
    (onLeft : (expression first).IsWithin slack limit)
    (onRight : (expression second).IsWithin (slack + 1) limit) :
    (expression (.binary operator first second span)).IsWithin slack limit := by
  intro left others m way
  cases way with
  | here => simpa using onLeft.le
  | left way => exact onLeft _ _ _ way
  | right way =>
    have := onRight _ _ _ way
    omega
  | child noOperator => exact (noOperator _ _ _ _ rfl).elim

/-- A node without children is within every limit. -/
theorem isWithin_leaf (self : slack ≤ limit) (noChildren : n.children = []) :
    n.IsWithin slack limit := by
  refine isWithin_of_children ?_ self fun c listed => ?_
  · rintro operator first second span rfl
    exact absurd noChildren (by simp [children, parts])
  · rw [noChildren] at listed
    exact absurd listed List.not_mem_nil

/-- Another span makes no difference. -/
theorem IsWithin.withSpan {e : Expr} (h : (expression e).IsWithin slack limit) (span : Span) :
    (expression (e.withSpan span)).IsWithin slack limit := by
  by_cases noOperator : ∀ operator first second span, e ≠ .binary operator first second span
  · refine isWithin_of_children ?_ h.le fun c listed => ?_
    · intro operator first second span' same
      cases e with
      | binary operator first second own => exact noOperator operator first second own rfl
      | _ => exact absurd same (by simp [Expr.withSpan])
    · rw [children_withSpan] at listed
      intro left others m way
      have noOperator (operator first second span) :
          expression e ≠ .expression (.binary operator first second span) :=
        fun same => noOperator operator first second span (Node.expression.inj same)
      have := h _ _ _ (.child noOperator listed way)
      omega
  · simp only [not_forall, ne_eq, not_not] at noOperator
    obtain ⟨operator, first, second, span', rfl⟩ := noOperator
    refine isWithin_binary (fun left others m way => h _ _ _ (.left way)) ?_
    intro left others m way
    have := h _ _ _ (.right way)
    omega

end Node

namespace Grammar

variable {symbol : Symbol} {items : List Item} {u : List Token} {depth : Nat} {rank : Nat}

/-- The nodes that a symbol denotes, without those below them. -/
def Symbol.nodes : (symbol : Symbol) → symbol.Value → List Node
  | nested inner, a => inner.nodes a
  | repeated item, items | separated _ item, items => items.flatMap item.nodes
  | program, p => [.program p]
  | declaration, ds | variableGroup, ds => ds.map .declaration
  | routineBody, b => [.block b]
  | block, items => items.map .statement
  | statement, s | callStatement, s | assignment, s => [.statement s]
  | alternative, other => other.toList.map .statement
  | arguments, items => items.map .expression
  | level _, e | primary, e => [.expression e]
  | name, _ | parameters, _ | parameterGroup, _ | terminator, _ | direction, _ => []

/-- Statements one behind the other are nodes one by one. -/
theorem Symbol.nodes_statements (items : List Statement) :
    Symbol.statements.nodes items = items.map Node.statement :=
  (List.map_eq_flatMap (f := Node.statement) (l := items)).symm

/-- So are expressions with tokens between them. -/
theorem Symbol.nodes_expressions (separator : Terminal) (items : List Expr) :
    (Symbol.separated separator .expression).nodes items = items.map Node.expression :=
  (List.map_eq_flatMap (f := Node.expression) (l := items)).symm

/-- So are declarations, section by section. -/
theorem Symbol.nodes_declarations (sections : List (List Declaration)) :
    (Symbol.repeated .declaration).nodes sections = sections.flatten.map Node.declaration :=
  (List.map_flatten ..).symm

/-- **How many steps the nodes of a symbol leave** of those that its levels allow, which
are two for each level and one more. -/
def Symbol.slack : Symbol → Nat
  | nested inner => inner.slack + 2
  | repeated item | separated _ item => item.slack
  | program | routineBody => 0
  | block | alternative | arguments => 3
  | _ => 1

/-- All nodes that a symbol denotes are within the limit that a depth of nesting sets. -/
def Symbol.Within (depth : Nat) (symbol : Symbol) (a : symbol.Value) : Prop :=
  ∀ n ∈ symbol.nodes a, n.IsWithin symbol.slack (2 * depth + 1)

/-- All nodes that a row of items denotes are. -/
def ValuesWithin (depth : Nat) : (items : List Item) → Values items → Prop
  | [], () => True
  | .token _ :: rest, (_, values) => ValuesWithin depth rest values
  | .part symbol :: rest, (a, values) => symbol.Within depth a ∧ ValuesWithin depth rest values

/-- The nodes of a symbol that leaves more steps may stand below another node. -/
theorem Symbol.Within.below {a : symbol.Value} (h : symbol.Within depth a) (slack : Nat)
    (less : slack + 1 ≤ symbol.slack) :
    ∀ n ∈ symbol.nodes a, n.IsWithin (slack + 1) (2 * depth + 1) :=
  fun n listed => (h n listed).mono (by omega)

/-- The rules for expressions without an operator outside of parentheses. -/
theorem Rule.within_primary (rule : Rule .primary items) {values : Values items} {e : Expr}
    (denotes : rule.denote values u = some e) (parts : ValuesWithin depth items values) :
    (Node.expression e).IsWithin 1 (2 * depth + 1) := by
  cases rule with
  | number =>
    obtain ⟨value, -, rfl⟩ := Option.map_eq_some_iff.1 denotes
    exact Node.isWithin_leaf (by omega) rfl
  | text | trueLiteral | falseLiteral | variableName =>
    obtain rfl := Option.some.inj denotes
    exact Node.isWithin_leaf (by omega) rfl
  | call =>
    obtain rfl := Option.some.inj denotes
    refine Node.isWithin_of_children nofun (by omega) fun c listed => ?_
    exact (parts.1 c listed).mono (by simp [Symbol.slack])
  | parenthesized =>
    obtain rfl := Option.some.inj denotes
    have inner := parts.1 _ (List.mem_singleton_self _)
    exact (inner.mono (by simp [Symbol.slack])).withSpan _

/-- The rules for expressions of a level. -/
theorem Rule.within_level (rule : Rule (.level rank) items) {values : Values items} {e : Expr}
    (denotes : rule.denote values u = some e) (parts : ValuesWithin depth items values) :
    (Node.expression e).IsWithin 1 (2 * depth + 1) := by
  cases rule with
  | tighter | primary =>
    obtain rfl := Option.some.inj denotes
    exact parts.1 _ (List.mem_singleton_self _)
  | operation =>
    obtain rfl := Option.some.inj denotes
    obtain ⟨first, second, -⟩ := parts
    refine Node.isWithin_binary (first _ (List.mem_singleton_self _)) ?_
    exact (second _ (List.mem_singleton_self _)).mono (by simp [Symbol.slack])
  | signed =>
    obtain rfl := Option.some.inj denotes
    refine Node.isWithin_of_children nofun (by omega) fun c listed => ?_
    exact (parts.1 c listed).mono (by simp [Symbol.slack])

/-- The rules for statements. -/
theorem Rule.within_statement (rule : Rule .statement items) {values : Values items}
    {s : Statement} (denotes : rule.denote values u = some s)
    (parts : ValuesWithin depth items values) :
    (Node.statement s).IsWithin 1 (2 * depth + 1) := by
  cases rule with
  | callTerminated | assignmentTerminated =>
    obtain rfl := Option.some.inj denotes
    exact parts.1 _ (List.mem_singleton_self _)
  | conditional =>
    obtain rfl := Option.some.inj denotes
    obtain ⟨condition, branch, other, -⟩ := parts
    have below := List.forall_mem_append.2 ⟨condition.below 1 (by decide),
      List.forall_mem_append.2 ⟨branch.below 1 (by decide), other.below 1 (by decide)⟩⟩
    exact Node.isWithin_of_children nofun (by omega) below
  | repetition =>
    obtain rfl := Option.some.inj denotes
    obtain ⟨condition, body, -⟩ := parts
    have below := List.forall_mem_append.2
      ⟨condition.below 1 (by decide), body.below 1 (by decide)⟩
    exact Node.isWithin_of_children nofun (by omega) below
  | counting =>
    obtain ⟨_, counter, values⟩ := values
    obtain rfl := Option.some.inj denotes
    obtain ⟨first, -, last, body, -⟩ := parts
    -- the counter is one step away, and the first bound leaves room for it
    have first := first.below 1 (by decide)
    have name : (Node.expression (.name ⟨counter.value, counter.span⟩)).IsWithin 2 (2 * depth + 1) :=
      Node.isWithin_leaf (first _ (List.mem_singleton_self _)).le rfl
    have below := List.forall_mem_cons.2 ⟨name, List.forall_mem_append.2 ⟨first,
      List.forall_mem_append.2 ⟨last.below 1 (by decide), body.below 1 (by decide)⟩⟩⟩
    exact Node.isWithin_of_children nofun (by omega) below
  | compound | compoundTerminated =>
    obtain rfl := Option.some.inj denotes
    have items := parts.1.below 1 (by decide)
    rw [Symbol.nodes_statements] at items
    exact Node.isWithin_of_children nofun (by omega) items

/-- The rules for declarations. -/
theorem Rule.within_declaration (rule : Rule .declaration items) {values : Values items}
    {ds : List Declaration} (denotes : rule.denote values u = some ds)
    (parts : ValuesWithin depth items values) :
    ∀ d ∈ ds, (Node.declaration d).IsWithin 1 (2 * depth + 1) := by
  cases rule with
  | variableSection =>
    obtain rfl := Option.some.inj denotes
    obtain ⟨group, groups, -⟩ := parts
    refine List.forall_mem_append.2 ⟨List.forall_mem_map.1 group, fun d listed => ?_⟩
    obtain ⟨ds, among, listed⟩ := List.mem_flatten.1 listed
    exact groups _ (List.mem_flatMap.2 ⟨ds, among, List.mem_map_of_mem listed⟩)
  | procedure | function =>
    obtain rfl := Option.some.inj denotes
    obtain ⟨-, body, -⟩ := parts
    -- the parameters are one step away, and the body leaves room for them
    have body := body _ (List.mem_singleton_self _)
    refine List.forall_mem_singleton.2 (Node.isWithin_of_children nofun (by omega)
      (List.forall_mem_append.2 ⟨List.forall_mem_map.2 fun p _ => ?_, ?_⟩))
    · exact Node.isWithin_leaf body.le rfl
    · exact List.forall_mem_singleton.2 body

/-- Declarations and statements may stand below a node that leaves no step. -/
theorem within_body {n : Node} {sections : List (List Declaration)} {body : List Statement}
    (children : n.children = sections.flatten.map .declaration ++ body.map .statement)
    (noOperator : ∀ operator first second span,
      n ≠ .expression (.binary operator first second span))
    (declared : (Symbol.repeated .declaration).Within depth sections)
    (statements : Symbol.block.Within depth body) : n.IsWithin 0 (2 * depth + 1) := by
  have declared := declared.below 0 (by decide)
  rw [Symbol.nodes_declarations] at declared
  refine Node.isWithin_of_children noOperator (Nat.zero_le _) ?_
  rw [children]
  exact List.forall_mem_append.2 ⟨declared, statements.below 0 (by decide)⟩

/-- What a rule for a symbol that opens no level makes of its items is within the limit if
the items are. -/
theorem Rule.within_flat (rule : Rule symbol items) (flat : symbol.levels = 0)
    {values : Values items} {a : symbol.Value} (denotes : rule.denote values u = some a)
    (parts : ValuesWithin depth items values) : symbol.Within depth a := by
  cases symbol with
  | nested => exact absurd flat Nat.one_ne_zero
  | repeated item =>
    cases rule with
    | empty =>
      obtain rfl := Option.some.inj denotes
      exact fun n listed => absurd listed List.not_mem_nil
    | more =>
      obtain rfl := Option.some.inj denotes
      exact List.forall_mem_append.2 ⟨parts.1, parts.2.1⟩
  | separated separator item =>
    cases rule with
    | single =>
      obtain rfl := Option.some.inj denotes
      exact List.forall_mem_append.2 ⟨parts.1, fun n listed => absurd listed List.not_mem_nil⟩
    | further =>
      obtain rfl := Option.some.inj denotes
      exact List.forall_mem_append.2 ⟨parts.1, parts.2.1⟩
  | program =>
    cases rule with
    | program =>
      obtain rfl := Option.some.inj denotes
      exact List.forall_mem_singleton.2 (within_body rfl nofun parts.1 parts.2.1)
  | routineBody =>
    cases rule with
    | routineBody =>
      obtain rfl := Option.some.inj denotes
      exact List.forall_mem_singleton.2 (within_body rfl nofun parts.1 parts.2.1)
  | variableGroup =>
    cases rule with
    | variableGroup =>
      obtain rfl := Option.some.inj denotes
      refine List.forall_mem_map.2 (List.forall_mem_map.2 fun t _ => ?_)
      exact Node.isWithin_leaf (by simp [Symbol.slack]) rfl
  | block =>
    cases rule with
    | block =>
      obtain rfl := Option.some.inj denotes
      intro n listed
      exact parts.1 n (Symbol.nodes_statements _ ▸ listed)
  | callStatement =>
    cases rule with
    | callStatement =>
      obtain rfl := Option.some.inj denotes
      exact List.forall_mem_singleton.2
        (Node.isWithin_of_children nofun (by simp [Symbol.slack]) (parts.1.below 1 (by decide)))
  | assignment =>
    cases rule with
    | assignment =>
      obtain ⟨target, values⟩ := values
      obtain rfl := Option.some.inj denotes
      -- the target is one step away, and the value leaves room for it
      have value := parts.1.below 1 (by decide)
      have name : (Node.expression (.name ⟨target.value, target.span⟩)).IsWithin 2 (2 * depth + 1) :=
        Node.isWithin_leaf (value _ (List.mem_singleton_self _)).le rfl
      have below := List.forall_mem_cons.2 ⟨name, value⟩
      exact List.forall_mem_singleton.2
        (Node.isWithin_of_children nofun (by simp [Symbol.slack]) below)
  | alternative =>
    cases rule with
    | noAlternative =>
      obtain rfl := Option.some.inj denotes
      exact fun n listed => absurd listed List.not_mem_nil
    | alternative =>
      obtain rfl := Option.some.inj denotes
      exact parts.1
  | arguments =>
    cases rule with
    | noArguments =>
      obtain rfl := Option.some.inj denotes
      exact fun n listed => absurd listed List.not_mem_nil
    | someArguments =>
      obtain rfl := Option.some.inj denotes
      intro n listed
      exact parts.1 n (Symbol.nodes_expressions .. ▸ listed)
  | name | parameters | parameterGroup | terminator | direction =>
    exact fun n listed => absurd listed List.not_mem_nil
  | declaration =>
    exact List.forall_mem_map.2 (rule.within_declaration denotes parts)
  | statement =>
    exact List.forall_mem_singleton.2 (rule.within_statement denotes parts)
  | level =>
    exact List.forall_mem_singleton.2 (rule.within_level denotes parts)
  | primary =>
    exact List.forall_mem_singleton.2 (rule.within_primary denotes parts)

/-- **What a rule makes of its items** is within the limit if the items are, at the depth
with the level that the symbol opens. -/
theorem Rule.within (rule : Rule symbol items) {values : Values items} {a : symbol.Value}
    (denotes : rule.denote values u = some a) (parts : ValuesWithin depth items values) :
    symbol.Within (symbol.levels + depth) a := by
  by_cases flat : symbol.levels = 0
  · rw [flat, Nat.zero_add]
    exact rule.within_flat flat denotes parts
  · cases symbol with
    | nested inner =>
      cases rule with
      | nested =>
        obtain rfl := Option.some.inj denotes
        intro n listed
        exact (parts.1 n listed).mono (by simp only [Symbol.slack, Symbol.levels]; omega)
    | _ => exact absurd rfl flat

/-- A greater depth allows more. -/
theorem Symbol.Within.mono {a : symbol.Value} (h : symbol.Within depth a) {depth' : Nat}
    (le : depth ≤ depth') : symbol.Within depth' a :=
  fun n listed => (h n listed).mono (by omega)

/-- **All nodes that a forest denotes are within the limit** that its depth sets. -/
theorem Forest.within {forest : Forest items} {values : Values items}
    (denotes : forest.values? = some values) (deep : forest.depth ≤ depth) :
    ValuesWithin depth items values := by
  induction forest generalizing depth with
  | nil => trivial
  | token t fits others ih =>
    obtain ⟨more, found, rfl⟩ := Forest.exists_values_token denotes
    exact ih found deep
  | @part symbol inside _ rule below others ihBelow ihOthers =>
    obtain ⟨a, more, first, found, rfl⟩ := Forest.exists_values_part denotes
    obtain ⟨inner, foundBelow, denoted⟩ := Derivation.exists_values first
    have deep : max (symbol.levels + below.depth) others.depth ≤ depth := deep
    exact ⟨(rule.within denoted (ihBelow foundBelow (Nat.le_refl _))).mono (by omega),
      ihOthers found (by omega)⟩

/-- What a derivation denotes is within the limit that its depth sets. -/
theorem Derivation.within (d : Derivation symbol) {a : symbol.Value} (value : d.value? = some a) :
    symbol.Within d.depth a := by
  obtain ⟨inner, below, denoted⟩ := Derivation.exists_values value
  exact d.rule.within denoted (Forest.within below (Nat.le_refl _))

end Grammar

namespace Program

/-- **The limit on nesting bounds the tree**, apart from left operands: on no way down the
tree of an accepted program are there more other steps than two for each level that is
allowed, and one more. -/
theorem steps_le (text : String) (p : Program) (accepted : ofText text = .ok p)
    (left others : Nat) (n : Node) (way : Node.Way (.program p) left others n) :
    others ≤ 2 * Recognizer.maxNesting + 1 := by
  obtain ⟨-, d, -, -, value, depth⟩ := exists_derivation accepted
  have within := d.within value _ (List.mem_singleton_self _) _ _ _ way
  have : others + 0 ≤ 2 * d.depth + 1 := within
  omega

/-- The way to the left operand of an operator in the argument of a call. -/
theorem way_of_firstOperand? {p : Program} {e : Expr} (h : firstOperand? p = some e) :
    Node.Way (.program p) 1 2 (.expression e) := by
  unfold firstOperand? at h
  split at h
  · obtain rfl := Option.some.inj h
    exact .child nofun (List.mem_append_right _ List.mem_cons_self)
      (.child nofun (List.mem_append_right _ List.mem_cons_self) (.left (.here _)))
  · exact absurd h (by simp)

/-- The way to the left operand of a sum in a call. -/
theorem steps_le_sum :
    ∃ p e, ofText "program p; begin f(a + b + c); end." = .ok p ∧
      Node.Way (.program p) 1 2 (.expression e) ∧ 2 ≤ 2 * Recognizer.maxNesting + 1 := by
  have operand : (((ofText "program p; begin f(a + b + c); end.").toOption.bind
      firstOperand?).isSome) = true := by decide +kernel
  obtain ⟨e, found⟩ := Option.isSome_iff_exists.1 operand
  obtain ⟨p, result, found⟩ := Option.bind_eq_some_iff.1 found
  have accepted := eq_ok_of_toOption result
  have way := way_of_firstOperand? found
  exact ⟨p, e, accepted, way, steps_le _ p accepted 1 2 _ way⟩

end Program

end PascalFront
