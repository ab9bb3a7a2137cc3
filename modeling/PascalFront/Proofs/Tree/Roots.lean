import PascalFront.Proofs.Tree.Rules
/-!
# How a tree is put together

What a rule makes of its items is put together in one of two ways. Either it hands the nodes on
that its items denote (`Rule.passes`), or it puts a node above them, whose children they then
are; the variable of an assignment or of a counting loop comes in beside them
(`Rule.children_roots`). Parentheses put a node in the place of another.

So what stands in the tree that a derivation denotes was made by a rule in it, or is such a
variable (`Forest.everywhere_of_made`), and what a rule made stays in the tree
(`Rule.exists_isIn`).
-/

namespace PascalFront

open Grammar

namespace Grammar

variable {symbol : Symbol} {items : List Item} {u row : List Token}

/-- **The nodes that a symbol denotes**, without those below them. -/
def Symbol.roots : (symbol : Symbol) → symbol.Value → List Node
  | nested inner, a => inner.roots a
  | repeated item, items | separated _ item, items => items.flatMap item.roots
  | program, p => [.program p]
  | declaration, ds | variableGroup, ds => ds.map .declaration
  | parameters, formal | parameterGroup, formal => formal.map .parameter
  | routineBody, b => [.block b]
  | block, items => items.map .statement
  | statement, s | callStatement, s | assignment, s => [.statement s]
  | alternative, other => other.toList.map .statement
  | arguments, items => items.map .expression
  | level _, e | primary, e => [.expression e]
  | name, _ | terminator, _ | direction, _ => []

/-- The nodes that a row of items denotes. -/
def valuesRoots : (items : List Item) → Values items → List Node
  | [], () => []
  | .token _ :: rest, (_, values) => valuesRoots rest values
  | .part symbol :: rest, (a, values) => symbol.roots a ++ valuesRoots rest values

/-- **Whether a rule hands on** what its items denote and makes no node. -/
def Rule.passes : Rule symbol items → Bool
  | .nested _ | .empty _ | .more _ | .single .. | .further .. | .variableSection | .name
  | .noParameters | .emptyParameters | .someParameters | .block | .callTerminated
  | .assignmentTerminated | .semicolon | .omitted | .noAlternative | .alternative | .up | .down
  | .noArguments | .someArguments | .tighter _ | .primary _ => true
  | _ => false

/-- What is handed on are the same nodes. -/
theorem Rule.roots_of_passes (rule : Rule symbol items) (passes : rule.passes = true)
    {values : Values items} {a : symbol.Value} (denotes : rule.denote values u = some a) :
    symbol.roots a = valuesRoots items values := by
  cases rule <;> first | exact absurd passes Bool.false_ne_true | obtain rfl := Option.some.inj denotes
  case empty | name | noParameters | emptyParameters | semicolon | omitted | noAlternative | up | down
    | noArguments => rfl
  all_goals simp [Symbol.roots, valuesRoots, ← List.flatMap_def, ← List.map_eq_flatMap]

/-- Whether a node is a name in the place of a variable, on one of some tokens. -/
def IsName (u : List Token) (n : Node) : Prop :=
  ∃ t ∈ u, t.kind = .identifier ∧ n = .expression (.name ⟨t.value, t.span⟩)

/-- **What is not handed on becomes the children of what is made**, behind the variable of an
assignment or of a counting loop. -/
theorem Rule.children_roots (rule : Rule symbol items) (makes : rule.passes = false)
    {values : Values items} {a : symbol.Value} (on : ValuesStandOn items values u)
    (denotes : rule.denote values u = some a) :
    (∃ names, (∀ n ∈ names, IsName u n) ∧
      (symbol.roots a).flatMap Node.children = names ++ valuesRoots items values) ∨
    ∃ e span, valuesRoots items values = [.expression e] ∧
      symbol.roots a = [.expression (e.withSpan span)] := by
  cases rule <;> first | exact absurd makes.symm Bool.false_ne_true | skip
  case parenthesized =>
    obtain rfl := Option.some.inj denotes
    exact .inr ⟨_, _, rfl, rfl⟩
  all_goals refine .inl ?_
  case number =>
    obtain ⟨value, -, rfl⟩ := Option.map_eq_some_iff.1 denotes
    exact ⟨[], by simp, rfl⟩
  all_goals obtain rfl := Option.some.inj denotes
  case assignment =>
    obtain ⟨target, values⟩ := values
    obtain ⟨_, rfl, isName, -⟩ := on
    refine ⟨[.expression (.name ⟨target.value, target.span⟩)], ?_, rfl⟩
    exact List.forall_mem_singleton.2 ⟨target, List.mem_cons_self, isName, rfl⟩
  case counting =>
    obtain ⟨t, counter, values⟩ := values
    obtain ⟨_, rfl, -, _, rfl, isName, -⟩ := on
    refine ⟨[.expression (.name ⟨counter.value, counter.span⟩)], ?_, rfl⟩
    exact List.forall_mem_singleton.2 ⟨counter, by simp, isName, rfl⟩
  all_goals refine ⟨[], by simp, ?_⟩
  case variableGroup | valueGroup | referenceGroup =>
    show List.flatMap _ (List.map _ (List.map _ _)) = (Symbol.separated _ .name).roots _ ++ []
    rw [List.flatMap_map, List.flatMap_map, List.append_nil]
    rfl
  all_goals
    simp [Node.children, valuesRoots, Symbol.roots, Block.declarations,
      Block.statements, ← List.flatMap_def, ← List.map_eq_flatMap]

/-! ## What stands in the tree -/

/-- A name has no children. -/
theorem IsName.children {n : Node} (h : IsName u n) : n.children = [] := by
  obtain ⟨t, -, -, rfl⟩ := h
  rfl

/-- **What stands in what a rule makes** was made by it, stands in what its items denote, or is
a variable. -/
theorem Rule.isIn_roots (rule : Rule symbol items) {values : Values items} {a : symbol.Value}
    (on : ValuesStandOn items values u) (denotes : rule.denote values u = some a) {root n : Node}
    (listed : root ∈ symbol.roots a) (inside : root.IsIn n) :
    (n ∈ symbol.roots a ∧ rule.passes = false) ∨ (∃ c ∈ valuesRoots items values, c.IsIn n) ∨
      IsName u n := by
  cases passes : rule.passes with
  | true => exact .inr (.inl ⟨root, rule.roots_of_passes passes denotes ▸ listed, inside⟩)
  | false =>
    rcases inside.eq_or_child with rfl | ⟨c, child, further⟩
    · exact .inl ⟨listed, rfl⟩
    rcases rule.children_roots passes on denotes with ⟨names, areNames, children⟩ | ⟨e, span, one, made⟩
    · have among : c ∈ names ++ valuesRoots items values :=
        children ▸ List.mem_flatMap.2 ⟨root, listed, child⟩
      rcases List.mem_append.1 among with named | below
      · have isName := areNames c named
        rcases further.eq_or_child with rfl | ⟨c', child', -⟩
        · exact .inr (.inr isName)
        · exact absurd child' (by simp [isName.children])
      · exact .inr (.inl ⟨c, below, further⟩)
    · -- the children of an expression in parentheses are those that it has without them
      obtain rfl := List.mem_singleton.1 (made ▸ listed)
      rw [Node.children_withSpan] at child
      exact .inr (.inl ⟨_, one ▸ List.mem_singleton_self _, further.of_child child⟩)

/-- **What stands in what the items of a rule denote** stands in what it makes, apart from
expressions, whose spans parentheses change. -/
theorem Rule.exists_isIn (rule : Rule symbol items) {values : Values items} {a : symbol.Value}
    (on : ValuesStandOn items values u) (denotes : rule.denote values u = some a) {below n : Node}
    (listed : below ∈ valuesRoots items values) (inside : below.IsIn n)
    (other : ∀ e, n ≠ .expression e) : ∃ root ∈ symbol.roots a, root.IsIn n := by
  cases passes : rule.passes with
  | true => exact ⟨below, (rule.roots_of_passes passes denotes).symm ▸ listed, inside⟩
  | false =>
    rcases rule.children_roots passes on denotes with ⟨names, -, children⟩ | ⟨e, span, one, made⟩
    · have among : below ∈ (symbol.roots a).flatMap Node.children :=
        children.symm ▸ List.mem_append_right names listed
      obtain ⟨root, made, child⟩ := List.mem_flatMap.1 among
      exact ⟨root, made, inside.of_child child⟩
    · obtain rfl := List.mem_singleton.1 (one ▸ listed)
      rcases inside.eq_or_child with rfl | ⟨c, child, further⟩
      · exact absurd rfl (other e)
      · refine ⟨_, made ▸ List.mem_singleton_self _, further.of_child ?_⟩
        rwa [Node.children_withSpan]

/-- **What holds of all that the rules of a forest make**, and of all variables, holds of every
node that the forest denotes, and of those below them. -/
theorem Forest.everywhere_of_made {Q : Node → Prop} (names : ∀ n, IsName row n → Q n)
    (made : ∀ {symbol : Symbol} (d : Derivation symbol) {a : symbol.Value},
      d.rule.passes = false → d.value? = some a → d.tokens <:+: row → ∀ n ∈ symbol.roots a, Q n)
    {forest : Forest items} {values : Values items} (denotes : forest.values? = some values)
    (within : forest.tokens <:+: row) :
    ∀ root ∈ valuesRoots items values, ∀ n, root.IsIn n → Q n := by
  induction forest with
  | nil => exact fun _ listed => absurd listed List.not_mem_nil
  | token t fits others ih =>
    obtain ⟨more, found, rfl⟩ := Forest.exists_values_token denotes
    exact ih found ((List.suffix_cons ..).isInfix.trans within)
  | part rule below others ihBelow ihOthers =>
    obtain ⟨a, more, first, found, rfl⟩ := Forest.exists_values_part denotes
    obtain ⟨inner, foundBelow, denoted⟩ := Derivation.exists_values first
    have ofBelow : below.tokens <:+: row := (List.prefix_append ..).isInfix.trans within
    refine List.forall_mem_append.2 ⟨fun root listed n inside => ?_,
      ihOthers found ((List.suffix_append ..).isInfix.trans within)⟩
    rcases rule.isIn_roots (Forest.standsOn foundBelow) denoted listed inside with
      ⟨listed, makes⟩ | ⟨c, listed, inside⟩ | ⟨t, among, isName, rfl⟩
    · exact made ⟨rule, below⟩ makes first ofBelow n listed
    · exact ihBelow foundBelow ofBelow c listed n inside
    · exact names _ ⟨t, ofBelow.subset among, isName, rfl⟩

/-- **What holds of all that the rules of a derivation of a program make**, and of all
variables, holds of every node in the program. -/
theorem Derivation.everywhere_of_made {Q : Node → Prop} (d : Derivation .program) {p : Program}
    (value : d.value? = some p) (names : ∀ n, IsName d.tokens n → Q n)
    (made : ∀ {symbol : Symbol} (d' : Derivation symbol) {a : symbol.Value},
      d'.rule.passes = false → d'.value? = some a → d'.tokens <:+: d.tokens →
        ∀ n ∈ symbol.roots a, Q n) :
    ∀ n, (Node.program p).IsIn n → Q n := by
  have row := Forest.values?_of_value? value
  refine Forest.everywhere_of_made names made row ?_ _ List.mem_cons_self
  rw [Forest.tokens, Forest.tokens, List.append_nil]
  exact List.infix_rfl

end Grammar

end PascalFront
