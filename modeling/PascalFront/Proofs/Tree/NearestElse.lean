import PascalFront.Proofs.Grammar.Language
import PascalFront.Proofs.Grammar.Unambiguous
import PascalFront.Proofs.Tree.Node
/-!
# Each `else` belongs to the nearest choice

In the tree of a program no choice has another branch if its first branch ends with a
choice that has none (`Node.ElsesNearest`): the `else` would have belonged to that one.
The tree that is recognized is as it should be, and no other tree of the same tokens is
(`Program.ofStream_elsesNearest`).

Both come from one equivalence. A derivation has each `else` at the nearest choice just
if what it denotes has, and does not end open where an `else` comes next
(`Derivation.nearestIff`). Whether a statement ends open is seen in the tree, what
comes next in the tokens, so the equivalence is shown of a rule once it is known of
everything below it.
-/

namespace PascalFront

open Grammar

/-- **A statement ends open**: it ends with a choice without another branch, to which an
`else` behind the statement would belong. Statements taken together do not end open. -/
inductive Statement.EndsOpen : Statement → Prop where
  /-- A choice without another branch. -/
  | choice {condition : Expr} {branch : Statement} {span : Span} :
      EndsOpen (.conditional condition branch none span)
  /-- A choice whose other branch ends open. -/
  | otherBranch {condition : Expr} {branch other : Statement} {span : Span}
      (open_ : EndsOpen other) : EndsOpen (.conditional condition branch (some other) span)
  /-- A loop under a condition whose body ends open. -/
  | repetition {condition : Expr} {body : Statement} {span : Span} (open_ : EndsOpen body) :
      EndsOpen (.repetition condition body span)
  /-- A loop that counts whose body ends open. -/
  | counting {counter : Name} {first last : Expr} {body : Statement} {direction : Direction}
      {span : Span} (open_ : EndsOpen body) :
      EndsOpen (.counting counter first last body direction span)

namespace Statement

variable {condition e e' : Expr} {branch body : Statement} {other : Option Statement}
  {counter target : Name} {direction : Direction} {span : Span}

@[simp] theorem endsOpen_conditional :
    (conditional condition branch other span).EndsOpen ↔ ∀ s ∈ other, s.EndsOpen := by
  constructor
  · rintro ⟨⟩ s listed
    case choice => exact absurd listed (by simp)
    case otherBranch open_ => exact Option.some.inj listed ▸ open_
  · intro h
    cases other with
    | none => exact .choice
    | some s => exact .otherBranch (h s rfl)

@[simp] theorem endsOpen_repetition :
    (repetition condition body span).EndsOpen ↔ body.EndsOpen :=
  ⟨fun | .repetition open_ => open_, .repetition⟩

@[simp] theorem endsOpen_counting :
    (counting counter e e' body direction span).EndsOpen ↔ body.EndsOpen :=
  ⟨fun | .counting open_ => open_, .counting⟩

@[simp] theorem not_endsOpen_assignment : ¬ (assignment target e span).EndsOpen := nofun

@[simp] theorem not_endsOpen_call {callee : String} {items : List Expr} :
    ¬ (call callee items span).EndsOpen := nofun

@[simp] theorem not_endsOpen_compound {items : List Statement} :
    ¬ (compound items span).EndsOpen := nofun

end Statement

namespace Node

/-- **Each `else` in a tree belongs to the nearest choice**: no choice with another
branch has a first branch that ends open. -/
def ElsesNearest (root : Node) : Prop :=
  ∀ condition branch other span,
    IsIn root (.statement (.conditional condition branch (some other) span)) → ¬ branch.EndsOpen

variable {n : Node}

/-- What holds of a tree holds of its root and below each child. -/
theorem elsesNearest_iff : n.ElsesNearest ↔
    (∀ condition branch other span,
      n = .statement (.conditional condition branch (some other) span) → ¬ branch.EndsOpen) ∧
    ∀ c ∈ n.children, c.ElsesNearest := by
  constructor
  · intro h
    refine ⟨?_, fun c listed _ _ _ _ inside => h _ _ _ _ (inside.of_child listed)⟩
    rintro condition branch other span rfl
    exact h _ _ _ _ .root
  · rintro ⟨self, below⟩ condition branch other span inside
    rcases inside.eq_or_child with same | ⟨c, listed, inside⟩
    · exact self _ _ _ _ same.symm
    · exact below c listed _ _ _ _ inside

/-- The children of an expression are expressions. -/
theorem exists_expression {e : Expr} {c : Node} (listed : c ∈ (expression e).children) :
    ∃ e', c = expression e' := by
  cases e <;> simp only [children, declared, parts, List.nil_append, List.mem_cons, List.mem_map,
    List.not_mem_nil, or_false] at listed
  case binary => exact listed.elim (⟨_, ·⟩) (⟨_, ·⟩)
  case unary => exact ⟨_, listed⟩
  case call =>
    obtain ⟨e', -, rfl⟩ := listed
    exact ⟨e', rfl⟩

/-- There is no choice in an expression. -/
@[simp] theorem elsesNearest_expression (e : Expr) : (expression e).ElsesNearest := by
  have inside {n : Node} (inside : IsIn (expression e) n) : ∃ e', n = expression e' := by
    induction inside with
    | root => exact ⟨e, rfl⟩
    | child _ listed ih =>
      obtain ⟨e', rfl⟩ := ih
      exact exists_expression listed
  intro condition branch other span choice
  obtain ⟨e', same⟩ := inside choice
  exact absurd same (by simp)

@[simp] theorem elsesNearest_program (p : Program) : (program p).ElsesNearest ↔
    (∀ d ∈ p.declarations, (declaration d).ElsesNearest) ∧
      ∀ s ∈ p.statements, (statement s).ElsesNearest := by
  rw [elsesNearest_iff]
  simp [children, or_imp, forall_and]

@[simp] theorem elsesNearest_block (statements : List Statement) (declarations : List Declaration)
    (span : Span) : (block (.mk statements declarations span)).ElsesNearest ↔
    (∀ d ∈ declarations, (declaration d).ElsesNearest) ∧
      ∀ s ∈ statements, (statement s).ElsesNearest := by
  rw [elsesNearest_iff]
  simp [children, or_imp, forall_and, Block.statements, Block.declarations]

@[simp] theorem elsesNearest_parameter (p : Parameter) : (parameter p).ElsesNearest := by
  rw [elsesNearest_iff]
  simp [children]

section Declarations

variable (name typeName : String) (formal : List Parameter) (body : Option Block) (span : Span)

@[simp] theorem elsesNearest_var : (declaration (.var name typeName span)).ElsesNearest := by
  rw [elsesNearest_iff]
  simp [children]

@[simp] theorem elsesNearest_procedure :
    (declaration (.procedure name formal body span)).ElsesNearest ↔
      ∀ b ∈ body, (block b).ElsesNearest := by
  rw [elsesNearest_iff]
  simp [children, or_imp, forall_and]

@[simp] theorem elsesNearest_function :
    (declaration (.function name formal typeName body span)).ElsesNearest ↔
      ∀ b ∈ body, (block b).ElsesNearest := by
  rw [elsesNearest_iff]
  simp [children, or_imp, forall_and]

end Declarations

section Statements

variable (condition e e' : Expr) (branch body : Statement) (other : Option Statement)
  (counter target : Name) (direction : Direction) (callee : String) (items : List Expr)
  (statements : List Statement) (span : Span)

@[simp] theorem elsesNearest_assignment :
    (statement (.assignment target e span)).ElsesNearest := by
  rw [elsesNearest_iff]
  simp [children]

@[simp] theorem elsesNearest_call : (statement (.call callee items span)).ElsesNearest := by
  rw [elsesNearest_iff]
  simp [children]

/-- A choice with another branch needs a first branch that does not end open. -/
@[simp] theorem elsesNearest_conditional :
    (statement (.conditional condition branch other span)).ElsesNearest ↔
      (statement branch).ElsesNearest ∧ (other.isSome → ¬ branch.EndsOpen) ∧
        ∀ s ∈ other, (statement s).ElsesNearest := by
  have self : (∀ condition' branch' s span', statement (.conditional condition branch other span) =
      statement (.conditional condition' branch' (some s) span') → ¬ branch'.EndsOpen) ↔
      (other.isSome → ¬ branch.EndsOpen) := by
    refine ⟨fun self some_ => ?_, ?_⟩
    · obtain ⟨s, rfl⟩ := Option.isSome_iff_exists.1 some_
      exact self _ _ _ _ rfl
    · rintro self _ _ _ _ ⟨⟩
      exact self rfl
  rw [elsesNearest_iff, self]
  simp [children, and_left_comm]

@[simp] theorem elsesNearest_repetition :
    (statement (.repetition condition body span)).ElsesNearest ↔ (statement body).ElsesNearest := by
  rw [elsesNearest_iff]
  simp [children]

@[simp] theorem elsesNearest_counting :
    (statement (.counting counter e e' body direction span)).ElsesNearest ↔
      (statement body).ElsesNearest := by
  rw [elsesNearest_iff]
  simp [children]

@[simp] theorem elsesNearest_compound : (statement (.compound statements span)).ElsesNearest ↔
    ∀ s ∈ statements, (statement s).ElsesNearest := by
  rw [elsesNearest_iff]
  simp [children]

end Statements

end Node

namespace Grammar

variable {symbol : Symbol} {items rest : List Item} {next : Kind} {w u : List Token}

/-- Whether what a symbol denotes ends open. -/
@[simp] def Symbol.EndsOpen : (symbol : Symbol) → symbol.Value → Prop
  | nested inner, a => inner.EndsOpen a
  | repeated item, items => ∃ a ∈ items.getLast?, item.EndsOpen a
  | statement, s => s.EndsOpen
  | alternative, other => ∀ s ∈ other, s.EndsOpen
  | _, _ => False

/-- Each `else` in what a symbol denotes belongs to the nearest choice. There is no choice
in a call or an assignment, so that these do not end open either. -/
@[simp] def Symbol.ElsesNearest : (symbol : Symbol) → symbol.Value → Prop
  | nested inner, a => inner.ElsesNearest a
  | repeated item, items => ∀ a ∈ items, item.ElsesNearest a
  | program, p => (Node.program p).ElsesNearest
  | declaration, ds | variableGroup, ds => ∀ d ∈ ds, (Node.declaration d).ElsesNearest
  | routineBody, b => (Node.block b).ElsesNearest
  | block, items => ∀ s ∈ items, (Node.statement s).ElsesNearest
  | statement, s => (Node.statement s).ElsesNearest
  | callStatement, s | assignment, s => (Node.statement s).ElsesNearest ∧ ¬ s.EndsOpen
  | alternative, other => ∀ s ∈ other, (Node.statement s).ElsesNearest
  | separated _ _, _ | name, _ | parameters, _ | parameterGroup, _ | terminator, _ | direction, _
  | arguments, _ | level _, _ | primary, _ => True

/-- **What a symbol denotes has each `else` at the nearest choice** before a token of a
kind: it does not end open if that token is an `else`. -/
@[simp] def Symbol.NearestBefore (next : Kind) (symbol : Symbol) (a : symbol.Value) : Prop :=
  symbol.ElsesNearest a ∧ (next = .elseKeyword → ¬ symbol.EndsOpen a)

/-- What stands behind the first item of a row. -/
def Forest.others {item : Item} : Forest (item :: rest) → Forest rest
  | .token _ _ others => others
  | .part _ _ others => others

/-- **What a row denotes has each `else` at the nearest choice** before tokens `w`. -/
@[simp] def Forest.NearestBefore (w : List Token) :
    (items : List Item) → Forest items → Values items → Prop
  | [], _, _ => True
  | .token _ :: rest, forest, values => NearestBefore w rest forest.others values.2
  | .part symbol :: rest, forest, values =>
    symbol.NearestBefore (nextKind (forest.others.tokens ++ w)) values.1 ∧
      NearestBefore w rest forest.others values.2

@[simp] theorem Forest.tokens_nil (forest : Forest []) : forest.tokens = [] := by
  cases forest
  rfl

/-- What a row denotes behind its first token. -/
theorem Forest.values?_behindToken {sort : Terminal} {forest : Forest (.token sort :: rest)}
    {values : Values (.token sort :: rest)} (found : forest.values? = some values) :
    forest.others.values? = some values.2 := by
  cases forest with
  | token t fits others =>
    obtain ⟨_, behind, rfl⟩ := Forest.exists_values_token found
    exact behind

/-- What a row denotes behind its first symbol. -/
theorem Forest.values?_behindPart {forest : Forest (.part symbol :: rest)}
    {values : Values (.part symbol :: rest)} (found : forest.values? = some values) :
    forest.others.values? = some values.2 := by
  cases forest with
  | part rule below others =>
    obtain ⟨_, _, -, behind, rfl⟩ := Forest.exists_values_part found
    exact behind

/-- What the first symbol of a row denotes, by some rule. -/
theorem Forest.exists_denote {forest : Forest (.part symbol :: rest)}
    {values : Values (.part symbol :: rest)} (found : forest.values? = some values) :
    ∃ (items : List Item) (rule : Rule symbol items) (below : Forest items) (inner : Values items),
      forest.tokens = below.tokens ++ forest.others.tokens ∧
        rule.denote inner below.tokens = some values.1 := by
  cases forest with
  | part rule below others =>
    obtain ⟨_, _, value, -, rfl⟩ := Forest.exists_values_part found
    obtain ⟨inner, -, denoted⟩ := Derivation.exists_values value
    exact ⟨_, rule, below, inner, rfl, denoted⟩

/-- **The other branch of a choice**: there is none, or an `else` comes next. -/
theorem Forest.alternative_next {forest : Forest [.part .alternative]}
    {values : Values [.part .alternative]} (found : forest.values? = some values) (w : List Token) :
    (values.1 = none ∧ nextKind (forest.tokens ++ w) = nextKind w) ∨
      values.1.isSome ∧ nextKind (forest.tokens ++ w) = .elseKeyword := by
  obtain ⟨items, rule, below, inner, tokens, denoted⟩ := exists_denote found
  rw [tokens, tokens_nil, List.append_nil]
  cases rule with
  | noAlternative =>
    exact .inl ⟨(Option.some.inj denoted).symm, by rw [tokens_nil, List.nil_append]⟩
  | alternative => exact .inr ⟨by rw [← Option.some.inj denoted]; rfl, below.nextKind_token w⟩

/-- **More statements**: there are none, or a token that is no `else` comes next. -/
theorem Forest.statements_next {forest : Forest [.part .statements]}
    {values : Values [.part .statements]} (found : forest.values? = some values) (w : List Token) :
    (values.1 = [] ∧ nextKind (forest.tokens ++ w) = nextKind w) ∨
      ∃ s more, values.1 = s :: more ∧ nextKind (forest.tokens ++ w) ≠ .elseKeyword := by
  obtain ⟨items, rule, below, inner, tokens, denoted⟩ := exists_denote found
  rw [tokens, tokens_nil, List.append_nil]
  cases rule with
  | empty => exact .inl ⟨(Option.some.inj denoted).symm, by rw [tokens_nil, List.nil_append]⟩
  | more =>
    refine .inr ⟨_, _, (Option.some.inj denoted).symm, fun isElse => ?_⟩
    have listed := below.nextKind_mem statementKinds ⟨_, fun _ => id, rfl⟩ w
    rw [isElse] at listed
    exact absurd listed (by decide)

/-- **A rule has each `else` at the nearest choice just if what it denotes has**, as far as
this is known of what stands below it. -/
theorem Rule.nearest_iff (rule : Rule symbol items) (regular : symbol.Regular)
    {below : Forest items} {values : Values items} (found : below.values? = some values)
    {a : symbol.Value} (denotes : rule.denote values u = some a) :
    rule.Nearest w.head? ∧ Forest.NearestBefore w items below values ↔
      symbol.NearestBefore (nextKind w) a := by
  cases rule
  case number => simp [Rule.Nearest]
  all_goals obtain rfl := Option.some.inj denotes
  case noAlternative => cases w <;> simp [Rule.Nearest, nextKind]
  case conditional =>
    -- The first branch is followed by an `else` just if there is another one.
    have found := Forest.values?_behindPart (Forest.values?_behindToken
      (Forest.values?_behindPart (Forest.values?_behindToken found)))
    rcases Forest.alternative_next found w with ⟨none_, next⟩ | ⟨some_, next⟩
    · by_cases isElse : nextKind w = .elseKeyword <;> simp [Rule.Nearest, next, none_, isElse]
    · simp [Rule.Nearest, next, some_, and_assoc]
  case more item =>
    rcases regular with rfl | rfl | rfl
    · simp [Rule.Nearest]
    · simp [Rule.Nearest]
    -- Only the last statement can be followed by an `else`.
    · rcases Forest.statements_next (Forest.values?_behindPart found) w with
        ⟨none_, next⟩ | ⟨s, others, some_, next⟩
      · simp [Rule.Nearest, next, none_]
      · simp [Rule.Nearest, next, some_, and_assoc]
  case single | further =>
    rcases regular with rfl | rfl | rfl <;> simp [Rule.Nearest]
  case callTerminated | assignmentTerminated =>
    -- What comes behind the statement differs if there is a semicolon, so it must not end open.
    obtain ⟨_, rule, _, _, -, denoted⟩ := Forest.exists_denote found
    cases rule
    simp [Rule.Nearest, ← Option.some.inj denoted]
  case program | routineBody | variableSection =>
    simp [Rule.Nearest, List.forall_mem_flatten, or_imp, forall_and, -List.mem_flatten]
  all_goals simp [Rule.Nearest, Forest.nextKind_token, Forest.nextKind_word]

/-- **A derivation has each `else` at the nearest choice just if what it denotes has.** -/
def Derivation.NearestIff (d : Derivation symbol) : Prop :=
  ∀ (w : List Token) (a : symbol.Value), symbol.Regular → d.InPlace false w.head? →
    d.value? = some a → (d.InPlace true w.head? ↔ symbol.NearestBefore (nextKind w) a)

/-- A row has if everything in it does. -/
theorem Forest.nearest_iff {forest : Forest items} {values : Values items}
    (parts : forest.Each fun _ _ rule below => (Derivation.mk rule below).NearestIff)
    (orderly : Orderly items) (place : forest.InPlace false w.head?)
    (found : forest.values? = some values) :
    forest.InPlace true w.head? ↔ NearestBefore w items forest values := by
  induction forest with
  | nil => exact Iff.rfl
  | token t fits others ih => exact ih parts orderly place (values?_behindToken found)
  | part rule below others _ ih =>
    obtain ⟨a, more, value, behind, rfl⟩ := exists_values_part found
    obtain ⟨mayStand, inner, placeOthers⟩ := place
    have same : others.tokens.head?.or w.head? = (others.tokens ++ w).head? :=
      List.head?_append.symm
    rw [same] at mayStand inner
    have first := parts.1 (others.tokens ++ w) a orderly.1 ⟨mayStand, inner⟩ value
    rw [← same] at first
    rw [InPlace, ← and_assoc]
    exact and_congr first (ih parts.2.2 orderly.2.2 placeOthers behind)

/-- So does a symbol if everything below its rule does. -/
theorem Derivation.nearestIff_of_parts (rule : Rule symbol items) (below : Forest items)
    (parts : below.Each fun _ _ rule below => (Derivation.mk rule below).NearestIff) :
    (Derivation.mk rule below).NearestIff := by
  intro w a regular place value
  obtain ⟨values, found, denoted⟩ := Derivation.exists_values value
  obtain ⟨⟨allowed, -⟩, inner⟩ := place
  have row := below.nearest_iff parts (rule.orderly regular) inner found
  have mayStand : rule.MayStand true w.head? ↔ rule.Nearest w.head? :=
    ⟨fun h => h.2 rfl, fun h => ⟨allowed, fun _ => h⟩⟩
  rw [InPlace, row, mayStand]
  exact rule.nearest_iff regular found denoted

/-- **Derivations and trees agree** on whether each `else` is at the nearest choice. -/
theorem Derivation.nearestIff (d : Derivation symbol) : d.NearestIff :=
  Derivation.nearestIff_of_parts d.rule d.below (Forest.each Derivation.nearestIff_of_parts d.below)

/-- **A tree of tokens**: what some derivation of them denotes, whichever choice each
`else` in it belongs to. -/
def IsTree (tokens : List Token) (p : Program) : Prop :=
  ∃ d : Derivation .program, d.InPlace false none ∧ d.tokens = tokens ∧ d.value? = some p

end Grammar

namespace Program

/-- **Each `else` belongs to the nearest choice**, and there is no choice about it: of all
the trees of the tokens of a program, the one that is recognized is the only one where
each `else` belongs to the nearest choice. -/
theorem ofStream_elsesNearest (s : TokenStream) (p : Program) (accepted : ofStream s = .ok p) :
    (Node.program p).ElsesNearest ∧ IsTree s.ahead p ∧
      ∀ p', IsTree s.ahead p' → (Node.program p').ElsesNearest → p' = p := by
  unfold ofStream at accepted
  cases run : Recognizer.program s with
  | error fault s' =>
    rw [run] at accepted
    exact absurd accepted (by simp)
  | ok a s' =>
    rw [run] at accepted
    obtain rfl := Except.ok.inj accepted
    obtain ⟨d, tokens, yields, -⟩ := Recognizer.exists_yields run
    have nearest {d : Grammar.Derivation .program} {p : Program} (place : d.InPlace false none)
        (value : d.value? = some p) : d.InPlace true none ↔ (Node.program p).ElsesNearest := by
      refine (d.nearestIff [] p trivial place value).trans (and_iff_left fun isElse => ?_)
      exact absurd isElse (by decide)
    have loose : d.InPlace false none := yields.loose
    refine ⟨(nearest loose yields.value).1 yields.place, ⟨d, loose, tokens.symm, yields.value⟩, ?_⟩
    rintro p' ⟨d', place, tokens', value⟩ elses
    have place' := (nearest place value).2 elses
    obtain rfl := Derivation.unique place' yields.place (tokens'.trans tokens)
    exact Option.some.inj (value.symm.trans yields.value)

/-- The `else` of a program with two choices belongs to the inner one only. -/
theorem ofStream_elsesNearest_choices :
    ∃ p, ofText "program p; begin if a then while b do if c then x := 1 else y := 2; end." = .ok p ∧
      (Node.program p).ElsesNearest ∧
      ∀ p', IsTree (TokenStream.ofText
          "program p; begin if a then while b do if c then x := 1 else y := 2; end.").ahead p' →
        (Node.program p').ElsesNearest → p' = p := by
  have valid :
      isValid "program p; begin if a then while b do if c then x := 1 else y := 2; end." = true := by
    decide +kernel
  obtain ⟨p, found⟩ := exists_of_isValid valid
  obtain ⟨elses, -, only⟩ := ofStream_elsesNearest _ p found
  exact ⟨p, found, elses, only⟩

end Program

end PascalFront
