import PascalFront.Proofs.Tree.Roots
/-!
# Expressions in a tree are derived

Each expression in the tree that a derivation denotes has a derivation of its own,
as an expression of any kind, from some of the same tokens one behind the other
(`Expr.IsDerived`). For most of them that is a part of the derivation of the tree,
whose rule made the expression; the variable of an assignment or of a counting loop
is a token there and an expression nevertheless.

A derivation of a part is not nested as deeply as that of the tree. How many
levels are left over depends on how many are open around the part; around an
expression in a program these are two at least (`Symbol.reserve`).
-/

namespace PascalFront

open Grammar

/-- **An expression is derived** from some of a row of tokens, one behind the other,
with so many levels of nesting to spare. -/
def Expr.IsDerived (row : List Token) (room : Nat) (e : Expr) : Prop :=
  ∃ d : Derivation (.level 0), d.value? = some e ∧ d.tokens <:+: row ∧ d.depth ≤ room

namespace Grammar

variable {symbol : Symbol} {items : List Item} {rank room : Nat} {row : List Token} {e : Expr}

/-! ## Levels around expressions -/

/-- **How many levels of nesting a symbol opens** around each expression in it, at
least. The expressions that are tokens are left out. -/
def Symbol.reserve : Symbol → Nat
  | nested inner => inner.reserve + 1
  | repeated item | separated _ item => item.reserve
  | level _ | primary => 0
  | statement | callStatement | assignment | arguments => 1
  | _ => 2

/-- The parts of a symbol open the levels that the symbol does not open itself. -/
theorem Rule.reserve_le (rule : Rule symbol items) {part : Symbol} (listed : .part part ∈ items) :
    symbol.reserve ≤ symbol.levels + part.reserve := by
  -- the rules one by one, each with its parts
  cases rule <;> simp at listed <;> grind [Symbol.reserve, Symbol.levels]

/-! ## Derivations of expressions -/

/-- A derivation of a level as one of the level that is looser by one. -/
theorem Derivation.exists_looser_by_one (d : Derivation (.level (rank + 1))) :
    ∃ d' : Derivation (.level rank), d'.tokens = d.tokens ∧ d'.value? = d.value? ∧
      d'.depth = d.depth := by
  by_cases low : rank < 4
  · refine ⟨⟨.tighter low, .cons d .nil⟩, List.append_nil _, ?_, ?_⟩
    · rw [Derivation.value?, Forest.values?_single]
      cases d.value? <;> rfl
    · simp [Derivation.depth, Forest.depth, Symbol.levels]
  · -- the levels from the fourth on have the same rules
    have high : 4 ≤ rank := Nat.le_of_not_lt low
    obtain ⟨rule, below⟩ := d
    cases rule with
    | tighter isRank => omega
    | operation isRank => omega
    | signed => exact ⟨⟨.signed high, below⟩, rfl, rfl, rfl⟩
    | primary => exact ⟨⟨.primary high, below⟩, rfl, rfl, rfl⟩

/-- **An expression of a level is one of the loosest level.** -/
theorem Derivation.exists_loosest (d : Derivation (.level rank)) :
    ∃ d' : Derivation (.level 0), d'.tokens = d.tokens ∧ d'.value? = d.value? ∧
      d'.depth = d.depth := by
  induction rank with
  | zero => exact ⟨d, rfl, rfl, rfl⟩
  | succ rank ih =>
    obtain ⟨d₁, tokens₁, value₁, depth₁⟩ := d.exists_looser_by_one
    obtain ⟨d₂, tokens₂, value₂, depth₂⟩ := ih d₁
    exact ⟨d₂, tokens₂.trans tokens₁, value₂.trans value₁, depth₂.trans depth₁⟩

/-- An expression of a level is derived from its tokens. -/
theorem Derivation.isDerived_level (d : Derivation (.level rank)) (value : d.value? = some e)
    (within : d.tokens <:+: row) (deep : d.depth ≤ room) : e.IsDerived row room := by
  obtain ⟨d', tokens, value', depth⟩ := d.exists_loosest
  exact ⟨d', value'.trans value, tokens ▸ within, depth ▸ deep⟩

/-- An expression without an operator outside of parentheses is derived from its
tokens. -/
theorem Derivation.isDerived_primary (d : Derivation .primary) (value : d.value? = some e)
    (within : d.tokens <:+: row) (deep : d.depth ≤ room) : e.IsDerived row room := by
  refine Derivation.isDerived_level ⟨.primary (Nat.le_refl 4), .cons d .nil⟩ ?_ ?_ ?_
  · rw [Derivation.value?, Forest.values?_single, value]
    rfl
  · rwa [Derivation.tokens, Forest.tokens, Forest.tokens, List.append_nil]
  · simpa [Derivation.depth, Forest.depth, Symbol.levels] using deep

/-- A name is derived from its token. -/
theorem isDerived_name {t : Token} (isName : t.kind = .identifier) (listed : t ∈ row) :
    (Expr.name ⟨t.value, t.span⟩).IsDerived row room := by
  refine Derivation.isDerived_primary ⟨.variableName, .token t isName .nil⟩ rfl ?_
    (Nat.zero_le room)
  obtain ⟨front, behind, rfl⟩ := List.append_of_mem listed
  exact ⟨front, behind, by simp [Derivation.tokens, Forest.tokens]⟩

/-- What a rule makes, if it is an expression, is derived from the tokens. -/
theorem Derivation.isDerived_of_made (d : Derivation symbol) (makes : d.rule.passes = false)
    {a : symbol.Value} (value : d.value? = some a) (listed : .expression e ∈ symbol.roots a)
    (within : d.tokens <:+: row) (deep : symbol.reserve = 0 → d.depth ≤ room) :
    e.IsDerived row room := by
  cases symbol
  case level rank =>
    obtain rfl := Node.expression.inj (List.mem_singleton.1 listed)
    exact d.isDerived_level value within (deep rfl)
  case primary =>
    obtain rfl := Node.expression.inj (List.mem_singleton.1 listed)
    exact d.isDerived_primary value within (deep rfl)
  case nested | repeated | separated | arguments =>
    obtain ⟨rule, below⟩ := d
    cases rule <;> exact absurd makes.symm Bool.false_ne_true
  all_goals exact absurd listed (by simp [Symbol.roots])

/-- **All expressions in what a forest denotes are derived**, where enough levels of
nesting are open around the forest and in it. -/
theorem Forest.isDerived {forest : Forest items} {values : Values items} {opened : Nat}
    (denotes : forest.values? = some values) (within : forest.tokens <:+: row)
    (reserve : ∀ symbol, .part symbol ∈ items → 2 ≤ opened + symbol.reserve)
    (deep : opened + forest.depth ≤ room + 2) :
    ∀ root ∈ valuesRoots items values, root.IsIn (.expression e) → e.IsDerived row room := by
  -- going into a part opens its levels; what is open and what the part reserves stays
  -- two levels at least, and an expression, which reserves none, finds two open
  induction forest generalizing opened with
  | nil => exact fun _ listed => absurd listed List.not_mem_nil
  | token t fits others ih =>
    obtain ⟨more, found, rfl⟩ := Forest.exists_values_token denotes
    refine ih found ((List.suffix_cons ..).isInfix.trans within) (fun symbol listed => ?_) deep
    exact reserve symbol (.tail _ listed)
  | @part symbol inside _ rule below others ihBelow ihOthers =>
    obtain ⟨a, more, first, found, rfl⟩ := Forest.exists_values_part denotes
    obtain ⟨inner, foundBelow, denoted⟩ := Derivation.exists_values first
    have ofBelow : below.tokens <:+: row := (List.prefix_append ..).isInfix.trans within
    have deep : opened + max (symbol.levels + below.depth) others.depth ≤ room + 2 := deep
    have open_ := reserve symbol List.mem_cons_self
    have reserve' (part : Symbol) (listed : .part part ∈ inside) :
        2 ≤ opened + symbol.levels + part.reserve := by
      have := rule.reserve_le listed
      omega
    refine List.forall_mem_append.2 ⟨fun root listed inTree => ?_,
      ihOthers found ((List.suffix_append ..).isInfix.trans within)
        (fun symbol listed => reserve symbol (.tail _ listed)) (by omega)⟩
    rcases rule.isIn_roots (Forest.standsOn foundBelow) denoted listed inTree with
      ⟨listed, makes⟩ | ⟨c, listed, inTree⟩ | ⟨t, among, isName, same⟩
    · refine Derivation.isDerived_of_made ⟨rule, below⟩ makes first listed ofBelow fun none_ => ?_
      show symbol.levels + below.depth ≤ room
      omega
    · exact ihBelow foundBelow ofBelow reserve' (by omega) c listed inTree
    · obtain rfl := Node.expression.inj same
      exact isDerived_name isName (ofBelow.subset among)

/-- **All expressions in a program are derived** from its tokens. -/
theorem Derivation.everywhere_program (d : Derivation .program) {p : Program}
    (value : d.value? = some p) (deep : d.depth ≤ room + 2) (e : Expr)
    (inside : (Node.program p).IsIn (.expression e)) : e.IsDerived d.tokens room := by
  have row := Forest.values?_of_value? value
  have reserve (symbol : Symbol) (listed : .part symbol ∈ [Item.part .program]) :
      2 ≤ 0 + symbol.reserve := by
    obtain rfl := Item.part.inj (List.mem_singleton.1 listed)
    decide
  refine Forest.isDerived row ?_ reserve ?_ _ List.mem_cons_self inside
  · rw [Forest.tokens, Forest.tokens, List.append_nil]
    exact List.infix_rfl
  · simpa [Forest.depth, Derivation.depth] using deep

end Grammar

end PascalFront
