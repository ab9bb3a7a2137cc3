import PascalFront.Proofs.Grammar.Derivation
/-!
# First tokens

Most symbols of the grammar cannot be empty and begin with a token of a few
kinds. A recognizer that looks at the next token decides by these kinds.
-/

namespace PascalFront.Grammar

/-- The kinds that an expression begins with. -/
def expressionKinds : List Kind :=
  [.plus, .minus, .number, .text, .trueLiteral, .falseLiteral, .identifier, .openParen]

/-- The kinds that a statement begins with. -/
def statementKinds : List Kind :=
  [.ifKeyword, .whileKeyword, .forKeyword, .beginKeyword, .identifier]

/-- **The kinds that a symbol begins with**, for symbols that have tokens. -/
def Symbol.first? : Symbol → Option (List Kind)
  | nested inner => inner.first?
  | separated _ item => item.first?
  | program => some [.programKeyword]
  | declaration => some [.varKeyword, .procedureKeyword, .functionKeyword]
  | variableGroup | name | callStatement | assignment => some [.identifier]
  | parameterGroup => some [.varKeyword, .identifier]
  | block => some [.beginKeyword]
  | statement => some statementKinds
  | direction => some [.toKeyword, .downtoKeyword]
  | arguments => some (.closeParen :: expressionKinds)
  | level _ | primary => some expressionKinds
  | repeated _ | parameters | routineBody | terminator | alternative => none

/-- The kinds that the first item of a rule begins with. -/
def BeginsWith (kinds : List Kind) : List Item → Prop
  | [] => False
  | .token sort :: _ => ∀ t, sort.Fits t → t.kind ∈ kinds
  | .part symbol :: _ => ∃ kinds' ⊆ kinds, symbol.first? = some kinds'

variable {symbol : Symbol} {items : List Item} {kinds : List Kind}

/-- The tokens of a kind that is listed. -/
theorem kind_mem {kind : Kind} {notEnd : kind ≠ .endOfInput} (listed : kind ∈ kinds) (t : Token)
    (fits : Terminal.Fits (.kind kind notEnd) t) : t.kind ∈ kinds := by
  have : t.kind = kind := fits
  rwa [this]

/-- **A rule begins with the kinds that its symbol begins with.** -/
theorem Rule.first (rule : Rule symbol items) (h : symbol.first? = some kinds) :
    BeginsWith kinds items := by
  cases rule
  case empty | noParameters | emptyParameters | someParameters | routineBody | semicolon
    | omitted | more | noAlternative | alternative => exact absurd h (by simp [Symbol.first?])
  case nested | single | further => exact ⟨kinds, fun _ => id, h⟩
  all_goals obtain rfl := Option.some.inj h
  case program => exact fun t fits => by rw [fits.1]; decide
  case block => exact fun t fits => by rw [fits.1]; decide
  case signed => exact fun t fits => by rcases fits with fits | fits <;> rw [fits] <;> decide
  case variableGroup | valueGroup | callTerminated | assignmentTerminated | someArguments
    | tighter | operation | primary => exact ⟨_, by decide, rfl⟩
  all_goals exact kind_mem (by decide)

/-- **A row has a first token**, of one of the kinds it begins with. -/
theorem Forest.first {forest : Forest items} (begins : BeginsWith kinds items) :
    ∃ t more, forest.tokens = t :: more ∧ t.kind ∈ kinds := by
  induction forest generalizing kinds with
  | nil => exact begins.elim
  | token t fits others ih => exact ⟨t, others.tokens, rfl, begins t fits⟩
  | part rule below others ihBelow _ =>
    obtain ⟨kinds', fewer, first⟩ := begins
    obtain ⟨t, more, tokens, listed⟩ := ihBelow (rule.first first)
    refine ⟨t, more ++ others.tokens, ?_, fewer listed⟩
    rw [Forest.tokens, tokens, List.cons_append]

/-- **A symbol has a first token**, of one of the kinds it begins with. -/
theorem Derivation.first (d : Derivation symbol) (h : symbol.first? = some kinds) :
    ∃ t more, d.tokens = t :: more ∧ t.kind ∈ kinds :=
  Forest.first (d.rule.first h)

/-- A symbol that begins with some kind is not empty. -/
theorem Derivation.tokens_ne_nil (d : Derivation symbol) (h : symbol.first?.isSome) :
    d.tokens ≠ [] := by
  obtain ⟨kinds, first⟩ := Option.isSome_iff_exists.1 h
  obtain ⟨t, more, tokens, -⟩ := d.first first
  rw [tokens]
  exact List.cons_ne_nil _ _

end PascalFront.Grammar
