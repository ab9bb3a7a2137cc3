import PascalFront.Proofs.Grammar.First
/-!
# Which choice an `else` belongs to

The rules leave open which of several choices an `else` belongs to. Tokens that
can be derived at all can also be derived with each `else` at the nearest choice
that can take it (`Derivation.exists_nearest`).

The tokens in front of an `else` are `Open` if they end with a choice that could
take this `else`. The other branch behind them is then taken in by the last such
choice (`Open.attach`); the result is in order, or it is open again if yet
another `else` follows.
-/

namespace PascalFront.Grammar

variable {symbol other : Symbol} {items rest : List Item} {next : Option Token} {e t : Token}
  {u v w : List Token}

/-! ## With each `else` at the nearest choice -/

/-- **Tokens make up a row of items with each `else` at the nearest choice.** -/
def Nearest (items : List Item) (w : List Token) (next : Option Token) : Prop :=
  ∃ forest : Forest items, forest.tokens = w ∧ forest.InPlace true next

/-- No tokens make up no items. -/
theorem Nearest.nil : Nearest [] [] next := ⟨.nil, rfl, trivial⟩

/-- A token in front of such tokens. -/
theorem Nearest.token {sort : Terminal} (fits : sort.Fits t) (h : Nearest rest w next) :
    Nearest (.token sort :: rest) (t :: w) next := by
  obtain ⟨forest, rfl, place⟩ := h
  exact ⟨.token t fits forest, rfl, place⟩

/-- A symbol in front of such tokens. -/
theorem Nearest.behind (first : Nearest [.part symbol] u (w.head?.or next))
    (h : Nearest rest w next) : Nearest (.part symbol :: rest) (u ++ w) next := by
  obtain ⟨forest, rfl, place⟩ := h
  obtain ⟨front, rfl, placeFront⟩ := first
  cases front with
  | part rule below nothing =>
    cases nothing
    refine ⟨.part rule below forest, ?_, placeFront.1, placeFront.2.1, place⟩
    show below.tokens ++ forest.tokens = below.tokens ++ [] ++ forest.tokens
    rw [List.append_nil]

/-- A rule above such tokens. -/
theorem Nearest.rule (rule : Rule symbol items) (mayStand : rule.MayStand true next)
    (h : Nearest items w next) : Nearest [.part symbol] w next := by
  obtain ⟨forest, rfl, place⟩ := h
  exact ⟨.part rule forest .nil, List.append_nil _, mayStand, place, trivial⟩

/-- Such tokens for a symbol are those of a derivation. -/
theorem Nearest.exists_derivation (h : Nearest [.part symbol] w next) :
    ∃ d : Derivation symbol, d.tokens = w ∧ d.InPlace true next := by
  obtain ⟨forest, rfl, place⟩ := h
  cases forest with
  | part rule below nothing =>
    cases nothing
    exact ⟨⟨rule, below⟩, (List.append_nil _).symm, place.1, place.2.1⟩

/-! ## The grammar of programs -/

/-- The symbols that a program can be made of. -/
def Symbol.Regular : Symbol → Prop
  | nested inner => inner = routineBody ∨ inner = statement ∨ ∃ rank, inner = level rank
  | repeated item => item = declaration ∨ item = variableGroup ∨ item = nested statement
  | separated _ item => item = name ∨ item = parameterGroup ∨ item = expression
  | _ => True

/-- The symbols that may end with a choice that could take an `else`. -/
def Symbol.Dangles : Symbol → Prop
  | nested inner => inner = statement
  | repeated item => item = nested statement
  | statement | alternative => True
  | _ => False

/-- What comes behind a symbol that may end with a choice: nothing, the other
branch, more statements, or a token that is no `else`. -/
inductive Closes : Symbol → List Item → Prop where
  /-- Nothing comes behind it. -/
  | nothing {symbol : Symbol} : Closes symbol []
  /-- The other branch of a choice comes behind it. -/
  | alternative : Closes (.nested .statement) [.part .alternative]
  /-- More statements come behind it. -/
  | statements : Closes (.nested .statement) [.part .statements]
  /-- A token of another sort comes behind it. -/
  | token {symbol : Symbol} {sort : Terminal} {rest : List Item}
      (other : ∀ t, sort.Fits t → t.kind ≠ .elseKeyword) : Closes symbol (.token sort :: rest)

/-- A row as it occurs in the rules of a program. -/
def Orderly : List Item → Prop
  | [] => True
  | .token _ :: rest => Orderly rest
  | .part symbol :: rest =>
    symbol.Regular ∧ (symbol.Dangles → Closes symbol rest) ∧ Orderly rest

/-- Symbols that may end with a choice occur in programs. -/
theorem Symbol.Dangles.regular (h : symbol.Dangles) : symbol.Regular := by
  cases symbol
  case nested => exact .inr (.inl h)
  case repeated => exact .inr (.inr h)
  case statement | alternative => trivial
  all_goals exact h.elim

/-- **The rules of a program** are made of such rows. -/
theorem Rule.orderly (rule : Rule symbol items) (regular : symbol.Regular) : Orderly items := by
  have other {word : String} {listed : (word, Kind.endKeyword) ∈ Kind.keywords} :
      ∀ t, Terminal.Fits (.word (word, .endKeyword) listed) t → t.kind ≠ .elseKeyword := by
    intro t fits
    rw [fits.1]
    decide
  cases rule
  case nested =>
    rcases regular with rfl | rfl | ⟨rank, rfl⟩ <;> simp [Orderly, Symbol.Regular, Closes.nothing]
  case more =>
    rcases regular with rfl | rfl | rfl <;>
      simp [Orderly, Symbol.Regular, Symbol.Dangles, Closes.nothing, Closes.statements]
  case single | further =>
    rcases regular with rfl | rfl | rfl <;> simp [Orderly, Symbol.Regular, Symbol.Dangles]
  case conditional =>
    simp [Orderly, Symbol.Regular, Symbol.Dangles, Closes.nothing, Closes.alternative]
  case block | compound | compoundTerminated =>
    simp [Orderly, Symbol.Regular, Symbol.Dangles, Closes.token other]
  all_goals simp [Orderly, Symbol.Regular, Symbol.Dangles, Closes.nothing]

/-- A rule that ends with what may end with a choice is a rule for such a
symbol. -/
theorem Rule.dangles (rule : Rule symbol items) (regular : symbol.Regular)
    (last : items.getLast? = some (.part other)) (dangles : other.Dangles) : symbol.Dangles := by
  cases rule
  case nested =>
    obtain rfl := Item.part.inj (Option.some.inj last)
    rcases regular with rfl | rfl | ⟨rank, rfl⟩
    · exact dangles.elim
    · rfl
    · exact dangles.elim
  case single =>
    obtain rfl := Item.part.inj (Option.some.inj last)
    rcases regular with rfl | rfl | rfl <;> exact absurd dangles (by simp [Symbol.Dangles])
  all_goals simp only [List.getLast?_cons_cons, List.getLast?_singleton, List.getLast?_nil,
    Option.some.injEq, Item.part.injEq, reduceCtorEq] at last
  all_goals subst last
  all_goals first | exact dangles.elim | trivial

/-! ## Open tokens -/

/-- **Tokens are open** before the `else` that is `e`: they end with a choice that
could take it, and otherwise each `else` is at the nearest choice. -/
inductive Open (e : Token) : List Item → List Token → Prop where
  /-- The other branch of a choice is missing. -/
  | missing : Open e [.part .alternative] []
  /-- What comes behind a token is open. -/
  | token {sort : Terminal} {t : Token} {rest : List Item} {w : List Token} (fits : sort.Fits t)
      (others : Open e rest w) : Open e (.token sort :: rest) (t :: w)
  /-- What comes behind a symbol is open. -/
  | behind {symbol : Symbol} {rest : List Item} {u w : List Token}
      (first : Nearest [.part symbol] u (w.head?.or (some e))) (others : Open e rest w) :
      Open e (.part symbol :: rest) (u ++ w)
  /-- What is below a rule is open. -/
  | rule {symbol : Symbol} {items : List Item} {w : List Token} (dangles : symbol.Dangles)
      (rule : Rule symbol items) (below : Open e items w) : Open e [.part symbol] w
  /-- A symbol is open, and what would come behind it is missing. -/
  | last {symbol other : Symbol} {w : List Token} (dangles : other.Dangles) (rule : Rule other [])
      (open_ : Open e [.part symbol] w) : Open e [.part symbol, .part other] w

/-- The last item of an open row is one that may end with a choice. -/
theorem Open.dangles (h : Open e items w) :
    ∃ symbol, items.getLast? = some (.part symbol) ∧ symbol.Dangles := by
  induction h with
  | missing => exact ⟨_, rfl, trivial⟩
  | token _ _ ih | behind _ _ ih =>
    obtain ⟨symbol, last, dangles⟩ := ih
    exact ⟨symbol, by rw [List.getLast?_cons, last]; rfl, dangles⟩
  | rule dangles | last dangles => exact ⟨_, rfl, dangles⟩

/-- **Tokens are in order before some token**: each `else` is at the nearest
choice, or the next token is an `else` and they are open. -/
def Ordered (items : List Item) (w : List Token) (next : Option Token) : Prop :=
  Nearest items w next ∨ ∃ e ∈ next, e.kind = .elseKeyword ∧ Open e items w

/-- A token in front of tokens in order. -/
theorem Ordered.token {sort : Terminal} (fits : sort.Fits t) (h : Ordered rest w next) :
    Ordered (.token sort :: rest) (t :: w) next := by
  rcases h with nearest | ⟨e, front, isElse, h⟩
  · exact .inl (nearest.token fits)
  · exact .inr ⟨e, front, isElse, .token fits h⟩

/-- A symbol in front of tokens in order. -/
theorem Ordered.behind (first : Nearest [.part symbol] u (w.head?.or next))
    (h : Ordered rest w next) : Ordered (.part symbol :: rest) (u ++ w) next := by
  rcases h with nearest | ⟨e, rfl, isElse, h⟩
  · exact .inl (.behind first nearest)
  · exact .inr ⟨e, rfl, isElse, .behind first h⟩

/-- A rule above tokens in order. -/
theorem Ordered.rule (rule : Rule symbol items) (regular : symbol.Regular)
    (allowed : rule.Allowed next) (h : Ordered items w next) : Ordered [.part symbol] w next := by
  rcases h with nearest | ⟨e, front, isElse, h⟩
  · by_cases near : rule.Nearest next
    · exact .inl (nearest.rule rule ⟨allowed, fun _ => near⟩)
    · cases rule
      case noAlternative =>
        obtain ⟨forest, rfl, -⟩ := nearest
        cases forest
        obtain ⟨e, other⟩ := Classical.not_forall.1 near
        obtain ⟨front, isElse⟩ := Classical.not_imp.1 other
        exact .inr ⟨e, front, Decidable.not_not.1 isElse, .missing⟩
      all_goals exact absurd trivial near
  · obtain ⟨inner, last, dangles⟩ := h.dangles
    exact .inr ⟨e, front, isElse, .rule (rule.dangles regular last dangles) rule h⟩

/-- Where a symbol that may end with a choice is missing, what comes in front of
it is in order with it if it is in order alone. -/
theorem Ordered.last (dangles : other.Dangles) (rule : Rule other [])
    (h : Ordered [.part symbol] w next) : Ordered [.part symbol, .part other] w next := by
  rcases h with nearest | ⟨e, front, isElse, h⟩
  · have allowed : rule.Allowed next := by
      rcases rule.allowed_or with always | ⟨rfl, -⟩
      · exact always next
      · exact dangles.elim
    have missing := Ordered.rule rule dangles.regular allowed (.inl .nil)
    rw [← List.append_nil w]
    exact .behind nearest missing
  · exact .inr ⟨e, front, isElse, .last dangles rule h⟩

/-- **Attaching.** The other branch behind open tokens belongs to the last choice
that could take it. -/
theorem Open.attach (h : Open e items w) (front : v.head? = some e)
    (branch : Ordered [.part .alternative] v next) : Ordered items (w ++ v) next := by
  induction h with
  | missing => exact branch
  | token fits _ ih => exact .token fits ih
  | @behind symbol rest u w first _ ih =>
    rw [List.append_assoc]
    refine .behind ?_ ih
    rwa [List.head?_append, front, Option.or_assoc]
  | rule dangles rule below ih =>
    refine .rule rule dangles.regular ?_ ih
    rcases rule.allowed_or with always | ⟨rfl, -⟩
    · exact always next
    · exact dangles.elim
  | last dangles rule _ ih => exact .last dangles rule ih

/-! ## Every derivation -/

/-- Statements do not begin with `else`. -/
theorem Derivation.statements_head (d : Derivation .statements) :
    ∀ t ∈ d.tokens.head?, t.kind ≠ .elseKeyword := by
  obtain ⟨rule, below⟩ := d
  rintro t front isElse
  cases rule with
  | empty =>
    cases below
    exact absurd front (by simp [Derivation.tokens, Forest.tokens])
  | more =>
    cases below with
    | part rule below others =>
      obtain ⟨t', more, tokens, listed⟩ := (Derivation.mk rule below).first rfl
      have tokens : below.tokens = t' :: more := tokens
      obtain rfl : t' = t := by simpa [Derivation.tokens, Forest.tokens, tokens] using front
      rw [isElse] at listed
      exact absurd listed (by decide)

/-- Open tokens of a symbol are in order with what comes behind them. -/
theorem Open.closed {others : Forest rest} (h : Open e [.part symbol] u)
    (front : e ∈ others.tokens.head?.or next) (isElse : e.kind = .elseKeyword)
    (closes : Closes symbol rest) (ordered : Ordered rest others.tokens next) :
    Ordered (.part symbol :: rest) (u ++ others.tokens) next := by
  cases closes with
  | nothing =>
    cases others
    rw [Forest.tokens, List.append_nil]
    exact .inr ⟨e, front, isElse, h⟩
  | alternative =>
    cases behind : others.tokens with
    | nil =>
      rw [behind] at front
      rw [List.append_nil]
      exact .last trivial .noAlternative (.inr ⟨e, front, isElse, h⟩)
    | cons t more =>
      rw [behind] at front ordered
      obtain rfl : t = e := Option.some.inj front
      exact .last trivial .noAlternative (h.attach rfl ordered)
  | statements =>
    cases behind : others.tokens with
    | nil =>
      rw [behind] at front
      rw [List.append_nil]
      exact .last rfl (.empty _) (.inr ⟨e, front, isElse, h⟩)
    | cons t more =>
      rw [behind] at front
      obtain rfl : t = e := Option.some.inj front
      cases others with
      | part rule below nothing =>
        cases nothing
        have tokens : (Derivation.mk rule below).tokens = t :: more := by
          rw [← behind]
          exact (List.append_nil _).symm
        exact absurd isElse (Derivation.statements_head ⟨rule, below⟩ t (by rw [tokens]; rfl))
  | token other =>
    cases others with
    | token t fits others =>
      obtain rfl : t = e := Option.some.inj front
      exact absurd isElse (other t fits)

/-- **What is derived somehow is in order.** -/
theorem Forest.ordered (forest : Forest items) (orderly : Orderly items)
    (place : forest.InPlace false next) : Ordered items forest.tokens next := by
  induction forest generalizing next with
  | nil => exact .inl .nil
  | token t fits others ih => exact .token fits (ih orderly place)
  | part rule below others ihBelow ihOthers =>
    obtain ⟨regular, closes, orderlyOthers⟩ := orderly
    obtain ⟨mayStand, inner, behind⟩ := place
    have front := Ordered.rule rule regular mayStand.1 (ihBelow (rule.orderly regular) inner)
    have ordered := ihOthers orderlyOthers behind
    rcases front with nearest | ⟨e, next, isElse, h⟩
    · exact .behind nearest ordered
    · obtain ⟨_, last, dangles⟩ := h.dangles
      obtain rfl := Item.part.inj (Option.some.inj last)
      exact h.closed next isElse (closes dangles) ordered

/-- **Each `else` can be at the nearest choice.** The tokens of a derivation of
a program are those of one in which it is. -/
theorem Derivation.exists_nearest (d : Derivation .program) (place : d.InPlace false none) :
    ∃ d' : Derivation .program, d'.tokens = d.tokens ∧ d'.InPlace true none := by
  have row : (Forest.cons d .nil).InPlace false none := ⟨place.1, place.2, trivial⟩
  have orderly : Orderly [.part .program] := ⟨trivial, False.elim, trivial⟩
  rcases Forest.ordered _ orderly row with nearest | ⟨e, none, -⟩
  · have tokens : (Forest.cons d .nil).tokens = d.tokens := List.append_nil _
    rw [tokens] at nearest
    exact nearest.exists_derivation
  · exact absurd none (by simp)

end PascalFront.Grammar
