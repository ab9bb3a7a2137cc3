import Mathlib.Data.List.Basic
import PascalFront.Proofs.Grammar.Language
import PascalFront.Proofs.Tree.Children
import PascalFront.Proofs.Tree.Roots
/-!
# Spans where positions are missing

Tokens that do not come from a text may have no positions. The span of a node is zero then if
its first token begins or its last token ends at no known position, and tokens inside make no
difference — unless the node is a binary operation without parentheses around it. Its span is
taken from the spans of its operands, and these are zero when the tokens at their ends have no
position, although they stand inside the operation. So it is divided into operands until there
is no operator left outside of parentheses (`Node.Divided`), and its span is zero if the ends of
one of these are missing (`Program.span_eq_zero_iff`).
-/

namespace PascalFront

open Grammar Standing

/-! ## The ends of tokens -/

/-- **Tokens lack an end**: the first of them begins or the last of them ends at no known
position. -/
def Token.LackEnd (u : List Token) : Prop :=
  ∃ first ∈ u.head?, ∃ last ∈ u.getLast?, first.startPosition = .zero ∨ last.stopPosition = .zero

namespace Span

variable {start stop : Position} {u v : List Token} {first last t : Token}

/-- A span between two positions is zero if one of them is. -/
theorem between_eq_zero_iff : between start stop = .zero ↔ start = .zero ∨ stop = .zero := by
  unfold between
  split
  · next missing => exact iff_of_true rfl missing
  · next known => exact iff_of_false (fun same => known (.inl (congrArg Span.start same))) known

/-- The start of such a span is known unless the span is zero. -/
theorem between_start_eq_zero_iff : (between start stop).start = .zero ↔ between start stop = .zero := by
  rw [between_eq_zero_iff, between]
  split
  · next missing => exact iff_of_true rfl missing
  · next known => exact iff_of_false (fun same => known (.inl same)) known

/-- So is its end. -/
theorem between_stop_eq_zero_iff : (between start stop).stop = .zero ↔ between start stop = .zero := by
  rw [between_eq_zero_iff, between]
  split
  · next missing => exact iff_of_true rfl missing
  · next known => exact iff_of_false (fun same => known (.inr same)) known

/-- The span of tokens is zero if they lack an end. -/
theorem spanOver_eq_zero_iff (some_ : u ≠ []) : spanOver u = .zero ↔ Token.LackEnd u := by
  have front := List.head?_eq_some_head some_
  have back := List.getLast?_eq_some_getLast some_
  rw [spanOver_eq front back, between_eq_zero_iff, Token.LackEnd, front, back]
  simp

/-- The start of a span that runs over tokens is known unless the span is zero. -/
theorem RunsOver.start_eq_zero_iff {span : Span} (runs : span.RunsOver u) :
    span.start = .zero ↔ span = .zero := by
  rcases runs with rfl | ⟨rfl, -⟩
  · exact between_start_eq_zero_iff
  · exact iff_of_true rfl rfl

/-- So is its end. -/
theorem RunsOver.stop_eq_zero_iff {span : Span} (runs : span.RunsOver u) :
    span.stop = .zero ↔ span = .zero := by
  rcases runs with rfl | ⟨rfl, -⟩
  · exact between_stop_eq_zero_iff
  · exact iff_of_true rfl rfl

end Span

/-! ## Nodes divided by operators -/

namespace Node

/-- **The tokens of a node, divided by operators.** A binary operation without parentheses
around it is divided into the pieces of its operands; every other node is in one piece. -/
inductive Divided : Node → List Token → List (List Token) → Prop where
  | operation {left right : Expr} {span : Span} {u v : List Token} {t : Token}
      {pieces others : List (List Token)} (onLeft : Divided (expression left) u pieces)
      (isOperator : t.kind.rank?.isSome) (onRight : Divided (expression right) v others) :
      Divided (expression (.binary t.value left right span)) (u ++ t :: v) (pieces ++ others)
  | parenthesized {e : Expr} {span : Span} {u : List Token} {opening closing : Token}
      (isOpening : opening.kind = .openParen) (isClosing : closing.kind = .closeParen)
      (on : e.StandsOn u) :
      Divided (expression (e.withSpan span)) (opening :: (u ++ [closing]))
        [opening :: (u ++ [closing])]
  | whole {n : Node} {u : List Token} (on : n.StandsOn u)
      (noOperator : ∀ operator left right span, n ≠ expression (.binary operator left right span)) :
      Divided n u [u]

/-- **A node has a span on tokens**: it stands on them, and its span is zero just if one of the
pieces that they are divided into lacks an end. -/
def SpanOn (n : Node) (u : List Token) : Prop :=
  n.StandsOn u ∧ ∃ pieces, n.Divided u pieces ∧
    (n.span = .zero ↔ ∃ piece ∈ pieces, Token.LackEnd piece)

variable {n : Node} {u v : List Token}

/-- A span over all of the tokens. -/
theorem zero_iff_of_spanOver (some_ : u ≠ []) (covers : n.span = spanOver u) :
    n.span = .zero ↔ ∃ piece ∈ [u], Token.LackEnd piece := by
  rw [covers, Span.spanOver_eq_zero_iff some_]
  simp

/-- A node that is no operation. -/
theorem SpanOn.whole (on : n.StandsOn u) (covers : n.span = spanOver u)
    (noOperator : ∀ operator left right span, n ≠ expression (.binary operator left right span)) :
    n.SpanOn u :=
  ⟨on, [u], .whole on noOperator, zero_iff_of_spanOver on.ne_nil covers⟩

/-- An expression in parentheses. -/
theorem SpanOn.parenthesized {e : Expr} {opening closing : Token}
    (isOpening : opening.kind = .openParen) (isClosing : closing.kind = .closeParen)
    (on : e.StandsOn u) :
    (expression (e.withSpan (spanOver (opening :: (u ++ [closing]))))).SpanOn
      (opening :: (u ++ [closing])) :=
  ⟨on.parenthesized isOpening isClosing, _, .parenthesized isOpening isClosing on,
    zero_iff_of_spanOver (List.cons_ne_nil _ _) (Expr.span_withSpan ..)⟩

/-- **Two operands and the operator between them**: the span is zero if that of an operand
is. -/
theorem SpanOn.combine {left right : Expr} {t : Token} (onLeft : (expression left).SpanOn u)
    (isOperator : t.kind.rank?.isSome) (onRight : (expression right).SpanOn v) :
    (expression (left.combine t.value right)).SpanOn (u ++ t :: v) := by
  obtain ⟨standsLeft, pieces, dividedLeft, zeroLeft⟩ := onLeft
  obtain ⟨standsRight, others, dividedRight, zeroRight⟩ := onRight
  refine ⟨standsLeft.combine standsRight isOperator, pieces ++ others,
    .operation dividedLeft isOperator dividedRight, ?_⟩
  calc (expression (left.combine t.value right)).span = .zero
      ↔ left.span.start = .zero ∨ right.span.stop = .zero := Span.between_eq_zero_iff
    _ ↔ (expression left).span = .zero ∨ (expression right).span = .zero :=
        or_congr standsLeft.runs.start_eq_zero_iff standsRight.runs.stop_eq_zero_iff
    _ ↔ ∃ piece ∈ pieces ++ others, Token.LackEnd piece := by
        rw [zeroLeft, zeroRight]
        simp only [List.mem_append, or_and_right, exists_or]

end Node

/-! ## Derivations -/

namespace Grammar

variable {symbol : Symbol} {items : List Item} {u : List Token} {rank : Nat}

/-- An expression that a symbol denotes has a span on tokens. -/
def Symbol.SpanOn : (symbol : Symbol) → symbol.Value → List Token → Prop
  | nested inner, a, u => inner.SpanOn a u
  | level _, e, u | primary, e, u => (Node.expression e).SpanOn u
  | _, _, _ => True

/-- So have the expressions that a row of items denotes. -/
def ValuesSpanOn : (items : List Item) → Values items → List Token → Prop
  | [], (), u => u = []
  | .token sort :: rest, (t, values), u => ∃ v, u = t :: v ∧ sort.Fits t ∧ ValuesSpanOn rest values v
  | .part symbol :: rest, (a, values), u =>
    ∃ v w, u = v ++ w ∧ symbol.SpanOn a v ∧ ValuesSpanOn rest values w

/-- The rules for expressions without an operator outside of parentheses. -/
theorem Rule.spanOn_primary (rule : Rule .primary items) {values : Values items} {e : Expr}
    (on : ValuesStandOn items values u) (spans : ValuesSpanOn items values u)
    (denotes : rule.denote values u = some e) : (Node.expression e).SpanOn u := by
  have stands : (Node.expression e).StandsOn u := rule.standsOn_primary on denotes
  cases rule with
  | number =>
    obtain ⟨_, rfl, -, rfl⟩ := on
    obtain ⟨value, -, rfl⟩ := Option.map_eq_some_iff.1 denotes
    exact .whole stands rfl nofun
  | text | trueLiteral | falseLiteral | variableName =>
    obtain ⟨_, rfl, -, rfl⟩ := on
    obtain rfl := Option.some.inj denotes
    exact .whole stands rfl nofun
  | call =>
    obtain rfl := Option.some.inj denotes
    exact .whole stands rfl nofun
  | parenthesized =>
    obtain ⟨t, e, t', ⟨⟩⟩ := values
    obtain ⟨_, rfl, isOpening, v, _, rfl, ⟨inside, -⟩, _, rfl, isClosing, rfl⟩ := spans
    obtain rfl := Option.some.inj denotes
    exact .parenthesized isOpening isClosing inside

/-- The rules for expressions of a level. -/
theorem Rule.spanOn_level (rule : Rule (.level rank) items) {values : Values items} {e : Expr}
    (on : ValuesStandOn items values u) (spans : ValuesSpanOn items values u)
    (denotes : rule.denote values u = some e) : (Node.expression e).SpanOn u := by
  cases rule with
  | tighter | primary =>
    obtain ⟨e, ⟨⟩⟩ := values
    obtain ⟨v, _, rfl, spans, rfl⟩ := spans
    obtain rfl := Option.some.inj denotes
    rwa [List.append_nil]
  | operation isRank =>
    obtain ⟨left, t, right, ⟨⟩⟩ := values
    obtain ⟨v, _, rfl, onLeft, _, rfl, isOperator, w, _, rfl, onRight, rfl⟩ := spans
    obtain rfl := Option.some.inj denotes
    rw [List.append_nil]
    have isOperator : t.kind.rank? = some rank := isOperator
    exact .combine onLeft (by rw [isOperator]; rfl) onRight
  | signed isRank =>
    have stands : (Node.expression e).StandsOn u := (signed isRank).standsOn_level on denotes
    obtain rfl := Option.some.inj denotes
    exact .whole stands rfl nofun

/-- **The expressions that a forest denotes have spans on its tokens.** -/
theorem Forest.spanOn {forest : Forest items} {values : Values items}
    (denotes : forest.values? = some values) : ValuesSpanOn items values forest.tokens := by
  induction forest with
  | nil => exact rfl
  | token t fits others ih =>
    obtain ⟨more, found, rfl⟩ := Forest.exists_values_token denotes
    exact ⟨_, rfl, fits, ih found⟩
  | @part symbol _ _ rule below others ihBelow ihOthers =>
    obtain ⟨a, more, first, found, rfl⟩ := Forest.exists_values_part denotes
    obtain ⟨inner, foundBelow, denoted⟩ := Derivation.exists_values first
    refine ⟨_, _, rfl, ?_, ihOthers found⟩
    have on := Forest.standsOn foundBelow
    have spans := ihBelow foundBelow
    cases symbol with
    | nested =>
      cases rule with
      | nested =>
        obtain ⟨v, _, tokens, spans, rfl⟩ := spans
        obtain rfl := Option.some.inj denoted
        rw [tokens, List.append_nil]
        exact spans
    | level => exact rule.spanOn_level on spans denoted
    | primary => exact rule.spanOn_primary on spans denoted
    | _ => trivial

/-- The expression that a derivation denotes has a span on its tokens. -/
theorem Derivation.spanOn (d : Derivation symbol) {a : symbol.Value} (value : d.value? = some a) :
    symbol.SpanOn a d.tokens := by
  have row := Forest.values?_of_value? value
  obtain ⟨v, w, tokens, spans, rfl⟩ := Forest.spanOn row
  rw [List.append_nil] at tokens
  have same : (Forest.cons d .nil).tokens = d.tokens := List.append_nil _
  rwa [← same, tokens]

/-- From each of some names with commas between them on there is a rest of the tokens. -/
theorem exists_suffix_of_name {separator : Terminal} {names : List Token} {t : Token}
    (onNames : Listed separator.Fits (Symbol.StandsOn .name) names u) (listed : t ∈ names) :
    t.kind = .identifier ∧ ∃ w, t :: w <:+ u := by
  induction onNames with
  | single first =>
    obtain ⟨isName, rfl⟩ := first
    obtain rfl := List.mem_singleton.1 listed
    exact ⟨isName, [], List.suffix_rfl⟩
  | @cons _ _ _ v comma first _ _ ih =>
    obtain ⟨isName, rfl⟩ := first
    rcases List.mem_cons.1 listed with rfl | behind
    · exact ⟨isName, comma :: v, List.suffix_rfl⟩
    · obtain ⟨isName, w, rest⟩ := ih behind
      exact ⟨isName, w, rest.trans (List.suffix_append [_, comma] v)⟩

/-- From the start of a token to the end of another is the span over both and those between. -/
theorem between_ends (first last : Token) (v : List Token) :
    Span.between first.startPosition last.stopPosition = spanOver (first :: (v ++ [last])) :=
  (Span.spanOver_eq rfl (by rw [← List.cons_append, List.getLast?_concat])).symm

/-- What ends with a colon and a type ends with the type. -/
theorem getLast?_typed (first colon type : Token) (v : List Token) :
    (first :: (v ++ [colon, type])).getLast? = some type := by
  rw [← List.cons_append, List.getLast?_append]
  rfl

/-- The span from a token to a type behind it. -/
theorem between_typed (first colon type : Token) (v : List Token) :
    Span.between first.startPosition type.stopPosition = spanOver (first :: (v ++ [colon, type])) :=
  (Span.spanOver_eq rfl (getLast?_typed first colon type v)).symm

/-- Sections of variables have no routines in them. -/
theorem isRoutine_of_variables {ds : List Declaration} (h : Joined Variables ds u) :
    ∀ d ∈ ds, d.isRoutine = false := by
  induction h with
  | nil => exact nofun
  | cons here _ ih =>
    cases here with
    | mk _ group _ =>
      refine List.forall_mem_append.2 ⟨fun d listed => ?_, ih⟩
      obtain ⟨_, _, ⟨span, rfl⟩, -⟩ := Node.exists_of_group group listed
      rfl

/-- A routine stands on the tokens of its section. -/
theorem standsOn_of_section {d : Declaration} (h : Standing.Section Declaration.StandsOn [d] u)
    (isRoutine : d.isRoutine = true) : d.StandsOn u := by
  cases h with
  | varSection _ onGroups =>
    have none_ := isRoutine_of_variables onGroups d (List.mem_singleton_self d)
    exact absurd (isRoutine.symm.trans none_) (by decide)
  | routine _ on => exact on

/-- **What a rule makes** has a span on some of its tokens, if that is known of expressions. -/
theorem Rule.spanOn_made (rule : Rule symbol items) (makes : rule.passes = false)
    {values : Values items} {a : symbol.Value} (on : ValuesStandOn items values u)
    (denotes : rule.denote values u = some a) (spans : symbol.SpanOn a u) {n : Node}
    (listed : n ∈ symbol.roots a) : ∃ v, v <:+: u ∧ n.SpanOn v := by
  have all {n : Node} (on : n.StandsOn u) (covers : n.span = spanOver u)
      (noOperator : ∀ operator left right span, n ≠ .expression (.binary operator left right span)) :
      ∃ v, v <:+: u ∧ n.SpanOn v :=
    ⟨u, List.infix_rfl, .whole on covers noOperator⟩
  have stands := rule.standsOn on denotes
  cases rule <;> first | exact absurd makes.symm Bool.false_ne_true | skip
  case number | text | trueLiteral | falseLiteral | variableName | call | parenthesized | operation
    | signed =>
    obtain rfl := List.mem_singleton.1 listed
    exact ⟨u, List.infix_rfl, spans⟩
  all_goals obtain rfl := Option.some.inj denotes
  case program | routineBody =>
    obtain rfl := List.mem_singleton.1 listed
    exact all stands rfl nofun
  case callStatement | assignment =>
    obtain rfl := List.mem_singleton.1 listed
    exact all stands.2 rfl nofun
  case procedure | function =>
    obtain rfl := List.mem_singleton.1 listed
    exact all (standsOn_of_section stands rfl) rfl nofun
  case conditional | repetition | counting =>
    obtain rfl := List.mem_singleton.1 listed
    cases stands with
    | bare on => exact all on rfl nofun
    | semicolon takes => exact absurd takes Bool.false_ne_true
  case compound =>
    obtain ⟨t, statements, t', ⟨⟩⟩ := values
    obtain ⟨_, rfl, isBegin, v, _, rfl, onItems, _, rfl, isEnd, rfl⟩ := on
    obtain rfl := List.mem_singleton.1 listed
    exact all (.compound isBegin onItems isEnd.1 (Span.runsOver_between ..)) (between_ends t t' v) nofun
  case compoundTerminated =>
    obtain ⟨t, statements, t', t'', ⟨⟩⟩ := values
    obtain ⟨_, rfl, isBegin, v, _, rfl, onItems, _, rfl, isEnd, _, rfl, isSemicolon, rfl⟩ := on
    obtain rfl := List.mem_singleton.1 listed
    have stands := Statement.StandsOn.compound isBegin onItems isEnd.1 (Span.runsOver_between ..)
    exact ⟨t :: (v ++ [t']), ⟨[], [t''], by simp⟩, .whole stands (between_ends t t' v) nofun⟩
  case variableGroup =>
    obtain ⟨names, colon, type, t, ⟨⟩⟩ := values
    obtain ⟨v, _, rfl, onNames, _, rfl, isColon, _, rfl, isType, _, rfl, -, rfl⟩ := on
    obtain ⟨d, declared, rfl⟩ := List.mem_map.1 listed
    obtain ⟨name, named, rfl⟩ := List.mem_map.1 declared
    obtain ⟨isName, w, front, rfl⟩ := exists_suffix_of_name onNames named
    have covers := between_typed name colon type w
    refine ⟨name :: (w ++ [colon, type]), ⟨front, [t], by simp⟩, .whole ?_ covers nofun⟩
    exact Declaration.StandsOn.var rfl (getLast?_typed ..) isName isType ⟨⟨_, rfl⟩, .inl covers⟩
  case valueGroup =>
    obtain ⟨names, colon, type, ⟨⟩⟩ := values
    obtain ⟨v, _, rfl, onNames, _, rfl, isColon, _, rfl, isType, rfl⟩ := on
    obtain ⟨p, declared, rfl⟩ := List.mem_map.1 listed
    obtain ⟨name, named, rfl⟩ := List.mem_map.1 declared
    obtain ⟨isName, w, front, rfl⟩ := exists_suffix_of_name onNames named
    have covers := between_typed name colon type w
    refine ⟨name :: (w ++ [colon, type]), ⟨front, [], by simp⟩, .whole ?_ covers nofun⟩
    exact ⟨⟨name, rfl, isName, rfl⟩, ⟨type, getLast?_typed .., isType, rfl⟩, .inl covers⟩
  case referenceGroup =>
    obtain ⟨first, names, colon, type, ⟨⟩⟩ := values
    obtain ⟨_, rfl, isVar, v, _, rfl, onNames, _, rfl, isColon, _, rfl, isType, rfl⟩ := on
    obtain ⟨p, declared, rfl⟩ := List.mem_map.1 listed
    obtain ⟨name, named, rfl⟩ := List.mem_map.1 declared
    have covers := between_typed first colon type v
    exact all ⟨⟨first, rfl, isVar⟩, ⟨type, getLast?_typed .., isType, rfl⟩, .inl covers⟩ covers nofun

/-- **What a rule of a derivation makes** has a span on some of the tokens. -/
theorem Derivation.spanOn_made (d : Derivation symbol) (makes : d.rule.passes = false)
    {a : symbol.Value} (value : d.value? = some a) {n : Node} (listed : n ∈ symbol.roots a) :
    ∃ v, v <:+: d.tokens ∧ n.SpanOn v := by
  obtain ⟨inner, found, denoted⟩ := Derivation.exists_values value
  exact d.rule.spanOn_made makes (Forest.standsOn found) denoted (d.spanOn value) listed

end Grammar

namespace Program

open TokenStream

variable {tokens : List Token} {p : Program}

/-- **The span of a node is zero if a piece of it lacks an end.** Each node in the program that
some tokens hold stands on tokens one behind the other, which operators outside of parentheses
divide into pieces. The span is zero if one of these begins or ends at no known position, and
otherwise it runs from the start of the first token to the end of the last. A node that is no
operation is in one piece, so that no other token makes a difference. -/
theorem span_eq_zero_iff (accepted : ofTokens tokens = .ok p) {n : Node}
    (inside : (Node.program p).IsIn n) :
    ∃ u pieces, u <:+: tokens.takeWhile (!·.isEnd) ∧ n.StandsOn u ∧ n.Divided u pieces ∧
      (n.span = .zero ↔ ∃ piece ∈ pieces, Token.LackEnd piece) ∧
      (n.span ≠ .zero → n.span = spanOver u) := by
  obtain ⟨d, ahead, -, value⟩ := derivation_of_ofTokens accepted
  have names (n : Node) (isName : IsName d.tokens n) : ∃ v, v <:+: d.tokens ∧ n.SpanOn v := by
    obtain ⟨t, listed, isName, rfl⟩ := isName
    obtain ⟨front, behind, tokens⟩ := List.append_of_mem listed
    exact ⟨[t], ⟨front, behind, by simp [tokens]⟩, .whole (Node.standsOn_name isName) rfl nofun⟩
  obtain ⟨u, within, stands, pieces, divided, zero⟩ := d.everywhere_of_made value names
    (fun d' _ makes value part n listed => by
      obtain ⟨v, within, spans⟩ := d'.spanOn_made makes value listed
      exact ⟨v, within.trans part, spans⟩) n inside
  refine ⟨u, pieces, ?_, stands, divided, zero, fun known => ?_⟩
  · rwa [ahead] at within
  · exact stands.runs.resolve_right fun missing => known missing.1

/-- The tokens of `program p; begin x := a * b + c; end.`, where `b` has no position. -/
def sumWithoutMiddle : List Token :=
  [⟨.programKeyword, "program", some ⟨1, 1, 0⟩, some ⟨1, 8, 7⟩⟩,
    ⟨.identifier, "p", some ⟨1, 9, 8⟩, some ⟨1, 10, 9⟩⟩,
    ⟨.semicolon, ";", some ⟨1, 10, 9⟩, some ⟨1, 11, 10⟩⟩,
    ⟨.beginKeyword, "begin", some ⟨1, 12, 11⟩, some ⟨1, 17, 16⟩⟩,
    ⟨.identifier, "x", some ⟨1, 18, 17⟩, some ⟨1, 19, 18⟩⟩,
    ⟨.assign, ":=", some ⟨1, 20, 19⟩, some ⟨1, 22, 21⟩⟩,
    ⟨.identifier, "a", some ⟨1, 23, 22⟩, some ⟨1, 24, 23⟩⟩,
    ⟨.times, "*", some ⟨1, 25, 24⟩, some ⟨1, 26, 25⟩⟩, ⟨.identifier, "b", none, none⟩,
    ⟨.plus, "+", some ⟨1, 29, 28⟩, some ⟨1, 30, 29⟩⟩,
    ⟨.identifier, "c", some ⟨1, 31, 30⟩, some ⟨1, 32, 31⟩⟩,
    ⟨.semicolon, ";", some ⟨1, 32, 31⟩, some ⟨1, 33, 32⟩⟩,
    ⟨.endKeyword, "end", some ⟨1, 34, 33⟩, some ⟨1, 37, 36⟩⟩,
    ⟨.dot, ".", some ⟨1, 37, 36⟩, some ⟨1, 38, 37⟩⟩]

/-- The value that the only statement of a program assigns. -/
def assigned? : Program → Option Expr
  | ⟨_, _, [.assignment _ value _], _⟩ => some value
  | _ => none

/-- It stands in the program. -/
theorem isIn_of_assigned? {e : Expr} (found : assigned? p = some e) :
    (Node.program p).IsIn (.expression e) := by
  unfold assigned? at found
  split at found
  · obtain rfl := Option.some.inj found
    exact .child (.child .root (List.mem_append_right _ List.mem_cons_self))
      (List.mem_append_right _ (List.mem_cons_of_mem _ List.mem_cons_self))
  · cases found

/-- The first name, the last name and the span of an operation of three names. -/
def outerNames? : Expr → Option (String × String × Span)
  | .binary _ (.binary _ (.name first) (.name _) _) (.name last) span => some (first.text, last.text, span)
  | _ => none

/-- The sum that is assigned. -/
theorem exists_sum : ∃ p e, ofTokens sumWithoutMiddle = .ok p ∧
    (Node.program p).IsIn (.expression e) ∧ outerNames? e = some ("a", "c", .zero) := by
  have found : (((ofTokens sumWithoutMiddle).toOption.bind assigned?).bind outerNames?) =
      some ("a", "c", .zero) := by
    decide +kernel
  obtain ⟨e, found, names⟩ := Option.bind_eq_some_iff.1 found
  obtain ⟨p, result, found⟩ := Option.bind_eq_some_iff.1 found
  exact ⟨p, e, eq_ok_of_toOption result, isIn_of_assigned? found, names⟩

/-- The sum stands on tokens that are divided into its three operands. -/
theorem span_eq_zero_iff_sum :
    ∃ p e, ofTokens sumWithoutMiddle = .ok p ∧ (Node.program p).IsIn (.expression e) ∧
      outerNames? e = some ("a", "c", .zero) ∧
      ∃ u pieces, u <:+: sumWithoutMiddle.takeWhile (!·.isEnd) ∧ (Node.expression e).StandsOn u ∧
        (Node.expression e).Divided u pieces ∧
        ((Node.expression e).span = .zero ↔ ∃ piece ∈ pieces, Token.LackEnd piece) ∧
        ((Node.expression e).span ≠ .zero → (Node.expression e).span = spanOver u) := by
  obtain ⟨p, e, accepted, inside, names⟩ := exists_sum
  exact ⟨p, e, accepted, inside, names, span_eq_zero_iff accepted inside⟩

/-- A name, or the parentheses around it. -/
theorem ends_name {name : Name} {u : List Token} (on : (Expr.name name).StandsOn u) :
    (∀ t ∈ u.head?, t.kind = .openParen ∨ t.value = name.text) ∧
      ∀ t ∈ u.getLast?, t.kind = .closeParen ∨ t.value = name.text := by
  cases on with
  | mk form enclosed _ =>
    cases enclosed with
    | bare =>
      cases form with
      | name _ text => simp [text]
    | around isOpening isClosing =>
      rw [← List.cons_append, List.getLast?_concat]
      simp [isOpening, isClosing]

/-- An operation begins as its left operand does and ends as its right operand does, or in
parentheses. -/
theorem ends_binary {operator first last : String} {left right : Expr} {span : Span} {u : List Token}
    (begins : ∀ v, left.StandsOn v → ∀ t ∈ v.head?, t.kind = .openParen ∨ t.value = first)
    (ends : ∀ v, right.StandsOn v → ∀ t ∈ v.getLast?, t.kind = .closeParen ∨ t.value = last)
    (on : (Expr.binary operator left right span).StandsOn u) :
    (∀ t ∈ u.head?, t.kind = .openParen ∨ t.value = first) ∧
      ∀ t ∈ u.getLast?, t.kind = .closeParen ∨ t.value = last := by
  cases on with
  | mk form enclosed _ =>
    cases enclosed with
    | bare =>
      cases form with
      | @binary _ _ _ v w t onLeft _ onRight =>
        have front : (v ++ t :: w).head? = v.head? := List.head?_append_of_ne_nil _ onLeft.ne_nil
        have back : (v ++ t :: w).getLast? = w.getLast? := by
          rw [List.getLast?_append, List.getLast?_cons, List.getLast?_eq_some_getLast onRight.ne_nil]
          rfl
        rw [front, back]
        exact ⟨begins v onLeft, ends w onRight⟩
    | around isOpening isClosing =>
      rw [← List.cons_append, List.getLast?_concat]
      simp [isOpening, isClosing]

/-- An operation of three names begins with the first and ends with the last of them, or in
parentheses. -/
theorem ends_of_outerNames? {e : Expr} {first last : String} {span : Span} {u : List Token}
    (names : outerNames? e = some (first, last, span)) (on : e.StandsOn u) :
    e.span = span ∧ (∀ t ∈ u.head?, t.kind = .openParen ∨ t.value = first) ∧
      ∀ t ∈ u.getLast?, t.kind = .closeParen ∨ t.value = last := by
  unfold outerNames? at names
  split at names
  · simp only [Option.some.injEq, Prod.mk.injEq] at names
    obtain ⟨rfl, rfl, rfl⟩ := names
    refine ⟨rfl, ends_binary (fun v onLeft => ?_) (fun _ on => (ends_name on).2) on⟩
    exact (ends_binary (fun _ on => (ends_name on).1) (fun _ on => (ends_name on).2) onLeft).1
  · cases names

/-- **A position that is missing inside an operation makes a difference**: it is not so that the
span of each node is zero just if the tokens that it stands on lack an end. -/
theorem not_span_eq_zero_iff_lackEnd :
    ¬ ∀ (tokens : List Token) (p : Program), ofTokens tokens = .ok p →
      ∀ n, (Node.program p).IsIn n →
        ∃ u, u <:+: tokens.takeWhile (!·.isEnd) ∧ n.StandsOn u ∧
          (n.span = .zero ↔ Token.LackEnd u) := by
  intro everywhere
  obtain ⟨p, e, accepted, inside, names⟩ := exists_sum
  obtain ⟨u, within, on, zero⟩ := everywhere _ p accepted _ inside
  obtain ⟨isZero, begins, ends⟩ := ends_of_outerNames? names on
  obtain ⟨first, front, last, back, missing⟩ := zero.1 isZero
  -- only the token in the middle has no position
  have positions : ∀ t ∈ sumWithoutMiddle, t.startPosition = .zero ∨ t.stopPosition = .zero →
      t.kind = .identifier ∧ t.value = "b" := by decide
  have listed (t : Token) (among : t ∈ u) : t ∈ sumWithoutMiddle :=
    (List.takeWhile_sublist _).subset (within.subset among)
  rcases missing with missing | missing
  · obtain ⟨isName, text⟩ := positions first (listed first (List.mem_of_head? front)) (.inl missing)
    rcases begins first front with isParen | text'
    · exact absurd (isName.symm.trans isParen) (by decide)
    · exact absurd (text.symm.trans text') (by decide)
  · obtain ⟨isName, text⟩ := positions last (listed last (List.mem_of_getLast? back)) (.inr missing)
    rcases ends last back with isParen | text'
    · exact absurd (isName.symm.trans isParen) (by decide)
    · exact absurd (text.symm.trans text') (by decide)

end Program

end PascalFront
