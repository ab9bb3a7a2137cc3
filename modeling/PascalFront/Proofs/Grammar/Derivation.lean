import PascalFront.Proofs.Grammar.Rules
/-!
# Derivations

A derivation uses a rule for a symbol and has a forest below it: for each item
of the rule a token of the sort that is wanted or again a rule and the forest
below that. What a derivation is made of, how deeply it is nested and what it
denotes are read off by recursion.

A derivation is in place before a token if each of its rules may be used before
the token that comes behind it (`Forest.InPlace`). Rows of tokens that may be
continued to something that the grammar knows are those that `Starts` describes:
what has been derived in front and a start of what comes then make a start of
both (`Starts.behind`), also if a semicolon was left out that is wanted now.
-/

namespace PascalFront.Grammar

/-- **What stands below a rule**: for each of its items a token or a rule with
what stands below it. -/
inductive Forest : List Item → Type where
  /-- Below no item there is nothing. -/
  | nil : Forest []
  /-- A token of the sort that is wanted. -/
  | token {sort : Terminal} {items : List Item} (t : Token) (fits : sort.Fits t)
      (others : Forest items) : Forest (.token sort :: items)
  /-- A rule for the symbol that is wanted. -/
  | part {symbol : Symbol} {items rest : List Item} (rule : Rule symbol items)
      (below : Forest items) (others : Forest rest) : Forest (.part symbol :: rest)

/-- How many levels of nesting a symbol opens. -/
def Symbol.levels : Symbol → Nat
  | nested _ => 1
  | _ => 0

/-- Whether a rule may be used before a token; if `nearest` is set, each `else`
must also belong to the nearest choice. -/
def Rule.MayStand {symbol : Symbol} {items : List Item} (nearest : Bool)
    (rule : Rule symbol items) (next : Option Token) : Prop :=
  rule.Allowed next ∧ (nearest = true → rule.Nearest next)

/-- Whether a rule may be used before any token and its symbol opens no level of nesting,
as is the case for most rules. -/
def Rule.isPlain {symbol : Symbol} {items : List Item} (rule : Rule symbol items) : Bool :=
  match rule with
  | omitted | noAlternative | nested _ => false
  | _ => true

theorem Rule.plain {symbol : Symbol} {items : List Item} (rule : Rule symbol items)
    (plain : rule.isPlain = true) :
    (∀ next, rule.MayStand true next) ∧ symbol.levels = 0 := by
  cases rule
  case omitted | noAlternative | nested => exact absurd plain Bool.false_ne_true
  all_goals exact ⟨fun _ => ⟨trivial, fun _ => trivial⟩, rfl⟩

namespace Forest

/-- The tokens of a forest. -/
def tokens : {items : List Item} → Forest items → List Token
  | _, nil => []
  | _, token t _ others => t :: others.tokens
  | _, part _ below others => below.tokens ++ others.tokens

/-- The greatest number of levels that are open at one place. -/
def depth : {items : List Item} → Forest items → Nat
  | _, nil => 0
  | _, token _ _ others => others.depth
  | _, @part symbol _ _ _ below others => max (symbol.levels + below.depth) others.depth

/-- **What the items of a forest denote**, unless a number denotes nothing. -/
def values? : {items : List Item} → Forest items → Option (Values items)
  | _, nil => some ()
  | _, token t _ others => others.values?.map fun values => (t, values)
  | _, part rule below others =>
    (below.values?.bind fun values => rule.denote values below.tokens).bind fun a =>
      others.values?.map fun values => (a, values)

/-- **Whether each rule is used where it may be**, if `next` comes behind the
forest. -/
def InPlace (nearest : Bool) : {items : List Item} → Forest items → Option Token → Prop
  | _, nil, _ => True
  | _, token _ _ others, next => others.InPlace nearest next
  | _, part rule below others, next =>
    rule.MayStand nearest (others.tokens.head?.or next) ∧
      below.InPlace nearest (others.tokens.head?.or next) ∧ others.InPlace nearest next

/-- Something holds of each derivation in a forest, at any depth. -/
def Each (P : (symbol : Symbol) → {items : List Item} → Rule symbol items → Forest items → Prop) :
    {items : List Item} → Forest items → Prop
  | _, nil => True
  | _, token _ _ others => others.Each P
  | _, part rule below others => P _ rule below ∧ below.Each P ∧ others.Each P

/-- **What holds of a rule above a forest once it holds everywhere in the forest** holds
everywhere. -/
theorem each {P : (symbol : Symbol) → {items : List Item} → Rule symbol items → Forest items → Prop}
    (h : ∀ {symbol : Symbol} {items : List Item} (rule : Rule symbol items) (below : Forest items),
      below.Each P → P symbol rule below)
    {items : List Item} (forest : Forest items) : forest.Each P := by
  induction forest with
  | nil => trivial
  | token t fits others ih => exact ih
  | part rule below others ihBelow ihOthers => exact ⟨h rule below ihBelow, ihBelow, ihOthers⟩

/-- What stands below a rule is smaller than the forest the rule stands in. -/
theorem sizeOf_below_lt {symbol : Symbol} {items rest : List Item} (rule : Rule symbol items)
    (below : Forest items) (others : Forest rest) : sizeOf below < sizeOf (part rule below others) := by
  rw [part.sizeOf_spec]
  omega

end Forest

/-- **A derivation of a symbol.** -/
structure Derivation (symbol : Symbol) where
  /-- What the symbol consists of. -/
  {items : List Item}
  /-- The rule. -/
  rule : Rule symbol items
  /-- What stands below the rule. -/
  below : Forest items

namespace Derivation

variable {symbol : Symbol}

/-- The tokens of a derivation. -/
def tokens (d : Derivation symbol) : List Token := d.below.tokens

/-- How deeply a derivation is nested. -/
def depth (d : Derivation symbol) : Nat := symbol.levels + d.below.depth

/-- **What a derivation denotes**, unless a number in it denotes nothing. -/
def value? (d : Derivation symbol) : Option symbol.Value :=
  d.below.values?.bind fun values => d.rule.denote values d.tokens

/-- **Whether a derivation is in place** before a token. -/
def InPlace (nearest : Bool) (d : Derivation symbol) (next : Option Token) : Prop :=
  d.rule.MayStand nearest next ∧ d.below.InPlace nearest next

end Derivation

variable {symbol : Symbol} {items rest : List Item} {nearest : Bool} {next : Option Token}
  {u v : List Token}

/-- A derivation in front of a forest. -/
abbrev Forest.cons (d : Derivation symbol) (others : Forest rest) : Forest (.part symbol :: rest) :=
  .part d.rule d.below others

/-! ## Tokens of a sort -/

/-- A token of the sort. -/
def Terminal.sample : Terminal → Token
  | kind wanted _ => ⟨wanted, "", none, none⟩
  | word (spelling, wanted) _ => ⟨wanted, spelling, none, none⟩
  | typeName => ⟨.identifier, "", none, none⟩
  | operator rank _ =>
    ⟨if rank = 1 then .equal else if rank = 2 then .plus else .times, "", none, none⟩
  | sign => ⟨.plus, "", none, none⟩

/-- There is a token of each sort. -/
theorem Terminal.fits_sample (sort : Terminal) : sort.Fits sort.sample := by
  have lowered : ∀ entry ∈ Kind.keywords, Kind.lowered entry.1.toList = entry.1 := by decide +kernel
  cases sort with
  | kind => exact rfl
  | word entry listed => exact ⟨rfl, lowered entry listed⟩
  | typeName => exact .inr rfl
  | operator rank isRank =>
    have : rank = 1 ∨ rank = 2 ∨ rank = 3 := by omega
    rcases this with rfl | rfl | rfl <;> rfl
  | sign => exact .inl rfl

/-- No sort has the end of the input. -/
theorem Terminal.Fits.notEnd {sort : Terminal} {t : Token} (fits : sort.Fits t) :
    t.isEnd = false := by
  have keyword : ∀ entry ∈ Kind.keywords, entry.2 ≠ .endOfInput := by decide
  refine decide_eq_false fun last => ?_
  cases sort with
  | kind _ notEnd => exact notEnd (fits.symm.trans last)
  | word entry listed => exact keyword entry listed (fits.1.symm.trans last)
  | typeName => rcases fits with fits | fits <;> rw [last] at fits <;> exact absurd fits (by decide)
  | operator rank isRank =>
    have fits : t.kind.rank? = some rank := fits
    rw [last] at fits
    exact absurd fits (by simp [Kind.rank?, Kind.isComparison])
  | sign => rcases fits with fits | fits <;> rw [last] at fits <;> exact absurd fits (by decide)

/-- No token of a forest is the end of the input. -/
theorem Forest.notEnd (forest : Forest items) : ∀ t ∈ forest.tokens, t.isEnd = false := by
  induction forest with
  | nil => exact fun _ listed => absurd listed List.not_mem_nil
  | token t fits others ih => exact List.forall_mem_cons.2 ⟨fits.notEnd, ih⟩
  | part rule below others ihBelow ihOthers =>
    intro t listed
    exact (List.mem_append.1 listed).elim (ihBelow t) (ihOthers t)

/-! ## What a derivation denotes -/

/-- What a row denotes that begins with a token. -/
theorem Forest.exists_values_token {sort : Terminal} {t : Token} {fits : sort.Fits t}
    {others : Forest rest} {values : Values (.token sort :: rest)}
    (h : (Forest.token t fits others).values? = some values) :
    ∃ more, others.values? = some more ∧ values = (t, more) := by
  obtain ⟨more, found, rfl⟩ := Option.map_eq_some_iff.1 h
  exact ⟨more, found, rfl⟩

/-- What a row denotes that begins with a symbol. -/
theorem Forest.exists_values_part {rule : Rule symbol items} {below : Forest items}
    {others : Forest rest} {values : Values (.part symbol :: rest)}
    (h : (Forest.part rule below others).values? = some values) :
    ∃ a more, (Derivation.mk rule below).value? = some a ∧ others.values? = some more ∧
      values = (a, more) := by
  obtain ⟨a, first, behind⟩ := Option.bind_eq_some_iff.1 h
  obtain ⟨more, found, rfl⟩ := Option.map_eq_some_iff.1 behind
  exact ⟨a, more, first, found, rfl⟩

/-- What a symbol denotes by a rule. -/
theorem Derivation.exists_values {rule : Rule symbol items} {below : Forest items}
    {a : symbol.Value} (h : (Derivation.mk rule below).value? = some a) :
    ∃ values, below.values? = some values ∧ rule.denote values below.tokens = some a :=
  Option.bind_eq_some_iff.1 h

/-- A row of one symbol denotes what its derivation does. -/
theorem Forest.values?_single (d : Derivation symbol) :
    (Forest.cons d .nil).values? = d.value?.map fun a => (a, ()) := by
  show d.value?.bind _ = _
  cases d.value? <;> rfl

/-- So it denotes something as soon as the derivation does. -/
theorem Forest.values?_of_value? {d : Derivation symbol} {a : symbol.Value}
    (value : d.value? = some a) : (Forest.cons d .nil).values? = some (a, ()) := by
  rw [values?_single, value]
  rfl

/-! ## Being in place -/

/-- Only the rule that leaves a semicolon out is bound to a place. -/
theorem Rule.allowed_or (rule : Rule symbol items) :
    (∀ next, rule.Allowed next) ∨ (symbol = .terminator ∧ items = []) := by
  cases rule
  case omitted => exact .inr ⟨rfl, rfl⟩
  all_goals exact .inl fun _ => trivial

/-- A rule that may be used at the end may be used anywhere. -/
theorem Rule.Allowed.of_none {rule : Rule symbol items} (h : rule.Allowed none)
    (next : Option Token) : rule.Allowed next := by
  cases rule
  case omitted =>
    obtain ⟨t, listed, -⟩ := h
    exact absurd listed (by simp)
  all_goals trivial

/-- Where each `else` belongs to the nearest choice, the rules are in place all
the more. -/
theorem Forest.InPlace.loose {forest : Forest items} (h : forest.InPlace nearest next) :
    forest.InPlace false next := by
  induction forest generalizing next with
  | nil => trivial
  | token t fits others ih => exact ih h
  | part rule below others ihBelow ihOthers =>
    obtain ⟨⟨allowed, -⟩, inner, behind⟩ := h
    exact ⟨⟨allowed, fun no => absurd no (by decide)⟩, ihBelow inner, ihOthers behind⟩

/-- What is in place at the end is in place anywhere. -/
theorem Forest.InPlace.of_none {forest : Forest items} (h : forest.InPlace false none)
    (next : Option Token) : forest.InPlace false next := by
  induction forest with
  | nil => trivial
  | token t fits others ih => exact ih h
  | part rule below others ihBelow ihOthers =>
    obtain ⟨allowed, inner, behind⟩ := h
    cases front : others.tokens.head? with
    | none =>
      rw [front] at allowed inner
      refine ⟨⟨allowed.1.of_none _, fun no => absurd no (by decide)⟩, ?_, ihOthers behind⟩
      rw [front]
      exact ihBelow inner
    | some t =>
      rw [front] at allowed inner
      exact ⟨by rwa [front], by rwa [front], ihOthers behind⟩

/-- **Closing.** What is in place before some token can be closed, by a semicolon
where one was left out in front of that token, so that it is in place
anywhere. -/
theorem Forest.InPlace.close {forest : Forest items} (h : forest.InPlace false next) :
    ∃ closed : Forest items, closed.InPlace false none ∧ forest.tokens <+: closed.tokens := by
  induction forest generalizing next with
  | nil => exact ⟨.nil, trivial, List.prefix_rfl⟩
  | token t fits others ih =>
    obtain ⟨closed, place, longer⟩ := ih h
    exact ⟨.token t fits closed, place, List.cons_prefix_cons.2 ⟨rfl, longer⟩⟩
  | part rule below others ihBelow ihOthers =>
    obtain ⟨allowed, inner, behind⟩ := h
    obtain ⟨closedOthers, placeOthers, longerOthers⟩ := ihOthers behind
    cases front : others.tokens with
    | cons t more =>
      -- something comes behind, so the rule and what is below it stay as they are
      obtain ⟨longer, split⟩ := longerOthers
      have same : others.tokens.head?.or next = closedOthers.tokens.head?.or none := by
        rw [← split, front]
        rfl
      rw [same] at allowed inner
      refine ⟨.part rule below closedOthers, ⟨allowed, inner, placeOthers⟩, ?_⟩
      show below.tokens ++ others.tokens <+: below.tokens ++ closedOthers.tokens
      rw [← split]
      exact (List.prefix_append_right_inj _).2 (List.prefix_append ..)
    | nil =>
      obtain ⟨closedBelow, placeBelow, longerBelow⟩ := ihBelow inner
      have tokens : (part rule below others).tokens = below.tokens := by
        show below.tokens ++ others.tokens = _
        rw [front, List.append_nil]
      rw [tokens]
      rcases rule.allowed_or with always | ⟨rfl, rfl⟩
      · refine ⟨.part rule closedBelow closedOthers,
          ⟨⟨always _, fun no => absurd no (by decide)⟩, placeBelow.of_none _, placeOthers⟩, ?_⟩
        exact longerBelow.trans (List.prefix_append ..)
      · refine ⟨.part .semicolon (.token _ (Terminal.fits_sample _) .nil) closedOthers,
          ⟨⟨trivial, fun no => absurd no (by decide)⟩, trivial, placeOthers⟩, ?_⟩
        cases below
        exact List.nil_prefix

/-! ## Starts -/

/-- **A start**: tokens that may be continued to a row of items. -/
def Starts (items : List Item) (u : List Token) : Prop :=
  ∃ forest : Forest items, forest.InPlace false none ∧ u <+: forest.tokens

/-- What is a start of a symbol is one of each row of items that starts with
it. -/
theorem Starts.append (h : Starts [.part symbol] u) (others : Starts rest []) :
    Starts (.part symbol :: rest) u := by
  obtain ⟨forest, place, longer⟩ := h
  obtain ⟨more, placeMore, -⟩ := others
  cases forest with
  | part rule below nothing =>
    cases nothing
    obtain ⟨allowed, inner, -⟩ := place
    refine ⟨.part rule below more, ⟨?_, inner.of_none _, placeMore⟩, ?_⟩
    · exact ⟨allowed.1.of_none _, fun no => absurd no (by decide)⟩
    · have same : (Forest.part rule below .nil).tokens = below.tokens := List.append_nil _
      rw [same] at longer
      exact longer.trans (List.prefix_append ..)

/-- A start of what a rule consists of is a start of its symbol. -/
theorem Starts.rule (rule : Rule symbol items) (allowed : rule.Allowed none)
    (h : Starts items u) : Starts [.part symbol] u := by
  obtain ⟨forest, place, longer⟩ := h
  refine ⟨.part rule forest .nil, ⟨⟨allowed, fun no => absurd no (by decide)⟩, place, trivial⟩, ?_⟩
  show u <+: forest.tokens ++ []
  rwa [List.append_nil]

/-- A token of the sort that is wanted and a start of what comes behind it. -/
theorem Starts.token {sort : Terminal} {t : Token} (fits : sort.Fits t) (h : Starts rest u) :
    Starts (.token sort :: rest) (t :: u) := by
  obtain ⟨forest, place, longer⟩ := h
  exact ⟨.token t fits forest, place, List.cons_prefix_cons.2 ⟨rfl, longer⟩⟩

/-- **A derivation and a start of what comes behind it** are a start of both,
provided that the derivation is in place before the tokens that come. -/
theorem Starts.behind {d : Derivation symbol} {w : List Token} (place : d.InPlace false w.head?)
    (front : u <+: w) (h : Starts rest u) : Starts (.part symbol :: rest) (d.tokens ++ u) := by
  obtain ⟨forest, placeForest, longer⟩ := h
  cases u with
  | cons t u =>
    have head : w.head? = forest.tokens.head?.or none := by
      obtain ⟨w', rfl⟩ := front
      obtain ⟨w'', split⟩ := longer
      rw [← split]
      rfl
    rw [head] at place
    exact ⟨.cons d forest, ⟨place.1, place.2, placeForest⟩, (List.prefix_append_right_inj _).2 longer⟩
  | nil =>
    -- no token comes yet: a semicolon that was left out may be wanted
    have alone : (Forest.cons d .nil).InPlace false w.head? := ⟨place.1, place.2, trivial⟩
    obtain ⟨closed, placeClosed, longerClosed⟩ := alone.close
    have start : Starts [.part symbol] (d.tokens ++ []) := ⟨closed, placeClosed, longerClosed⟩
    exact start.append ⟨forest, placeForest, List.nil_prefix⟩

/-- What has been derived is a start. -/
theorem Starts.of_derivation {d : Derivation symbol} (place : d.InPlace false next) :
    Starts [.part symbol] d.tokens := by
  have alone : (Forest.cons d .nil).InPlace false next := ⟨place.1, place.2, trivial⟩
  obtain ⟨closed, placeClosed, longer⟩ := alone.close
  refine ⟨closed, placeClosed, ?_⟩
  rwa [← List.append_nil d.tokens]

/-! ## Every symbol can be derived -/

/-- What comes first of a start is a start. -/
theorem Starts.shorter (h : Starts items v) (front : u <+: v) : Starts items u := by
  obtain ⟨forest, place, longer⟩ := h
  exact ⟨forest, place, front.trans longer⟩

/-- A row of items can be derived if each symbol in it can. -/
theorem starts_nil_of {items : List Item}
    (parts : ∀ symbol, .part symbol ∈ items → Starts [.part symbol] []) : Starts items [] := by
  induction items with
  | nil => exact ⟨.nil, trivial, List.prefix_rfl⟩
  | cons item rest ih =>
    have others := ih fun symbol listed => parts symbol (.tail _ listed)
    cases item with
    | token sort => exact (Starts.token sort.fits_sample others).shorter List.nil_prefix
    | part symbol => exact (parts symbol List.mem_cons_self).append others

/-- A symbol can be derived if the symbols in a rule for it can. -/
theorem starts_nil_by (rule : Rule symbol items) (allowed : rule.Allowed none)
    (parts : ∀ symbol, .part symbol ∈ items → Starts [.part symbol] []) :
    Starts [.part symbol] [] :=
  .rule rule allowed (starts_nil_of parts)

theorem starts_nil_primary : Starts [.part .primary] [] :=
  starts_nil_by .trueLiteral trivial (by simp)

/-- Every level can be derived, since the tightest can. -/
theorem starts_nil_level (rank : Nat) : Starts [.part (.level rank)] [] := by
  by_cases tight : 4 ≤ rank
  · exact starts_nil_by (.primary tight) trivial (by simpa using starts_nil_primary)
  · have loose (distance : Nat) : ∀ rank, rank + distance = 4 → Starts [.part (.level rank)] [] := by
      induction distance with
      | zero =>
        intro rank h
        have tight : 4 ≤ rank := by omega
        exact starts_nil_by (.primary tight) trivial (by simpa using starts_nil_primary)
      | succ distance ih =>
        intro rank h
        have loose : rank < 4 := by omega
        exact starts_nil_by (.tighter loose) trivial (by simpa using ih (rank + 1) (by omega))
    exact loose (4 - rank) rank (by omega)

theorem starts_nil_expression : Starts [.part .expression] [] :=
  starts_nil_by (.nested (.level 0)) trivial (by simpa using starts_nil_level 0)

theorem starts_nil_assignment : Starts [.part .assignment] [] :=
  starts_nil_by .assignment trivial (by simpa using starts_nil_expression)

theorem starts_nil_terminator : Starts [.part .terminator] [] :=
  starts_nil_by .semicolon trivial (by simp)

theorem starts_nil_statement : Starts [.part .statement] [] :=
  starts_nil_by .assignmentTerminated trivial
    (by simpa using ⟨starts_nil_assignment, starts_nil_terminator⟩)

theorem starts_nil_repeated (item : Symbol) : Starts [.part (.repeated item)] [] :=
  starts_nil_by (.empty item) trivial (by simp)

theorem starts_nil_block : Starts [.part .block] [] :=
  starts_nil_by .block trivial (by simpa using starts_nil_repeated _)

theorem starts_nil_name : Starts [.part .name] [] := starts_nil_by .name trivial (by simp)

theorem starts_nil_separated (separator : Terminal) {item : Symbol}
    (h : Starts [.part item] []) : Starts [.part (.separated separator item)] [] :=
  starts_nil_by (.single separator item) trivial (by simpa using h)

theorem starts_nil_variableGroup : Starts [.part .variableGroup] [] :=
  starts_nil_by .variableGroup trivial (by simpa using starts_nil_separated _ starts_nil_name)

/-- Every symbol can be derived. -/
theorem starts_nil_symbol (symbol : Symbol) : Starts [.part symbol] [] := by
  induction symbol with
  | nested inner ih => exact starts_nil_by (.nested inner) trivial (by simpa using ih)
  | repeated item => exact starts_nil_repeated item
  | separated separator item ih => exact starts_nil_separated separator ih
  | program =>
    exact starts_nil_by .program trivial (by simpa using ⟨starts_nil_repeated _, starts_nil_block⟩)
  | declaration =>
    exact starts_nil_by .variableSection trivial
      (by simpa using ⟨starts_nil_variableGroup, starts_nil_repeated _⟩)
  | variableGroup => exact starts_nil_variableGroup
  | name => exact starts_nil_name
  | parameters => exact starts_nil_by .noParameters trivial (by simp)
  | parameterGroup =>
    exact starts_nil_by .valueGroup trivial (by simpa using starts_nil_separated _ starts_nil_name)
  | routineBody =>
    exact starts_nil_by .routineBody trivial
      (by simpa using ⟨starts_nil_repeated _, starts_nil_block⟩)
  | block => exact starts_nil_block
  | statement => exact starts_nil_statement
  | terminator => exact starts_nil_terminator
  | callStatement =>
    exact starts_nil_by .callStatement trivial
      (by simpa using starts_nil_by .noArguments trivial (by simp))
  | assignment => exact starts_nil_assignment
  | alternative => exact starts_nil_by .noAlternative trivial (by simp)
  | direction => exact starts_nil_by .up trivial (by simp)
  | arguments => exact starts_nil_by .noArguments trivial (by simp)
  | level rank => exact starts_nil_level rank
  | primary => exact starts_nil_primary

/-- **Every row of items can be derived.** -/
theorem starts_nil (items : List Item) : Starts items [] :=
  starts_nil_of fun symbol _ => starts_nil_symbol symbol

end PascalFront.Grammar
