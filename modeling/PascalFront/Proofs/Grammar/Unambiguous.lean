import PascalFront.Proofs.Grammar.AcceptsProgram
/-!
# The grammar is unambiguous

Tokens have only one derivation in which each `else` belongs to the nearest choice
(`Derivation.unique`). Two derivations of a symbol that stand at the beginning of the
same tokens are the same and end at the same place, provided that each is followed by a
token that may not belong to it any more (`Derivation.Agrees`). This is shown of a
derivation once it is known of everything below its rule.

Most rules are told apart by the next two tokens (`Symbol.choice`). The rules for
operators begin with an expression again, so expressions are compared from the operand
in front: how an expression grows from that (`Grows`) leaves no choice at any operator.
-/

namespace PascalFront.Grammar

open Recognizer

variable {symbol : Symbol} {items rest : List Item} {kind : Kind} {u u' w w' : List Token}

/-! ## What comes behind a symbol -/

/-- **Whether a token of a kind may come behind a symbol**: one that shows that the
symbol has ended. -/
def Symbol.MayPrecede : Symbol → Kind → Prop
  | nested inner, kind => inner.MayPrecede kind
  | repeated item, kind => item.MayPrecede kind ∧
    ∃ kinds, item.first? = some kinds ∧ kind ∉ kinds ∧ ∀ again ∈ kinds, item.MayPrecede again
  | separated (.kind separator _) item, kind =>
    item.MayPrecede kind ∧ item.MayPrecede separator ∧ kind ≠ separator
  | separated _ _, _ => False
  | declaration, kind => kind ≠ .identifier
  | parameters, kind | primary, kind => kind ≠ .openParen
  | statement, kind | alternative, kind => kind ≠ .semicolon
  | assignment, kind => kind.mayFollow 0
  | level rank, kind => rank ≤ 4 ∧ kind.mayFollow rank
  | _, _ => True

/-- **Whether a token of a kind may come behind a row**: each symbol of the row may
precede whatever the row goes on with. -/
def Follows : List Item → Kind → Prop
  | [], _ => True
  | .token _ :: rest, kind => Follows rest kind
  | .part symbol :: rest, kind =>
    (∀ (others : Forest rest) (w : List Token), nextKind w = kind → others.InPlace true w.head? →
      symbol.MayPrecede (nextKind (others.tokens ++ w))) ∧ Follows rest kind

/-- The last symbol of a row is followed by what follows the row. -/
theorem Follows.last (h : symbol.MayPrecede kind) : Follows [.part symbol] kind :=
  ⟨fun others w same _ => by cases others; exact same ▸ h, trivial⟩

/-- A symbol in front of a token of a kind. -/
theorem Follows.before {wanted : Kind} {notEnd : wanted ≠ .endOfInput} (h : symbol.MayPrecede wanted)
    (behind : Follows rest kind) :
    Follows (.part symbol :: .token (.kind wanted notEnd) :: rest) kind :=
  ⟨fun others w _ _ => by rw [others.nextKind_token]; exact h, behind⟩

/-- A symbol in front of a keyword. -/
theorem Follows.beforeWord {entry : String × Kind} {listed : entry ∈ Kind.keywords}
    (h : symbol.MayPrecede entry.2) (behind : Follows rest kind) :
    Follows (.part symbol :: .token (.word entry listed) :: rest) kind :=
  ⟨fun others w _ _ => by rw [others.nextKind_word]; exact h, behind⟩

/-- A symbol in front of one that begins with some kinds. -/
theorem Follows.beforePart {next : Symbol} {kinds : List Kind} (first : next.first? = some kinds)
    (h : ∀ kind ∈ kinds, symbol.MayPrecede kind) (behind : Follows (.part next :: rest) kind) :
    Follows (.part symbol :: .part next :: rest) kind :=
  ⟨fun others w _ _ => h _ (others.nextKind_mem kinds ⟨kinds, fun _ => id, first⟩ w), behind⟩

/-- **What may come behind a symbol may come behind a row for it**, but for rows of
expressions. -/
theorem Rule.follows (rule : Rule symbol items) (h : symbol.MayPrecede kind)
    (notLevel : ∀ rank, symbol ≠ .level rank) : Follows items kind := by
  have declared : (Symbol.repeated .declaration).MayPrecede .beginKeyword :=
    ⟨by simp [Symbol.MayPrecede], _, rfl, by decide, by simp [Symbol.MayPrecede]⟩
  have listed : Symbol.statements.MayPrecede .endKeyword :=
    ⟨by simp [Symbol.MayPrecede], _, rfl, by decide, by simp [Symbol.MayPrecede, statementKinds]⟩
  have value (kind : Kind) (follow : kind.mayFollow 0) : Symbol.expression.MayPrecede kind :=
    ⟨Nat.zero_le 4, follow⟩
  cases rule
  case tighter rank _ | operation rank _ | signed rank _ | primary rank _ =>
    exact absurd rfl (notLevel rank)
  case nested | callStatement | alternative => exact .last h
  case single separator item =>
    cases separator
    case kind => exact .last h.1
    all_goals exact h.elim
  case further separator item =>
    cases separator
    case kind => exact .before h.2.1 (.last h)
    all_goals exact h.elim
  case more item =>
    obtain ⟨itself, kinds, first, other, again⟩ := h
    refine ⟨fun others w same _ => ?_, .last ⟨itself, kinds, first, other, again⟩⟩
    rcases nextKind_repeated first others w with listed | last
    · exact again _ listed
    · rwa [last, same]
  case program => exact .beforePart rfl (by simpa using declared) (.before trivial trivial)
  case variableSection =>
    have h : kind ≠ .identifier := h
    exact ⟨fun _ _ _ _ => trivial, .last ⟨trivial, _, rfl, by simpa using h, fun _ _ => trivial⟩⟩
  case procedure | function => exact .before (by simp [Symbol.MayPrecede]) (.before trivial trivial)
  case variableGroup => exact .before ⟨trivial, trivial, by decide⟩ trivial
  case someParameters => exact .before ⟨trivial, trivial, by decide⟩ trivial
  case valueGroup | referenceGroup => exact .before ⟨trivial, trivial, by decide⟩ trivial
  case routineBody => exact .beforePart rfl (by simpa using declared) (.last trivial)
  case block | compound | compoundTerminated => exact .beforeWord listed trivial
  case callTerminated => exact ⟨fun _ _ _ _ => trivial, .last trivial⟩
  case assignmentTerminated =>
    exact ⟨fun others w _ place => mayFollow_terminator others place, .last trivial⟩
  case conditional =>
    refine .before (value _ rfl) ⟨fun others w same _ => ?_, .last h⟩
    exact follows_alternative (same ▸ h) others
  case repetition => exact .before (value _ rfl) (.last h)
  case counting =>
    have way : ∀ kind ∈ [Kind.toKeyword, .downtoKeyword], Symbol.expression.MayPrecede kind := by
      simpa using ⟨value _ rfl, value _ rfl⟩
    exact .beforePart rfl way (.beforePart rfl (fun _ _ => trivial) (.before (value _ rfl) (.last h)))
  case assignment => exact .last (value _ h)
  case someArguments => exact .before ⟨value _ rfl, value _ rfl, by decide⟩ trivial
  case call => exact .last trivial
  case parenthesized => exact .before (value _ rfl) trivial
  all_goals trivial

/-! ## Row by row -/

/-- **A derivation agrees** with every other one of the same symbol that stands at the
beginning of the same tokens: it is the same, and ends at the same place. -/
def Derivation.Agrees (d : Derivation symbol) : Prop :=
  ∀ (d' : Derivation symbol) (w w' : List Token), d.InPlace true w.head? → d'.InPlace true w'.head? →
    symbol.MayPrecede (nextKind w) → symbol.MayPrecede (nextKind w') →
    d.tokens ++ w = d'.tokens ++ w' → d = d' ∧ w = w'

/-- Everything in a forest agrees. -/
abbrev Forest.PartsAgree (forest : Forest items) : Prop :=
  forest.Each fun _ _ rule below => (Derivation.mk rule below).Agrees

/-- **Rows agree** if everything in one of them does. -/
theorem Forest.agree {forest forest' : Forest items} (parts : forest.PartsAgree)
    (place : forest.InPlace true w.head?) (place' : forest'.InPlace true w'.head?)
    (follows : Follows items (nextKind w)) (follows' : Follows items (nextKind w'))
    (same : forest.tokens ++ w = forest'.tokens ++ w') : forest = forest' ∧ w = w' := by
  induction forest with
  | nil =>
    cases forest'
    exact ⟨rfl, same⟩
  | token t fits others ih =>
    cases forest' with
    | token t' fits' others' =>
      obtain ⟨rfl, behind⟩ := List.cons.inj same
      obtain ⟨rfl, rfl⟩ := ih parts place place' follows follows' behind
      exact ⟨rfl, rfl⟩
  | part rule below others _ ih =>
    cases forest' with
    | part rule' below' others' =>
      obtain ⟨agrees, -, partsOthers⟩ := parts
      rw [tokens, tokens, List.append_assoc, List.append_assoc] at same
      obtain ⟨mayStand, inner, behind⟩ := place
      obtain ⟨mayStand', inner', behind'⟩ := place'
      rw [← List.head?_append] at mayStand inner mayStand' inner'
      obtain ⟨front, rest⟩ := agrees ⟨rule', below'⟩ _ _ ⟨mayStand, inner⟩ ⟨mayStand', inner'⟩
        (follows.1 others w rfl behind) (follows'.1 others' w' rfl behind') same
      cases front
      obtain ⟨rfl, rfl⟩ := ih partsOthers behind behind' follows.2 follows'.2 rest
      exact ⟨rfl, rfl⟩

/-- A row of two parts. -/
theorem Forest.exists_split {more : List Item} (forest : Forest (items ++ more)) :
    ∃ (front : Forest items) (back : Forest more), forest.tokens = front.tokens ++ back.tokens ∧
      (∀ next, forest.InPlace true next → front.InPlace true (back.tokens.head?.or next)) ∧
      (forest.PartsAgree → front.PartsAgree) := by
  induction items with
  | nil => exact ⟨.nil, forest, rfl, fun _ _ => trivial, fun _ => trivial⟩
  | cons item items ih =>
    cases forest with
    | token t fits others =>
      obtain ⟨front, back, tokens, place, parts⟩ := ih others
      exact ⟨.token t fits front, back, congrArg (t :: ·) tokens, place, parts⟩
    | part rule below others =>
      obtain ⟨front, back, tokens, place, parts⟩ := ih others
      refine ⟨.part rule below front, back, ?_, fun next placed => ?_,
        fun all => ⟨all.1, all.2.1, parts all.2.2⟩⟩
      · rw [Forest.tokens, Forest.tokens, tokens, List.append_assoc]
      · obtain ⟨mayStand, inner, behind⟩ := placed
        rw [tokens, List.head?_append, Option.or_assoc] at mayStand inner
        exact ⟨mayStand, inner, place next behind⟩

/-- **A row and a longer one stand in no common place** if the token that the longer one
goes on with is not what comes behind the shorter one. -/
theorem Forest.ne_longer {more : List Item} {wanted : Kind} {notEnd : wanted ≠ .endOfInput}
    {short : Forest items} {long : Forest (items ++ .token (.kind wanted notEnd) :: more)}
    (parts : short.PartsAgree ∨ long.PartsAgree) (place : short.InPlace true w.head?)
    (place' : long.InPlace true w'.head?) (follows : Follows items (nextKind w))
    (further : Follows items wanted) (other : nextKind w ≠ wanted) :
    short.tokens ++ w ≠ long.tokens ++ w' := by
  intro same
  obtain ⟨front, back, tokens, split, partsFront⟩ := long.exists_split
  have placed := split _ place'
  rw [← List.head?_append] at placed
  rw [tokens, List.append_assoc] at same
  have next := back.nextKind_token w'
  rw [← next] at further
  refine other (Eq.trans (congrArg nextKind ?_) next)
  rcases parts with parts | parts
  · exact (short.agree parts place placed follows further same).2
  · exact (front.agree (partsFront parts) placed place further follows same.symm).2.symm

/-! ## Expressions -/

section Expressions

variable {rank level level' : Nat}

/-- An operator and its operands. -/
def Derivation.operate (isRank : 1 ≤ rank ∧ rank ≤ 3) {level : Nat} (left : Derivation (.level level))
    (isLeft : level = Symbol.leftRank rank) {t : Token} (fits : (Terminal.operator rank isRank).Fits t)
    (right : Derivation (.nested (.level (rank + 1)))) : Derivation (.level rank) :=
  match level, left, isLeft with
  | _, left, rfl => ⟨.operation isRank, .cons left (.token t fits (.cons right .nil))⟩

/-- **How an expression grows** from one in front of it before tokens `w`: that is taken
for one of a looser level, or it becomes the left operand of an operator. The tokens
are those behind the expression in front. -/
inductive Grows (w : List Token) : {level rank : Nat} → Derivation (.level level) →
    Derivation (.level rank) → List Token → Prop where
  /-- It is the whole expression. -/
  | done {rank : Nat} (d : Derivation (.level rank)) : Grows w d d []
  /-- It is an expression of a looser level. -/
  | looser {level rank : Nat} (isRank : level < 4) (front : Derivation (.level (level + 1)))
      {d : Derivation (.level rank)} {u : List Token}
      (more : Grows w ⟨.tighter isRank, .cons front .nil⟩ d u) : Grows w front d u
  /-- An operator comes behind it. -/
  | operator {level operator rank : Nat} (isRank : 1 ≤ operator ∧ operator ≤ 3)
      (front : Derivation (.level level)) (isLeft : level = Symbol.leftRank operator) {t : Token}
      (fits : (Terminal.operator operator isRank).Fits t)
      (right : Derivation (.nested (.level (operator + 1)))) {d : Derivation (.level rank)}
      {u : List Token} (place : right.InPlace true (u ++ w).head?)
      (more : Grows w (.operate isRank front isLeft fits right) d u) :
      Grows w front d (t :: (right.tokens ++ u))

variable {front : Derivation (.level level)} {d d' : Derivation (.level rank)}

/-- An expression in front of one in front of a whole one. -/
theorem Grows.trans {middle : Derivation (.level level')} (first : Grows w' front middle u)
    (then_ : Grows w middle d u') (behind : w' = u' ++ w) : Grows w front d (u ++ u') := by
  subst behind
  induction first with
  | done => exact then_
  | looser isRank front _ ih => exact .looser isRank front (ih then_)
  | operator isRank front isLeft fits right place _ ih =>
    rw [List.cons_append, List.append_assoc]
    exact .operator isRank front isLeft fits right (by rwa [List.append_assoc]) (ih then_)

/-- An expression does not grow tighter. -/
theorem Grows.le (h : Grows w front d u) : rank ≤ level := by
  induction h with
  | done => exact Nat.le_refl _
  | looser _ _ _ ih => exact Nat.le_succ_of_le ih
  | operator _ _ isLeft _ _ _ _ ih => exact isLeft ▸ Nat.le_trans ih (Symbol.le_leftRank _)

/-- Everything in the expression in front is part of the whole one. -/
theorem Grows.parts (h : Grows w front d u) (parts : d.below.PartsAgree) :
    front.below.PartsAgree := by
  induction h with
  | done => exact parts
  | looser _ _ _ ih => exact (ih parts).2.1
  | operator _ _ isLeft _ _ _ _ ih =>
    subst isLeft
    exact (ih parts).2.1

/-- An operator that may follow an expression is looser. -/
theorem lt_of_mayFollow {operator : Nat} (follow : kind.mayFollow rank)
    (isRank : kind.rank? = some operator) : operator < rank := by
  have looser := (Bool.and_eq_true_iff.1 follow).2
  rw [isRank] at looser
  exact of_decide_eq_true looser

/-- **What comes behind an expression in front** is no parenthesis, and an operator there
binds no tighter than the expression, or it does not belong to the whole one. -/
theorem Grows.next (h : Grows w front d u) (follow : (nextKind w).mayFollow rank) :
    nextKind (u ++ w) ≠ .openParen ∧ ∀ operator, (nextKind (u ++ w)).rank? = some operator →
      Symbol.leftRank operator ≤ level ∨ operator < rank := by
  induction h with
  | done =>
    refine ⟨of_decide_eq_true (Bool.and_eq_true_iff.1 follow).1, fun operator isRank => ?_⟩
    exact .inr (lt_of_mayFollow follow isRank)
  | looser _ _ _ ih =>
    exact (ih follow).imp id fun bound operator isRank =>
      (bound operator isRank).imp Nat.le_succ_of_le id
  | @operator _ _ _ _ _ isLeft t fits _ _ _ _ _ _ =>
    have fits : t.kind.rank? = some _ := fits
    refine ⟨fun isParen => ?_, fun operator isRank => .inl ?_⟩
    · rw [show t.kind = .openParen from isParen] at fits
      exact absurd fits (by simp [Kind.rank?, Kind.isComparison])
    · obtain rfl := Option.some.inj (fits.symm.trans isRank)
      exact Nat.le_of_eq isLeft.symm

/-- What comes behind a right operand may follow it. -/
theorem Grows.mayFollow (h : Grows w front d u) (follow : (nextKind w).mayFollow rank) :
    (nextKind (u ++ w)).mayFollow (level + 1) := by
  obtain ⟨other, bound⟩ := h.next follow
  refine Bool.and_eq_true_iff.2 ⟨decide_eq_true other, ?_⟩
  cases isRank : (nextKind (u ++ w)).rank? with
  | none => rfl
  | some operator =>
    refine decide_eq_true ?_
    rcases bound operator isRank with tight | loose
    · exact Nat.lt_succ_of_le (Nat.le_trans (Symbol.le_leftRank operator) tight)
    · exact Nat.lt_succ_of_lt (Nat.lt_of_lt_of_le loose h.le)

/-- An operator leaves no choice: an expression in front that could be its left operand
is no whole expression, and is not taken for a looser one. -/
theorem Grows.not_operator {operator : Nat} {t : Token} (h : Grows w front d u)
    (follow : (nextKind w).mayFollow rank) (isRank : t.kind.rank? = some operator)
    (next : nextKind (u ++ w) = t.kind) : level + 1 ≠ Symbol.leftRank operator := by
  intro isLeft
  have le := h.le
  have bound := (h.next follow).2 operator (next ▸ isRank)
  unfold Symbol.leftRank at isLeft bound
  split at isLeft <;> split at bound <;> omega

/-- **An expression in front grows in one way only**, if everything in the whole
expression agrees. -/
theorem Grows.unique (h : Grows w front d u) (h' : Grows w' front d' u')
    (parts : d.below.PartsAgree) (follow : (nextKind w).mayFollow rank)
    (follow' : (nextKind w').mayFollow rank) (same : u ++ w = u' ++ w') : d = d' ∧ w = w' := by
  induction h generalizing u' with
  | done d =>
    cases h' with
    | done => exact ⟨rfl, same⟩
    | looser isRank _ more => exact absurd more.le (Nat.not_succ_le_self _)
    | operator isRank _ isLeft fits right place more =>
      rw [show w = _ from same] at follow
      exact absurd more.le (Nat.not_le.2 (lt_of_mayFollow follow fits))
  | looser isRank front more ih =>
    cases h' with
    | done => exact absurd more.le (Nat.not_succ_le_self _)
    | looser _ _ more' => exact ih more' parts follow follow' same
    | operator isRank' _ isLeft fits right place more' =>
      exact absurd isLeft (more.not_operator follow fits (by rw [same]; rfl))
  | operator isRank front isLeft fits right place more ih =>
    cases h' with
    | done =>
      rw [← show _ = w' from same] at follow'
      exact absurd more.le (Nat.not_le.2 (lt_of_mayFollow follow' fits))
    | looser _ _ more' =>
      exact absurd isLeft (more'.not_operator follow' fits (by rw [← same]; rfl))
    | operator isRank' _ isLeft' fits' right' place' more' =>
      rw [List.cons_append, List.cons_append, List.append_assoc, List.append_assoc] at same
      obtain ⟨rfl, behind⟩ := List.cons.inj same
      obtain rfl := Option.some.inj (Eq.trans (Eq.symm fits) fits')
      have agrees : right.Agrees := by
        have partsMore := more.parts parts
        subst isLeft
        exact partsMore.2.2.1
      obtain ⟨rfl, rest⟩ := agrees right' _ _ place place'
        ⟨Nat.succ_le_succ isRank.2, more.mayFollow follow⟩
        ⟨Nat.succ_le_succ isRank.2, more'.mayFollow follow'⟩ behind
      exact ih more' parts follow follow' rest

/-- Every expression grows from an operand in front. -/
theorem exists_operand {items : List Item} (rule : Rule (.level rank) items) (below : Forest items)
    (isRank : rank ≤ 4) (place : below.InPlace true w.head?) :
    ∃ (operand : Derivation (.level 4)) (u : List Token), Grows w operand ⟨rule, below⟩ u ∧
      below.tokens = operand.tokens ++ u ∧ operand.InPlace true (u ++ w).head? := by
  induction size : sizeOf below using Nat.strongRecOn generalizing items rank w with
  | _ _ ih =>
    subst size
    cases rule with
    | signed four | primary four =>
      obtain rfl := Nat.le_antisymm isRank four
      exact ⟨_, [], .done _, (List.append_nil _).symm, ⟨trivial, fun _ => trivial⟩, place⟩
    | tighter low =>
      cases below with
      | part rule below nothing =>
        cases nothing
        obtain ⟨operand, u, grows, tokens, placed⟩ :=
          ih _ (below.sizeOf_below_lt rule .nil) rule below low place.2.1 rfl
        refine ⟨operand, u, ?_, by rw [Forest.tokens, Forest.tokens, List.append_nil, tokens], placed⟩
        have whole : Grows w ⟨rule, below⟩ ⟨.tighter low, .part rule below .nil⟩ [] :=
          .looser low ⟨rule, below⟩ (.done _)
        simpa using grows.trans whole rfl
    | operation bounds =>
      cases below with
      | part leftRule left others =>
      cases others with
      | token t fits others =>
      cases others with
      | part rightRule right nothing =>
        cases nothing
        obtain ⟨-, placeLeft, placeRight⟩ := place
        obtain ⟨operand, u, grows, tokens, placed⟩ := ih _ (left.sizeOf_below_lt leftRule _) leftRule
          left (w := t :: (right.tokens ++ w)) (Symbol.leftRank_le isRank) placeLeft rfl
        refine ⟨operand, u ++ t :: right.tokens, ?_, ?_, ?_⟩
        · have whole := Grows.operator (w := w) (u := []) bounds ⟨leftRule, left⟩ rfl fits
            ⟨rightRule, right⟩ ⟨placeRight.1, placeRight.2.1⟩ (.done _)
          rw [List.append_nil] at whole
          exact grows.trans whole rfl
        · simp [Forest.tokens, tokens]
        · simpa using placed

/-- What has no operator outside of parentheses does not begin with a sign. -/
theorem Derivation.primary_first (d : Derivation .primary) (w : List Token) :
    nextKind (d.tokens ++ w) ≠ .plus ∧ nextKind (d.tokens ++ w) ≠ .minus := by
  obtain ⟨rule, below⟩ := d
  cases rule
  all_goals
    rw [Derivation.tokens, below.nextKind_token]
    decide

/-- **Operands agree** if everything in one of them does. -/
theorem operand_agrees {operand operand' : Derivation (.level 4)} (parts : operand.below.PartsAgree)
    (place : operand.InPlace true w.head?) (place' : operand'.InPlace true w'.head?)
    (other : nextKind w ≠ .openParen) (other' : nextKind w' ≠ .openParen)
    (same : operand.tokens ++ w = operand'.tokens ++ w') : operand = operand' ∧ w = w' := by
  have signs {t : Token} {right : Forest [.part (.nested (.level Kind.signRank))]}
      {fits : Terminal.sign.Fits t} {first : Forest [.part .primary]} {w w' : List Token} :
      (Forest.token t fits right).tokens ++ w ≠ first.tokens ++ w' := by
    intro same
    cases first with
    | part rule below nothing =>
      cases nothing
      rw [Forest.tokens, Forest.tokens, Forest.tokens, List.append_nil] at same
      have front := (Derivation.mk rule below).primary_first w'
      rw [Derivation.tokens, ← same] at front
      exact fits.elim front.1 front.2
  obtain ⟨rule, below⟩ := operand
  obtain ⟨rule', below'⟩ := operand'
  cases rule with
  | tighter low => exact absurd low (Nat.lt_irrefl 4)
  | operation bounds => exact absurd bounds.2 (by decide)
  | signed four =>
    cases rule' with
    | tighter low => exact absurd low (Nat.lt_irrefl 4)
    | operation bounds => exact absurd bounds.2 (by decide)
    | signed =>
      have follows {kind : Kind} (other : kind ≠ .openParen) :
          Follows [.token .sign, .part (.nested (.level Kind.signRank))] kind := by
        have precedes : (Symbol.nested (.level Kind.signRank)).MayPrecede kind :=
          ⟨Nat.le_refl 4, Kind.mayFollow_signRank other⟩
        exact Follows.last precedes
      obtain ⟨rfl, rfl⟩ := below.agree parts place.2 place'.2 (follows other) (follows other') same
      exact ⟨rfl, rfl⟩
    | primary =>
      cases below with
      | token => exact absurd same signs
  | primary four =>
    cases rule' with
    | tighter low => exact absurd low (Nat.lt_irrefl 4)
    | operation bounds => exact absurd bounds.2 (by decide)
    | signed =>
      cases below' with
      | token => exact absurd same.symm signs
    | primary =>
      obtain ⟨rfl, rfl⟩ := below.agree parts place.2 place'.2 (.last other) (.last other') same
      exact ⟨rfl, rfl⟩

/-- **An expression agrees** if everything in it does. -/
theorem Derivation.agrees_level (d : Derivation (.level rank)) (parts : d.below.PartsAgree) :
    d.Agrees := by
  intro d' w w' place place' follow follow' same
  obtain ⟨operand, u, grows, tokens, placed⟩ := exists_operand d.rule d.below follow.1 place.2
  obtain ⟨operand', u', grows', tokens', placed'⟩ := exists_operand d'.rule d'.below follow.1 place'.2
  rw [Derivation.tokens, Derivation.tokens, tokens, tokens', List.append_assoc,
    List.append_assoc] at same
  obtain ⟨rfl, behind⟩ := operand_agrees (grows.parts parts) placed placed' (grows.next follow.2).1
    (grows'.next follow'.2).1 same
  exact grows.unique grows' parts follow.2 follow'.2 behind

end Expressions

/-! ## The other symbols -/

/-- **Which rule the next two tokens call for**, by its number among the rules for a
symbol. Rules that begin alike have one number. -/
def Symbol.choice : Symbol → Kind → Kind → Nat
  | repeated item, first, _ => if first ∈ item.first?.getD [] then 1 else 0
  | declaration, .procedureKeyword, _ | direction, .toKeyword, _ => 1
  | declaration, .functionKeyword, _ => 2
  | parameters, first, second =>
    if first = .openParen then if second = .closeParen then 1 else 2 else 0
  | parameterGroup, .varKeyword, _ | terminator, .semicolon, _ => 1
  | statement, .identifier, second => if second = .openParen then 0 else 1
  | statement, .ifKeyword, _ => 2
  | statement, .whileKeyword, _ => 3
  | statement, .forKeyword, _ => 4
  | statement, .beginKeyword, _ => 5
  | alternative, first, _ => if first = .elseKeyword then 1 else 0
  | arguments, first, _ => if first = .closeParen then 1 else 0
  | primary, .identifier, second => if second = .openParen then 5 else 0
  | primary, .number, _ => 1
  | primary, .text, _ => 2
  | primary, .trueLiteral, _ => 3
  | primary, .falseLiteral, _ => 4
  | primary, .openParen, _ => 6
  | _, _, _ => 0

/-- The number of a rule among those for its symbol. -/
def Rule.choice : {symbol : Symbol} → {items : List Item} → Rule symbol items → Nat
  | _, _, more _ | _, _, procedure | _, _, emptyParameters | _, _, referenceGroup
  | _, _, assignmentTerminated | _, _, semicolon | _, _, .alternative | _, _, up
  | _, _, noArguments | _, _, number => 1
  | _, _, function | _, _, someParameters | _, _, conditional | _, _, text => 2
  | _, _, repetition | _, _, trueLiteral => 3
  | _, _, counting | _, _, falseLiteral => 4
  | _, _, compound | _, _, compoundTerminated | _, _, call => 5
  | _, _, parenthesized => 6
  | _, _, _ => 0

/-- What comes behind the first token of a row is the rest of the row. -/
theorem Forest.exists_tail {sort : Terminal} (forest : Forest (.token sort :: rest))
    (w : List Token) : ∃ others : Forest rest, (forest.tokens ++ w).tail = others.tokens ++ w := by
  cases forest with
  | token t fits others => exact ⟨others, rfl⟩

/-- A row that begins with two tokens. -/
theorem Forest.nextKind_tokens {first second : Kind} {notEnd : first ≠ .endOfInput}
    {notEnd' : second ≠ .endOfInput}
    (forest : Forest (.token (.kind first notEnd) :: .token (.kind second notEnd') :: rest))
    (w : List Token) :
    nextKind (forest.tokens ++ w) = first ∧ nextKind (forest.tokens ++ w).tail = second := by
  obtain ⟨others, tail⟩ := forest.exists_tail w
  exact ⟨forest.nextKind_token w, by rw [tail, others.nextKind_token]⟩

/-- A call begins with a name and a parenthesis. -/
theorem Derivation.callStatement_first (d : Derivation .callStatement) (w : List Token) :
    nextKind (d.tokens ++ w) = .identifier ∧ nextKind (d.tokens ++ w).tail = .openParen := by
  obtain ⟨rule, below⟩ := d
  cases rule
  exact below.nextKind_tokens w

/-- An assignment begins with a name and the sign for it. -/
theorem Derivation.assignment_first (d : Derivation .assignment) (w : List Token) :
    nextKind (d.tokens ++ w) = .identifier ∧ nextKind (d.tokens ++ w).tail = .assign := by
  obtain ⟨rule, below⟩ := d
  cases rule
  exact below.nextKind_tokens w

/-- **The next two tokens call for the rule that is used.** -/
theorem Rule.choice_eq (rule : Rule symbol items) (below : Forest items)
    (mayStand : rule.MayStand true w.head?) (follow : symbol.MayPrecede (nextKind w)) :
    rule.choice =
      symbol.choice (nextKind (below.tokens ++ w)) (nextKind (below.tokens ++ w).tail) := by
  cases rule
  case empty item =>
    cases below
    obtain ⟨-, kinds, first, other, -⟩ := follow
    have other : nextKind w ∉ item.first?.getD [] := by rwa [first]
    exact (if_neg other).symm
  case more item =>
    obtain ⟨-, kinds, first, -, -⟩ := follow
    have listed := below.nextKind_mem kinds ⟨kinds, fun _ => id, first⟩ w
    have listed : nextKind (below.tokens ++ w) ∈ item.first?.getD [] := by rwa [first]
    exact (if_pos listed).symm
  case noParameters =>
    cases below
    exact (if_neg follow).symm
  case emptyParameters | call =>
    rw [(below.nextKind_tokens w).1, (below.nextKind_tokens w).2]
    rfl
  case someParameters =>
    obtain ⟨others, tail⟩ := below.exists_tail w
    have listed := others.nextKind_mem [.varKeyword, .identifier] ⟨_, fun _ => id, rfl⟩ w
    rw [tail, below.nextKind_token]
    refine (if_neg fun closed => ?_).symm
    rw [closed] at listed
    exact absurd listed (by decide)
  case valueGroup =>
    have listed := below.nextKind_mem [.identifier] ⟨_, fun _ => id, rfl⟩ w
    rw [List.mem_singleton.1 listed]
    rfl
  case callTerminated =>
    cases below with
    | part rule front others =>
      obtain ⟨first, second⟩ := (Derivation.mk rule front).callStatement_first (others.tokens ++ w)
      rw [Derivation.tokens] at first second
      rw [Forest.tokens, List.append_assoc, first, second]
      rfl
  case assignmentTerminated =>
    cases below with
    | part rule front others =>
      obtain ⟨first, second⟩ := (Derivation.mk rule front).assignment_first (others.tokens ++ w)
      rw [Derivation.tokens] at first second
      rw [Forest.tokens, List.append_assoc, first, second]
      rfl
  case omitted =>
    cases below
    obtain ⟨t, front, isElse⟩ := mayStand.1
    obtain ⟨more, rfl⟩ := List.head?_eq_some_iff.1 front
    rw [show nextKind (Forest.nil.tokens ++ t :: more) = .elseKeyword from isElse]
    rfl
  case noAlternative =>
    cases below
    refine (if_neg fun isElse => ?_).symm
    cases w with
    | nil => exact absurd isElse (by decide)
    | cons t more => exact mayStand.2 rfl t rfl isElse
  case someArguments =>
    have listed := below.nextKind_mem expressionKinds ⟨_, fun _ => id, rfl⟩ w
    refine (if_neg fun closed => ?_).symm
    rw [closed] at listed
    exact absurd listed (by decide)
  case variableName =>
    obtain ⟨others, tail⟩ := below.exists_tail w
    rw [tail, below.nextKind_token]
    cases others
    exact (if_neg follow).symm
  case variableSection | procedure | function | referenceGroup | conditional | repetition | counting
    | compound | compoundTerminated | semicolon | alternative | up | down | noArguments | number
    | text | trueLiteral | falseLiteral | parenthesized =>
    rw [below.nextKind_token]
    rfl
  all_goals rfl

/-- By the same rule, what stands below it agrees if everything there does. -/
theorem Rule.agree_below (rule : Rule symbol items) (notLevel : ∀ rank, symbol ≠ .level rank)
    {below below' : Forest items} (parts : below.PartsAgree) (place : below.InPlace true w.head?)
    (place' : below'.InPlace true w'.head?) (follow : symbol.MayPrecede (nextKind w))
    (follow' : symbol.MayPrecede (nextKind w')) (same : below.tokens ++ w = below'.tokens ++ w') :
    Derivation.mk rule below = Derivation.mk rule below' ∧ w = w' := by
  obtain ⟨rfl, rfl⟩ := below.agree parts place place' (rule.follows follow notLevel)
    (rule.follows follow' notLevel) same
  exact ⟨rfl, rfl⟩

/-- **A derivation agrees** if everything below its rule does. -/
theorem Derivation.agrees_of_parts (rule : Rule symbol items) (below : Forest items)
    (parts : below.PartsAgree) : (Derivation.mk rule below).Agrees := by
  by_cases isLevel : ∃ rank, symbol = .level rank
  · obtain ⟨rank, rfl⟩ := isLevel
    exact Derivation.agrees_level _ parts
  have notLevel (rank : Nat) (isLevel' : symbol = .level rank) : False := isLevel ⟨rank, isLevel'⟩
  rintro ⟨rule', below'⟩ w w' ⟨mayStand, place⟩ ⟨mayStand', place'⟩ follow follow' same
  rw [Derivation.tokens, Derivation.tokens] at same
  have choice : rule.choice = rule'.choice := by
    rw [rule.choice_eq below mayStand follow, rule'.choice_eq below' mayStand' follow', same]
  have between (kind : Kind) : Follows [.token (.kind .beginKeyword), .part .statements,
      .token (.word ("end", .endKeyword))] kind := Rule.block.follows trivial (by simp)
  cases rule
  case tighter rank _ | operation rank _ | signed rank _ | primary rank _ =>
    exact absurd rfl (notLevel rank)
  case single separator item =>
    cases separator
    case kind =>
      cases rule' with
      | single => exact Rule.agree_below _ notLevel parts place place' follow follow' same
      | further =>
        exact absurd same
          (below.ne_longer (.inl parts) place place' (.last follow.1) (.last follow.2.1) follow.2.2)
    all_goals exact follow.elim
  case further separator item =>
    cases separator
    case kind =>
      cases rule' with
      | single =>
        exact absurd same.symm (below'.ne_longer (.inr parts) place' place (.last follow'.1)
          (.last follow'.2.1) follow'.2.2)
      | further => exact Rule.agree_below _ notLevel parts place place' follow follow' same
    all_goals exact follow.elim
  all_goals cases rule'
  case compound.compoundTerminated =>
    exact absurd same (below.ne_longer (.inl parts) place place' (between _) (between _) follow)
  case compoundTerminated.compound =>
    exact absurd same.symm
      (below'.ne_longer (.inr parts) place' place (between _) (between _) follow')
  case empty.more | more.empty => exact absurd choice (by simp [Rule.choice])
  all_goals first
    | exact absurd choice (by decide)
    | exact Rule.agree_below _ notLevel parts place place' follow follow' same

/-- **Every derivation agrees.** -/
theorem Derivation.agrees (d : Derivation symbol) : d.Agrees :=
  Derivation.agrees_of_parts d.rule d.below (Forest.each Derivation.agrees_of_parts d.below)

/-- **The grammar of programs is unambiguous**: tokens have one derivation only in which
each `else` belongs to the nearest choice. -/
theorem Derivation.unique {d d' : Derivation .program} (place : d.InPlace true none)
    (place' : d'.InPlace true none) (same : d.tokens = d'.tokens) : d = d' :=
  (d.agrees d' [] [] place place' trivial trivial (congrArg (· ++ []) same)).1

end PascalFront.Grammar
