import PascalFront.Proofs.Grammar.Pairs
/-!
# Levels of nesting

A stream counts the levels that are open. A recognizer of an expression, a statement or the
body of a routine opens a level, and closes it when it is done and when it meets a fault
(`Recognizer.nested_run`).

Recursion and proofs go along the levels that are left instead. `expressionIn`, `statementIn`
and `routineBodyIn` do not count; they are handed the number of levels that are left, and
hand on one less. At each depth the recognizers that count do the same as these
(`Recognizer.AtDepth`), and so the one for programs does (`Recognizer.program_run`).
-/

namespace PascalFront

/-- The stream with so many levels open. -/
def TokenStream.atDepth (s : TokenStream) (depth : Nat) : TokenStream := { s with depth }

namespace Recognizer

/-! ## The levels that are left -/

/-- An expression with `room` levels of nesting left. -/
def expressionIn : (room : Nat) → (least : Nat) → Recognizer Expr
  | 0 => fun _ => reject .nestingTooDeep
  | room + 1 => expressionBy (expressionIn room)

/-- A statement with `room` levels of nesting left. -/
def statementIn : (room : Nat) → Recognizer Statement
  | 0 => reject .nestingTooDeep
  | room + 1 => peek >>= statementBy (expressionIn room 0) (statementIn room)

/-- The body of a routine with `room` levels of nesting left. -/
def routineBodyIn : (room : Nat) → Recognizer Block
  | 0 => reject .nestingTooDeep
  | room + 1 => peek >>= routineBodyBy (routineBodyIn room) (statementIn room)

/-- A program with `room` levels of nesting left. -/
def programIn (room : Nat) : Recognizer Program :=
  programBy (routineBodyIn room) (statementIn room)

section Steps

variable {P : (α : Type) → Recognizer α → Recognizer α → Prop} (related : RelatedBySteps P)

include related

/-- What does not count is related to itself. -/
theorem RelatedBySteps.expressionIn (room least : Nat) :
    P _ (expressionIn room least) (Recognizer.expressionIn room least) := by
  induction room generalizing least with
  | zero => exact related.reject _
  | succ room ih => exact related.expressionBy ih least

theorem RelatedBySteps.statementIn (room : Nat) :
    P _ (statementIn room) (Recognizer.statementIn room) := by
  induction room with
  | zero => exact related.reject _
  | succ room ih =>
    exact related.bind related.peek fun t => related.statementBy (related.expressionIn room 0) ih t

theorem RelatedBySteps.routineBodyIn (room : Nat) :
    P _ (routineBodyIn room) (Recognizer.routineBodyIn room) := by
  induction room with
  | zero => exact related.reject _
  | succ room ih =>
    exact related.bind related.peek fun t => related.routineBodyBy ih (related.statementIn room) t

theorem RelatedBySteps.programIn (room : Nat) :
    P _ (programIn room) (Recognizer.programIn room) :=
  related.programBy (related.routineBodyIn room) (related.statementIn room)

end Steps

/-! ## What is done at a depth -/

/-- A result with so many levels open in the stream that is left. -/
def resultAt {α : Type} (depth : Nat) :
    EStateM.Result Fault TokenStream α → EStateM.Result Fault TokenStream α
  | .ok a s => .ok a (s.atDepth depth)
  | .error fault s => .error fault (s.atDepth depth)

/-- **At a depth a recognizer does what another one does** at every depth, and it leaves the
depth. -/
def AtDepth (depth : Nat) (α : Type) (r r' : Recognizer α) : Prop :=
  ∀ s, r (s.atDepth depth) = resultAt depth (r' s)

variable {α β : Type} {depth : Nat} {s : TokenStream}

/-- One step after the other. -/
theorem AtDepth.bind {r r' : Recognizer β} {next next' : β → Recognizer α}
    (first : AtDepth depth β r r') (behind : ∀ b, AtDepth depth α (next b) (next' b)) :
    AtDepth depth α (r >>= next) (r' >>= next') := by
  intro s
  have same := first s
  cases run : r' s with
  | ok b s' =>
    rw [run] at same
    rw [bind_of_ok run, bind_of_ok same]
    exact behind b s'
  | error fault s' =>
    rw [run] at same
    rw [bind_of_error run, bind_of_error same]
    rfl

/-- Looking at one more token. -/
theorem atDepth_pull : AtDepth depth Token pull pull := by
  intro s
  obtain ⟨pending, fault, buffer, previous, before⟩ := s
  rw [pull_run, pull_run]
  dsimp only [TokenStream.atDepth]
  cases buffer.getLast?.filter Token.isEnd with
  | some t => rfl
  | none =>
    cases pending with
    | cons t rest => rfl
    | nil => cases fault <;> rfl

/-- Looking at more of them. -/
theorem atDepth_pullMore (count : Nat) : AtDepth depth Token (pullMore count) (pullMore count) := by
  induction count with
  | zero => exact atDepth_pull
  | succ count ih => exact atDepth_pull.bind fun _ => ih

/-- Looking at a token. -/
theorem atDepth_peekAt (count : Nat) : AtDepth depth Token (peekAt count) (peekAt count) := by
  intro s
  have again : (s.atDepth depth).buffer[count]? = s.buffer[count]? := rfl
  rw [peekAt_run, peekAt_run, again]
  cases s.buffer[count]? with
  | some t => rfl
  | none => exact atDepth_pullMore _ s

/-- **Every step does at a depth what it does at every depth.** The depth does not count for the
number of rounds of a loop. -/
theorem relatedBySteps_atDepth (depth : Nat) : RelatedBySteps (AtDepth depth) where
  pure _ _ := rfl
  bind := .bind
  peekAt count _ := atDepth_peekAt count
  advance := (atDepth_peekAt 0).bind fun _ _ => rfl
  since _ _ := rfl
  refuse _ _ _ := rfl
  many each state s :=
    related_collect (P := AtDepth depth) (fun _ _ => rfl) .bind each (s.size + 1) state s

/-! ## Opening and closing a level -/

/-- A result with one level less open in the stream that is left. -/
def closed : EStateM.Result Fault TokenStream α → EStateM.Result Fault TokenStream α
  | .ok a s => .ok a (s.atDepth (s.depth - 1))
  | .error fault s => .error fault (s.atDepth (s.depth - 1))

/-- What is done in the end is done behind a result and behind a fault. -/
theorem finally_run (r : Recognizer α) (change : TokenStream → TokenStream) (s : TokenStream) :
    tryFinally r (modify change : Recognizer PUnit) s =
      match r s with
      | .ok a s' => .ok a (change s')
      | .error fault s' => .error fault (change s') := by
  show EStateM.map _ _ s = _
  rw [EStateM.map]
  simp only [tryFinally']
  cases r s <;> rfl

/-- A level that may be opened is open for `r` and closed behind it. -/
theorem nested_of_open (r : Recognizer α) (open_ : s.depth < maxNesting) :
    nested r s = closed (r (s.atDepth (s.depth + 1))) := by
  have inside : (do
      if (← get).depth > maxNesting then reject .nestingTooDeep
      r : Recognizer α) (s.atDepth (s.depth + 1)) = r (s.atDepth (s.depth + 1)) := by
    show (if s.depth + 1 > maxNesting then _ else r) (s.atDepth (s.depth + 1)) = _
    rw [if_neg (Nat.not_lt.2 open_)]
  refine (finally_run _ _ (s.atDepth (s.depth + 1))).trans ?_
  rw [inside]
  cases r (s.atDepth (s.depth + 1)) <;> rfl

/-- A level too deep is refused, and closed behind that. -/
theorem nested_of_full (r : Recognizer α) (full : maxNesting ≤ s.depth) :
    nested r s = closed (reject .nestingTooDeep (s.atDepth (s.depth + 1))) := by
  have inside : (do
      if (← get).depth > maxNesting then reject .nestingTooDeep
      r : Recognizer α) (s.atDepth (s.depth + 1)) =
        reject .nestingTooDeep (s.atDepth (s.depth + 1)) := by
    show (if s.depth + 1 > maxNesting then reject .nestingTooDeep >>= fun _ : Unit => r else r)
      (s.atDepth (s.depth + 1)) = _
    rw [if_pos (Nat.lt_succ_of_le full), reject, reject, bind_assoc]
    exact bind_congr_next fun _ _ _ => rfl
  refine (finally_run _ _ (s.atDepth (s.depth + 1))).trans ?_
  rw [inside]
  cases reject (α := α) .nestingTooDeep (s.atDepth (s.depth + 1)) <;> rfl

/-- What runs while a level is open, and how it is left. -/
theorem nested_run (r : Recognizer α) (s : TokenStream) :
    nested r s = closed ((if s.depth < maxNesting then r else reject .nestingTooDeep)
      (s.atDepth (s.depth + 1))) := by
  split
  case isTrue open_ => exact nested_of_open r open_
  case isFalse full => exact nested_of_full r (Nat.le_of_not_lt full)

/-- What a level yields has been found inside of it. -/
theorem exists_of_nested {r : Recognizer α} {a : α} {s' : TokenStream}
    (run : nested r s = .ok a s') :
    ∃ s₁, r (s.atDepth (s.depth + 1)) = .ok a s₁ ∧ s' = s₁.atDepth (s₁.depth - 1) := by
  rw [nested_run] at run
  cases found : (if s.depth < maxNesting then r else reject .nestingTooDeep)
      (s.atDepth (s.depth + 1)) with
  | error fault s₁ =>
    rw [found] at run
    cases run
  | ok b s₁ =>
    rw [found] at run
    cases run
    split at found
    · exact ⟨s₁, found, rfl⟩
    · obtain ⟨_, _, -, ⟨⟩⟩ := exists_of_bind found

/-- Closing the level that was opened leads back to the depth. -/
theorem closed_resultAt (result : EStateM.Result Fault TokenStream α) :
    closed (resultAt (depth + 1) result) = resultAt depth result := by
  cases result <;> rfl

/-- One level more is open in a stream at a depth. -/
theorem atDepth_opened (s : TokenStream) (depth : Nat) :
    (s.atDepth depth).atDepth ((s.atDepth depth).depth + 1) = s.atDepth (depth + 1) := rfl

/-- **What is nested is done one level deeper.** -/
theorem AtDepth.nested {r r' : Recognizer α} (open_ : depth < maxNesting)
    (inside : AtDepth (depth + 1) α r r') : AtDepth depth α (nested r) r' := by
  intro s
  rw [nested_of_open r (s := s.atDepth depth) open_, atDepth_opened, inside s, closed_resultAt]

/-- Where all levels are open what is nested is refused. -/
theorem atDepth_nested_of_full (r : Recognizer α) (full : maxNesting ≤ depth) :
    AtDepth depth α (Recognizer.nested r) (reject .nestingTooDeep) := by
  intro s
  rw [nested_of_full r (s := s.atDepth depth) full, atDepth_opened,
    (relatedBySteps_atDepth (depth + 1)).reject .nestingTooDeep s, closed_resultAt]

/-- So it is behind a look at the next token, which is the one that is refused. -/
theorem atDepth_peek_nested_of_full (r : Token → Recognizer α) (full : maxNesting ≤ depth) :
    AtDepth depth α (peek >>= fun t => Recognizer.nested (r t)) (reject .nestingTooDeep) := by
  have twice : (reject .nestingTooDeep : Recognizer α) = peek >>= fun _ => reject .nestingTooDeep := by
    funext s
    exact bind_congr_next fun t s' run => (bind_of_ok (peek_again run)).symm
  rw [twice]
  exact (relatedBySteps_atDepth depth).peek.bind fun t => atDepth_nested_of_full (r t) full

/-! ## Counting levels and handing them on -/

/-- The number of levels that are left at a depth, and for which there are calls. -/
def levelsLeft (calls depth : Nat) : Nat := min calls (maxNesting - depth)

/-- Without calls no level is left. -/
theorem levelsLeft_zero (depth : Nat) : levelsLeft 0 depth = 0 := Nat.zero_min _

/-- A level that is opened with a call is the first of those that are left. -/
theorem levelsLeft_of_open (calls : Nat) {depth : Nat} (open_ : depth < maxNesting) :
    levelsLeft (calls + 1) depth = levelsLeft calls (depth + 1) + 1 := by
  rw [levelsLeft, levelsLeft]
  omega

/-- Where all levels are open none is left. -/
theorem levelsLeft_of_full (calls : Nat) {depth : Nat} (full : maxNesting ≤ depth) :
    levelsLeft calls depth = 0 := by
  rw [levelsLeft, Nat.sub_eq_zero_of_le full, Nat.min_zero]

/-- More calls than levels make no difference. -/
theorem levelsLeft_of_le {calls : Nat} (enough : maxNesting ≤ calls) (depth : Nat) :
    levelsLeft calls depth = maxNesting - depth :=
  Nat.min_eq_right (Nat.le_trans (Nat.sub_le ..) enough)

/-- **Expressions at a depth** are recognized with the levels that are left there. -/
theorem atDepth_expression (calls depth least : Nat) :
    AtDepth depth _ (expression calls least) (expressionIn (levelsLeft calls depth) least) := by
  induction calls generalizing depth least with
  | zero =>
    rw [levelsLeft_zero]
    exact (relatedBySteps_atDepth depth).reject _
  | succ calls ih =>
    rcases Nat.lt_or_ge depth maxNesting with open_ | full
    · rw [levelsLeft_of_open calls open_]
      exact .nested open_ ((relatedBySteps_atDepth _).expressionBy (ih _) least)
    · rw [levelsLeft_of_full _ full]
      exact atDepth_nested_of_full _ full

/-- Statements at a depth. -/
theorem atDepth_statement (calls depth : Nat) :
    AtDepth depth _ (statement calls) (statementIn (levelsLeft calls depth)) := by
  induction calls generalizing depth with
  | zero =>
    rw [levelsLeft_zero]
    exact (relatedBySteps_atDepth depth).reject _
  | succ calls ih =>
    rcases Nat.lt_or_ge depth maxNesting with open_ | full
    · rw [levelsLeft_of_open calls open_]
      refine (relatedBySteps_atDepth depth).peek.bind fun t => .nested open_ ?_
      exact (relatedBySteps_atDepth _).statementBy (atDepth_expression calls _ 0) (ih _) t
    · rw [levelsLeft_of_full _ full]
      exact atDepth_peek_nested_of_full _ full

/-- Bodies of routines at a depth. -/
theorem atDepth_routineBody (calls depth : Nat) :
    AtDepth depth _ (routineBody calls) (routineBodyIn (levelsLeft calls depth)) := by
  induction calls generalizing depth with
  | zero =>
    rw [levelsLeft_zero]
    exact (relatedBySteps_atDepth depth).reject _
  | succ calls ih =>
    rcases Nat.lt_or_ge depth maxNesting with open_ | full
    · rw [levelsLeft_of_open calls open_]
      refine (relatedBySteps_atDepth depth).peek.bind fun t => .nested open_ ?_
      exact (relatedBySteps_atDepth _).routineBodyBy (ih _) (atDepth_statement calls _) t
    · rw [levelsLeft_of_full _ full]
      exact atDepth_peek_nested_of_full _ full

/-- Programs at a depth. There are always more calls than levels. -/
theorem atDepth_program (depth : Nat) :
    AtDepth depth _ program (programIn (maxNesting - depth)) := by
  have bodies := atDepth_routineBody (maxNesting + 1) depth
  have items := atDepth_statement (maxNesting + 1) depth
  rw [levelsLeft_of_le (Nat.le_succ _)] at bodies items
  exact (relatedBySteps_atDepth depth).programBy bodies items

/-- At the depth of the stream both do the same. -/
theorem AtDepth.run {r r' : Recognizer α} (h : AtDepth s.depth α r r')
    (same : AtDepth s.depth α r' r') : r s = r' s :=
  (h s).trans (same s).symm

/-- An expression is recognized with the levels that are left. -/
theorem expression_run (calls least : Nat) (s : TokenStream) :
    expression calls least s = expressionIn (levelsLeft calls s.depth) least s :=
  (atDepth_expression calls _ least).run ((relatedBySteps_atDepth _).expressionIn _ least)

/-- So is a statement. -/
theorem statement_run (calls : Nat) (s : TokenStream) :
    statement calls s = statementIn (levelsLeft calls s.depth) s :=
  (atDepth_statement calls _).run ((relatedBySteps_atDepth _).statementIn _)

/-- So is the body of a routine. -/
theorem routineBody_run (calls : Nat) (s : TokenStream) :
    routineBody calls s = routineBodyIn (levelsLeft calls s.depth) s :=
  (atDepth_routineBody calls _).run ((relatedBySteps_atDepth _).routineBodyIn _)

/-- **A program is recognized with the levels that are left**, which are all of them if none is
open. -/
theorem program_run (s : TokenStream) : program s = programIn (maxNesting - s.depth) s :=
  (atDepth_program _).run ((relatedBySteps_atDepth _).programIn _)

end Recognizer

end PascalFront
