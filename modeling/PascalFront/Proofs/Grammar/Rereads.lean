import PascalFront.Proofs.Grammar.Placeless
import PascalFront.Proofs.Grammar.Unambiguous
/-!
# Expressions are determined by what their tokens say

From tokens that say the same as those of an expression, wherever they stand and
whatever comes behind, the recognizer reads an expression of the same structure
(`Recognizer.rereads_expression`). So an expression has only one structure, and cut
out of its context it keeps that.

From the tokens of the expression itself the recognizer yields that expression: it
accepts them, what it reads is derived from them, and there is no other derivation
(`Recognizer.expression_of_holds`). The other tokens correspond to these, so from
them it yields the same up to spans.
-/

namespace PascalFront

open Grammar TokenStream

/-! ## Tokens in other places -/

namespace Correspondence

variable {s : TokenStream} {u v w : List Token}

/-- What may be there corresponds to itself if everything does. -/
theorem rel_self {α : Type} {R : α → α → Prop} (each : ∀ a, R a a) (a? : Option α) :
    Option.Rel R a? a? := by
  cases a? with
  | none => exact .none
  | some a => exact .some (each a)

/-- **Tokens that say the same as those of a stream** are those of a corresponding one. -/
theorem exists_streams {row : List Token}
    (all : List.Forall₂ ofContent.tokens row (s.buffer ++ s.pending)) :
    ∃ s₀, ofContent.Streams s₀ s ∧ s₀.buffer ++ s₀.pending = row := by
  have buffers := List.forall₂_take s.buffer.length all
  have pendings := List.forall₂_drop s.buffer.length all
  rw [List.take_left] at buffers
  rw [List.drop_left] at pendings
  refine ⟨⟨row.drop s.buffer.length, s.fault, row.take s.buffer.length, s.previous, s.depth⟩,
    ⟨pendings, buffers, ?_, ?_, rfl, rfl⟩, List.take_append_drop ..⟩
  · exact rel_self (R := ofContent.tokens) (fun _ => rfl) s.previous
  · exact rel_self (fun _ => rfl) s.fault

/-- What stands in front on a stream may stand in other places on a corresponding one. -/
theorem exists_holds (same : SaySame u v) (holds : Holds (v ++ w) s) :
    ∃ s₀, ofContent.Streams s₀ s ∧ Holds (u ++ w) s₀ := by
  have whole : v ++ w ++ (s.buffer ++ s.pending).dropWhile (!·.isEnd) = s.buffer ++ s.pending := by
    rw [← holds.ahead]
    exact List.takeWhile_append_dropWhile
  generalize (s.buffer ++ s.pending).dropWhile (!·.isEnd) = rest at whole
  have alike := forall₂_ofContent same
  have all : List.Forall₂ ofContent.tokens (u ++ w ++ rest) (s.buffer ++ s.pending) := by
    rw [← whole, List.append_assoc, List.append_assoc]
    exact List.rel_append alike (List.forall₂_same.2 fun _ _ => rfl)
  obtain ⟨s₀, streams, tokens⟩ := exists_streams all
  refine ⟨s₀, streams, ?_, streams.exists_ending holds.ending⟩
  -- both streams have equally many tokens ahead
  have front : s₀.ahead <+: u ++ w ++ rest := tokens ▸ List.takeWhile_prefix _
  have length : s₀.ahead.length = (u ++ w).length := by
    rw [streams.ahead.length_eq, holds.ahead, List.length_append, List.length_append,
      alike.length_eq]
  exact (List.prefix_of_prefix_length_le front (List.prefix_append ..) length.le).eq_of_length length

end Correspondence

/-! ## Rules for expressions -/

namespace Grammar

variable {symbol : Symbol} {items : List Item}

/-- Whether only expressions are found below a symbol. -/
def Symbol.isExpression : Symbol → Bool
  | nested inner | separated _ inner => inner.isExpression
  | arguments | level _ | primary => true
  | _ => false

/-- A rule for expressions may be used before any token and leads to expressions again. -/
theorem Rule.of_isExpression (rule : Rule symbol items) (h : symbol.isExpression) :
    (∀ next, rule.MayStand true next) ∧ ∀ inner, .part inner ∈ items → inner.isExpression := by
  cases rule
  case nested | single | further =>
    exact ⟨fun _ => ⟨trivial, fun _ => trivial⟩, by simp_all [Symbol.isExpression]⟩
  all_goals first
    | exact absurd h Bool.false_ne_true
    | exact ⟨fun _ => ⟨trivial, fun _ => trivial⟩, by simp [Symbol.isExpression]⟩

/-- A row of expressions is in place before any token. -/
theorem Forest.inPlace_of_isExpression (forest : Forest items) (next : Option Token)
    (h : ∀ inner, .part inner ∈ items → inner.isExpression) : forest.InPlace true next := by
  induction forest generalizing next with
  | nil => trivial
  | token t fits others ih => exact ih next fun inner listed => h inner (.tail _ listed)
  | part rule below others ihBelow ihOthers =>
    obtain ⟨mayStand, parts⟩ := rule.of_isExpression (h _ List.mem_cons_self)
    exact ⟨mayStand _, ihBelow _ parts, ihOthers next fun inner listed => h inner (.tail _ listed)⟩

/-- **Expressions are in place before any token.** -/
theorem Derivation.inPlace_of_isExpression (d : Derivation symbol) (h : symbol.isExpression)
    (next : Option Token) : d.InPlace true next :=
  have ⟨mayStand, parts⟩ := d.rule.of_isExpression h
  ⟨mayStand next, d.below.inPlace_of_isExpression next parts⟩

end Grammar

/-! ## What is recognized -/

namespace Recognizer

variable {room rank : Nat} {s : TokenStream} {u w : List Token} {e : Expr}

/-- **An expression that a stream holds is recognized** as what it denotes. -/
theorem expression_of_holds (isRank : rank ≤ 4) (d : Grammar.Derivation (.nested (.level rank)))
    (value : d.value? = some e) (depth : d.depth ≤ room) (holds : Holds (d.tokens ++ w) s)
    (follow : (nextKind w).mayFollow rank) :
    ∃ s', expressionIn room rank s = .ok e s' ∧ Holds w s' := by
  have place : d.InPlace true w.head? := d.inPlace_of_isExpression rfl _
  have accepted := accepts_expressionIn room rank isRank _ d.rule d.below w s place.1
    ⟨place.2, holds⟩ follow
  have reads := reads_expressionIn room rank isRank s
  cases run : expressionIn room rank s with
  | error fault s' =>
    rw [run] at accepted
    cases accepted with
    | nesting deep => exact absurd depth (Nat.not_le.2 deep)
    | literal large => exact absurd (value.symm.trans large) (by simp)
  | ok a s' =>
    rw [run] at accepted reads
    obtain ⟨d', b, took, yields, rfl, -⟩ := reads
    have accepted : Holds w s' := accepted
    have whole := holds.ahead.symm.trans took.ahead
    rw [accepted.ahead] at yields whole
    -- the tokens have one derivation only
    obtain ⟨rfl, -⟩ := d.agrees d' w w place yields.place ⟨isRank, follow⟩ ⟨isRank, follow⟩ whole
    obtain rfl := Option.some.inj (value.symm.trans yields.value)
    exact ⟨s', rfl, accepted⟩

/-- **Expressions are reread**: from tokens that say the same as those of an expression one of
the same structure is recognized. -/
theorem rereads_expression (isRank : rank ≤ 4) (d : Grammar.Derivation (.nested (.level rank)))
    (value : d.value? = some e) (depth : d.depth ≤ room) (same : SaySame d.tokens u)
    (holds : Holds (u ++ w) s) (follow : (nextKind w).mayFollow rank) :
    ∃ e' s', expressionIn room rank s = .ok e' s' ∧ Holds w s' ∧ e'.erased = e.erased := by
  obtain ⟨s₀, streams, holds₀⟩ := Correspondence.exists_holds same holds
  obtain ⟨s₁, run₀, holds₁⟩ := expression_of_holds isRank d value depth holds₀ follow
  have results := Correspondence.agree_expressionIn room rank s₀ s streams
  have reads := reads_expressionIn room rank isRank s
  rw [run₀] at results
  generalize run : expressionIn room rank s = result at results reads
  cases results with
  | @ok _ e' _ s' alike behind =>
    obtain ⟨_, _, took, -⟩ := reads
    have length : s'.ahead.length = w.length := holds₁.ahead ▸ behind.ahead.length_eq.symm
    have rest := List.append_inj_right' (took.ahead.symm.trans holds.ahead) length
    refine ⟨e', s', rfl, ⟨rest, took.ending ▸ holds.ending⟩, ?_⟩
    rw [← Expr.relabelled_unplaced, ← Expr.relabelled_unplaced]
    exact alike

end Recognizer

end PascalFront
