import PascalFront.Proofs.Grammar.ReadsProgram
import PascalFront.Proofs.Token.Tiling
import PascalFront.Proofs.Tree.Children
/-!
# The spans of a tree

The tree that the recognizer yields stands on the tokens it was read from, so each
of its spans is that of the tokens of its node or zero (`Program.spans`). The
tokens of a text have positions, none is empty, and each begins where the one
before ends or later (`Token.PlacedInOrder`). Where trees stand on such tokens no
span is zero, and children are placed as their tokens are (`Node.WellPlaced`).
-/

namespace PascalFront

open Grammar TokenStream

/-! ## Tokens in order -/

/-- **Tokens that are placed in order**: each has a position and is not empty, and
it begins where the one before ends or later. -/
structure Token.PlacedInOrder (u : List Token) : Prop where
  /-- Each token begins somewhere. -/
  start : ∀ t ∈ u, t.startPosition ≠ .zero
  /-- Each token ends somewhere. -/
  stop : ∀ t ∈ u, t.stopPosition ≠ .zero
  /-- No token is empty. -/
  notEmpty : ∀ t ∈ u, t.startPosition.offset < t.stopPosition.offset
  /-- The tokens are one behind the other. -/
  ordered : u.Pairwise fun t t' => t.stopPosition.offset ≤ t'.startPosition.offset

namespace Token.PlacedInOrder

variable {u v : List Token} {t first last : Token}

/-- Some of the tokens. -/
theorem sublist (h : PlacedInOrder u) (some_ : v.Sublist u) : PlacedInOrder v where
  start t listed := h.start t (some_.subset listed)
  stop t listed := h.stop t (some_.subset listed)
  notEmpty t listed := h.notEmpty t (some_.subset listed)
  ordered := h.ordered.sublist some_

/-- No token begins before the first one. -/
theorem start_le (h : PlacedInOrder u) (front : u.head? = some first) (listed : t ∈ u) :
    first.startPosition.offset ≤ t.startPosition.offset := by
  obtain ⟨more, rfl⟩ := List.head?_eq_some_iff.1 front
  rcases List.mem_cons.1 listed with rfl | behind
  · exact Int.le_refl _
  · have notEmpty := h.notEmpty first List.mem_cons_self
    have ordered := (List.pairwise_cons.1 h.ordered).1 t behind
    omega

/-- No token ends behind the last one. -/
theorem le_stop (h : PlacedInOrder u) (back : u.getLast? = some last) (listed : t ∈ u) :
    t.stopPosition.offset ≤ last.stopPosition.offset := by
  obtain ⟨more, rfl⟩ := List.getLast?_eq_some_iff.1 back
  rcases List.mem_append.1 listed with before | same
  · have ordered := (List.pairwise_append.1 h.ordered).2.2 t before last List.mem_cons_self
    have notEmpty := h.notEmpty last (List.mem_of_getLast? back)
    omega
  · obtain rfl := List.mem_singleton.1 same
    exact Int.le_refl _

end Token.PlacedInOrder

namespace Cursor

variable {text : List Char} {c : Cursor} {place : Nat}

/-- **The tokens of a text are placed in order**, also before a fault. -/
theorem StandsAt.placedInOrder (h : c.StandsAt text place) :
    Token.PlacedInOrder (c.readAll.tokens.takeWhile (!·.isEnd)) := by
  have nothing : Token.PlacedInOrder [] :=
    ⟨by simp, by simp, by simp, List.Pairwise.nil⟩
  induction c using readAll.induct generalizing place with
  | case1 c fault after read =>
    rw [readAll_of_error read]
    exact nothing
  | case2 c t after read last =>
    rw [readAll_of_end read last, List.takeWhile_cons, if_neg (by simp [last])]
    exact nothing
  | case3 c t after read notLast _ ih =>
    obtain ⟨first, last, -, -, lies, stands⟩ := h.tile read notLast
    have behind := ih stands
    have start : t.startPosition = .inText text first := by rw [Token.startPosition, lies.start]; rfl
    have stop : t.stopPosition = .inText text last := by rw [Token.stopPosition, lies.stop]; rfl
    have notEmpty : t.startPosition.offset < t.stopPosition.offset := by
      rw [start, stop]
      exact Int.ofNat_lt.2 lies.notEmpty
    rw [readAll_of_more read notLast, List.takeWhile_cons, if_pos (by simpa using notLast)]
    have notZero : t.startPosition ≠ .zero ∧ t.stopPosition ≠ .zero := by
      rw [start, stop]
      exact ⟨Position.inText_ne_zero text first, Position.inText_ne_zero text last⟩
    refine ⟨List.forall_mem_cons.2 ⟨notZero.1, behind.start⟩,
      List.forall_mem_cons.2 ⟨notZero.2, behind.stop⟩,
      List.forall_mem_cons.2 ⟨notEmpty, behind.notEmpty⟩,
      List.pairwise_cons.2 ⟨fun t' listed => ?_, behind.ordered⟩⟩
    have notEnd : t'.isEnd = false := by simpa using (List.mem_takeWhile_imp listed)
    obtain ⟨first', last', ordered, lies'⟩ :=
      stands.exists_liesOn ((List.takeWhile_sublist _).subset listed) notEnd
    rw [stop, Token.startPosition, lies'.start]
    exact Int.ofNat_le.2 ordered

end Cursor

/-! ## Nodes on tokens in order -/

/-- **A node is well placed**: its span is not zero and not empty, the spans of
its children lie inside, its parts are one behind the other, and what is declared
at it is in the order of where it begins. -/
structure Node.WellPlaced (n : Node) : Prop where
  /-- The span is not zero. -/
  notZero : n.span ≠ .zero
  /-- The span is not empty. -/
  notEmpty : n.span.start.offset < n.span.stop.offset
  /-- The children are inside. -/
  inside : ∀ c ∈ n.children,
    n.span.start.offset ≤ c.span.start.offset ∧ c.span.stop.offset ≤ n.span.stop.offset
  /-- No part begins before the one in front of it ends. -/
  parts : n.parts.Pairwise fun c c' => c.span.stop.offset ≤ c'.span.start.offset
  /-- No declaration begins before the one in front of it. -/
  declared : n.declared.Pairwise fun c c' => c.span.start.offset ≤ c'.span.start.offset

namespace Node

variable {n : Node} {ns : List Node} {u : List Token}

/-- The span of a node goes from its first token to its last one. -/
theorem StandsOn.span_eq (h : n.StandsOn u) (placed : Token.PlacedInOrder u) :
    ∃ first last, u.head? = some first ∧ u.getLast? = some last ∧
      n.span = ⟨first.startPosition, last.stopPosition⟩ := by
  have front := List.head?_eq_some_head h.ne_nil
  have back := List.getLast?_eq_some_getLast h.ne_nil
  refine ⟨_, _, front, back, ?_⟩
  rcases h.runs.ends front back with ⟨span, -⟩ | ⟨-, t, listed, missing⟩
  · exact span
  · rcases missing with missing | missing
    · exact absurd missing (placed.start t listed)
    · exact absurd missing (placed.stop t listed)

/-- Nodes in order are one behind the other. -/
theorem InOrder.pairwise (h : InOrder ns u) (placed : Token.PlacedInOrder u) :
    ns.Pairwise fun c c' => c.span.stop.offset ≤ c'.span.start.offset := by
  induction h with
  | nil => exact .nil
  | @cons c others v u gap first behind ih =>
    have both : Token.PlacedInOrder (v ++ u) := placed.sublist (List.sublist_append_right ..)
    refine List.pairwise_cons.2 ⟨fun c' listed => ?_, ih (both.sublist (List.sublist_append_right ..))⟩
    obtain ⟨v', within, on⟩ := behind.exists_infix listed
    obtain ⟨_, last, -, back, spanEq⟩ := first.span_eq (both.sublist (List.sublist_append_left ..))
    obtain ⟨first', _, front', -, spanEq'⟩ :=
      on.span_eq (both.sublist (within.sublist.trans (List.sublist_append_right ..)))
    rw [spanEq, spanEq']
    exact (List.pairwise_append.1 both.ordered).2.2 _ (List.mem_of_getLast? back) _
      (within.subset (List.mem_of_head? front'))

/-- Staggered nodes are in the order of where they begin. -/
theorem Staggered.pairwise (h : Staggered ns u) (placed : Token.PlacedInOrder u) :
    ns.Pairwise fun c c' => c.span.start.offset ≤ c'.span.start.offset := by
  induction h with
  | nil => exact .nil
  | @cons c others v u gap first further ih =>
    have both : Token.PlacedInOrder (v ++ u) := placed.sublist (List.sublist_append_right ..)
    refine List.pairwise_cons.2 ⟨fun c' listed => ?_, ih both⟩
    obtain ⟨v', within, on⟩ := further.exists_infix listed
    obtain ⟨first_, _, front, -, spanEq⟩ := first.span_eq (both.sublist (List.sublist_append_left ..))
    obtain ⟨first', _, front', -, spanEq'⟩ := on.span_eq (both.sublist within.sublist)
    rw [spanEq, spanEq']
    refine both.start_le ?_ (within.subset (List.mem_of_head? front'))
    rw [List.head?_append, front]
    rfl

/-- **A node on tokens in order is well placed.** -/
theorem StandsOn.wellPlaced (h : n.StandsOn u) (placed : Token.PlacedInOrder u) : n.WellPlaced := by
  obtain ⟨first, last, front, back, spanEq⟩ := h.span_eq placed
  refine ⟨fun zero => ?_, ?_, fun c listed => ?_, h.parts.pairwise placed, h.declared.pairwise placed⟩
  · exact placed.start first (List.mem_of_head? front) (congrArg Span.start (spanEq.symm.trans zero))
  · rw [spanEq]
    exact Int.lt_of_lt_of_le (placed.notEmpty first (List.mem_of_head? front))
      (placed.le_stop back (List.mem_of_head? front))
  · obtain ⟨v, within, on⟩ := h.child listed
    obtain ⟨first', last', front', back', spanEq'⟩ := on.span_eq (placed.sublist within.sublist)
    rw [spanEq, spanEq']
    exact ⟨placed.start_le front (within.subset (List.mem_of_head? front')),
      placed.le_stop back (within.subset (List.mem_of_getLast? back'))⟩

end Node

/-! ## What is recognized -/

namespace Program

/-- **What is recognized stands on the tokens ahead.** -/
theorem standsOn_of_run {s s' : TokenStream} {p : Program}
    (run : Recognizer.program s = .ok p s') : p.StandsOn s.ahead := by
  obtain ⟨d, ahead, yields, -⟩ := Recognizer.exists_yields run
  rw [ahead]
  exact d.standsOn yields.value

/-- What a stream holds stands on the tokens ahead. -/
theorem standsOn_of_ofStream {s : TokenStream} {p : Program} (h : ofStream s = .ok p) :
    p.StandsOn s.ahead := by
  unfold ofStream at h
  cases run : Recognizer.program s with
  | error fault s' =>
    rw [run] at h
    exact absurd h (by simp)
  | ok q s' =>
    rw [run] at h
    obtain rfl := Except.ok.inj h
    exact standsOn_of_run run

/-- **Spans are exact, nested and ordered.** In the tree of tokens, with or
without positions, each node stands on a stretch of the tokens, and its span runs
over them or is zero. In the tree of a text each node is well placed. -/
theorem spans :
    (∀ (tokens : List Token) (p : Program), ofTokens tokens = .ok p →
      p.StandsOn (tokens.takeWhile (!·.isEnd)) ∧
      ∀ n, Node.IsIn (.program p) n → ∃ u, u ≠ [] ∧ u <:+: tokens.takeWhile (!·.isEnd) ∧
        n.StandsOn u ∧ n.span.RunsOver u) ∧
    ∀ (text : String) (p : Program), ofText text = .ok p →
      ∀ n, Node.IsIn (.program p) n → n.WellPlaced := by
  refine ⟨fun tokens p accepted => ?_, fun text p accepted n inside => ?_⟩
  · have on : p.StandsOn (tokens.takeWhile (!·.isEnd)) := standsOn_of_ofStream accepted
    refine ⟨on, fun n inside => ?_⟩
    have root : (Node.program p).StandsOn (tokens.takeWhile (!·.isEnd)) := on
    obtain ⟨u, within, on⟩ := root.of_isIn inside
    exact ⟨u, on.ne_nil, within, on, on.runs⟩
  · have on : (Node.program p).StandsOn
        ((Cursor.ofText text).readAll.tokens.takeWhile (!·.isEnd)) := standsOn_of_ofStream accepted
    obtain ⟨u, within, on⟩ := on.of_isIn inside
    exact on.wellPlaced ((Cursor.standsAt_ofText text).placedInOrder.sublist within.sublist)

/-- Parentheses in a text, and a program of tokens of which only some have
positions. -/
theorem spans_parenthesized :
    (∃ p, ofText "program p; begin x := a * (b + c); end." = .ok p ∧
      ∀ n, Node.IsIn (.program p) n → n.WellPlaced) ∧
    ∃ p, ofTokens [⟨.programKeyword, "program", none, none⟩, ⟨.identifier, "p", none, none⟩,
        ⟨.semicolon, ";", none, none⟩, ⟨.beginKeyword, "begin", some ⟨1, 1, 0⟩, none⟩,
        ⟨.endKeyword, "end", none, none⟩, ⟨.dot, ".", none, none⟩] = .ok p ∧
      ∀ n, Node.IsIn (.program p) n → ∃ u, u ≠ [] ∧ n.StandsOn u ∧ n.span.RunsOver u := by
  have found (result : Except Fault Program)
      (accepted : result.isOk = true) :
      ∃ p, result = .ok p := by
    cases result with
    | ok p => exact ⟨p, rfl⟩
    | error fault => exact absurd accepted Bool.false_ne_true
  constructor
  · obtain ⟨p, accepted⟩ := found (ofText "program p; begin x := a * (b + c); end.") (by decide +kernel)
    exact ⟨p, accepted, spans.2 _ p accepted⟩
  · obtain ⟨p, accepted⟩ := found (ofTokens [⟨.programKeyword, "program", none, none⟩,
      ⟨.identifier, "p", none, none⟩, ⟨.semicolon, ";", none, none⟩,
      ⟨.beginKeyword, "begin", some ⟨1, 1, 0⟩, none⟩, ⟨.endKeyword, "end", none, none⟩,
      ⟨.dot, ".", none, none⟩]) (by decide +kernel)
    refine ⟨p, accepted, fun n inside => ?_⟩
    obtain ⟨u, some_, -, on, runs⟩ := (spans.1 _ p accepted).2 n inside
    exact ⟨u, some_, on, runs⟩

end Program

end PascalFront
