import PascalFront.Proofs.Grammar.Language
import PascalFront.Proofs.Grammar.OneAssignment
import PascalFront.Proofs.Grammar.Rereads
import PascalFront.Proofs.Token.Stretch
import PascalFront.Proofs.Tree.Derived
import PascalFront.Proofs.Tree.Spans
/-!
# Expressions are self-contained

The piece of a text that the span of an expression delimits is that expression
again wherever an expression may stand: put on the right of an assignment it is
recognized, and what it is there differs from what it was only in the spans
(`Program.ofText_selfContained`).

Three things come together. The piece is the stretch of some tokens, and cut out it
is read as tokens that say the same (`Stretch.laidOut`). The expression has a
derivation of its own from these tokens (`Expr.IsDerived`). And from tokens that say
the same the recognizer reads an expression of the same structure, whatever comes in
front and behind (`rereads_expression`).
-/

namespace PascalFront

open Grammar TokenStream Recognizer

/-- **The piece of a text** that the span of an expression delimits. -/
def Expr.slice (text : String) (e : Expr) : String :=
  String.ofList (text.toList.extract e.span.start.offset.toNat e.span.stop.offset.toNat)

/-! ## An assignment around a text -/

namespace Assigned

/-- What stands in front of a value says this. -/
def front : List (Kind × String) :=
  [(.programKeyword, "program"), (.identifier, "T"), (.semicolon, ";"), (.beginKeyword, "begin"),
    (.identifier, "x"), (.assign, ":=")]

/-- What stands behind a value says this. -/
def back : List (Kind × String) := [(.semicolon, ";"), (.endKeyword, "end"), (.dot, ".")]

theorem laidOut_front : LaidOut front "program T; begin x :=".toList :=
  laidOut_of_read (by decide +kernel) (by decide +kernel)

theorem laidOut_back : LaidOut back "; end.".toList :=
  laidOut_of_read (by decide +kernel) (by decide +kernel)

/-- Lexemes that break off the last one of a value are laid out behind it. -/
theorem breaks_back : ∀ c ∈ "; end.".toList.head?, Breaks c := by
  rw [show "; end.".toList = [';', ' ', 'e', 'n', 'd', '.'] by decide +kernel]
  rintro c ⟨⟩
  exact ⟨by decide +kernel, by decide⟩

/-- A text in a program of one assignment is laid out as its lexemes between those of the
program. -/
theorem laidOut {row : List (Kind × String)} {value : List Char}
    (h : LaidOut (row ++ back) (value ++ "; end.".toList)) :
    LaidOut (front ++ (row ++ back))
      ("program T; begin x := ".toList ++ value ++ "; end.".toList) := by
  have inside := h.blank (by decide : Text.isBlank ' ' = true)
  have whole := laidOut_front.append inside (by decide +kernel) fun c next => by
    obtain rfl := Option.some.inj next
    exact breaks_of_layout (.inl (by decide))
  have split : "program T; begin x := ".toList = "program T; begin x :=".toList ++ [' '] := by
    decide +kernel
  rw [split, List.append_assoc, List.append_assoc]
  exact whole

/-- **The stream of such a program** holds tokens that say what is laid out between
those that say what the frame says. -/
theorem exists_holds {u : List Token} {value : List Char}
    (h : LaidOut (u.map Token.content ++ back) (value ++ "; end.".toList)) :
    ∃ before u' after, before.map Token.content = front ∧ SaySame u u' ∧
      after.map Token.content = back ∧
      Holds (before ++ (u' ++ after)) (.ofText (String.ofList
        ("program T; begin x := ".toList ++ value ++ "; end.".toList))) := by
  obtain ⟨noFault, read⟩ := (laidOut h).readAll .start
  generalize "program T; begin x := ".toList ++ value ++ "; end.".toList = framed
    at noFault read
  have asText : Cursor.mk framed .start = Cursor.ofText (String.ofList framed) := by
    rw [Cursor.ofText, String.toList_ofList]
  rw [asText] at noFault read
  obtain ⟨tokens, lasts, split, inside, atEnd⟩ := List.map_eq_append_iff.1 read
  obtain ⟨last, _, rfl, -, nothing⟩ := List.map_eq_cons_iff.1 atEnd
  obtain rfl := List.map_eq_nil_iff.1 nothing
  obtain ⟨before, more, rfl, inFront, behind⟩ := List.map_eq_append_iff.1 inside
  obtain ⟨u', after, rfl, sameValue, inBack⟩ := List.map_eq_append_iff.1 behind
  exact ⟨before, u', after, inFront, sameValue, inBack, holds_ofText noFault split⟩

/-- **A text that is a value** is the value of the assignment around it. -/
theorem ofText_of_laidOut {Like : Expr → Prop} {u : List Token} {value : List Char}
    (h : LaidOut (u.map Token.content ++ back) (value ++ "; end.".toList))
    (finds : ∀ u' w, SaySame u u' → nextKind w = .semicolon →
      FindsValue Like u' w (expressionIn (maxNesting - 1) 0)) :
    ∃ p target e span, Program.ofText (String.ofList
        ("program T; begin x := ".toList ++ value ++ "; end.".toList)) = .ok p ∧
      p.statements = [.assignment target e span] ∧ Like e := by
  obtain ⟨before, u', after, inFront, sameValue, inBack, holds⟩ := exists_holds h
  simp only [front, List.map_eq_cons_iff, List.map_eq_nil_iff] at inFront
  obtain ⟨heading, _, rfl, isHeading, title, _, rfl, isTitle, separator, _, rfl, isSeparator, start,
    _, rfl, isStart, name, _, rfl, isName, assign, _, rfl, isAssign, rfl⟩ := inFront
  simp only [back, List.map_eq_cons_iff, List.map_eq_nil_iff] at inBack
  obtain ⟨semicolon, _, rfl, isSemicolon, stop, _, rfl, isStop, dot, _, rfl, isDot, rfl⟩ := inBack
  have isKind {t : Token} {kind : Kind} {value : String} (h : t.content = (kind, value)) :
      t.kind = kind := congrArg Prod.fst h
  have isWord {t : Token} {kind : Kind} {value : String} (h : t.content = (kind, value))
      (spelled : Kind.lowered value.toList = value) :
      t.kind = kind ∧ Kind.lowered t.value.toList = value := by
    have isValue : t.value = value := congrArg Prod.snd h
    exact ⟨isKind h, isValue ▸ spelled⟩
  obtain ⟨p, target, e, span, s', run, statements, like⟩ := programIn_assignment
    (isWord isHeading (by decide +kernel)) (isKind isTitle) (isKind isSeparator)
    (isWord isStart (by decide +kernel)) (isKind isName) (isKind isAssign) (isKind isSemicolon)
    (isWord isStop (by decide +kernel)) (isKind isDot)
    (finds u' [semicolon, stop, dot] sameValue (isKind isSemicolon)) holds
  refine ⟨p, target, e, span, ?_, statements, like⟩
  have run : program (.ofText _) = .ok p s' := (program_run _).trans run
  rw [Program.ofText, Program.ofStream, run]

/-- **A stretch of a text that is a value** is the value of the assignment around it. -/
theorem ofText_of_finds {Like : Expr → Prop} {text : List Char} {first stop : Nat} {u : List Token}
    (h : Stretch text first u stop)
    (finds : ∀ u' w, SaySame u u' → nextKind w = .semicolon →
      FindsValue Like u' w (expressionIn (maxNesting - 1) 0)) :
    ∃ p target e span, Program.ofText (String.ofList
        ("program T; begin x := ".toList ++ text.extract first stop ++ "; end.".toList)) = .ok p ∧
      p.statements = [.assignment target e span] ∧ Like e :=
  ofText_of_laidOut (h.laidOut laidOut_back breaks_back) finds

end Assigned

/-! ## Expressions in their places -/

namespace Program

/-- **A program that is recognized** has a derivation from the tokens of the text that is
nested no deeper than is allowed. -/
theorem exists_derivation {text : String} {p : Program} (accepted : ofText text = .ok p) :
    (Cursor.ofText text).readAll.fault = none ∧
      ∃ (d : Grammar.Derivation .program) (last : Token),
        (Cursor.ofText text).readAll.tokens = d.tokens ++ [last] ∧ d.value? = some p ∧
          d.depth ≤ maxNesting := by
  obtain ⟨noFault, d, last, -, read, yields⟩ := yields_of_ofText accepted
  exact ⟨noFault, d, last, read, yields.value, yields.depth⟩

end Program

/-- **The span of an expression delimits the stretch of its tokens.** -/
theorem Grammar.Derivation.exists_stretch {text : String} {e : Expr}
    (d : Grammar.Derivation (.level 0)) (value : d.value? = some e)
    (noFault : (Cursor.ofText text).readAll.fault = none) {before behind : List Token}
    {last : Token} (read : (Cursor.ofText text).readAll.tokens = before ++ d.tokens ++ behind ++ [last])
    (notEnd : ∀ t ∈ before ++ d.tokens ++ behind, t.isEnd = false) :
    ∃ first stop, e.span = ⟨.inText text.toList first, .inText text.toList stop⟩ ∧
      Stretch text.toList first d.tokens stop := by
  -- the tokens in front of the expression are on a stretch, and so are its own behind that
  have tiling := (Cursor.standsAt_ofText text).tiling noFault
  rw [read, List.append_assoc, List.append_assoc] at tiling
  obtain ⟨place, inFront, tiling⟩ := tiling.exists_stretch (Nat.zero_le _) fun t listed =>
    notEnd t (List.mem_append_left _ (List.mem_append_left _ listed))
  obtain ⟨stop, stretch, -⟩ := tiling.exists_stretch inFront.bounds.2 fun t listed =>
    notEnd t (List.mem_append_left _ (List.mem_append_right _ listed))
  -- all these tokens have positions, so the span is not zero
  have placed := (Cursor.standsAt_ofText text).placedInOrder
  rw [read, List.takeWhile_append_of_pos (by simpa using notEnd)] at placed
  have ofOwn : d.tokens.Sublist (before ++ d.tokens ++ behind ++ [last].takeWhile (!·.isEnd)) :=
    ((List.sublist_append_right ..).trans (List.sublist_append_left ..)).trans
      (List.sublist_append_left ..)
  have on : (Node.expression e).StandsOn d.tokens := d.standsOn value
  obtain ⟨t, t', front, back, span⟩ := on.span_eq (placed.sublist ofOwn)
  obtain ⟨more, split⟩ := List.head?_eq_some_iff.1 front
  have stretch' : Stretch text.toList place (t :: more) stop := split ▸ stretch
  obtain ⟨first, start, own⟩ := stretch'.exists_start
  refine ⟨first, stop, ?_, split ▸ own⟩
  have spanEq : e.span = ⟨t.startPosition, t'.stopPosition⟩ := span
  rw [spanEq, Token.startPosition, Token.stopPosition, start, stretch.stop_eq back]
  rfl

/-- **An expression is found again** where tokens say the same as those of its
derivation and a semicolon comes behind them. -/
theorem Grammar.Derivation.findsValue {e : Expr} (d : Grammar.Derivation (.level 0))
    (value : d.value? = some e) {room : Nat} (depth : d.depth ≤ room) {u w : List Token}
    (same : SaySame d.tokens u) (follow : nextKind w = .semicolon) :
    FindsValue (fun e' => e'.erased = e.erased) u w (expressionIn (room + 1) 0) := by
  intro s holds
  have nested : (Grammar.Derivation.mk (.nested (.level 0)) (.cons d .nil)).value? = some e := by
    rw [Grammar.Derivation.value?, Forest.values?_single, value]
    rfl
  refine rereads_expression (by decide) ⟨.nested (.level 0), .cons d .nil⟩ nested ?_ ?_ holds
    (by rw [follow]; rfl)
  · show 1 + max (0 + d.below.depth) 0 ≤ room + 1
    have depth : 0 + d.below.depth ≤ room := depth
    omega
  · show SaySame (d.tokens ++ []) u
    rwa [List.append_nil]

namespace Program

/-- **Every expression is self-contained.** The piece of the text that the span of an
expression in an accepted program delimits is put on the right of the assignment in
`program T; begin x := …; end.`; that program is accepted, the assignment is its only
statement, and its value is the same expression, apart from spans. -/
theorem ofText_selfContained (text : String) (p : Program) (accepted : ofText text = .ok p)
    (e : Expr) (inside : Node.IsIn (.program p) (.expression e)) :
    ∃ q target value span,
      ofText ("program T; begin x := " ++ e.slice text ++ "; end.") = .ok q ∧
        q.statements = [.assignment target value span] ∧ value.erased = e.erased := by
  obtain ⟨noFault, d, last, read, denotes, depth⟩ := exists_derivation accepted
  -- the expression is nested less deeply by two levels, of which the value takes one
  obtain ⟨own, value, ⟨before, behind, whole⟩, shallow⟩ :=
    d.everywhere_program denotes depth e inside
  rw [← whole] at read
  have notEnd := d.below.notEnd
  rw [show d.below.tokens = _ from whole.symm] at notEnd
  obtain ⟨first, stop, span, stretch⟩ := own.exists_stretch value noFault read notEnd
  have slice : e.slice text = String.ofList (text.toList.extract first stop) := by
    rw [Expr.slice, span]
    rfl
  have found := Assigned.ofText_of_finds stretch fun u w same follow =>
    own.findsValue value shallow same follow
  have framed : "program T; begin x := " ++ e.slice text ++ "; end." = String.ofList
      ("program T; begin x := ".toList ++ text.toList.extract first stop ++ "; end.".toList) := by
    rw [slice, String.ofList_append, String.ofList_append, String.ofList_toList,
      String.ofList_toList]
  rw [framed]
  exact found

/-- The left operand of the operator in the argument of a program's only call. -/
def firstOperand? : Program → Option Expr
  | ⟨_, _, [.call _ [.binary _ left _ _] _], _⟩ => some left
  | _ => none

/-- It stands in the program. -/
theorem isIn_of_firstOperand? {p : Program} {e : Expr} (h : firstOperand? p = some e) :
    Node.IsIn (.program p) (.expression e) := by
  unfold firstOperand? at h
  split at h
  · rename_i name declarations callee operator left right span call whole
    obtain rfl := Option.some.inj h
    refine .child (n := .expression (.binary operator left right span)) (.child
      (n := .statement (.call callee [.binary operator left right span] call)) (.child .root ?_) ?_) ?_
    · exact List.mem_append_right _ List.mem_cons_self
    · exact List.mem_append_right _ List.mem_cons_self
    · exact List.mem_append_right _ List.mem_cons_self
  · exact absurd h (by simp)

/-- The left operand of a difference, itself a difference with a comment in it. -/
theorem ofText_selfContained_operand :
    ∃ p e, ofText "program p; begin f(a - {left} b - c); end." = .ok p ∧
      Node.IsIn (.program p) (.expression e) ∧
      e.slice "program p; begin f(a - {left} b - c); end." = "a - {left} b" ∧
      ∃ q target value span, ofText "program T; begin x := a - {left} b; end." = .ok q ∧
        q.statements = [.assignment target value span] ∧ value.erased = e.erased := by
  have operand : ((ofText "program p; begin f(a - {left} b - c); end.").toOption.bind
      firstOperand?).map (·.slice "program p; begin f(a - {left} b - c); end.") =
      some "a - {left} b" := by decide +kernel
  obtain ⟨e, found, slice⟩ := Option.map_eq_some_iff.1 operand
  obtain ⟨p, result, found⟩ := Option.bind_eq_some_iff.1 found
  have accepted := eq_ok_of_toOption result
  have inside := isIn_of_firstOperand? found
  obtain ⟨q, target, value, span', reread, statements, same⟩ :=
    ofText_selfContained _ _ accepted e inside
  refine ⟨p, e, accepted, inside, slice, q, target, value, span', ?_, statements, same⟩
  rw [← reread, slice]
  rfl

end Program

end PascalFront
