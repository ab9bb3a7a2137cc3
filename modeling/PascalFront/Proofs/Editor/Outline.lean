import PascalFront.Editor.Outline
import PascalFront.Proofs.Editor.Range
import PascalFront.Proofs.Tree.Spans
/-!
# Outlines of programs

The outline of a program has its declarations as symbols, one for each and in their order, and
below the symbol of a routine those of the declarations in its body (`Symbol.Outlines`). That
holds of any tree whose spans have ranges.

In a text that is not too long they do. There every symbol has a name, its range contains
those of the symbols below it, and symbols next to each other are in the order of the text
(`Symbol.Outlines.wellNested`): the symbols below a routine are those of declarations in its
body, and the tree of the program has its children inside their node.
-/

namespace PascalFront

/-- The name of a declaration. -/
def Declaration.name : Declaration → String
  | var name _ _ | function name _ _ _ _ | procedure name _ _ _ => name

/-- The declarations in a body, if there is one. -/
def Block.declarationsOf (body : Option Block) : List Declaration :=
  (body.map Block.declarations).getD []

namespace Editor.Symbol

/-- The name of a symbol. -/
def name : Symbol → String
  | mk name _ _ _ _ => name

/-- The range of a symbol. -/
def range : Symbol → Range
  | mk _ _ _ range _ => range

/-- The symbols below a symbol. -/
def children : Symbol → List Symbol
  | mk _ _ _ _ children => children.getD []

/-- **A symbol is in a tree**: it is the root, or below a symbol in the tree. -/
inductive IsIn (root : Symbol) : Symbol → Prop where
  | root : IsIn root root
  | child {s c : Symbol} (inside : IsIn root s) (listed : c ∈ s.children) : IsIn root c

/-- **A symbol declares what a declaration does**: it has its name, its range and its type if
it has one, and the symbols below it declare what the body of the routine does, one by one. -/
inductive Declares : Symbol → Declaration → Prop where
  | var {name typeName : String} {span : Span} {range : Range}
      (spot : Range.ofSpan? span = some range) :
      Declares (.mk name (some typeName) .var range none) (.var name typeName span)
  | function {name returnType : String} {formal : List Parameter} {body : Option Block}
      {span : Span} {range : Range} {children : List Symbol}
      (spot : Range.ofSpan? span = some range)
      (below : List.Forall₂ Declares children (Block.declarationsOf body)) :
      Declares (.mk name (some returnType) .function range (some children))
        (.function name formal returnType body span)
  | procedure {name : String} {formal : List Parameter} {body : Option Block} {span : Span}
      {range : Range} {children : List Symbol} (spot : Range.ofSpan? span = some range)
      (below : List.Forall₂ Declares children (Block.declarationsOf body)) :
      Declares (.mk name none .procedure range (some children)) (.procedure name formal body span)

/-- **A symbol outlines a program**: it is its module, and the symbols below it declare what
the program does, one by one. -/
inductive Outlines : Symbol → Program → Prop where
  | mk {p : Program} {range : Range} {children : List Symbol}
      (spot : Range.ofSpan? p.span = some range)
      (below : List.Forall₂ Declares children p.declarations) :
      Outlines (.mk p.name none .module range (some children)) p

/-! ## There is an outline -/

/-- All spans below a node have ranges. -/
def Ranged (n : Node) : Prop := ∀ c, Node.IsIn n c → ∃ range, Range.ofSpan? c.span = some range

theorem Ranged.child {n c : Node} (h : Ranged n) (listed : c ∈ n.children) : Ranged c :=
  fun _ inside => h _ (inside.of_child listed)

mutual

/-- **A declaration has a symbol** if its spans have ranges. -/
theorem exists_ofDeclaration? (d : Declaration) (ranged : Ranged (.declaration d)) :
    ∃ s, ofDeclaration? d = some s ∧ s.Declares d := by
  obtain ⟨range, spot⟩ := ranged _ .root
  cases d with
  | var name typeName span =>
    replace spot : Range.ofSpan? span = some range := spot
    exact ⟨_, by rw [ofDeclaration?, spot]; rfl, .var spot⟩
  | function name formal returnType body span =>
    replace spot : Range.ofSpan? span = some range := spot
    obtain ⟨children, found, below⟩ := exists_ofBody? body fun b listed =>
      ranged.child (List.mem_append_right _ (List.mem_map_of_mem (Option.mem_toList.2 listed)))
    exact ⟨_, by rw [ofDeclaration?, spot, found]; rfl, .function spot below⟩
  | procedure name formal body span =>
    replace spot : Range.ofSpan? span = some range := spot
    obtain ⟨children, found, below⟩ := exists_ofBody? body fun b listed =>
      ranged.child (List.mem_append_right _ (List.mem_map_of_mem (Option.mem_toList.2 listed)))
    exact ⟨_, by rw [ofDeclaration?, spot, found]; rfl, .procedure spot below⟩

/-- The declarations in a body have symbols. -/
theorem exists_ofBody? (body : Option Block) (ranged : ∀ b ∈ body, Ranged (.block b)) :
    ∃ symbols, ofBody? body = some symbols ∧
      List.Forall₂ Declares symbols (Block.declarationsOf body) := by
  match body with
  | none => exact ⟨[], rfl, .nil⟩
  | some (.mk statements declarations span) =>
    exact exists_ofDeclarations? declarations fun d listed =>
      (ranged _ rfl).child (List.mem_append_left _ (List.mem_map_of_mem listed))

/-- Declarations have symbols. -/
theorem exists_ofDeclarations? (ds : List Declaration)
    (ranged : ∀ d ∈ ds, Ranged (.declaration d)) :
    ∃ symbols, ofDeclarations? ds = some symbols ∧ List.Forall₂ Declares symbols ds := by
  cases ds with
  | nil => exact ⟨[], rfl, .nil⟩
  | cons d rest =>
    obtain ⟨s, found, declares⟩ := exists_ofDeclaration? d (ranged d List.mem_cons_self)
    obtain ⟨others, founds, below⟩ :=
      exists_ofDeclarations? rest fun d listed => ranged d (List.mem_cons_of_mem _ listed)
    exact ⟨s :: others, by rw [ofDeclarations?, found, founds]; rfl, .cons declares below⟩

end

/-- **A program has an outline** if its spans have ranges. -/
theorem exists_ofProgram? (p : Program) (ranged : Ranged (.program p)) :
    ∃ root, ofProgram? p = some root ∧ root.Outlines p := by
  obtain ⟨range, spot⟩ := ranged _ .root
  obtain ⟨children, found, below⟩ := exists_ofDeclarations? p.declarations fun d listed =>
    ranged.child (List.mem_append_left _ (List.mem_map_of_mem listed))
  refine ⟨_, ?_, .mk spot below⟩
  rw [ofProgram?, show Range.ofSpan? p.span = some range from spot, found]
  rfl

/-! ## Symbols and declarations -/

variable {s c root : Symbol} {d : Declaration} {p : Program}

/-- A symbol has the range of its declaration. -/
theorem Declares.range (h : s.Declares d) : Range.ofSpan? d.span = some s.range := by
  cases h with
  | var spot | function spot _ | procedure spot _ => exact spot

/-- A symbol has the name of its declaration. -/
theorem Declares.name (h : s.Declares d) : s.name = d.name := by
  cases h <;> rfl

/-- What is related to lists one by one is related to their members. -/
theorem exists_of_forall₂ {α β : Type} {R : α → β → Prop} {u : List α} {v : List β}
    (h : List.Forall₂ R u v) {a : α} (listed : a ∈ u) : ∃ b ∈ v, R a b := by
  induction h with
  | nil => exact absurd listed List.not_mem_nil
  | @cons _ b _ _ first _ ih =>
    rcases List.mem_cons.1 listed with rfl | listed
    · exact ⟨b, List.mem_cons_self, first⟩
    · obtain ⟨b', listed', related⟩ := ih listed
      exact ⟨b', List.mem_cons_of_mem _ listed', related⟩

/-- **Below the symbol of a routine** are those of the declarations in its body. -/
theorem Declares.children_eq_nil_or (h : s.Declares d) : s.children = [] ∨
    ∃ b, .block b ∈ (Node.declaration d).children ∧
      List.Forall₂ Declares s.children b.declarations := by
  cases h with
  | var => exact .inl rfl
  | @function _ _ _ body _ _ _ _ below | @procedure _ _ body _ _ _ _ below =>
    cases body with
    | none =>
      cases below
      exact .inl rfl
    | some b => exact .inr ⟨b, List.mem_append_right _ List.mem_cons_self, below⟩

/-- **Every symbol of an outline** but its root declares what a declaration of the program
does. -/
theorem Outlines.eq_or_declares (h : root.Outlines p) (inside : root.IsIn s) :
    s = root ∨ ∃ d, Node.IsIn (.program p) (.declaration d) ∧ s.Declares d := by
  induction inside with
  | root => exact .inl rfl
  | @child s c _ listed ih =>
    rcases ih with rfl | ⟨d, isIn, declares⟩
    · cases h with
      | mk _ below =>
        obtain ⟨d, listed, declares⟩ := exists_of_forall₂ below listed
        exact .inr ⟨d, .child .root (List.mem_append_left _ (List.mem_map_of_mem listed)), declares⟩
    · rcases declares.children_eq_nil_or with none_ | ⟨b, isChild, below⟩
      · rw [none_] at listed
        exact absurd listed List.not_mem_nil
      · obtain ⟨d', listed, declares⟩ := exists_of_forall₂ below listed
        exact .inr ⟨d', (isIn.child isChild).child
          (List.mem_append_left _ (List.mem_map_of_mem listed)), declares⟩

/-! ## Outlines in a text -/

end Editor.Symbol

namespace Program

variable {text : String} {p : Program}

/-- **A node in the tree of a text stands on tokens of the text.** -/
theorem exists_tokens (accepted : ofText text = .ok p) {n : Node}
    (inside : Node.IsIn (.program p) n) :
    ∃ u, n.StandsOn u ∧ Token.PlacedInOrder u ∧
      ∀ t ∈ u, t ∈ (Cursor.ofText text).readAll.tokens ∧ t.isEnd = false := by
  have on : (Node.program p).StandsOn
      ((Cursor.ofText text).readAll.tokens.takeWhile (!·.isEnd)) := standsOn_of_ofStream accepted
  obtain ⟨u, within, on⟩ := on.of_isIn inside
  refine ⟨u, on, (Cursor.standsAt_ofText text).placedInOrder.sublist within.sublist,
    fun t listed => ?_⟩
  have listed := within.subset listed
  exact ⟨(List.takeWhile_sublist _).subset listed, by simpa using List.mem_takeWhile_imp listed⟩

/-- **A node in the tree of a text spans a piece of the text.** -/
theorem exists_span (accepted : ofText text = .ok p) {n : Node} (inside : Node.IsIn (.program p) n) :
    ∃ first last, first ≤ last ∧ last ≤ text.toList.length ∧
      n.span = ⟨.inText text.toList first, .inText text.toList last⟩ := by
  obtain ⟨u, on, placed, tokens⟩ := exists_tokens accepted inside
  have lies (t : Token) (listed : t ∈ u) :=
    (Cursor.standsAt_ofText text).exists_liesOn (tokens t listed).1 (tokens t listed).2
  obtain ⟨t, t', front, back, spanEq⟩ := on.span_eq placed
  obtain ⟨first, _, -, lies₁⟩ := lies t (List.mem_of_head? front)
  obtain ⟨_, last, -, lies₂⟩ := lies t' (List.mem_of_getLast? back)
  have start : t.startPosition = .inText text.toList first := by
    rw [Token.startPosition, lies₁.start]
    rfl
  have stop : t'.stopPosition = .inText text.toList last := by
    rw [Token.stopPosition, lies₂.stop]
    rfl
  refine ⟨first, last, ?_, lies₂.within, by rw [spanEq, start, stop]⟩
  have ordered := (on.wellPlaced placed).notEmpty
  rw [spanEq, start, stop] at ordered
  exact (Int.ofNat_lt.1 ordered).le

/-- A node in the tree of a text is well placed. -/
theorem wellPlaced (accepted : ofText text = .ok p) {n : Node} (inside : Node.IsIn (.program p) n) :
    n.WellPlaced := by
  obtain ⟨u, on, placed, -⟩ := exists_tokens accepted inside
  exact on.wellPlaced placed

/-- Identifiers are not empty. -/
theorem value_ne_of_identifier {t : Token} (listed : t ∈ (Cursor.ofText text).readAll.tokens)
    (isName : t.kind = .identifier) : t.value ≠ "" := by
  obtain ⟨first, last, -, lies⟩ := (Cursor.standsAt_ofText text).exists_liesOn listed
    (by rw [Token.isEnd, isName]; rfl)
  have denotes := lies.denotes
  rw [isName] at denotes
  intro empty
  rw [empty] at denotes
  exact denotes.1

end Program

namespace Node

variable {u : List Token}

/-- A declaration is named by an identifier among its tokens. -/
theorem StandsOn.exists_name {d : Declaration} (h : (declaration d).StandsOn u) :
    ∃ t ∈ u, t.kind = .identifier ∧ t.value = d.name := by
  cases h with
  | var front _ isName _ on =>
    obtain ⟨span, rfl⟩ := on.form
    exact ⟨_, List.mem_of_head? front, isName, rfl⟩
  | procedure _ isName => exact ⟨_, List.mem_cons_of_mem _ List.mem_cons_self, isName, rfl⟩
  | function _ isName => exact ⟨_, List.mem_cons_of_mem _ List.mem_cons_self, isName, rfl⟩

/-- So is a program. -/
theorem StandsOn.exists_title {p : Program} (h : (program p).StandsOn u) :
    ∃ t ∈ u, t.kind = .identifier ∧ t.value = p.name := by
  cases h with
  | mk _ isName => exact ⟨_, List.mem_cons_of_mem _ List.mem_cons_self, isName, rfl⟩

end Node

namespace Editor.Symbol

/-- **A symbol is well nested**: it has a name, its range is valid and contains those of the
symbols below it, and these are in the order of where they start. -/
structure WellNested (s : Symbol) : Prop where
  /-- The name is not empty. -/
  named : s.name ≠ ""
  /-- The range is valid. -/
  valid : s.range.Valid
  /-- The symbols below are inside. -/
  inside : ∀ c ∈ s.children, s.range.Contains c.range
  /-- They are in order. -/
  ordered : s.children.Pairwise fun c c' => c.range.start.NotAfter c'.range.start

variable {text : String} {p : Program} {root s : Symbol}

/-- All spans of a program have ranges if its text is not too long. -/
theorem ranged_program (short : text.length ≤ maxCoordinate)
    (accepted : Program.ofText text = .ok p) : Ranged (.program p) := by
  intro n inside
  obtain ⟨first, last, ordered, within, span⟩ := Program.exists_span accepted inside
  rw [String.length_toList] at within
  rw [span]
  exact ⟨_, Range.ofSpan?_inText _ ordered (within.trans short)⟩

/-- **A node in the tree of a text has the range of its piece.** -/
theorem range_of_isIn (short : text.length ≤ maxCoordinate) (accepted : Program.ofText text = .ok p)
    {n : Node} (inside : Node.IsIn (.program p) n) {range : Range}
    (spot : Range.ofSpan? n.span = some range) :
    ∃ first last : Nat, n.span.start.offset = first ∧ n.span.stop.offset = last ∧
      range = .inText text.toList first last ∧ range.Valid := by
  obtain ⟨first, last, ordered, within, span⟩ := Program.exists_span accepted inside
  have bounded : last ≤ maxCoordinate := by
    rw [String.length_toList] at within
    exact within.trans short
  rw [span, Range.ofSpan?_inText _ ordered bounded] at spot
  obtain rfl := Option.some.inj spot
  rw [span]
  exact ⟨first, last, rfl, rfl, rfl, Range.valid_inText _ ordered bounded⟩

/-- Nodes that are one inside the other have such ranges. -/
theorem contains_of_offsets (short : text.length ≤ maxCoordinate)
    (accepted : Program.ofText text = .ok p) {n c : Node} (isIn : Node.IsIn (.program p) n)
    (isIn' : Node.IsIn (.program p) c) {range range' : Range}
    (spot : Range.ofSpan? n.span = some range) (spot' : Range.ofSpan? c.span = some range')
    (inside : n.span.start.offset ≤ c.span.start.offset ∧
      c.span.stop.offset ≤ n.span.stop.offset) : range.Contains range' := by
  obtain ⟨first, last, start, stop, rfl, -⟩ := range_of_isIn short accepted isIn spot
  obtain ⟨first', last', start', stop', rfl, -⟩ := range_of_isIn short accepted isIn' spot'
  exact Range.contains_inText _ (by omega) (by omega)

/-- Declarations in the order of where they start have symbols in that order. -/
theorem pairwise_of_declares (short : text.length ≤ maxCoordinate)
    (accepted : Program.ofText text = .ok p) {symbols : List Symbol} {ds : List Declaration}
    (declare : List.Forall₂ Declares symbols ds)
    (isIn : ∀ d ∈ ds, Node.IsIn (.program p) (.declaration d))
    (ordered : ds.Pairwise fun d d' => d.span.start.offset ≤ d'.span.start.offset) :
    symbols.Pairwise fun c c' => c.range.start.NotAfter c'.range.start := by
  induction declare with
  | nil => exact .nil
  | @cons s d others ds first behind ih =>
    obtain ⟨here, ordered⟩ := List.pairwise_cons.1 ordered
    have rest := ih (fun d listed => isIn d (List.mem_cons_of_mem _ listed)) ordered
    refine List.pairwise_cons.2 ⟨fun c' listed => ?_, rest⟩
    obtain ⟨d', listed', declares⟩ := exists_of_forall₂ behind listed
    obtain ⟨first₁, _, start, -, range, -⟩ :=
      range_of_isIn short accepted (isIn d List.mem_cons_self) first.range
    obtain ⟨first₂, _, start', -, range', -⟩ :=
      range_of_isIn short accepted (isIn d' (List.mem_cons_of_mem _ listed')) declares.range
    have before : d.span.start.offset ≤ d'.span.start.offset := here d' listed'
    rw [range, range']
    refine Place.inText_mono _ ?_
    have start : d.span.start.offset = first₁ := start
    have start' : d'.span.start.offset = first₂ := start'
    omega

/-- **A symbol for a node is well nested** if the symbols below it declare what is declared at
a node inside that one. -/
theorem wellNested_of_declares (short : text.length ≤ maxCoordinate)
    (accepted : Program.ofText text = .ok p) {n m : Node} (isIn : Node.IsIn (.program p) n)
    (isIn' : Node.IsIn (.program p) m) (spot : Range.ofSpan? n.span = some s.range)
    (named : s.name ≠ "")
    (within : n.span.start.offset ≤ m.span.start.offset ∧ m.span.stop.offset ≤ n.span.stop.offset)
    {ds : List Declaration} (declared : m.declared = ds.map .declaration)
    (declare : List.Forall₂ Declares s.children ds) : s.WellNested := by
  have placed := Program.wellPlaced accepted isIn'
  have listed {d : Declaration} (listed : d ∈ ds) : .declaration d ∈ m.children :=
    List.mem_append_left _ (declared ▸ List.mem_map_of_mem listed)
  obtain ⟨_, _, -, -, -, valid⟩ := range_of_isIn short accepted isIn spot
  refine ⟨named, valid, fun c below => ?_, ?_⟩
  · obtain ⟨d, isListed, declares⟩ := exists_of_forall₂ declare below
    obtain ⟨start, stop⟩ := placed.inside _ (listed isListed)
    exact contains_of_offsets short accepted isIn (isIn'.child (listed isListed)) spot
      declares.range ⟨Int.le_trans within.1 start, Int.le_trans stop within.2⟩
  · refine pairwise_of_declares short accepted declare (fun d h => isIn'.child (listed h)) ?_
    have ordered := placed.declared
    rw [declared, List.pairwise_map] at ordered
    exact ordered

/-- **Every symbol of an outline is well nested** if the text is not too long. -/
theorem Outlines.wellNested (h : root.Outlines p) (short : text.length ≤ maxCoordinate)
    (accepted : Program.ofText text = .ok p) (inside : root.IsIn s) : s.WellNested := by
  rcases h.eq_or_declares inside with rfl | ⟨d, isIn, declares⟩
  · cases h with
    | mk spot below =>
      obtain ⟨u, on, -, tokens⟩ := Program.exists_tokens accepted .root
      obtain ⟨t, listed, isName, value⟩ := on.exists_title
      exact wellNested_of_declares short accepted .root .root spot
        (value ▸ Program.value_ne_of_identifier (tokens t listed).1 isName)
        ⟨Int.le_refl _, Int.le_refl _⟩ rfl below
  · obtain ⟨u, on, -, tokens⟩ := Program.exists_tokens accepted isIn
    obtain ⟨t, listed, isName, value⟩ := on.exists_name
    have named : s.name ≠ "" := by
      rw [declares.name, ← value]
      exact Program.value_ne_of_identifier (tokens t listed).1 isName
    rcases declares.children_eq_nil_or with none_ | ⟨b, isChild, below⟩
    · obtain ⟨_, _, -, -, -, valid⟩ := range_of_isIn short accepted isIn declares.range
      exact ⟨named, valid, by simp [none_], by simp [none_]⟩
    · exact wellNested_of_declares short accepted isIn (isIn.child isChild) declares.range named
        ((Program.wellPlaced accepted isIn).inside _ isChild) rfl below

end Editor.Symbol

end PascalFront
