import PascalFront.Editor.Range
import PascalFront.Tree.Basic
/-!
# Outlines

The outline of a program is a tree of symbols: the program itself as a module,
and below it a symbol for each declaration, those of a routine's body below the
routine.
-/

namespace PascalFront.Editor

/-- The kinds of symbols. -/
inductive SymbolKind where
  | module | var | function | procedure
  deriving DecidableEq, Repr

/-- The number by which an editor knows a kind; a procedure counts as a
method. -/
def SymbolKind.number : SymbolKind → Nat
  | module => 2
  | procedure => 6
  | function => 12
  | var => 13

/-- **A symbol.** Variables have no list of symbols below them, not even an
empty one. -/
inductive Symbol where
  /-- A symbol with its parts. -/
  | mk (name : String) (detail : Option String) (kind : SymbolKind) (range : Range)
      (children : Option (List Symbol))

mutual

/-- The symbol of a declaration; none if it lies outside the editor's numbers. -/
def Symbol.ofDeclaration? : Declaration → Option Symbol
  | .var name typeName span => do
    return .mk name (some typeName) .var (← Range.ofSpan? span) none
  | .function name _ returnType body span => do
    let range ← Range.ofSpan? span
    return .mk name (some returnType) .function range (some (← Symbol.ofBody? body))
  | .procedure name _ body span => do
    let range ← Range.ofSpan? span
    return .mk name none .procedure range (some (← Symbol.ofBody? body))

/-- The symbols of the declarations in a routine's body. -/
def Symbol.ofBody? : Option Block → Option (List Symbol)
  | none => some []
  | some (.mk _ declarations _) => Symbol.ofDeclarations? declarations

/-- The symbols of declarations. -/
def Symbol.ofDeclarations? : List Declaration → Option (List Symbol)
  | [] => some []
  | d :: rest => do return (← Symbol.ofDeclaration? d) :: (← Symbol.ofDeclarations? rest)

end

/-- **The outline of a program.** -/
def Symbol.ofProgram? (p : Program) : Option Symbol := do
  let range ← Range.ofSpan? p.span
  return .mk p.name none .module range (some (← Symbol.ofDeclarations? p.declarations))

end PascalFront.Editor
