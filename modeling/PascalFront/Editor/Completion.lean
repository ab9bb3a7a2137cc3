import PascalFront.Token.Basic
/-!
# Completion

What may be completed is the same everywhere: the keywords in alphabetical
order, and after them the routines for input and output.
-/

namespace PascalFront.Editor

/-- The kinds of completions. -/
inductive CompletionKind where
  | keyword | routine
  deriving DecidableEq, Repr

/-- The number by which an editor knows a kind. -/
def CompletionKind.number : CompletionKind → Nat
  | routine => 3
  | keyword => 14

/-- A word that may be completed. -/
structure Completion where
  /-- The word. -/
  label : String
  /-- What it is. -/
  kind : CompletionKind
  deriving DecidableEq, Repr

/-- The routines that every program may call. -/
def builtinRoutines : List String := ["write", "writeln", "read", "readln"]

/-- **All completions.** -/
def completions : List Completion :=
  ((Kind.keywords.map Prod.fst).mergeSort (fun a b => decide (a ≤ b))).map (⟨·, .keyword⟩)
    ++ builtinRoutines.map (⟨·, .routine⟩)

end PascalFront.Editor
