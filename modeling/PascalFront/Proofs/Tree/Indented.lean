import Mathlib.Tactic
import PascalFront.Tree.Sketch
/-!
# Indentation tells what belongs together

A tree of lines is written with what belongs to a line below it and indented further. Where the
lines of a tree end is known from what follows, since that is indented less; so trees are told
apart by the lines that they are written in (`LineTree.eq_of_lines`), provided that no
line begins with a space by itself.
-/

namespace PascalFront

open Sketch (indented)

/-- **A line, and what is indented below it.** -/
inductive LineTree where
  /-- A line with the trees below it. -/
  | node (line : String) (below : List LineTree)

namespace LineTree

/-- A line with nothing below it. -/
def leaf (line : String) : LineTree := node line []

mutual

/-- The lines of a tree at a depth of indentation. -/
def lines (depth : Nat) : LineTree → List String
  | node line below => indented depth line :: linesAll (depth + 1) below

/-- The lines of trees one after another. -/
def linesAll (depth : Nat) : List LineTree → List String
  | [] => []
  | t :: rest => lines depth t ++ linesAll depth rest

end

mutual

/-- Each line of a tree has a property, the indentation left out. -/
def Each (P : String → Prop) : LineTree → Prop
  | node line below => P line ∧ EachAll P below

/-- Each line of some trees has a property. -/
def EachAll (P : String → Prop) : List LineTree → Prop
  | [] => True
  | t :: rest => t.Each P ∧ EachAll P rest

end

mutual

/-- Each line has a property that follows from one that each of them has. -/
theorem Each.imp {P Q : String → Prop} (implies : ∀ line, P line → Q line) {t : LineTree}
    (each : t.Each P) : t.Each Q := by
  match t with
  | node line below => exact ⟨implies line each.1, EachAll.imp implies each.2⟩

theorem EachAll.imp {P Q : String → Prop} (implies : ∀ line, P line → Q line)
    {trees : List LineTree} (each : EachAll P trees) : EachAll Q trees := by
  match trees with
  | [] => trivial
  | t :: rest => exact ⟨Each.imp implies each.1, EachAll.imp implies each.2⟩

end

theorem linesAll_concat (depth : Nat) (trees others : List LineTree) :
    linesAll depth (trees ++ others) = linesAll depth trees ++ linesAll depth others := by
  induction trees with
  | nil => rfl
  | cons t rest ih => rw [List.cons_append, linesAll, ih, linesAll, List.append_assoc]

theorem eachAll_concat {P : String → Prop} {trees others : List LineTree} :
    EachAll P (trees ++ others) ↔ EachAll P trees ∧ EachAll P others := by
  induction trees with
  | nil => simp [EachAll]
  | cons t rest ih => rw [List.cons_append, EachAll, ih, EachAll, and_assoc]

/-! ## The indentation of a line -/

/-- By how many spaces a line is indented. -/
def indentation (line : String) : Nat := (line.toList.takeWhile (· = ' ')).length

/-- **A line does not begin with a space.** -/
def Flush (line : String) : Prop := line.toList.head? ≠ some ' '

theorem toList_indented (depth : Nat) (line : String) :
    (indented depth line).toList = List.replicate (2 * depth) ' ' ++ line.toList := by
  rw [indented, String.toList_append, String.toList_ofList]

theorem indentation_indented {line : String} (flush : Flush line) (depth : Nat) :
    indentation (indented depth line) = 2 * depth := by
  have spaces : ∀ c ∈ List.replicate (2 * depth) ' ', decide (c = ' ') = true := by simp
  have none : line.toList.takeWhile (· = ' ') = [] := by
    unfold Flush at flush
    cases text : line.toList with
    | nil => rfl
    | cons c rest =>
      rw [text] at flush
      have other : c ≠ ' ' := fun space => flush (congrArg some space)
      simp [other]
  rw [indentation, toList_indented, List.takeWhile_append_of_pos spaces, none]
  simp

theorem indented_injective {depth : Nat} : Function.Injective (indented depth) := by
  intro first second same
  have := congrArg String.toList same
  rw [toList_indented, toList_indented] at this
  exact String.toList_injective (List.append_cancel_left this)

/-- **What follows is indented less** than a depth, if something follows. -/
def Outdented (depth : Nat) (lines : List String) : Prop :=
  ∀ line ∈ lines.head?, indentation line < 2 * depth

variable {depth : Nat} {following following' : List String}

theorem Outdented.deeper (h : Outdented depth following) : Outdented (depth + 1) following :=
  fun line first => (h line first).trans (by omega)

/-- A tree is indented less than a greater depth. -/
theorem outdented_lines (t : LineTree) (flush : t.Each Flush) :
    Outdented (depth + 1) (lines depth t ++ following) := by
  cases t with
  | node line below =>
    rintro _ ⟨⟩
    rw [indentation_indented flush.1]
    omega

/-- So are trees and what follows them, if that is. -/
theorem outdented_linesAll (trees : List LineTree) (flush : EachAll Flush trees)
    (after : Outdented (depth + 1) following) :
    Outdented (depth + 1) (linesAll depth trees ++ following) := by
  cases trees with
  | nil => exact after
  | cons t rest =>
    rw [linesAll, List.append_assoc]
    exact outdented_lines t flush.1

/-- At its own depth a tree is not indented less. -/
theorem not_outdented {t : LineTree} (flush : t.Each Flush) :
    ¬ Outdented depth (lines depth t ++ following) := by
  cases t with
  | node line below =>
    intro outdented
    have := outdented _ rfl
    rw [indentation_indented flush.1] at this
    omega

/-! ## Trees and their lines -/

mutual

/-- The lines of a tree are told apart from what follows them. -/
theorem lines_append {depth : Nat} {following following' : List String} {t u : LineTree}
    (flush : t.Each Flush) (flush' : u.Each Flush) (after : Outdented (depth + 1) following)
    (after' : Outdented (depth + 1) following')
    (same : lines depth t ++ following = lines depth u ++ following') :
    t = u ∧ following = following' := by
  match t, u with
  | node line below, node line' below' =>
    obtain ⟨first, rest⟩ := List.cons.inj same
    obtain rfl := indented_injective first
    obtain ⟨rfl, behind⟩ := linesAll_append flush.2 flush'.2 after after' rest
    exact ⟨rfl, behind⟩

/-- The lines of trees are told apart from what follows them. -/
theorem linesAll_append {depth : Nat} {following following' : List String}
    {trees others : List LineTree} (flush : EachAll Flush trees) (flush' : EachAll Flush others)
    (after : Outdented depth following) (after' : Outdented depth following')
    (same : linesAll depth trees ++ following = linesAll depth others ++ following') :
    trees = others ∧ following = following' := by
  match trees, others with
  | [], [] => exact ⟨rfl, same⟩
  | [], u :: rest =>
    rw [linesAll, linesAll, List.nil_append, List.append_assoc] at same
    exact absurd (same ▸ after) (not_outdented flush'.1)
  | t :: rest, [] =>
    rw [linesAll, linesAll, List.nil_append, List.append_assoc] at same
    exact absurd (same ▸ after') (not_outdented flush.1)
  | t :: rest, u :: rest' =>
    rw [linesAll, linesAll, List.append_assoc, List.append_assoc] at same
    obtain ⟨rfl, behind⟩ := lines_append flush.1 flush'.1
      (outdented_linesAll rest flush.2 after.deeper) (outdented_linesAll rest' flush'.2 after'.deeper)
      same
    obtain ⟨rfl, following_eq⟩ := linesAll_append flush.2 flush'.2 after after' behind
    exact ⟨rfl, following_eq⟩

end

/-- **A tree is known from its lines.** -/
theorem eq_of_lines {t u : LineTree} (flush : t.Each Flush) (flush' : u.Each Flush)
    (same : lines depth t = lines depth u) : t = u := by
  have nothing : Outdented (depth + 1) [] := by simp [Outdented]
  exact (lines_append flush flush' nothing nothing (by rw [same])).1

mutual

/-- What holds of the lines of a tree holds of them with their indentation, if that does not
matter. -/
theorem forall_mem_lines {P Q : String → Prop} (indents : ∀ depth line, P line → Q (indented depth line))
    (depth : Nat) {t : LineTree} (each : t.Each P) : ∀ line ∈ lines depth t, Q line := by
  match t with
  | node line below =>
    exact List.forall_mem_cons.2 ⟨indents depth line each.1, forall_mem_linesAll indents _ each.2⟩

/-- The same of some trees. -/
theorem forall_mem_linesAll {P Q : String → Prop}
    (indents : ∀ depth line, P line → Q (indented depth line)) (depth : Nat)
    {trees : List LineTree} (each : EachAll P trees) : ∀ line ∈ linesAll depth trees, Q line := by
  match trees with
  | [] => exact List.forall_mem_nil _
  | t :: rest =>
    exact List.forall_mem_append.2
      ⟨forall_mem_lines indents depth each.1, forall_mem_linesAll indents depth each.2⟩

end

end LineTree

end PascalFront
