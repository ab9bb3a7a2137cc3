import Mathlib.Data.List.TakeWhile
import PascalFront.Text.Lines
/-!
# Displayed lines and newlines

A text is cut into lines for display at every kind of line break, while positions
count newlines only. As long as a text has no other line break the two agree: the
displayed line that has as many lines before it as there are newlines before a place is
the line around that place (`Text.getElem?_lines`).
-/

namespace PascalFront.Text

/-- **The line around a place** of a text, between the newlines before and behind it. -/
def lineAround (text : List Char) (place : Nat) : List Char :=
  ((text.take place).reverse.takeWhile (· ≠ '\n')).reverse ++
    (text.drop place).takeWhile (· ≠ '\n')

/-- Up to the end of the line around a place newlines are the only line breaks. -/
def NewlinesOnly (text : List Char) (place : Nat) : Prop :=
  ∀ c ∈ text.take place ++ (text.drop place).takeWhile (· ≠ '\n'),
    isLineBreak c = true → c = '\n'

instance (text : List Char) (place : Nat) : Decidable (NewlinesOnly text place) :=
  List.decidableBAll (p := fun c => isLineBreak c = true → c = '\n') _

variable {c : Char} {text : List Char} {place : Nat}

/-- A newline ends an empty line. -/
theorem lines_newline (text : List Char) : lines ('\n' :: text) = [] :: lines text := by
  rw [lines, if_pos (by decide)]
  exact fun _ same _ => absurd same (by decide)

/-- A character that is no line break belongs to the line behind it. -/
theorem lines_cons (notBreak : isLineBreak c = false) (text : List Char) :
    lines (c :: text) = (c :: (lines text).headD []) :: (lines text).tail := by
  rw [lines, if_neg (by simp [notBreak])]
  · cases lines text <;> rfl
  · rintro rest rfl
    exact absurd notBreak (by decide)

/-- What stands in a line stands in the text. -/
theorem mem_of_mem_lines {line : List Char} (listed : line ∈ lines text) (within : c ∈ line) :
    c ∈ text := by
  fun_induction lines text generalizing line with
  | case1 => simp at listed
  | case2 rest ih =>
    rcases List.mem_cons.1 listed with rfl | later
    · simp at within
    · exact List.mem_cons_of_mem _ (List.mem_cons_of_mem _ (ih later within))
  | case3 d rest _ _ ih =>
    rcases List.mem_cons.1 listed with rfl | later
    · simp at within
    · exact List.mem_cons_of_mem _ (ih later within)
  | case4 d rest _ _ none ih =>
    obtain rfl := List.mem_singleton.1 listed
    exact List.mem_cons.2 (.inl (List.mem_singleton.1 within))
  | case5 d rest _ _ first others split ih =>
    rw [split] at ih
    rcases List.mem_cons.1 listed with rfl | later
    · rcases List.mem_cons.1 within with rfl | within
      · exact List.mem_cons_self
      · exact List.mem_cons_of_mem _ (ih List.mem_cons_self within)
    · exact List.mem_cons_of_mem _ (ih (List.mem_cons_of_mem _ later) within)

/-- What stands before a place behind the last newline, in reverse. -/
def lastLine (before : List Char) : List Char := before.reverse.takeWhile (· ≠ '\n')

/-- Without a newline that is all. -/
theorem lastLine_of_notMem (oneLine : '\n' ∉ text) : lastLine text = text.reverse := by
  refine List.takeWhile_eq_self_iff.2 fun d listed => ?_
  have other : d ≠ '\n' := fun newline => oneLine (newline ▸ List.mem_reverse.1 listed)
  simpa using other

/-- What stands before the last newline does not matter. -/
theorem lastLine_cons (h : c = '\n' ∨ '\n' ∈ text) : lastLine (c :: text) = lastLine text := by
  rw [lastLine, List.reverse_cons, List.takeWhile_append]
  by_cases between : '\n' ∈ text
  · rw [if_neg, lastLine]
    intro whole
    have all := List.all_takeWhile (p := (· ≠ '\n')) (l := text.reverse)
    rw [(List.takeWhile_prefix _).eq_of_length whole] at all
    exact absurd (List.all_eq_true.1 all '\n' (List.mem_reverse.2 between)) (by decide)
  · obtain rfl := h.resolve_right between
    have whole : text.reverse.takeWhile (· ≠ '\n') = text.reverse := lastLine_of_notMem between
    rw [if_pos (congrArg List.length whole), lastLine, whole]
    simp

/-- The line around a place on a later line. -/
theorem lineAround_newline (text : List Char) (place : Nat) :
    lineAround ('\n' :: text) (place + 1) = lineAround text place :=
  congrArg (·.reverse ++ _) (lastLine_cons (.inl rfl))

/-- A character in front is on the line around a place unless a newline comes
between. -/
theorem lineAround_cons (other : c ≠ '\n') (text : List Char) (place : Nat) :
    lineAround (c :: text) (place + 1) =
      if '\n' ∈ text.take place then lineAround text place else c :: lineAround text place := by
  by_cases between : '\n' ∈ text.take place
  · rw [if_pos between]
    exact congrArg (·.reverse ++ _) (lastLine_cons (.inr between))
  · have oneLine : '\n' ∉ c :: text.take place := by
      simpa [between] using Ne.symm other
    have whole := lastLine_of_notMem oneLine
    have behind := lastLine_of_notMem between
    rw [lastLine] at whole behind
    rw [if_neg between, lineAround, lineAround, List.take_succ_cons, List.drop_succ_cons, whole,
      behind, List.reverse_reverse, List.reverse_reverse, List.cons_append]

/-- The first displayed line. -/
theorem head?_lines (plain : NewlinesOnly text 0) :
    (lines text)[0]? = if text = [] then none else some (text.takeWhile (· ≠ '\n')) := by
  induction text with
  | nil => rfl
  | cons c text ih =>
    rw [if_neg (by simp)]
    by_cases newline : c = '\n'
    · rw [newline, lines_newline]
      rfl
    · have cut : (c :: text).takeWhile (· ≠ '\n') = c :: text.takeWhile (· ≠ '\n') :=
        List.takeWhile_cons_of_pos (by simpa using newline)
      have notBreak : isLineBreak c = false := by
        refine Bool.eq_false_iff.2 fun isBreak => newline (plain c ?_ isBreak)
        show c ∈ [] ++ (c :: text).takeWhile (· ≠ '\n')
        rw [cut]
        exact List.mem_cons_self
      have behind : NewlinesOnly text 0 := fun d listed => plain d (by
        show d ∈ [] ++ (c :: text).takeWhile (· ≠ '\n')
        rw [cut]
        exact List.mem_cons_of_mem c listed)
      rw [lines_cons notBreak, cut, List.getElem?_cons_zero]
      have first := ih behind
      cases text with
      | nil => rfl
      | cons d text =>
        rw [if_neg (by simp)] at first
        cases shown : lines (d :: text) with
        | nil => simp [shown] at first
        | cons line others =>
          rw [shown, List.getElem?_cons_zero, Option.some.injEq] at first
          rw [List.headD_cons, first]

/-- **The displayed line at a place is the line around it.** There is none if that line is
empty at the end of the text. -/
theorem getElem?_lines (plain : NewlinesOnly text place) :
    (lines text)[(text.take place).count '\n']? =
      if lineAround text place = [] ∧ text.length ≤ place then none
      else some (lineAround text place) := by
  induction place generalizing text with
  | zero =>
    have first := head?_lines plain
    cases text with
    | nil => rfl
    | cons c text => simpa [lineAround] using first
  | succ place ih =>
    cases text with
    | nil => rfl
    | cons c text =>
      have behind : NewlinesOnly text place := fun d listed => plain d (by
        rw [List.take_succ_cons, List.drop_succ_cons, List.cons_append]
        exact List.mem_cons_of_mem c listed)
      have rest := ih behind
      rw [List.take_succ_cons]
      by_cases newline : c = '\n'
      · rw [newline, List.count_cons_self, lines_newline, List.getElem?_cons_succ,
          lineAround_newline, rest]
        simp
      · have notBreak : isLineBreak c = false := by
          refine Bool.eq_false_iff.2 fun isBreak => newline (plain c ?_ isBreak)
          rw [List.take_succ_cons, List.cons_append]
          exact List.mem_cons_self
        rw [List.count_cons_of_ne newline, lines_cons notBreak, lineAround_cons newline]
        by_cases between : '\n' ∈ text.take place
        · obtain ⟨count, more⟩ := Nat.exists_eq_succ_of_ne_zero
            (List.count_pos_iff.2 between).ne'
          rw [if_pos between]
          rw [more] at rest ⊢
          rw [List.getElem?_cons_succ, List.getElem?_tail, rest]
          simp
        · -- The character is on the line around the place, in front of what is there without it.
          rw [List.count_eq_zero_of_not_mem between] at rest ⊢
          rw [if_neg between, List.getElem?_cons_zero, if_neg (by simp)]
          congr 2
          cases shown : lines text with
          | nil =>
            rw [shown] at rest
            by_cases empty : lineAround text place = [] ∧ text.length ≤ place
            · rw [empty.1, List.headD_nil]
            · simp [if_neg empty] at rest
          | cons line others =>
            rw [shown, List.getElem?_cons_zero] at rest
            by_cases empty : lineAround text place = [] ∧ text.length ≤ place
            · simp [if_pos empty] at rest
            · rw [if_neg empty, Option.some.injEq] at rest
              rw [List.headD_cons, rest]

end PascalFront.Text
