/-!
# Sets of code points

A class of characters is the union of a few hundred intervals of code
points. `Ranges` lists the intervals by their two ends, in ascending order
and apart from one another, so that a search may stop at the first interval
that starts beyond the code point it looks for: an ASCII character is decided
after a step or two, however long the list.
-/

namespace PascalFront.Text

/-- Intervals of code points, each by its first and its last member, in
ascending order. -/
abbrev Ranges := List (Nat × Nat)

namespace Ranges

/-- Whether a code point lies in one of the intervals. -/
def contains : Ranges → Nat → Bool
  | [], _ => false
  | (first, last) :: rest, point =>
    if point < first then false else point ≤ last || contains rest point

@[simp] theorem contains_nil (point : Nat) : contains [] point = false := rfl

/-- A code point that is found lies between the ends of a listed interval. -/
theorem exists_of_contains {ranges : Ranges} {point : Nat} (found : contains ranges point = true) :
    ∃ range ∈ ranges, range.1 ≤ point ∧ point ≤ range.2 := by
  induction ranges with
  | nil => simp at found
  | cons range rest ih =>
    obtain ⟨first, last⟩ := range
    unfold contains at found
    split at found
    · simp at found
    · rename_i notBelow
      rcases Bool.or_eq_true _ _ ▸ found with here | later
      · exact ⟨(first, last), by simp, Nat.le_of_not_lt notBelow, of_decide_eq_true here⟩
      · obtain ⟨other, listed, bounds⟩ := ih later
        exact ⟨other, List.mem_cons_of_mem _ listed, bounds⟩

end Ranges

end PascalFront.Text
