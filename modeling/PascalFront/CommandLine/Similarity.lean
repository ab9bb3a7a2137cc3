/-!
# Similarity of words

How much two words have in common is counted run by run: first the longest run
of characters that both of them hold, then likewise what stands before it and
what stands behind it. Words that agree in three fifths of their characters
resemble each other. For a word that is not known, the known words that it
resembles most are the ones that may have been meant.
-/

namespace PascalFront.CommandLine

/-- The number of characters with which both words start. -/
def commonStart : List Char → List Char → Nat
  | a :: left, b :: right => if a = b then commonStart left right + 1 else 0
  | _, _ => 0

/-- The common start is no longer than the first word. -/
theorem commonStart_le (left right : List Char) : commonStart left right ≤ left.length := by
  induction left generalizing right with
  | nil => simp [commonStart]
  | cons a left ih =>
    cases right with
    | nil => simp [commonStart]
    | cons b right =>
      unfold commonStart
      split
      · simpa using ih right
      · exact Nat.zero_le _

/-- **A run of characters that two words share.** -/
structure SharedRun where
  /-- The number of characters before it in the first word. -/
  left : Nat
  /-- The number of characters before it in the second word. -/
  right : Nat
  /-- The number of its characters. -/
  length : Nat
  deriving DecidableEq, Repr

namespace SharedRun

/-- The longer one of two runs, and the first one if they are equally long. -/
def longer (r s : SharedRun) : SharedRun := if r.length < s.length then s else r

/-- The longer one of two runs is one of them. -/
theorem longer_eq (r s : SharedRun) : longer r s = r ∨ longer r s = s := by
  unfold longer
  split
  · exact .inr rfl
  · exact .inl rfl

/-- The longest run that starts the first word, and that the second word holds
anywhere. The counts are of the characters that stand before these words. -/
def longestAtStart (left : Nat) (first : List Char) : (right : Nat) → List Char → SharedRun
  | right, [] => ⟨left, right, 0⟩
  | right, c :: second =>
    longer ⟨left, right, commonStart first (c :: second)⟩
      (longestAtStart left first (right + 1) second)

/-- A run at the start of the first word starts there and ends within it. -/
theorem longestAtStart_bounds (left : Nat) (first : List Char) (right : Nat)
    (second : List Char) :
    (longestAtStart left first right second).left = left ∧
      (longestAtStart left first right second).length ≤ first.length := by
  induction second generalizing right with
  | nil => simp [longestAtStart]
  | cons c second ih =>
    unfold longestAtStart
    rcases longer_eq ⟨left, right, commonStart first (c :: second)⟩
      (longestAtStart left first (right + 1) second) with e | e
    · rw [e]
      exact ⟨rfl, commonStart_le _ _⟩
    · rw [e]
      exact ih _

/-- The longest run that two words share; of several equally long ones the
first one in the first word, and then in the second. -/
def longest (left : Nat) : List Char → List Char → SharedRun
  | [], _ => ⟨left, 0, 0⟩
  | c :: first, second =>
    longer (longestAtStart left (c :: first) 0 second) (longest (left + 1) first second)

/-- A shared run ends within the first word. -/
theorem longest_bound (left : Nat) (first second : List Char) :
    (longest left first second).left + (longest left first second).length ≤
      left + first.length := by
  induction first generalizing left with
  | nil => simp [longest]
  | cons c first ih =>
    unfold longest
    rcases longer_eq (longestAtStart left (c :: first) 0 second)
      (longest (left + 1) first second) with e | e
    · rw [e]
      have bounds := longestAtStart_bounds left (c :: first) 0 second
      omega
    · rw [e]
      have bound := ih (left + 1)
      rw [List.length_cons]
      omega

end SharedRun

/-- **The number of characters that two words have in common.** -/
def sharedCount (first second : List Char) : Nat :=
  let run := SharedRun.longest 0 first second
  if run.length = 0 then 0
  else
    sharedCount (first.take run.left) (second.take run.right) + run.length +
      sharedCount (first.drop (run.left + run.length)) (second.drop (run.right + run.length))
termination_by first.length
decreasing_by
  all_goals
    have bound := SharedRun.longest_bound 0 first second
    have shared : ¬(SharedRun.longest 0 first second).length = 0 := by assumption
    simp only [List.length_take, List.length_drop]
    omega

/-- Whether two words resemble each other. -/
def resembles (first second : List Char) : Bool :=
  3 * (first.length + second.length) ≤ 10 * sharedCount first second

/-- Whether a word has at least as much in common with the first as with the
second of two words, in proportion to the length; of words on a par the later
one in the alphabet goes first. -/
def isCloser (word first second : String) : Bool :=
  let score (known : String) := sharedCount known.toList word.toList
  let a := score first * (second.length + word.length)
  let b := score second * (first.length + word.length)
  b < a || (a = b && second ≤ first)

/-- **The words that may have been meant by another**: the three known words
that it resembles most, in alphabetical order. -/
def likelyMeant (known : List String) (word : String) : List String :=
  let similar := known.filter fun other => resembles other.toList word.toList
  ((similar.mergeSort (isCloser word)).take 3).mergeSort fun a b => decide (a ≤ b)

end PascalFront.CommandLine
