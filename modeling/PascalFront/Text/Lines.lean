/-!
# Lines

Two notions of a line meet here. Files are read with their line ends made
uniform: each of `\r\n` and `\r` becomes the one character `\n`. For display a
text is cut into lines at every kind of line break, and a break at the very
end does not open another line.
-/

namespace PascalFront.Text

/-- The characters that end a line of a displayed text. -/
def isLineBreak (c : Char) : Bool :=
  c ∈ ['\n', '\r', '\x0b', '\x0c', '\x1c', '\x1d', '\x1e', '\x85', '\u2028', '\u2029']

/-- The lines of a displayed text, without their ends. A `\r` and the `\n`
that follows it are one line end. -/
def lines : List Char → List (List Char)
  | [] => []
  | '\r' :: '\n' :: rest => [] :: lines rest
  | c :: rest =>
    if isLineBreak c then [] :: lines rest
    else match lines rest with
      | [] => [[c]]
      | line :: others => (c :: line) :: others

/-- The text with `\n` as its only line end. -/
def uniformLineEnds : List Char → List Char
  | [] => []
  | '\r' :: '\n' :: rest => '\n' :: uniformLineEnds rest
  | c :: rest => (if c = '\r' then '\n' else c) :: uniformLineEnds rest

/-- No carriage return is left in a text whose line ends are uniform. -/
theorem return_notMem_uniformLineEnds (text : List Char) : '\r' ∉ uniformLineEnds text := by
  fun_induction uniformLineEnds text with
  | case1 => simp
  | case2 rest ih => simpa using ih
  | case3 c rest _ ih =>
    have head : '\r' ≠ (if c = '\r' then '\n' else c) := by
      split
      · decide
      · rename_i other; exact fun h => other h.symm
    simp [head, ih]

/-- No line holds a line break. -/
theorem isLineBreak_of_mem_lines {text line : List Char} (listed : line ∈ lines text) :
    ∀ c ∈ line, isLineBreak c = false := by
  fun_induction lines text generalizing line with
  | case1 => simp at listed
  | case2 rest ih =>
    rcases List.mem_cons.1 listed with rfl | later
    · simp
    · exact ih later
  | case3 c rest _ _ ih =>
    rcases List.mem_cons.1 listed with rfl | later
    · simp
    · exact ih later
  | case4 c rest _ notBreak none ih =>
    obtain rfl := List.mem_singleton.1 listed
    simpa using notBreak
  | case5 c rest _ notBreak first others split ih =>
    rcases List.mem_cons.1 listed with rfl | later
    · intro d member
      rcases List.mem_cons.1 member with rfl | member
      · simpa using notBreak
      · exact ih (by rw [split]; exact List.mem_cons_self) d member
    · exact ih (by rw [split]; exact List.mem_cons_of_mem _ later)

end PascalFront.Text
