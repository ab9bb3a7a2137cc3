/-!
# Terminal escapes

A terminal takes a control sequence as an instruction, for instance to change
the colour. It opens with `ESC [`; parameters follow, which are digits and the
signs `: ; < = > ?`, then intermediate characters, which are the blank and the
signs up to `/`, and then one final character from `@` to `~`. Where the output
goes to a file or a pipe these instructions are removed from it.
-/

namespace PascalFront.Text

/-- The character that opens an instruction to the terminal. -/
def escapeMark : Char := '\x1b'

/-- The characters of the parameters of an instruction. -/
def isEscapeParameter (c : Char) : Bool := '0' ≤ c && c ≤ '?'

/-- The characters that may stand between the parameters and the final
character. -/
def isEscapeIntermediate (c : Char) : Bool := ' ' ≤ c && c ≤ '/'

/-- The characters that end an instruction. -/
def isEscapeFinal (c : Char) : Bool := '@' ≤ c && c ≤ '~'

/-- What follows the final character of an instruction whose opening has been
read; `none` where no instruction is complete. -/
def afterEscape? (text : List Char) : Option (List Char) :=
  match (text.dropWhile isEscapeParameter).dropWhile isEscapeIntermediate with
  | [] => none
  | c :: rest => if isEscapeFinal c then some rest else none

/-- An instruction is not empty. -/
theorem length_lt_of_afterEscape? {text rest : List Char} (h : afterEscape? text = some rest) :
    rest.length < text.length := by
  have parameters := (List.dropWhile_suffix (l := text) isEscapeParameter).length_le
  have intermediates :=
    (List.dropWhile_suffix (l := text.dropWhile isEscapeParameter) isEscapeIntermediate).length_le
  unfold afterEscape? at h
  split at h
  · simp at h
  · next c others e =>
    split at h
    · obtain rfl := Option.some.inj h
      rw [e, List.length_cons] at intermediates
      omega
    · simp at h

/-- The text without the terminal's instructions. -/
def stripEscapes : List Char → List Char
  | [] => []
  | '\x1b' :: '[' :: text =>
    match found : afterEscape? text with
    | some rest =>
      have : rest.length < text.length := length_lt_of_afterEscape? found
      stripEscapes rest
    | none => escapeMark :: '[' :: stripEscapes text
  | c :: text => c :: stripEscapes text
termination_by text => text.length
decreasing_by all_goals (simp_wf; try omega)

/-- A text without the opening character holds no instruction. -/
theorem stripEscapes_of_notMem {text : List Char} (h : escapeMark ∉ text) :
    stripEscapes text = text := by
  induction text with
  | nil => simp [stripEscapes]
  | cons c text ih =>
    have here : c ≠ '\x1b' := fun e => h (by simp [escapeMark, e])
    rw [stripEscapes, ih fun member => h (List.mem_cons_of_mem _ member)]
    intro rest e
    simp [here] at e

end PascalFront.Text
