import PascalFront.Cursor
import PascalFront.Text.Blank
/-!
# Layout

Between two tokens there may be blanks and comments. A comment runs from a
left brace to the next right brace, or from `(*` to the next `*)` behind these
two characters; comments do not nest, and one that is never closed runs to the
end of the text.
-/

namespace PascalFront

/-- What the text at a place belongs to. -/
inductive Layout where
  /-- No comment is open. -/
  | outside
  /-- A comment between braces is open. -/
  | braces
  /-- A comment between `(*` and `*)` is open. -/
  | stars
  deriving DecidableEq, Repr

namespace Layout

/-- Passes over blanks and comments. -/
def skip : Layout → Position → List Char → Cursor
  | _, p, [] => ⟨[], p⟩
  | outside, p, '(' :: '*' :: rest => skip stars ((p.after '(').after '*') rest
  | stars, p, '*' :: ')' :: rest => skip outside ((p.after '*').after ')') rest
  | outside, p, c :: rest =>
    if Text.isBlank c then skip outside (p.after c) rest
    else if c = '{' then skip braces (p.after c) rest
    else ⟨c :: rest, p⟩
  | braces, p, c :: rest => skip (if c = '}' then outside else braces) (p.after c) rest
  | stars, p, c :: rest => skip stars (p.after c) rest

/-- Passing over layout takes a piece off the front of the text, and the
position moves behind that piece. -/
theorem exists_skip (layout : Layout) (p : Position) (text : List Char) :
    ∃ skipped, text = skipped ++ (skip layout p text).rest ∧
      (skip layout p text).position = p.afterAll skipped := by
  fun_induction skip layout p text with
  | case1 => exact ⟨[], by simp⟩
  | case2 p rest ih =>
    obtain ⟨skipped, text, position⟩ := ih
    exact ⟨'(' :: '*' :: skipped, by rw [List.cons_append, List.cons_append, ← text], position⟩
  | case3 p rest ih =>
    obtain ⟨skipped, text, position⟩ := ih
    exact ⟨'*' :: ')' :: skipped, by rw [List.cons_append, List.cons_append, ← text], position⟩
  | case4 p c rest _ _ ih =>
    obtain ⟨skipped, text, position⟩ := ih
    exact ⟨c :: skipped, by rw [List.cons_append, ← text], position⟩
  | case5 p rest _ _ ih =>
    obtain ⟨skipped, text, position⟩ := ih
    exact ⟨'{' :: skipped, by rw [List.cons_append, ← text], position⟩
  | case6 => exact ⟨[], by simp⟩
  | case7 p c rest ih =>
    obtain ⟨skipped, text, position⟩ := ih
    exact ⟨c :: skipped, by rw [List.cons_append, ← text], position⟩
  | case8 p c rest _ ih =>
    obtain ⟨skipped, text, position⟩ := ih
    exact ⟨c :: skipped, by rw [List.cons_append, ← text], position⟩

/-- Nothing is added to the text by passing over layout. -/
theorem length_skip_le (layout : Layout) (p : Position) (text : List Char) :
    (skip layout p text).rest.length ≤ text.length := by
  obtain ⟨skipped, split, _⟩ := exists_skip layout p text
  have := congrArg List.length split
  rw [List.length_append] at this
  omega

end Layout

end PascalFront
