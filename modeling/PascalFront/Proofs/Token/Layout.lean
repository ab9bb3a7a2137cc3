import Mathlib.Data.List.Infix
import PascalFront.Token.Layout
/-!
# What layout is

`Layout.skip` passes over blanks and comments one character at a time. What it
passes over is described here without it: a gap is a row of blanks and of
closed comments, where a comment runs from its opening to the first closing
behind the opening. At the end of a text one more comment may follow that is
never closed.

The main statement is `Layout.skip_outside`: what is passed over is a gap, or at
the end of the text a gap and an unclosed comment, and no layout starts where
the passing over stops.
-/

namespace PascalFront.Layout

open Text

/-- How a comment begins. -/
def opening : Layout → List Char
  | outside => []
  | braces => ['{']
  | stars => ['(', '*']

/-- How a comment ends. -/
def closing : Layout → List Char
  | outside => []
  | braces => ['}']
  | stars => ['*', ')']

/-- **A row of blanks and closed comments.** The body of a comment does not hold
what closes it, so that the comment ends at the first closing. -/
inductive Gap : List Char → Prop where
  /-- Nothing at all. -/
  | nil : Gap []
  /-- A blank. -/
  | blank {c : Char} {rest : List Char} (blank : isBlank c = true) (more : Gap rest) :
      Gap (c :: rest)
  /-- A comment of either form. -/
  | comment {form : Layout} {body rest : List Char} (isComment : form ≠ outside)
      (first : ¬ form.closing <:+: body) (more : Gap rest) :
      Gap (form.opening ++ body ++ form.closing ++ rest)

/-- A comment that is never closed. -/
def Unclosed (text : List Char) : Prop :=
  ∃ form body, form ≠ outside ∧ text = form.opening ++ body ∧ ¬ form.closing <:+: body

/-- **What may stand behind the last token**: a gap, and possibly an unclosed
comment. -/
def Trailing (text : List Char) : Prop :=
  ∃ closed rest, text = closed ++ rest ∧ Gap closed ∧ (rest = [] ∨ Unclosed rest)

/-- No layout starts here: the text is over, or its first character is neither
blank nor opens a comment. -/
def Clear : List Char → Prop
  | [] => True
  | c :: rest => isBlank c = false ∧ c ≠ '{' ∧ (c = '(' → rest.head? ≠ some '*')

theorem Gap.trailing {text : List Char} (gap : Gap text) : Trailing text :=
  ⟨text, [], by rw [List.append_nil], gap, .inl rfl⟩

/-- A blank before it leaves what may stand at the end. -/
theorem Trailing.blank {c : Char} {text : List Char} (blank : isBlank c = true)
    (trailing : Trailing text) : Trailing (c :: text) := by
  obtain ⟨closed, rest, rfl, gap, last⟩ := trailing
  exact ⟨c :: closed, rest, rfl, .blank blank gap, last⟩

/-- A comment before it leaves what may stand at the end. -/
theorem Trailing.comment {form : Layout} {body text : List Char} (isComment : form ≠ outside)
    (first : ¬ form.closing <:+: body) (trailing : Trailing text) :
    Trailing (form.opening ++ body ++ form.closing ++ text) := by
  obtain ⟨closed, rest, rfl, gap, last⟩ := trailing
  exact ⟨form.opening ++ body ++ form.closing ++ closed, rest, by simp only [List.append_assoc],
    .comment isComment first gap, last⟩

/-! ## Comments -/

/-- **A text is cut at the first place of a word**, unless it does not hold the
word. -/
theorem exists_first_infix {word : List Char} (notEmpty : word ≠ []) (text : List Char) :
    (∃ body rest, text = body ++ word ++ rest ∧ ¬ word <:+: body) ∨ ¬ word <:+: text := by
  induction text with
  | nil => exact .inr fun h => notEmpty (List.infix_nil.1 h)
  | cons c text ih =>
    by_cases here : word <+: c :: text
    · obtain ⟨rest, split⟩ := here
      exact .inl ⟨[], rest, split.symm, fun h => notEmpty (List.infix_nil.1 h)⟩
    · rcases ih with ⟨body, rest, rfl, first⟩ | absent
      · refine .inl ⟨c :: body, rest, rfl, fun h => ?_⟩
        rcases List.infix_cons_iff.1 h with front | inner
        · exact here (front.trans ⟨word ++ rest, by rw [List.cons_append, List.append_assoc]⟩)
        · exact first inner
      · refine .inr fun h => ?_
        rcases List.infix_cons_iff.1 h with front | inner
        · exact here front
        · exact absent inner

/-- A star is not followed by the parenthesis that would close the comment. -/
theorem not_closed_of_cons {c : Char} {body : List Char} (first : ¬ stars.closing <:+: c :: body)
    (text rest : List Char) (star : c = '*') (h : body ++ '*' :: text = ')' :: rest) : False := by
  subst star
  cases body with
  | nil => simp at h
  | cons d body =>
    obtain ⟨rfl, -⟩ := List.cons.inj h
    exact first ⟨[], body, rfl⟩

/-- **A comment is passed over up to its first closing.** -/
theorem skip_closed {form : Layout} (isComment : form ≠ outside) {body : List Char}
    (first : ¬ form.closing <:+: body) (p : Position) (rest : List Char) :
    form.skip p (body ++ form.closing ++ rest)
      = outside.skip (p.afterAll (body ++ form.closing)) rest := by
  induction body generalizing p with
  | nil => cases form <;> first | exact absurd rfl isComment | simp [closing, skip]
  | cons c body ih =>
    have inner := ih fun h => first (List.infix_cons_iff.2 (.inr h))
    cases form with
    | outside => exact absurd rfl isComment
    | braces =>
      have notBrace : c ≠ '}' := by
        rintro rfl
        exact first ⟨[], body, rfl⟩
      rw [List.cons_append, List.cons_append, skip.eq_5, if_neg notBrace, inner]
      rfl
    | stars =>
      rw [List.cons_append, List.cons_append, skip.eq_6, inner]
      · rfl
      · intro more star h
        rw [List.append_assoc] at h
        exact not_closed_of_cons first _ more star h

/-- An unclosed comment is passed over up to the end of the text. -/
theorem skip_unclosed {form : Layout} (isComment : form ≠ outside) {body : List Char}
    (first : ¬ form.closing <:+: body) (p : Position) :
    form.skip p body = ⟨[], p.afterAll body⟩ := by
  induction body generalizing p with
  | nil => rw [skip.eq_1, Position.afterAll_nil]
  | cons c body ih =>
    have inner := ih fun h => first (List.infix_cons_iff.2 (.inr h))
    cases form with
    | outside => exact absurd rfl isComment
    | braces =>
      have notBrace : c ≠ '}' := by
        rintro rfl
        exact first ⟨[], body, rfl⟩
      rw [skip.eq_5, if_neg notBrace, inner]
      rfl
    | stars =>
      rw [skip.eq_6, inner]
      · rfl
      · rintro rest rfl rfl
        exact first ⟨[], rest, rfl⟩

/-! ## Passing over layout -/

/-- A text without layout in front is left as it is. -/
theorem skip_of_clear {text : List Char} (clear : Clear text) (p : Position) :
    outside.skip p text = ⟨text, p⟩ := by
  cases text with
  | nil => exact skip.eq_1 ..
  | cons c rest =>
    obtain ⟨notBlank, notBrace, notStar⟩ := clear
    rw [skip.eq_4, if_neg (by simp [notBlank]), if_neg notBrace]
    rintro more rfl rfl
    exact notStar rfl rfl

/-- A blank is passed over. -/
theorem skip_blank {c : Char} (blank : isBlank c = true) (p : Position) (rest : List Char) :
    outside.skip p (c :: rest) = outside.skip (p.after c) rest := by
  rw [skip.eq_4, if_pos blank]
  rintro _ rfl _
  exact absurd blank (by decide)

/-- A comment is entered at its opening. -/
theorem skip_opening {form : Layout} (p : Position) (rest : List Char) :
    outside.skip p (form.opening ++ rest) = form.skip (p.afterAll form.opening) rest := by
  cases form with
  | outside => rfl
  | braces =>
    show outside.skip p ('{' :: rest) = _
    rw [skip.eq_4, if_neg (by decide), if_pos rfl]
    · rfl
    · rintro _ h _
      exact absurd h (by decide)
  | stars => exact skip.eq_2 ..

/-- A text starts with a comment, with a blank or with no layout. -/
theorem comment_or_clear (text : List Char) :
    (∃ form rest, form ≠ outside ∧ text = form.opening ++ rest) ∨
      (∃ c rest, text = c :: rest ∧ isBlank c = true) ∨ Clear text := by
  rcases text with - | ⟨c, rest⟩
  · exact .inr (.inr trivial)
  · by_cases blank : isBlank c = true
    · exact .inr (.inl ⟨c, rest, rfl, blank⟩)
    · by_cases brace : c = '{'
      · exact .inl ⟨braces, rest, by decide, by rw [brace]; rfl⟩
      · by_cases star : c = '(' ∧ rest.head? = some '*'
        · obtain ⟨rfl, next⟩ := star
          obtain ⟨more, rfl⟩ := List.head?_eq_some_iff.1 next
          exact .inl ⟨stars, more, by decide, rfl⟩
        · exact .inr (.inr ⟨by simpa using blank, brace, fun paren next => star ⟨paren, next⟩⟩)

theorem closing_ne_nil {form : Layout} (isComment : form ≠ outside) : form.closing ≠ [] := by
  cases form <;> first | exact absurd rfl isComment | exact List.cons_ne_nil _ _

/-- **Layout is passed over as a whole.** A gap is taken off the front of the
text, or all of it if what is left after a gap is an unclosed comment, and no
layout starts where the passing over stops. -/
theorem skip_outside (p : Position) (text : List Char) :
    ∃ skipped rest, text = skipped ++ rest ∧
      outside.skip p text = ⟨rest, p.afterAll skipped⟩ ∧ Clear rest ∧
      Trailing skipped ∧ (rest ≠ [] → Gap skipped) := by
  -- by the length of the text: each round takes a blank or a whole comment
  induction length : text.length using Nat.strong_induction_on generalizing p text with
  | _ _ ih =>
    subst length
    rcases comment_or_clear text with ⟨form, behind, isComment, rfl⟩ | ⟨c, behind, rfl, blank⟩ |
      clear
    · rcases exists_first_infix (closing_ne_nil isComment) behind with
        ⟨body, more, rfl, first⟩ | absent
      · have shorter : more.length < (form.opening ++ (body ++ form.closing ++ more)).length := by
          have := List.length_pos_iff.2 (closing_ne_nil isComment)
          simp only [List.length_append]
          omega
        obtain ⟨skipped, rest, rfl, stop, clear, trailing, gap⟩ := ih _ shorter
          ((p.afterAll form.opening).afterAll (body ++ form.closing)) more rfl
        refine ⟨form.opening ++ body ++ form.closing ++ skipped, rest, by simp, ?_, clear,
          trailing.comment isComment first, fun h => .comment isComment first (gap h)⟩
        rw [skip_opening, skip_closed isComment first, stop]
        simp
      · refine ⟨form.opening ++ behind, [], by rw [List.append_nil], ?_, trivial,
          ⟨[], _, rfl, .nil, .inr ⟨form, behind, isComment, rfl, absent⟩⟩,
          fun h => absurd rfl h⟩
        rw [skip_opening, skip_unclosed isComment absent, Position.afterAll_append]
    · obtain ⟨skipped, rest, rfl, stop, clear, trailing, gap⟩ :=
        ih _ (Nat.lt_succ_self _) (p.after c) behind rfl
      refine ⟨c :: skipped, rest, rfl, ?_, clear, trailing.blank blank,
        fun h => .blank blank (gap h)⟩
      rw [skip_blank blank, stop, Position.afterAll_cons]
    · exact ⟨[], text, rfl, skip_of_clear clear p, clear, Gap.nil.trailing, fun _ => .nil⟩

/-- No layout starts where passing over it stopped. -/
theorem clear_skip (p : Position) (text : List Char) : Clear (outside.skip p text).rest := by
  obtain ⟨_, _, _, stop, clear, _⟩ := skip_outside p text
  rwa [stop]

end PascalFront.Layout
