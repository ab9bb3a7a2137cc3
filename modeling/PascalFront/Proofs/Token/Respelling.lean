import Mathlib.Data.List.Forall2
import PascalFront.Proofs.Token.Spelling
/-!
# Texts that are read alike

A text may be written otherwise without the reader noticing: letters in either case, and
line ends as one or two characters. A respelling says which characters may stand for which,
whether `\r\n` may become `\n`, and how positions are carried over.

This module says what a respelled text is, and that layout is passed over alike in both. The
second reader takes one step with the first, except at a `\r` that is dropped, where it stays:
that character leaves the first reader in a state in which the `\n` behind it has the same
effect. Tokens follow in `PascalFront.Proofs.Token.Respelled`.
-/

namespace PascalFront

open Text Lexeme

/-- **Two characters are read alike**: they are the same, they end a line, or they are a
letter of ASCII in either case. -/
inductive ReadAlike : Char → Char → Prop where
  | same (c : Char) : ReadAlike c c
  | lineEnd : ReadAlike '\r' '\n'
  | letter {c c' : Char} (first : c.isAlpha = true) (second : c'.isAlpha = true)
      (lower : c'.toLower = c.toLower) : ReadAlike c c'

/-- A character that is not read like another one: neither blank nor a letter of ASCII. -/
def Plain (c : Char) : Prop := isBlank c = false ∧ c.isAlpha = false
deriving Decidable

/-- A letter of ASCII is a letter, and neither blank nor a digit. -/
theorem isLetter_of_isAlpha {c : Char} (alpha : c.isAlpha = true) :
    isLetter c = true ∧ isBlank c = false ∧ isDigit c = false := by
  have all : ∀ n < 128, (Char.ofNat n).isAlpha = true → isLetter (Char.ofNat n) = true ∧
      isBlank (Char.ofNat n) = false ∧ isDigit (Char.ofNat n) = false := by decide +kernel
  have ascii : c.toNat < 128 := by
    rcases Bool.or_eq_true_iff.1 alpha with upper | lower
    · have last : c.toNat ≤ 90 := (of_decide_eq_true upper).2
      omega
    · have last : c.toNat ≤ 122 := of_decide_eq_true (Bool.and_eq_true_iff.1 lower).2
      omega
  have := all c.toNat ascii
  rw [Char.ofNat_toNat] at this
  exact this alpha

namespace ReadAlike

variable {c c' d : Char}

theorem isBlank_eq (h : ReadAlike c c') : isBlank c' = isBlank c := by
  cases h with
  | same => rfl
  | lineEnd => rfl
  | letter first second _ => rw [(isLetter_of_isAlpha first).2.1, (isLetter_of_isAlpha second).2.1]

theorem isLetter_eq (h : ReadAlike c c') : isLetter c' = isLetter c := by
  cases h with
  | same => rfl
  | lineEnd => decide
  | letter first second _ => rw [(isLetter_of_isAlpha first).1, (isLetter_of_isAlpha second).1]

theorem isDigit_eq (h : ReadAlike c c') : isDigit c' = isDigit c := by
  cases h with
  | same => rfl
  | lineEnd => rfl
  | letter first second _ => rw [(isLetter_of_isAlpha first).2.2, (isLetter_of_isAlpha second).2.2]

/-- **A plain character is only read like itself.** -/
theorem eq_iff (h : ReadAlike c c') (plain : Plain d) : c' = d ↔ c = d := by
  cases h with
  | same => rfl
  | lineEnd =>
    constructor <;> rintro rfl
    · exact absurd plain.1 (by decide)
    · exact absurd plain.1 (by decide)
  | letter first second _ =>
    constructor <;> rintro rfl
    · exact absurd second (by simp [plain.2])
    · exact absurd first (by simp [plain.2])

theorem startsWord_eq (h : ReadAlike c c') : startsWord c' = startsWord c := by
  rw [startsWord, startsWord, h.isLetter_eq]
  exact congrArg _ (decide_eq_decide.2 (h.eq_iff (by decide)))

theorem continuesWord_eq (h : ReadAlike c c') : continuesWord c' = continuesWord c := by
  rw [continuesWord, continuesWord, h.isLetter_eq, h.isDigit_eq]
  exact congrArg _ (decide_eq_decide.2 (h.eq_iff (by decide)))

/-- A newline is only read like itself. -/
theorem eq_newline (h : ReadAlike '\n' c') : c' = '\n' := by
  generalize first : '\n' = c at h
  cases h with
  | same => rfl
  | lineEnd => exact absurd first (by decide)
  | letter alpha => exact absurd alpha (by rw [← first]; decide)

/-- Letters that are read alike are the same in lower case. -/
theorem toLower_eq (h : ReadAlike c c') (noReturn : c ≠ '\r') : c'.toLower = c.toLower := by
  cases h with
  | same => rfl
  | lineEnd => exact absurd rfl noReturn
  | letter _ _ lower => exact lower

/-- What is neither blank nor starts a word is only read like itself. -/
theorem eq_of_not_startsWord (h : ReadAlike c c') (notBlank : isBlank c = false)
    (notWord : startsWord c = false) : c' = c := by
  cases h with
  | same => rfl
  | lineEnd => exact absurd notBlank (by decide)
  | letter alpha _ _ =>
    rw [startsWord, (isLetter_of_isAlpha alpha).1, Bool.true_or] at notWord
    exact absurd notWord (by decide)

end ReadAlike

/-- **A way to write texts otherwise.** -/
structure Respelling where
  /-- Which characters may stand for which. -/
  char : Char → Char → Prop
  /-- Whether `\r\n` may become `\n`. -/
  joins : Prop
  /-- Which positions correspond. -/
  places : Position → Position → Prop
  /-- Characters are replaced by such that are read alike. -/
  alike : ∀ {c c' : Char}, char c c' → ReadAlike c c'
  /-- The starts of the texts correspond. -/
  start : places .start .start
  /-- Positions go on corresponding behind characters that correspond. -/
  after : ∀ {c c' : Char} {p p' : Position}, char c c' → places p p' → places (p.after c) (p'.after c')
  /-- They do so behind a dropped character. -/
  joined : ∀ {p p' : Position}, joins → places p p' → places (p.after '\r') p'

namespace Respelling

variable (f : Respelling)

/-- **One text is another one respelled.** -/
inductive Texts : List Char → List Char → Prop where
  | nil : Texts [] []
  | cons {c c' : Char} {rest rest' : List Char} (first : f.char c c') (others : Texts rest rest') :
      Texts (c :: rest) (c' :: rest')
  | join {rest text' : List Char} (joins : f.joins) (others : Texts ('\n' :: rest) text') :
      Texts ('\r' :: '\n' :: rest) text'

variable {f} {text text' rest : List Char} {c : Char} {p p' : Position}

namespace Texts

/-- How a text that begins with a character is respelled. -/
theorem of_cons (h : f.Texts (c :: rest) text') :
    (∃ c' rest', text' = c' :: rest' ∧ f.char c c' ∧ f.Texts rest rest') ∨
      ∃ more, c = '\r' ∧ rest = '\n' :: more ∧ f.joins ∧ f.Texts ('\n' :: more) text' := by
  generalize whole : c :: rest = text at h
  cases h with
  | nil => exact absurd whole (by simp)
  | cons first others =>
    obtain ⟨rfl, rfl⟩ := List.cons.inj whole
    exact .inl ⟨_, _, rfl, first, others⟩
  | join joins others =>
    obtain ⟨rfl, rfl⟩ := List.cons.inj whole
    exact .inr ⟨_, rfl, rfl, joins, others⟩

/-- A character other than `\r` is replaced by another one. -/
theorem of_cons_of_ne (h : f.Texts (c :: rest) text') (noReturn : c ≠ '\r') :
    ∃ c' rest', text' = c' :: rest' ∧ f.char c c' ∧ f.Texts rest rest' :=
  h.of_cons.resolve_right fun ⟨_, isReturn, _⟩ => noReturn isReturn

/-- A plain character stays. -/
theorem of_cons_of_plain (h : f.Texts (c :: rest) text') (plain : Plain c) :
    ∃ rest', text' = c :: rest' ∧ f.char c c ∧ f.Texts rest rest' := by
  have noReturn : c ≠ '\r' := by
    rintro rfl
    exact absurd plain.1 (by decide)
  obtain ⟨c', rest', rfl, first, others⟩ := h.of_cons_of_ne noReturn
  obtain rfl := ((f.alike first).eq_iff plain).2 rfl
  exact ⟨rest', rfl, first, others⟩

/-- Only nothing is respelled as nothing. -/
theorem eq_nil_iff (h : f.Texts text text') : text' = [] ↔ text = [] := by
  induction h with
  | nil => rfl
  | cons => simp
  | join _ _ ih => simp [ih]

/-- **The first characters are read alike**, also where one is dropped. -/
theorem head? (h : f.Texts text text') : Option.Rel ReadAlike text.head? text'.head? := by
  induction h with
  | nil => exact .none
  | cons first _ => exact .some (f.alike first)
  | @join rest text' _ others ih =>
    obtain ⟨c', rest', rfl, first, -⟩ := others.of_cons_of_ne (by decide)
    obtain rfl := (f.alike first).eq_newline
    exact .some .lineEnd

/-- A plain character stands in front of both or neither. -/
theorem head?_eq_iff (h : f.Texts text text') {d : Char} (plain : Plain d) :
    text'.head? = some d ↔ text.head? = some d := by
  have heads := h.head?
  generalize text.head? = first at heads
  generalize text'.head? = second at heads
  cases heads with
  | none => rfl
  | some alike => rw [Option.some.injEq, Option.some.injEq, alike.eq_iff plain]

/-- Respelled texts one behind the other. -/
theorem append {more more' : List Char} (h : f.Texts text text') (behind : f.Texts more more') :
    f.Texts (text ++ more) (text' ++ more') := by
  induction h with
  | nil => exact behind
  | cons first _ ih => exact .cons first ih
  | join joins _ ih => exact .join joins ih

/-- Positions go on corresponding behind respelled texts. -/
theorem afterAll (h : f.Texts text text') (places : f.places p p') :
    f.places (p.afterAll text) (p'.afterAll text') := by
  induction h generalizing p p' with
  | nil => exact places
  | cons first _ ih => exact ih (f.after first places)
  | join joins _ ih => exact ih (f.joined joins places)

/-- Without `\r` a text and its respelling are the same in lower case. -/
theorem map_toLower (h : f.Texts text text') (noReturn : '\r' ∉ text) :
    text'.map Char.toLower = text.map Char.toLower := by
  induction h with
  | nil => rfl
  | cons first _ ih =>
    obtain ⟨other, others⟩ := List.ne_and_not_mem_of_not_mem_cons noReturn
    rw [List.map_cons, List.map_cons, (f.alike first).toLower_eq (Ne.symm other), ih others]
  | join => exact absurd List.mem_cons_self noReturn

/-- **A run of characters** that is told by a property which characters read alike share,
and which `\r` does not have. -/
theorem takeWhile {q : Char → Bool} (h : f.Texts text text')
    (same : ∀ {c c' : Char}, ReadAlike c c' → q c' = q c) (noReturn : q '\r' = false) :
    f.Texts (text.takeWhile q) (text'.takeWhile q) ∧
      f.Texts (text.dropWhile q) (text'.dropWhile q) := by
  induction h with
  | nil => exact ⟨.nil, .nil⟩
  | @cons c c' _ _ first others ih =>
    rw [List.takeWhile_cons, List.takeWhile_cons, List.dropWhile_cons, List.dropWhile_cons,
      same (f.alike first)]
    split
    · exact ⟨.cons first ih.1, ih.2⟩
    · exact ⟨.nil, .cons first others⟩
  | @join rest text' joins _ ih =>
    have noNewline : q '\n' = false := (same .lineEnd).trans noReturn
    rw [List.takeWhile_cons, List.dropWhile_cons, noNewline] at ih
    rw [List.takeWhile_cons, List.dropWhile_cons, noReturn]
    exact ⟨ih.1, .join joins ih.2⟩

end Texts

/-! ## Layout -/

/-- **Two readers stand at respelled texts**, at positions that correspond. -/
structure Cursors (f : Respelling) (x x' : Cursor) : Prop where
  /-- The text still to be read. -/
  rest : f.Texts x.rest x'.rest
  /-- Where it starts. -/
  places : f.places x.position x'.position

/-- No layout starts at a respelled text either. -/
theorem Texts.clear (h : f.Texts text text') (clear : Layout.Clear text) : Layout.Clear text' := by
  cases h with
  | nil => exact clear
  | cons first others =>
    have alike := f.alike first
    refine ⟨alike.isBlank_eq.trans clear.1, ?_, fun paren => ?_⟩
    · exact fun brace => clear.2.1 ((alike.eq_iff (by decide)).1 brace)
    · exact fun star => clear.2.2 ((alike.eq_iff (by decide)).1 paren)
        ((others.head?_eq_iff (by decide)).1 star)
  | join => exact absurd clear.1 (by decide)

/-- In a comment between `(*` and `*)` every other character is passed over. -/
theorem skip_stars (p : Position) (other : c = '*' → rest.head? ≠ some ')') :
    Layout.stars.skip p (c :: rest) = Layout.stars.skip (p.after c) rest := by
  rw [Layout.skip.eq_6]
  rintro more rfl rfl
  exact other rfl rfl

/-- **Layout is passed over alike.** -/
theorem Texts.skip (h : f.Texts text text') (layout : Layout) (places : f.places p p') :
    f.Cursors (layout.skip p text) (layout.skip p' text') := by
  fun_induction Layout.skip layout p text generalizing text' p' with
  | case1 layout =>
    cases h
    rw [Layout.skip.eq_1]
    exact ⟨.nil, places⟩
  | case2 p rest ih =>
    obtain ⟨_, rfl, first, others⟩ := h.of_cons_of_plain (by decide)
    obtain ⟨_, rfl, second, others⟩ := others.of_cons_of_plain (by decide)
    exact ih others (f.after second (f.after first places))
  | case3 p rest ih =>
    obtain ⟨_, rfl, first, others⟩ := h.of_cons_of_plain (by decide)
    obtain ⟨_, rfl, second, others⟩ := others.of_cons_of_plain (by decide)
    exact ih others (f.after second (f.after first places))
  | case4 p c rest _ blank ih =>
    rcases h.of_cons with ⟨c', rest', rfl, first, others⟩ | ⟨more, rfl, rfl, joins, others⟩
    · rw [Layout.skip_blank ((f.alike first).isBlank_eq.trans blank)]
      exact ih others (f.after first places)
    · exact ih others (f.joined joins places)
  | case5 p rest _ _ ih =>
    obtain ⟨rest', rfl, first, others⟩ := h.of_cons_of_plain (by decide)
    exact ih others (f.after first places)
  | case6 p c rest noStars notBlank noBrace =>
    have clear : Layout.Clear (c :: rest) := by
      refine ⟨Bool.eq_false_iff.2 notBlank, noBrace, fun paren star => ?_⟩
      obtain ⟨more, rfl⟩ := List.head?_eq_some_iff.1 star
      exact noStars more paren rfl
    rw [Layout.skip_of_clear (h.clear clear)]
    exact ⟨h, places⟩
  | case7 p c rest ih =>
    rcases h.of_cons with ⟨c', rest', rfl, first, others⟩ | ⟨more, rfl, rfl, joins, others⟩
    · rw [Layout.skip.eq_5]
      simp only [(f.alike first).eq_iff (d := '}') (by decide)]
      exact ih others (f.after first places)
    · exact ih others (f.joined joins places)
  | case8 p c rest noClose ih =>
    rcases h.of_cons with ⟨c', rest', rfl, first, others⟩ | ⟨more, rfl, rfl, joins, others⟩
    · rw [skip_stars]
      · exact ih others (f.after first places)
      · intro star paren
        obtain ⟨more, rfl⟩ := List.head?_eq_some_iff.1 ((others.head?_eq_iff (by decide)).1 paren)
        exact noClose more (((f.alike first).eq_iff (by decide)).1 star) rfl
    · exact ih others (f.joined joins places)

end Respelling

end PascalFront
