import PascalFront.Proofs.Token.Layout
import PascalFront.Proofs.Token.Lexeme
import PascalFront.Proofs.Token.Place
/-!
# A text is tiled by its tokens

When all tokens of a text have been read without a fault, nothing of the text is
lost and nothing is read twice. The tokens lie in the text one behind the other,
what is between them is layout, and under each token stands just what the token
is written as. Nor is anything cut short: a token has the kind that its text
denotes, and it could not be longer.

`Tiling` says so without any reading. One token and the layout before it are
tiled by one step of the reader (`Cursor.StandsAt.tile`), the end of the input by
the last (`Cursor.StandsAt.tile_last`), and the whole text by all of them. Only
the last token is the end of the input, since no text denotes it
(`Kind.Denotes.ne_endOfInput`).
-/

namespace PascalFront

/-- **A token lies on the piece of a text from `first` to `last`.** -/
structure Token.LiesOn (text : List Char) (first last : Nat) (t : Token) : Prop where
  /-- The piece is not empty. -/
  notEmpty : first < last
  /-- The piece is in the text. -/
  within : last ≤ text.length
  /-- The token says where it begins. -/
  start : t.start = some (.inText text first)
  /-- The token says where it ends. -/
  stop : t.stop = some (.inText text last)
  /-- The piece is the token as it is written. -/
  spelled : text.extract first last = Lexeme.spell t.kind t.value.toList
  /-- The token has the kind that its value denotes. -/
  denotes : t.kind.Denotes t.value.toList
  /-- The piece could not be longer. -/
  longest : t.kind.Longest t.value.toList (text.drop last)

/-- **A text is tiled by tokens** from a place on: each lies on a piece of the
text with only layout before it, and behind the last of them and what may stand
at the end there is the end of the input. -/
inductive Tiling (text : List Char) : Nat → List Token → Prop where
  /-- The end of the input. -/
  | last {place : Nat} (within : place ≤ text.length) (rest : Layout.Trailing (text.drop place)) :
      Tiling text place [.endAt (some (.inText text text.length))]
  /-- A token with a gap before it. -/
  | token {place first last : Nat} {t : Token} {more : List Token} (ordered : place ≤ first)
      (gap : Layout.Gap (text.extract place first)) (lies : t.LiesOn text first last)
      (behind : Tiling text last more) : Tiling text place (t :: more)

variable {text : List Char}

/-- The span of a token on a piece of a text is that piece. -/
theorem Token.LiesOn.span {first last : Nat} {t : Token} (h : t.LiesOn text first last) :
    t.span = ⟨.inText text first, .inText text last⟩ := by
  rw [Token.span, Token.startPosition, Token.stopPosition, h.start, h.stop]
  exact Position.between_inText text first last

/-- What was taken off the front is what stands there. -/
theorem extract_of_drop {place : Nat} {piece rest : List Char}
    (split : text.drop place = piece ++ rest) : text.extract place (place + piece.length) = piece := by
  rw [List.extract, split, Nat.add_sub_cancel_left, List.take_left]

namespace Cursor

variable {c after : Cursor} {t : Token} {place : Nat}

/-- The end of the input is met where only layout is left, and it stands there. -/
theorem next_isEnd (read : c.next = (.ok t, after)) (last : t.isEnd) :
    after = c.skipLayout ∧ after.rest = [] ∧ t = .endAt (some after.position) := by
  have clear : Layout.Clear c.skipLayout.rest := Layout.clear_skip ..
  unfold Cursor.next at read
  rcases split : c.skipLayout.rest with - | ⟨first, rest⟩
  · rw [take_of_nil split] at read
    obtain ⟨token, rfl⟩ := Prod.mk.inj read
    obtain rfl := Except.ok.inj token
    exact ⟨rfl, split, rfl⟩
  · cases found : Lexeme.read first rest with
    | ok l =>
      rw [take_of_lexeme split found] at read
      obtain ⟨token, -⟩ := Prod.mk.inj read
      obtain rfl := Except.ok.inj token
      rw [split] at clear
      exact absurd (of_decide_eq_true last) (Lexeme.read_spec found clear.2.2).1.ne_endOfInput
    | error cause =>
      rw [take_of_cause split found] at read
      exact absurd (Prod.mk.inj read).1 (by simp)

/-- Passing over layout, told apart by whether the text goes on behind it. -/
theorem StandsAt.gap (h : c.StandsAt text place) :
    (c.skipLayout.rest = [] ∧ Layout.Trailing (text.drop place)) ∨
    ∃ first, place ≤ first ∧ c.skipLayout.StandsAt text first ∧
      Layout.Gap (text.extract place first) ∧ c.skipLayout.rest ≠ [] ∧
      Layout.Clear c.skipLayout.rest := by
  obtain ⟨skipped, rest, split, skip, clear, trailing, gap⟩ := Layout.skip_outside c.position c.rest
  have stands := h.behind split
  have cursor : c.skipLayout = ⟨rest, c.position.afterAll skipped⟩ := skip
  rw [h.2.1] at split
  rw [cursor]
  by_cases exhausted : rest = []
  · rw [exhausted, List.append_nil] at split
    exact .inl ⟨exhausted, by rwa [split]⟩
  · refine .inr ⟨_, Nat.le_add_right .., stands, ?_, exhausted, clear⟩
    rw [extract_of_drop split]
    exact gap exhausted

/-- **One token** is read from a piece of the text behind a gap, and the reading
goes on behind that piece. -/
theorem StandsAt.tile (h : c.StandsAt text place) (read : c.next = (.ok t, after))
    (notLast : ¬ t.isEnd) :
    ∃ first last, place ≤ first ∧ Layout.Gap (text.extract place first) ∧
      t.LiesOn text first last ∧ after.StandsAt text last := by
  unfold Cursor.next at read
  rcases h.gap with ⟨exhausted, -⟩ | ⟨first, ordered, stands, gap, -, clear⟩
  · rw [take_of_nil exhausted] at read
    obtain rfl := Except.ok.inj (Prod.mk.inj read).1
    exact absurd rfl notLast
  · rcases split : c.skipLayout.rest with - | ⟨char, rest⟩
    · rw [take_of_nil split] at read
      obtain rfl := Except.ok.inj (Prod.mk.inj read).1
      exact absurd rfl notLast
    · cases found : Lexeme.read char rest with
      | error cause =>
        rw [take_of_cause split found] at read
        exact absurd (Prod.mk.inj read).1 (by simp)
      | ok l =>
        rw [take_of_lexeme split found] at read
        obtain ⟨token, rfl⟩ := Prod.mk.inj read
        obtain rfl := Except.ok.inj token
        obtain ⟨spelling, notEmpty⟩ := Lexeme.spelling_read found
        have moved := stands.behind (split.trans spelling)
        have here : text.drop first = l.spelling ++ l.rest := by rw [← stands.2.1, split, spelling]
        rw [split] at clear
        have spec := Lexeme.read_spec found clear.2.2
        refine ⟨first, first + l.spelling.length, ordered, gap, ?_, moved⟩
        exact
          { notEmpty := Nat.lt_add_of_pos_right (List.length_pos_iff.2 notEmpty)
            within := moved.1
            start := congrArg some stands.2.2
            stop := congrArg some moved.2.2
            spelled := by
              rw [extract_of_drop here, tokenOf, String.toList_ofList]
              rfl
            denotes := by
              rw [tokenOf, String.toList_ofList]
              exact spec.1
            longest := by
              rw [tokenOf, String.toList_ofList, ← moved.2.1]
              exact spec.2 }

/-- **The end of the input** is read behind what may stand at the end of a text. -/
theorem StandsAt.tile_last (h : c.StandsAt text place) (read : c.next = (.ok t, after))
    (last : t.isEnd) :
    Layout.Trailing (text.drop place) ∧ t = .endAt (some (.inText text text.length)) := by
  obtain ⟨rfl, exhausted, rfl⟩ := next_isEnd read last
  refine ⟨?_, ?_⟩
  · rcases h.gap with ⟨-, trailing⟩ | ⟨-, -, -, -, more, -⟩
    · exact trailing
    · exact absurd exhausted more
  · obtain ⟨further, -, stands⟩ := h.skipLayout
    rw [stands.position_of_nil exhausted]

/-- **Every token lies on a piece of the text**, also before a fault. -/
theorem StandsAt.exists_liesOn (h : c.StandsAt text place) {t : Token}
    (listed : t ∈ c.readAll.tokens) (notLast : t.isEnd = false) :
    ∃ first last, place ≤ first ∧ t.LiesOn text first last := by
  induction c using readAll.induct generalizing place with
  | case1 c fault after read =>
    rw [readAll_of_error read] at listed
    exact absurd listed List.not_mem_nil
  | case2 c t' after read last =>
    rw [readAll_of_end read last] at listed
    obtain rfl := List.mem_singleton.1 listed
    exact absurd last (Bool.eq_false_iff.1 notLast)
  | case3 c t' after read more _ ih =>
    rw [readAll_of_more read more] at listed
    obtain ⟨first, last, ordered, -, lies, stands⟩ := h.tile read more
    rcases List.mem_cons.1 listed with rfl | listed
    · exact ⟨first, last, ordered, lies⟩
    · obtain ⟨first', last', ordered', lies'⟩ := ih stands listed
      have := lies.notEmpty
      exact ⟨first', last', by omega, lies'⟩

/-- **The end of the input stands at the end of the text**, if it is among the tokens. -/
theorem StandsAt.eq_endAt (h : c.StandsAt text place) {t : Token} (listed : t ∈ c.readAll.tokens)
    (last : t.isEnd) : t = .endAt (some (.inText text text.length)) := by
  induction c using readAll.induct generalizing place with
  | case1 c fault after read =>
    rw [readAll_of_error read] at listed
    exact absurd listed List.not_mem_nil
  | case2 c t' after read last =>
    rw [readAll_of_end read last] at listed
    obtain rfl := List.mem_singleton.1 listed
    exact (h.tile_last read last).2
  | case3 c t' after read more _ ih =>
    rw [readAll_of_more read more] at listed
    obtain ⟨_, _, -, -, -, stands⟩ := h.tile read more
    rcases List.mem_cons.1 listed with rfl | listed
    · exact absurd last more
    · exact ih stands listed

/-- A reader that meets no fault tiles what is left of the text. -/
theorem StandsAt.tiling (h : c.StandsAt text place) (noFault : c.readAll.fault = none) :
    Tiling text place c.readAll.tokens := by
  induction c using readAll.induct generalizing place with
  | case1 c fault after read =>
    rw [readAll_of_error read] at noFault
    exact absurd noFault (by simp)
  | case2 c t after read last =>
    rw [readAll_of_end read last]
    obtain ⟨trailing, rfl⟩ := h.tile_last read last
    exact .last h.1 trailing
  | case3 c t after read notLast _ ih =>
    rw [readAll_of_more read notLast] at noFault ⊢
    obtain ⟨first, last, ordered, gap, lies, stands⟩ := h.tile read notLast
    exact .token ordered gap lies (ih stands noFault)

/-- **Reading is lossless and maximal.** If all tokens of a text are read without
a fault they tile the text. -/
theorem tiling_readAll (text : String) (noFault : (ofText text).readAll.fault = none) :
    Tiling text.toList 0 (ofText text).readAll.tokens :=
  (standsAt_ofText text).tiling noFault

/-- Tokens and comments that are glued together: `(*)` opens a comment, which the
next `*)` closes, and a point without a digit behind it is a token of its own. -/
theorem tiling_readAll_glued :
    (ofText "x<>''''(*)*)1.").readAll.fault = none ∧
      Tiling "x<>''''(*)*)1.".toList 0 (ofText "x<>''''(*)*)1.").readAll.tokens :=
  ⟨by decide +kernel, tiling_readAll _ (by decide +kernel)⟩

end Cursor

end PascalFront
