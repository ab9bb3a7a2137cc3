import PascalFront.Proofs.Token.Spelling
import PascalFront.Proofs.Token.Tiling
/-!
# Stretches of a text

A stretch of a text from the start of a token to the end of a later one keeps its
tokens when it is cut out and put into another text, provided that what comes
behind it there breaks off every lexeme (`Stretch.laidOut`). For whether a lexeme
could be longer is seen from the next two characters at most; where these belong
to the stretch they stay, and where they do not they are exchanged for some that
break it off (`Kind.Longest.exchange`).
-/

namespace PascalFront

open Text Lexeme

/-! ## Pieces of a text -/

/-- The piece of a text between two places is made of those up to and from a place
between. -/
theorem extract_append (text : List Char) {first middle last : Nat} (before : first ≤ middle)
    (behind : middle ≤ last) :
    text.extract first middle ++ text.extract middle last = text.extract first last := by
  have whole : last - first = (middle - first) + (last - middle) := by omega
  have again : first + (middle - first) = middle := by omega
  rw [List.extract, List.extract, List.extract, whole, List.take_add, List.drop_drop, again]

/-- What a text is from a place on is the piece up to another place and what it is from
there on. -/
theorem extract_append_drop (text : List Char) {first last : Nat} (ordered : first ≤ last) :
    text.extract first last ++ text.drop last = text.drop first := by
  have whole := List.take_append_drop (last - first) (text.drop first)
  rwa [List.drop_drop, Nat.add_sub_cancel' ordered] at whole

/-- **The position behind a piece of a text** is that of the place where the piece ends. -/
theorem Position.afterAll_extract (text : List Char) {first last : Nat} (ordered : first ≤ last)
    (within : last ≤ text.length) :
    (inText text first).afterAll (text.extract first last) = inText text last := by
  have length : (text.extract first last).length = last - first := by
    simp only [List.extract, List.length_take, List.length_drop]
    omega
  rw [← inText_add (extract_append_drop text ordered).symm, length, Nat.add_sub_cancel' ordered]

/-! ## Exchanging what comes behind -/

/-- No character that breaks lexemes off is a digit. -/
theorem Breaks.isDigit {c : Char} (breaks : Breaks c) : Text.isDigit c = false := by
  have notWord := breaks.1
  simp only [continuesWord, Bool.or_eq_false_iff] at notWord
  exact notWord.1.2

/-- **A lexeme that could not be longer** could not be longer either if what comes
behind it from some place on is exchanged for something that breaks lexemes off. -/
theorem Kind.Longest.exchange {kind : Kind} {value piece rest other : List Char}
    (h : kind.Longest value (piece ++ rest)) (breaks : ∀ c ∈ other.head?, Breaks c) :
    kind.Longest value (piece ++ other) := by
  cases piece with
  | nil => exact kind.longest_of_breaks value breaks
  | cons c piece =>
    cases kind
    case number =>
      refine ⟨h.1, fun noPoint d more split => ?_⟩
      cases piece with
      | nil =>
        obtain ⟨-, rfl⟩ := List.cons.inj split
        exact (breaks d rfl).isDigit
      | cons e piece =>
        obtain ⟨rfl, same⟩ := List.cons.inj split
        obtain ⟨rfl, -⟩ := List.cons.inj same
        exact h.2 noPoint _ _ rfl
    -- for the other kinds only the first character counts
    all_goals exact h

/-! ## Texts one behind the other -/

/-- What may stand at the end of a text is a gap if no comment opens there. -/
theorem Layout.Trailing.gap {text : List Char} (h : Trailing text)
    (noComment : '{' ∉ text ∧ '(' ∉ text) : Gap text := by
  obtain ⟨closed, rest, rfl, gap, rfl | ⟨form, body, isComment, rfl, -⟩⟩ := h
  · rwa [List.append_nil]
  · cases form with
    | outside => exact absurd rfl isComment
    | braces => exact absurd (by simp [opening]) noComment.1
    | stars => exact absurd (by simp [opening]) noComment.2

namespace LaidOut

variable {row more : List (Kind × String)} {text front tail gap : List Char} {c : Char}

/-- A blank in front makes no difference. -/
theorem blank (h : LaidOut row text) (isBlank : Text.isBlank c = true) :
    LaidOut row (c :: text) := by
  cases h with
  | last trailing => exact .last (trailing.blank isBlank)
  | lexeme isGap denotes longest behind => exact .lexeme (.blank isBlank isGap) denotes longest behind

/-- A gap in front makes no difference. -/
theorem behind_gap (h : LaidOut row text) (isGap : Layout.Gap gap) : LaidOut row (gap ++ text) := by
  induction isGap with
  | nil => exact h
  | blank isBlank _ ih => exact ih.blank isBlank
  | @comment form body rest isComment first _ ih =>
    rw [List.append_assoc]
    generalize rest ++ text = behind at ih
    cases ih with
    | last trailing => exact .last (trailing.comment isComment first)
    | @lexeme kind value gap rest more isGap denotes longest behind =>
      have split : form.opening ++ body ++ form.closing ++ (gap ++ spell kind value.toList ++ rest)
          = (form.opening ++ body ++ form.closing ++ gap) ++ spell kind value.toList ++ rest := by
        simp
      rw [split]
      exact .lexeme (.comment isComment first isGap) denotes longest behind

/-- **Texts are laid out one behind the other**, if no comment is left open in front
and the text behind breaks off the last lexeme there. -/
theorem append (h : LaidOut row front) (behind : LaidOut more tail)
    (noComment : '{' ∉ front ∧ '(' ∉ front) (breaks : ∀ c ∈ tail.head?, Breaks c) :
    LaidOut (row ++ more) (front ++ tail) := by
  induction h with
  | last trailing => exact behind.behind_gap (trailing.gap noComment)
  | @lexeme kind value gap rest others isGap denotes longest _ ih =>
    have longest : kind.Longest value.toList (rest ++ []) := by rwa [List.append_nil]
    rw [List.append_assoc]
    refine .lexeme isGap denotes (longest.exchange breaks) (ih ?_)
    exact ⟨fun listed => noComment.1 (List.mem_append_right _ listed),
      fun listed => noComment.2 (List.mem_append_right _ listed)⟩

end LaidOut

/-- What is tiled by tokens is laid out as what they say. -/
theorem Tiling.laidOut {text : List Char} {place : Nat} {tokens : List Token}
    (h : Tiling text place tokens) :
    ∃ row, tokens.map Token.content = row ++ [(.endOfInput, "")] ∧
      LaidOut row (text.drop place) := by
  induction h with
  | last within rest => exact ⟨[], rfl, .last rest⟩
  | @token place first last t more ordered gap lies _ ih =>
    obtain ⟨row, contents, behind⟩ := ih
    refine ⟨t.content :: row, by rw [List.map_cons, contents]; rfl, ?_⟩
    have notEmpty := lies.notEmpty
    have split : text.drop place =
        text.extract place first ++ spell t.kind t.value.toList ++ text.drop last := by
      rw [← lies.spelled, extract_append text ordered (by omega),
        extract_append_drop text (by omega)]
    rw [split]
    exact .lexeme gap lies.denotes lies.longest behind

/-- **What is read is laid out**: a text that is read without a fault is laid out as what
is read. -/
theorem laidOut_of_read {text : String} {row : List (Kind × String)}
    (noFault : (Cursor.ofText text).readAll.fault = none)
    (read : (Cursor.ofText text).readAll.tokens.map Token.content = row ++ [(.endOfInput, "")]) :
    LaidOut row text.toList := by
  obtain ⟨row', contents, laidOut⟩ := ((Cursor.standsAt_ofText text).tiling noFault).laidOut
  obtain rfl := List.append_cancel_right (read.symm.trans contents)
  exact laidOut

/-! ## Stretches -/

/-- **Tokens stand on the stretch of a text** between two places: each lies on a piece
of it with only layout before it, and the last one ends where the stretch ends. -/
inductive Stretch (text : List Char) : Nat → List Token → Nat → Prop where
  /-- No token. -/
  | nil {place : Nat} (within : place ≤ text.length) : Stretch text place [] place
  /-- A token with a gap before it. -/
  | token {place first last stop : Nat} {t : Token} {more : List Token} (ordered : place ≤ first)
      (gap : Layout.Gap (text.extract place first)) (lies : t.LiesOn text first last)
      (behind : Stretch text last more stop) : Stretch text place (t :: more) stop

variable {text : List Char} {place stop : Nat} {u v : List Token} {t : Token}

/-- The tokens in front of others that tile a text stand on a stretch, and the others
tile the text behind it. -/
theorem Tiling.exists_stretch (h : Tiling text place (u ++ v)) (within : place ≤ text.length)
    (notEnd : ∀ t ∈ u, t.isEnd = false) :
    ∃ stop, Stretch text place u stop ∧ Tiling text stop v := by
  induction u generalizing place with
  | nil => exact ⟨place, .nil within, h⟩
  | cons t u ih =>
    obtain ⟨first, others⟩ := List.forall_mem_cons.1 notEnd
    generalize same : t :: u ++ v = row at h
    cases h with
    | last =>
      obtain ⟨rfl, -⟩ := List.cons.inj same
      exact absurd first (by simp)
    | token ordered gap lies behind =>
      obtain ⟨rfl, rfl⟩ := List.cons.inj same
      obtain ⟨stop, stretch, tiling⟩ := ih behind lies.within others
      exact ⟨stop, .token ordered gap lies stretch, tiling⟩

namespace Stretch

/-- A stretch is in the text. -/
theorem bounds (h : Stretch text place u stop) : place ≤ stop ∧ stop ≤ text.length := by
  induction h with
  | nil within => exact ⟨Nat.le_refl _, within⟩
  | token ordered _ lies _ ih =>
    have := lies.notEmpty
    omega

/-- A stretch may begin with its first token. -/
theorem exists_start (h : Stretch text place (t :: u) stop) :
    ∃ first, t.start = some (.inText text first) ∧ Stretch text first (t :: u) stop := by
  cases h with
  | @token _ first _ _ _ _ ordered gap lies behind =>
    have nothing : text.extract first first = [] := by simp [List.extract]
    exact ⟨first, lies.start, .token (Nat.le_refl _) (nothing ▸ .nil) lies behind⟩

/-- A stretch ends with its last token. -/
theorem stop_eq (h : Stretch text place u stop) (last : u.getLast? = some t) :
    t.stop = some (.inText text stop) := by
  induction h with
  | nil => exact absurd last (by simp)
  | @token _ _ last' _ t' more _ _ lies behind ih =>
    cases more with
    | cons t'' more => exact ih (by rwa [List.getLast?_cons_cons] at last)
    | nil =>
      cases behind
      obtain rfl := Option.some.inj last
      exact lies.stop

/-- **A stretch that is cut out is laid out** in front of another text, if that breaks
off the last lexeme. -/
theorem laidOut (h : Stretch text place u stop) {row : List (Kind × String)} {tail : List Char}
    (behind : LaidOut row tail) (breaks : ∀ c ∈ tail.head?, Breaks c) :
    LaidOut (u.map Token.content ++ row) (text.extract place stop ++ tail) := by
  induction h with
  | @nil place _ =>
    have nothing : text.extract place place = [] := by simp [List.extract]
    rwa [nothing]
  | @token place first last stop t more ordered gap lies stretch ih =>
    have bounds := stretch.bounds
    have split : text.extract place stop =
        text.extract place first ++ spell t.kind t.value.toList ++ text.extract last stop := by
      have := lies.notEmpty
      rw [← lies.spelled, extract_append text ordered (by omega),
        extract_append text (by omega) bounds.1]
    -- behind the token comes the rest of the stretch, and only what follows that changes
    have longest := lies.longest
    rw [← extract_append_drop text bounds.1] at longest
    rw [split, List.append_assoc]
    exact .lexeme gap lies.denotes (longest.exchange breaks) ih

end Stretch

end PascalFront
