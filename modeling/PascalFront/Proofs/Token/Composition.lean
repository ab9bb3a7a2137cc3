import PascalFront.Proofs.Token.Stretch
/-!
# Texts that are read one behind the other

What a reader finds does not depend on where it starts to count. From a cursor further
down and further on the same tokens are read, and the same fault is met, further down and
further on (`Cursor.readAll_moved`). The columns stay, since both cursors are in the same
column.

Nor does a text look different because another one follows, if a newline is between them. No
token goes on into the newline, and the layout at the end of the first text joins with it to a
gap, unless a comment is still open there. So reading both together is reading the first
and then the second, in which everything stands as many lines lower and as many characters
later as the first text takes (`Cursor.readAll_append`).
-/

namespace PascalFront

open Text Lexeme

/-! ## Counting from another place -/

/-- A position further down by some lines and further on by some characters, in the same
column. -/
def Position.moved (lines chars : Nat) (p : Position) : Position :=
  ⟨p.line + lines, p.column, p.offset + chars⟩

/-- A span further down and further on. -/
def Span.moved (lines chars : Nat) (s : Span) : Span :=
  ⟨s.start.moved lines chars, s.stop.moved lines chars⟩

/-- A token that stands further down and further on. -/
def Token.moved (lines chars : Nat) (t : Token) : Token :=
  { t with start := t.start.map (.moved lines chars), stop := t.stop.map (.moved lines chars) }

/-- A fault that lies further down and further on. -/
def Fault.moved (lines chars : Nat) : Fault → Fault
  | .general message place => .general message (place.map (.moved lines chars))
  | .grammatical complaint place => .grammatical complaint (place.map (.moved lines chars))
  | .lexical cause found p => .lexical cause found (p.moved lines chars)

/-- A cursor with the same text ahead, further down and further on. -/
def Cursor.moved (lines chars : Nat) (c : Cursor) : Cursor :=
  ⟨c.rest, c.position.moved lines chars⟩

/-- What is read further down and further on. -/
def Reading.moved (lines chars : Nat) (r : Reading) : Reading :=
  ⟨r.tokens.map (.moved lines chars), r.fault.map (.moved lines chars),
    r.cursor.moved lines chars⟩

/-- What is read behind tokens that were read before. -/
def Reading.behind (front : List Token) (r : Reading) : Reading :=
  ⟨front ++ r.tokens, r.fault, r.cursor⟩

section Moved

variable (lines chars : Nat)

namespace Position

@[simp] theorem after_moved (p : Position) (c : Char) :
    (p.moved lines chars).after c = (p.after c).moved lines chars := by
  unfold after moved
  split <;> simp only [Position.mk.injEq, true_and] <;> omega

@[simp] theorem afterAll_moved (p : Position) (text : List Char) :
    (p.moved lines chars).afterAll text = (p.afterAll text).moved lines chars := by
  induction text generalizing p with
  | nil => rfl
  | cons c text ih => rw [afterAll_cons, after_moved, ih, afterAll_cons]

/-- **The position behind a whole text and a newline** is where a text starts, moved by what
comes before. -/
theorem after_inText_length (text : List Char) :
    (inText text text.length).after '\n' =
      start.moved (text.count '\n' + 1) (text.length + 1) := by
  rw [after, if_pos rfl, inText, List.take_length, moved, start]
  simp only [Position.mk.injEq, true_and]
  omega

end Position

namespace Layout

/-- Layout is passed over alike. -/
theorem skip_moved (layout : Layout) (p : Position) (text : List Char) :
    layout.skip (p.moved lines chars) text = (layout.skip p text).moved lines chars := by
  fun_induction skip layout p text with
  | case1 => exact skip.eq_1 ..
  | case2 p rest ih => rw [skip.eq_2, Position.after_moved, Position.after_moved, ih]
  | case3 p rest ih => rw [skip.eq_3, Position.after_moved, Position.after_moved, ih]
  | case4 p c rest single blank ih => rw [skip.eq_4 _ _ _ single, if_pos blank, Position.after_moved, ih]
  | case5 p rest single notBlank ih =>
    rw [skip.eq_4 _ _ _ single, if_neg notBlank, if_pos rfl, Position.after_moved, ih]
  | case6 p c rest single notBlank notBrace =>
    rw [skip.eq_4 _ _ _ single, if_neg notBlank, if_neg notBrace]
    rfl
  | case7 p c rest ih => rw [skip.eq_5, Position.after_moved, ih]
  | case8 p c rest single ih => rw [skip.eq_6 _ _ _ single, Position.after_moved, ih]

end Layout

namespace Cursor

variable {c after : Cursor} {t : Token} {fault : Fault}

theorem skipLayout_moved (c : Cursor) :
    (c.moved lines chars).skipLayout = c.skipLayout.moved lines chars :=
  Layout.skip_moved ..

theorem afterFailure_moved (c : Cursor) (cause : LexicalCause) :
    (c.moved lines chars).afterFailure cause = (c.afterFailure cause).moved lines chars := by
  cases cause with
  | unterminated => exact congrArg (Cursor.mk []) (Position.afterAll_moved ..)
  | unexpected | stated => rfl

/-- The same is taken further down and further on. -/
theorem take_moved (c : Cursor) :
    (c.moved lines chars).take =
      ((c.take.1.mapError (.moved lines chars)).map (.moved lines chars),
        c.take.2.moved lines chars) := by
  rcases split : c.rest with - | ⟨first, rest⟩
  · have split' : (c.moved lines chars).rest = [] := split
    rw [take_of_nil split, take_of_nil split']
    rfl
  · have split' : (c.moved lines chars).rest = first :: rest := split
    cases found : Lexeme.read first rest with
    | ok l =>
      rw [take_of_lexeme split found, take_of_lexeme split' found]
      simp only [moved, tokenOf, Position.afterAll_moved]
      rfl
    | error cause =>
      rw [take_of_cause split found, take_of_cause split' found, afterFailure_moved]
      rfl

/-- **The next token is the same** further down and further on. -/
theorem next_moved (c : Cursor) :
    (c.moved lines chars).next =
      ((c.next.1.mapError (.moved lines chars)).map (.moved lines chars),
        c.next.2.moved lines chars) := by
  rw [next, skipLayout_moved, take_moved]
  rfl

/-- **All tokens are the same** further down and further on, and so is the fault behind
them. -/
theorem readAll_moved (c : Cursor) :
    (c.moved lines chars).readAll = c.readAll.moved lines chars := by
  have moves := next_moved lines chars
  induction c using readAll.induct with
  | case1 c fault after read =>
    have read' := moves c
    rw [read] at read'
    rw [readAll_of_error read, readAll_of_error read']
    rfl
  | case2 c t after read last =>
    have read' := moves c
    rw [read] at read'
    rw [readAll_of_end read last, readAll_of_end read' last]
    rfl
  | case3 c t after read notLast _ ih =>
    have read' := moves c
    rw [read] at read'
    rw [readAll_of_more read notLast, readAll_of_more read' notLast, ih]
    rfl

end Cursor

end Moved

/-! ## Stretches in front -/

variable {text tail : List Char} {place stop : Nat} {front : List Token}

namespace Cursor

/-- Only what comes next decides what is read. -/
theorem readAll_congr {c d : Cursor} (same : c.next = d.next) : c.readAll = d.readAll := by
  rcases read : c.next with ⟨fault | t, after⟩
  · rw [readAll_of_error read, readAll_of_error (same.symm.trans read)]
  · by_cases last : t.isEnd
    · rw [readAll_of_end read last, readAll_of_end (same.symm.trans read) last]
    · rw [readAll_of_more read last, readAll_of_more (same.symm.trans read) last]

/-- A gap in front is passed over. -/
theorem readAll_gap {gap : List Char} (isGap : Layout.Gap gap) (p : Position) (rest : List Char) :
    (Cursor.mk (gap ++ rest) p).readAll = (Cursor.mk rest (p.afterAll gap)).readAll := by
  refine readAll_congr ?_
  rw [next, next, skipLayout, skipLayout, Layout.skip_gap isGap]

end Cursor

/-- **The tokens on a stretch are read from it** where what comes behind breaks off the last
of them, and the reading goes on there. -/
theorem Stretch.readAll (h : Stretch text place front stop) (breaks : ∀ c ∈ tail.head?, Breaks c) :
    (Cursor.mk (text.extract place stop ++ tail) (.inText text place)).readAll =
      (Cursor.mk tail (.inText text stop)).readAll.behind front := by
  induction h with
  | @nil place =>
    have nothing : text.extract place place = [] := by simp [List.extract]
    rw [nothing]
    rfl
  | @token place first last stop t more ordered gap lies stretch ih =>
    obtain ⟨onward, within⟩ := stretch.bounds
    have notEmpty := lies.notEmpty
    have split : text.extract place stop ++ tail =
        text.extract place first ++ spell t.kind t.value.toList
          ++ (text.extract last stop ++ tail) := by
      rw [← lies.spelled, extract_append text ordered notEmpty.le, ← List.append_assoc,
        extract_append text (ordered.trans notEmpty.le) onward]
    -- behind the token comes the rest of the stretch, and only what follows that changes
    have longest := lies.longest
    rw [← extract_append_drop text onward] at longest
    have read := Cursor.next_spelled (.inText text place) gap lies.denotes
      (longest.exchange breaks)
    rw [Position.afterAll_extract text ordered (notEmpty.le.trans lies.within), ← lies.spelled,
      Position.afterAll_extract text notEmpty.le lies.within, lies.spelled, ← split] at read
    have token : Cursor.tokenOf ⟨t.kind, t.value.toList, text.extract last stop ++ tail⟩
        (.inText text first) = t := by
      rw [Cursor.tokenOf, spelling, ← lies.spelled,
        Position.afterAll_extract text notEmpty.le lies.within, String.ofList_toList, ← lies.start,
        ← lies.stop]
    rw [token] at read
    have notEnd : ¬ t.isEnd := fun isEnd => lies.denotes.ne_endOfInput (of_decide_eq_true isEnd)
    rw [Cursor.readAll_of_more read notEnd, ih]
    rfl

/-! ## One text behind another -/

/-- Where the last token of a text ends. -/
def lastStop (text : String) : Nat :=
  ((Cursor.ofText text).readAll.tokens.dropLast.getLast?.bind Token.stop).elim 0
    fun p => p.offset.toNat

/-- **A text ends in a comment** if in what follows its last token there is, behind a gap, a
comment that is never closed. -/
def EndsInComment (text : String) : Prop :=
  ∃ gap comment, text.toList.drop (lastStop text) = gap ++ comment ∧ Layout.Gap gap ∧
    Layout.Unclosed comment

/-- The tokens that tile a text stand on a stretch up to the end of the input. -/
theorem Tiling.exists_front {tokens : List Token} (h : Tiling text place tokens)
    (within : place ≤ text.length) :
    ∃ front stop, tokens = front ++ [.endAt (some (.inText text text.length))] ∧
      Stretch text place front stop ∧ Layout.Trailing (text.drop stop) := by
  induction h with
  | @last place _ trailing => exact ⟨[], place, rfl, .nil within, trailing⟩
  | token ordered gap lies _ ih =>
    obtain ⟨front, stop, rfl, stretch, trailing⟩ := ih lies.within
    exact ⟨_ :: front, stop, rfl, .token ordered gap lies stretch, trailing⟩

/-- A text without a fault is a stretch with its tokens and the layout behind the last of
them. -/
theorem exists_stretch_lastStop {text : String}
    (noFault : (Cursor.ofText text).readAll.fault = none) :
    ∃ front, (Cursor.ofText text).readAll.tokens =
        front ++ [.endAt (some (.inText text.toList text.toList.length))] ∧
      Stretch text.toList 0 front (lastStop text) ∧
      Layout.Trailing (text.toList.drop (lastStop text)) := by
  obtain ⟨front, stop, read, stretch, trailing⟩ :=
    ((Cursor.standsAt_ofText text).tiling noFault).exists_front (Nat.zero_le _)
  have stops : lastStop text = stop := by
    rw [lastStop, read, List.dropLast_concat]
    cases last : front.getLast? with
    | none =>
      obtain rfl := List.getLast?_eq_none_iff.1 last
      cases stretch
      rfl
    | some t =>
      rw [Option.bind_some, stretch.stop_eq last]
      rfl
  rw [stops]
  exact ⟨front, read, stretch, trailing⟩

/-- What stands behind the last token is a gap unless the text ends in a comment. -/
theorem gap_of_not_endsInComment {text : String} (closed : ¬ EndsInComment text)
    (trailing : Layout.Trailing (text.toList.drop (lastStop text))) :
    Layout.Gap (text.toList.drop (lastStop text)) := by
  obtain ⟨gap, rest, split, isGap, rfl | isOpen⟩ := trailing
  · rwa [split, List.append_nil]
  · exact absurd ⟨gap, rest, split, isGap, isOpen⟩ closed

/-- A gap ends what stands before it, and if it is empty so does a blank in its place. -/
theorem Layout.Gap.breaks {gap : List Char} (isGap : Layout.Gap gap) {blank : Char}
    (isBlank : Text.isBlank blank = true) (rest : List Char) :
    ∀ c ∈ (gap ++ ([blank] ++ rest)).head?, Breaks c := by
  intro c next
  refine breaks_of_layout ?_
  cases gap with
  | nil =>
    obtain rfl := Option.some.inj next
    exact .inl isBlank
  | cons d gap =>
    obtain rfl := Option.some.inj next
    exact isGap.head

/-- **Reading is compositional.** If a text is read without a fault and does not end in a
comment, the text with a newline and another text behind it is read as the tokens of the
first and then everything that is read from the other one, as many lines further down and
as many characters further on as stand before it. -/
theorem Cursor.readAll_append (a b : String) (noFault : (ofText a).readAll.fault = none)
    (closed : ¬ EndsInComment a) :
    ∃ front, (ofText a).readAll.tokens =
        front ++ [.endAt (some (.inText a.toList a.toList.length))] ∧
      (ofText (a ++ "\n" ++ b)).readAll =
        ((ofText b).readAll.moved (a.toList.count '\n' + 1) (a.toList.length + 1)).behind front := by
  obtain ⟨front, read, stretch, trailing⟩ := exists_stretch_lastStop noFault
  refine ⟨front, read, ?_⟩
  have isGap := gap_of_not_endsInComment closed trailing
  obtain ⟨-, within⟩ := stretch.bounds
  generalize lastStop a = stop at stretch isGap within
  have split : (a ++ "\n" ++ b).toList =
      a.toList.extract 0 stop ++ (a.toList.drop stop ++ (['\n'] ++ b.toList)) := by
    have whole := extract_append_drop a.toList (Nat.zero_le stop)
    rw [List.drop_zero] at whole
    rw [String.toList_append, String.toList_append, ← List.append_assoc, whole,
      List.append_assoc]
    rfl
  have behind : (Position.inText a.toList stop).afterAll (a.toList.drop stop) =
      .inText a.toList a.toList.length := by
    have := Position.afterAll_extract a.toList within le_rfl
    rwa [List.extract, List.take_of_length_le (by rw [List.length_drop])] at this
  rw [ofText, split]
  refine (stretch.readAll (isGap.breaks (by decide) b.toList)).trans (congrArg _ ?_)
  rw [readAll_gap isGap, readAll_gap (.blank (by decide) .nil), behind, ← readAll_moved]
  exact congrArg (fun p => (Cursor.mk b.toList p).readAll) (Position.after_inText_length _)

/-- A point at the end of one line and a digit at the start of the next make no number, and
what does not start a token is met on that line. -/
theorem Cursor.readAll_append_point : ∃ front,
    (ofText "x := 1.").readAll.fault = none ∧ ¬ EndsInComment "x := 1." ∧
      front.map Token.content =
        [(.identifier, "x"), (.assign, ":="), (.number, "1"), (.dot, ".")] ∧
      (ofText ("x := 1." ++ "\n" ++ "5 ?")).readAll =
        ⟨front ++ [⟨.number, "5", some ⟨2, 1, 8⟩, some ⟨2, 2, 9⟩⟩],
          some (.lexical (.unexpected '?') "?" ⟨2, 3, 10⟩), ⟨['?'], ⟨2, 3, 10⟩⟩⟩ := by
  have noFault : (ofText "x := 1.").readAll.fault = none := by decide +kernel
  have closed : ¬ EndsInComment "x := 1." := by
    rintro ⟨gap, comment, split, -, form, body, isComment, rfl, -⟩
    have nothing : "x := 1.".toList.drop (lastStop "x := 1.") = [] := by decide +kernel
    rw [nothing] at split
    obtain ⟨-, opening⟩ := List.append_eq_nil_iff.1 split.symm
    cases form with
    | outside => exact absurd rfl isComment
    | braces | stars => exact absurd opening (by simp [Layout.opening])
  obtain ⟨front, read, joined⟩ := readAll_append "x := 1." "5 ?" noFault closed
  refine ⟨front, noFault, closed, ?_, ?_⟩
  · have contents : (ofText "x := 1.").readAll.tokens.map Token.content =
        [(.identifier, "x"), (.assign, ":="), (.number, "1"), (.dot, ".")] ++
          [(.endOfInput, "")] := by decide +kernel
    rw [read, List.map_append] at contents
    exact List.append_inj_left' contents rfl
  · have second : ((ofText "5 ?").readAll.moved ("x := 1.".toList.count '\n' + 1)
        ("x := 1.".toList.length + 1)) =
        ⟨[⟨.number, "5", some ⟨2, 1, 8⟩, some ⟨2, 2, 9⟩⟩],
          some (.lexical (.unexpected '?') "?" ⟨2, 3, 10⟩), ⟨['?'], ⟨2, 3, 10⟩⟩⟩ := by
      decide +kernel
    rw [joined, second]
    rfl

end PascalFront
