import PascalFront.Proofs.Token.Layout
import PascalFront.Proofs.Token.Lexeme
import PascalFront.Token.Reader
/-!
# Reading undoes writing

A text may be written down as a row of lexemes with layout between them. If each
lexeme is as long as it can be where it stands, reading the text gives back that
row and nothing else (`LaidOut.readAll`): the reader has no choice but to take
each lexeme whole. The single step is `Lexeme.read_spell`, the converse of what
`Lexeme.read_spec` says.

With a gap between any two lexemes there is no question of length, since no
lexeme goes on into a gap (`Kind.longest_of_breaks`). So whatever is written with
gaps of any form between the lexemes is read back (`Cursor.readAll_written`).
-/

namespace PascalFront

open Text Lexeme

/-! ## Classes of characters -/

namespace Text

/-- No blank is a letter. -/
theorem isLetter_of_isBlank {c : Char} (blank : isBlank c = true) : isLetter c = false := by
  have all : ∀ range ∈ blankRanges, ∀ n ∈ List.range' range.1 (range.2 + 1 - range.1),
      letterRanges.contains n = false := by decide +kernel
  obtain ⟨range, listed, first, last⟩ := Ranges.exists_of_contains blank
  exact all range listed _ (List.mem_range'_1.2 ⟨first, by omega⟩)

/-- The digits are ten characters. -/
theorem bounds_of_isDigit {c : Char} (digit : isDigit c = true) : 48 ≤ c.toNat ∧ c.toNat < 58 := by
  obtain ⟨first, last⟩ := Bool.and_eq_true_iff.1 digit
  have first : 48 ≤ c.toNat := of_decide_eq_true first
  have last : c.toNat ≤ 57 := of_decide_eq_true last
  exact ⟨first, by omega⟩

/-- No digit is a letter. -/
theorem isLetter_of_isDigit {c : Char} (digit : isDigit c = true) : isLetter c = false := by
  have all : ∀ n < 58, 48 ≤ n → letterRanges.contains n = false := by decide
  obtain ⟨first, last⟩ := bounds_of_isDigit digit
  exact all _ last first

/-- No digit is blank. -/
theorem isBlank_of_isDigit {c : Char} (digit : isDigit c = true) : isBlank c = false := by
  have all : ∀ n < 58, 48 ≤ n → blankRanges.contains n = false := by decide
  obtain ⟨first, last⟩ := bounds_of_isDigit digit
  exact all _ last first

end Text

namespace Lexeme

/-- What starts a word is neither a digit nor blank, and no quote, brace or
parenthesis. -/
theorem apart_of_startsWord {c : Char} (starts : startsWord c = true) :
    isDigit c = false ∧ isBlank c = false ∧ c ≠ '\'' ∧ c ≠ '{' ∧ c ≠ '(' := by
  have other (d : Char) (no : startsWord d = false) : c ≠ d := by
    rintro rfl
    rw [no] at starts
    exact absurd starts (by decide)
  have marks : startsWord '\'' = false ∧ startsWord '{' = false ∧ startsWord '(' = false := by
    decide +kernel
  refine ⟨Bool.eq_false_iff.2 fun digit => ?_, Bool.eq_false_iff.2 fun blank => ?_,
    other _ marks.1, other _ marks.2.1, other _ marks.2.2⟩
  · rcases Bool.or_eq_true_iff.1 starts with letter | underscore
    · rw [isLetter_of_isDigit digit] at letter
      exact absurd letter (by decide)
    · obtain rfl := of_decide_eq_true underscore
      exact absurd digit (by decide)
  · rcases Bool.or_eq_true_iff.1 starts with letter | underscore
    · rw [isLetter_of_isBlank blank] at letter
      exact absurd letter (by decide)
    · obtain rfl := of_decide_eq_true underscore
      exact absurd blank (by decide)

/-! ## Reading a lexeme as it is written -/

/-- What goes on is taken up to where it stops. -/
theorem takeWhile_stop {p : Char → Bool} {front behind : List Char} (all : ∀ c ∈ front, p c = true)
    (stop : ∀ c ∈ behind.head?, p c = false) :
    (front ++ behind).takeWhile p = front ∧ (front ++ behind).dropWhile p = behind := by
  rw [List.takeWhile_append_of_pos all, List.dropWhile_append_of_pos all]
  cases behind with
  | nil => simp
  | cons c behind => simp [stop c rfl]

/-- **A whole number is read** up to where no digit goes on with it and no point
with a digit behind it. -/
theorem number_of_digits {c : Char} {digits rest : List Char} (all : ∀ d ∈ digits, isDigit d = true)
    (stop : ∀ d ∈ rest.head?, isDigit d = false)
    (noPoint : ∀ d more, rest = '.' :: d :: more → isDigit d = false) :
    number c (digits ++ rest) = ⟨.number, c :: digits, rest⟩ := by
  obtain ⟨taken, left⟩ := takeWhile_stop all stop
  unfold number
  rw [taken, left]
  split
  · rename_i d more
    rw [if_neg (by simp [noPoint d more rfl])]
  · rfl

/-- **A number with a point is read** up to where no digit goes on with it. -/
theorem number_of_fraction {c d : Char} {whole fraction rest : List Char}
    (digits : ∀ e ∈ whole, isDigit e = true) (first : isDigit d = true)
    (others : ∀ e ∈ fraction, isDigit e = true) (stop : ∀ e ∈ rest.head?, isDigit e = false) :
    number c (whole ++ '.' :: d :: (fraction ++ rest))
      = ⟨.number, c :: whole ++ '.' :: d :: fraction, rest⟩ := by
  have point : ∀ e ∈ ('.' :: d :: (fraction ++ rest)).head?, isDigit e = false := by
    rintro e ⟨⟩
    decide
  obtain ⟨taken, left⟩ := takeWhile_stop digits point
  obtain ⟨taken', left'⟩ := takeWhile_stop others stop
  unfold number
  rw [taken, left]
  show (if isDigit d = true then _ else _ : Lexeme) = _
  rw [if_pos first, taken', left']

/-- **A string literal is read** up to the quote that no quote follows. -/
theorem content_spell (value : List Char) {rest : List Char} (stop : rest.head? ≠ some '\'') :
    content? (doubleQuotes value ++ '\'' :: rest) = some (value, rest) := by
  induction value with
  | nil =>
    show content? ('\'' :: rest) = _
    rw [content?.eq_3]
    · rfl
    · rintro more - rfl
      exact stop rfl
  | cons c value ih =>
    by_cases quote : c = '\''
    · subst quote
      show content? ('\'' :: '\'' :: (doubleQuotes value ++ '\'' :: rest)) = _
      rw [content?.eq_2, ih]
      rfl
    · have single : doubleQuotes (c :: value) = c :: doubleQuotes value := by
        simp [doubleQuotes, quote]
      rw [single, List.cons_append, content?.eq_3, if_neg quote, ih]
      · rfl
      · rintro _ same -
        exact quote same

/-- **A word is read** up to where no character goes on with it. -/
theorem word_spell {c : Char} {others rest : List Char}
    (all : ∀ d ∈ others, continuesWord d = true) (stop : ∀ d ∈ rest.head?, continuesWord d = false) :
    word c (others ++ rest) = ⟨.ofWord (c :: others), c :: others, rest⟩ := by
  obtain ⟨taken, left⟩ := takeWhile_stop all stop
  rw [word, taken, left]

end Lexeme

namespace Kind

/-- A keyword is the word of its kind only. -/
theorem keywords_injective : ∀ entry ∈ keywords, keywords.lookup entry.1 = some entry.2 := by
  decide +kernel

/-- **A value is that of a number, a string literal, a word or a mark**, and the
kind of a word is the one that it spells. -/
theorem Denotes.sorts {kind : Kind} {value : List Char} (h : kind.Denotes value) :
    kind = number ∨ kind = text ∨ (IsWord value ∧ ofWord value = kind) ∨
      (String.ofList value, kind) ∈ marks := by
  have keyword (isWord : IsWord value)
      (listed : (String.ofList (lowercase value), kind) ∈ keywords) : ofWord value = kind := by
    have same := (lowercase_eq_keyword_iff listed value).1 rfl
    rw [ofWord, same, keywords_injective _ listed]
    rfl
  cases kind
  case number => exact .inl rfl
  case text => exact .inr (.inl rfl)
  case identifier =>
    refine .inr (.inr (.inl ⟨h.1, ?_⟩))
    rw [ofWord, List.lookup_eq_none_iff.2]
    · rfl
    · intro entry member
      refine bne_iff_ne.2 fun same => h.2 entry member ?_
      exact (lowercase_eq_keyword_iff member value).2 same
  all_goals
    rcases h with ⟨isWord, listed⟩ | listed
    · exact .inr (.inr (.inl ⟨isWord, keyword isWord listed⟩))
    · exact .inr (.inr (.inr listed))

/-- A word is as long as can be just where no character goes on with it. -/
theorem stops_of_longest {value rest : List Char} (isWord : IsWord value)
    (longest : (ofWord value).Longest value rest) : ∀ c ∈ rest.head?, continuesWord c = false := by
  have wordKind := ofWord_mem value
  generalize ofWord value = kind at wordKind longest
  cases kind
  case number | text | less | greater | colon | openParen => exact absurd wordKind (by decide)
  all_goals exact longest isWord

/-- The characters that marks begin with begin nothing else. -/
theorem apart_of_mark {entry : String × Kind} (listed : entry ∈ marks) {c : Char}
    (first : c ∈ entry.1.toList.head?) : isDigit c = false ∧ c ≠ '\'' ∧ startsWord c = false ∧
      isBlank c = false ∧ c ≠ '{' := by
  have all : (marks.all fun entry => entry.1.toList.head?.all fun c =>
      !isDigit c && c != '\'' && !startsWord c && !isBlank c && c != '{') = true := by decide +kernel
  have apart := (Option.all_eq_true _ _).1 (List.all_eq_true.1 all entry listed) c first
  simpa [and_assoc] using apart

/-- Whether a kind of mark is found for one character or for two. -/
def isMark : List Char → Kind → Bool
  | [c], kind => ofMark? c = some kind
  | [c, d], kind => ofMarks? c d = some kind
  | _, _ => false

/-- A mark is one character or two, and what is found for these. -/
theorem mark_or_marks {value : String} {kind : Kind} (listed : (value, kind) ∈ marks) :
    (∃ c, value.toList = [c] ∧ ofMark? c = some kind) ∨
      ∃ c d, value.toList = [c, d] ∧ ofMarks? c d = some kind := by
  have all : ∀ entry ∈ marks, isMark entry.1.toList entry.2 = true := by decide +kernel
  have found := all _ listed
  unfold isMark at found
  split at found
  · rename_i c split
    exact .inl ⟨c, split, of_decide_eq_true found⟩
  · rename_i c d split
    exact .inr ⟨c, d, split, of_decide_eq_true found⟩
  · exact absurd found (by decide)

/-- A mark of one character that could not be longer makes no mark with what
follows, and no comment. -/
theorem alone_of_longest {c : Char} {rest : List Char} {kind : Kind} (found : ofMark? c = some kind)
    (longest : kind.Longest [c] rest) :
    (∀ d ∈ rest.head?, ofMarks? c d = none) ∧ (c = '(' → rest.head? ≠ some '*') := by
  refine ⟨fun d next => ?_, ?_⟩
  · unfold ofMarks?
    split
    case h_5 => rfl
    all_goals obtain rfl := Option.some.inj found
    case h_1 => exact absurd next longest.1
    case h_2 => exact absurd next longest.2
    case h_3 | h_4 => exact absurd next longest
  · rintro rfl
    obtain rfl := Option.some.inj found
    exact longest

end Kind

namespace Lexeme

/-- **A mark is read** if it could not be longer. -/
theorem mark_spell {value : String} {kind : Kind} {rest : List Char}
    (listed : (value, kind) ∈ Kind.marks) (longest : kind.Longest value.toList rest) :
    ∃ c more, value.toList = c :: more ∧ mark? c (more ++ rest) = some ⟨kind, c :: more, rest⟩ ∧
      (c = '(' → (more ++ rest).head? ≠ some '*') := by
  rcases Kind.mark_or_marks listed with ⟨c, spelled, found⟩ | ⟨c, d, spelled, found⟩
  · rw [spelled] at longest
    obtain ⟨alone, noComment⟩ := Kind.alone_of_longest found longest
    refine ⟨c, [], spelled, ?_, noComment⟩
    cases rest with
    | nil => rw [List.nil_append, mark?, found]; rfl
    | cons d more => rw [List.nil_append, mark?, alone d rfl, found]; rfl
  · refine ⟨c, [d], spelled, by rw [List.singleton_append, mark?, found], ?_⟩
    -- no mark of two characters begins with a parenthesis
    rintro rfl
    exact absurd found (by simp [Kind.ofMarks?])

/-- **A lexeme is read back** before some text from how it is written, and no
layout starts there. -/
def ReadsBack (kind : Kind) (value rest : List Char) : Prop :=
  ∃ c more, spell kind value = c :: more ∧ read c (more ++ rest) = .ok ⟨kind, value, rest⟩ ∧
    Layout.Clear (c :: more ++ rest)

variable {value rest : List Char}

/-- No layout starts with a digit. -/
theorem clear_of_isDigit {c : Char} (digit : isDigit c = true) (more : List Char) :
    Layout.Clear (c :: more) := by
  have other (d : Char) (no : isDigit d = false) : c ≠ d := by
    rintro rfl
    rw [no] at digit
    exact absurd digit (by decide)
  exact ⟨isBlank_of_isDigit digit, other _ (by decide), fun paren => absurd paren (other _ (by decide))⟩

/-- A number is read back. -/
theorem readsBack_number (denotes : Kind.number.Denotes value)
    (longest : Kind.number.Longest value rest) : ReadsBack .number value rest := by
  obtain ⟨stop, noPoint⟩ := longest
  rcases denotes with ⟨filled, digits⟩ | ⟨whole, fraction, rfl, ⟨filled, digits⟩, filled', digits'⟩
  · obtain ⟨c, more, rfl⟩ := List.exists_cons_of_ne_nil filled
    obtain ⟨digit, others⟩ := List.forall_mem_cons.1 digits
    refine ⟨c, more, rfl, ?_, clear_of_isDigit digit _⟩
    rw [read, if_pos digit, number_of_digits others stop (noPoint fun point => ?_)]
    exact absurd (digits _ point) (by decide)
  · obtain ⟨c, more, rfl⟩ := List.exists_cons_of_ne_nil filled
    obtain ⟨d, more', rfl⟩ := List.exists_cons_of_ne_nil filled'
    obtain ⟨digit, others⟩ := List.forall_mem_cons.1 digits
    obtain ⟨digit', others'⟩ := List.forall_mem_cons.1 digits'
    refine ⟨c, more ++ '.' :: d :: more', rfl, ?_, clear_of_isDigit digit _⟩
    have split : more ++ '.' :: d :: more' ++ rest = more ++ '.' :: d :: (more' ++ rest) := by simp
    rw [split, read, if_pos digit, number_of_fraction others digit' others' stop]

/-- A string literal is read back. -/
theorem readsBack_text (value : List Char) (longest : Kind.text.Longest value rest) :
    ReadsBack .text value rest := by
  refine ⟨'\'', doubleQuotes value ++ ['\''], rfl, ?_, by decide, by decide,
    fun paren => absurd paren (by decide)⟩
  rw [List.append_assoc, List.singleton_append, read, if_neg (by decide), if_pos rfl,
    content_spell value longest]

/-- A word is read back. -/
theorem readsBack_word (isWord : IsWord value) (longest : (Kind.ofWord value).Longest value rest) :
    ReadsBack (.ofWord value) value rest := by
  cases value with
  | nil => exact isWord.elim
  | cons c more =>
    obtain ⟨notDigit, notBlank, notQuote, notBrace, notParen⟩ := apart_of_startsWord isWord.1
    refine ⟨c, more, by rw [spell, if_neg (ofWord_ne_text _)], ?_, notBlank, notBrace,
      fun paren => absurd paren notParen⟩
    rw [read, if_neg (by simp [notDigit]), if_neg notQuote, if_pos isWord.1,
      word_spell isWord.2 (Kind.stops_of_longest isWord longest)]

/-- A mark is read back. -/
theorem readsBack_mark {kind : Kind} (listed : (String.ofList value, kind) ∈ Kind.marks)
    (longest : kind.Longest value rest) : ReadsBack kind value rest := by
  obtain ⟨c, more, spelled, found, noComment⟩ := mark_spell listed (by rwa [String.toList_ofList])
  rw [String.toList_ofList] at spelled
  subst spelled
  obtain ⟨notDigit, notQuote, notWord, notBlank, notBrace⟩ :=
    Kind.apart_of_mark listed (by rw [String.toList_ofList]; rfl)
  have notText : kind ≠ .text := by
    rintro rfl
    simp [Kind.marks] at listed
  refine ⟨c, more, by rw [spell, if_neg notText], ?_, notBlank, notBrace, noComment⟩
  rw [read, if_neg (by simp [notDigit]), if_neg notQuote, if_neg (by simp [notWord]), found]

/-- **A lexeme is read as it is written**, if it could not be longer. -/
theorem read_spell {kind : Kind} (denotes : kind.Denotes value) (longest : kind.Longest value rest) :
    ReadsBack kind value rest := by
  rcases denotes.sorts with rfl | rfl | ⟨isWord, rfl⟩ | listed
  · exact readsBack_number denotes longest
  · exact readsBack_text value longest
  · exact readsBack_word isWord longest
  · exact readsBack_mark listed longest

end Lexeme

/-! ## Passing over layout that is written -/

namespace Layout

/-- **A gap is passed over** as a whole. -/
theorem skip_gap {gap : List Char} (h : Gap gap) (p : Position) (rest : List Char) :
    outside.skip p (gap ++ rest) = outside.skip (p.afterAll gap) rest := by
  induction h generalizing p with
  | nil => rfl
  | blank blank _ ih => rw [List.cons_append, skip_blank blank, ih, Position.afterAll_cons]
  | @comment form body others isComment first _ ih =>
    have split : form.opening ++ body ++ form.closing ++ others ++ rest
        = form.opening ++ (body ++ form.closing ++ (others ++ rest)) := by simp
    rw [split, skip_opening, skip_closed isComment first, ih]
    simp

/-- What may stand at the end is passed over as a whole. -/
theorem skip_trailing {text : List Char} (h : Trailing text) (p : Position) :
    outside.skip p text = ⟨[], p.afterAll text⟩ := by
  obtain ⟨closed, rest, rfl, gap, last⟩ := h
  rw [skip_gap gap, Position.afterAll_append]
  rcases last with rfl | ⟨form, body, isComment, rfl, open_⟩
  · exact skip.eq_1 ..
  · rw [skip_opening, skip_unclosed isComment open_, Position.afterAll_append]

/-- A gap that is not empty begins with a blank or a comment. -/
theorem Gap.head {c : Char} {gap : List Char} (h : Gap (c :: gap)) :
    isBlank c = true ∨ c = '{' ∨ c = '(' := by
  generalize same : c :: gap = text at h
  cases h with
  | nil => exact absurd same (by simp)
  | blank blank _ => exact .inl ((List.cons.inj same).1 ▸ blank)
  | @comment form body others isComment _ _ =>
    cases form with
    | outside => exact absurd rfl isComment
    | braces => exact .inr (.inl (List.cons.inj same).1)
    | stars => exact .inr (.inr (List.cons.inj same).1)

/-- What may stand at the end begins with a blank or a comment, if it is not
empty. -/
theorem Trailing.head {text : List Char} (h : Trailing text) :
    ∀ c ∈ text.head?, isBlank c = true ∨ c = '{' ∨ c = '(' := by
  obtain ⟨closed, rest, rfl, gap, last⟩ := h
  intro c front
  cases closed with
  | cons d closed =>
    obtain rfl := Option.some.inj front
    exact gap.head
  | nil =>
    rcases last with rfl | ⟨form, body, isComment, rfl, -⟩
    · exact absurd front (by simp)
    · cases form with
      | outside => exact absurd rfl isComment
      | braces => exact .inr (.inl (Option.some.inj front).symm)
      | stars => exact .inr (.inr (Option.some.inj front).symm)

end Layout

/-! ## Rows of lexemes -/

/-- What a token says, without its place. -/
def Token.content (t : Token) : Kind × String := (t.kind, t.value)

/-- **A text is laid out** as a row of lexemes: each has only a gap before it and is
as long as it can be where it stands, and behind the last there is what may stand
at the end of a text. -/
inductive LaidOut : List (Kind × String) → List Char → Prop where
  /-- Behind the last lexeme. -/
  | last {rest : List Char} (trailing : Layout.Trailing rest) : LaidOut [] rest
  /-- A lexeme with a gap before it. -/
  | lexeme {kind : Kind} {value : String} {gap rest : List Char} {more : List (Kind × String)}
      (isGap : Layout.Gap gap) (denotes : kind.Denotes value.toList)
      (longest : kind.Longest value.toList rest) (behind : LaidOut more rest) :
      LaidOut ((kind, value) :: more) (gap ++ spell kind value.toList ++ rest)

/-- **The next token is read as it is written**, behind a gap and as long as it can be. -/
theorem Cursor.next_spelled {kind : Kind} {value gap rest : List Char} (p : Position)
    (isGap : Layout.Gap gap) (denotes : kind.Denotes value) (longest : kind.Longest value rest) :
    (Cursor.mk (gap ++ spell kind value ++ rest) p).next =
      (.ok (tokenOf ⟨kind, value, rest⟩ (p.afterAll gap)),
        ⟨rest, (p.afterAll gap).afterAll (spell kind value)⟩) := by
  obtain ⟨c, others, spelled, found, clear⟩ := read_spell denotes longest
  rw [next, skipLayout, List.append_assoc, Layout.skip_gap isGap, spelled,
    Layout.skip_of_clear clear, take_of_lexeme rfl found, spelling, spelled]

/-- **Reading undoes laying out**: the row is read back, with the end of the input
behind it. -/
theorem LaidOut.readAll {row : List (Kind × String)} {text : List Char} (h : LaidOut row text)
    (p : Position) :
    (Cursor.mk text p).readAll.fault = none ∧
      (Cursor.mk text p).readAll.tokens.map Token.content = row ++ [(.endOfInput, "")] := by
  induction h generalizing p with
  | @last rest trailing =>
    have read : (Cursor.mk rest p).next = (.ok (.endAt (some (p.afterAll rest))), ⟨[], p.afterAll rest⟩) := by
      rw [Cursor.next, Cursor.skipLayout, Layout.skip_trailing trailing, Cursor.take_of_nil rfl]
    rw [Cursor.readAll_of_end read rfl]
    exact ⟨rfl, rfl⟩
  | @lexeme kind value gap rest more isGap denotes longest _ ih =>
    have read := Cursor.next_spelled p isGap denotes longest
    have notLast : ¬ (Cursor.tokenOf ⟨kind, value.toList, rest⟩ (p.afterAll gap)).isEnd :=
      fun last => denotes.ne_endOfInput (of_decide_eq_true last)
    obtain ⟨noFault, behind⟩ := ih ((p.afterAll gap).afterAll (spell kind value.toList))
    rw [Cursor.readAll_of_more read notLast]
    refine ⟨noFault, ?_⟩
    rw [List.map_cons, behind, Token.content, Cursor.tokenOf, String.ofList_toList]
    rfl

/-! ## Lexemes with gaps between them -/

/-- A character that no lexeme goes on with. -/
def Breaks (c : Char) : Prop := continuesWord c = false ∧ c ∉ ['.', '\'', '>', '=', '*']

/-- A blank and the start of a comment break every lexeme off. -/
theorem breaks_of_layout {c : Char} (h : isBlank c = true ∨ c = '{' ∨ c = '(') : Breaks c := by
  rcases h with blank | rfl | rfl
  · have other (d : Char) (no : isBlank d = false) : c ≠ d := by
      rintro rfl
      rw [no] at blank
      exact absurd blank (by decide)
    refine ⟨?_, ?_⟩
    · have notDigit : isDigit c = false := Bool.eq_false_iff.2 fun digit => by
        rw [isBlank_of_isDigit digit] at blank
        exact absurd blank (by decide)
      simp [continuesWord, isLetter_of_isBlank blank, notDigit, other '_' (by decide)]
    · simp [other '.' (by decide), other '\'' (by decide), other '>' (by decide),
        other '=' (by decide), other '*' (by decide)]
  · exact ⟨by decide +kernel, by decide⟩
  · exact ⟨by decide +kernel, by decide⟩

/-- **A lexeme could not be longer** before a character that breaks it off, and at
the end of the text. -/
theorem Kind.longest_of_breaks (kind : Kind) (value : List Char) {rest : List Char}
    (breaks : ∀ c ∈ rest.head?, Breaks c) : kind.Longest value rest := by
  have notMark (c : Char) (listed : c ∈ ['.', '\'', '>', '=', '*']) : rest.head? ≠ some c :=
    fun next => (breaks c next).2 listed
  have notWord : ∀ c ∈ rest.head?, continuesWord c = false := fun c next => (breaks c next).1
  have notDigit : ∀ c ∈ rest.head?, isDigit c = false := by
    intro c next
    have := notWord c next
    simp only [continuesWord, Bool.or_eq_false_iff] at this
    exact this.1.2
  cases kind
  case number =>
    refine ⟨notDigit, fun _ c more point => ?_⟩
    exact absurd (by rw [point]; rfl) (notMark '.' (by decide))
  case text => exact notMark '\'' (by decide)
  case less => exact ⟨notMark '>' (by decide), notMark '=' (by decide)⟩
  case greater | colon => exact notMark '=' (by decide)
  case openParen => exact notMark '*' (by decide)
  all_goals exact fun _ => notWord

/-- **A lexeme that is written behind a gap.** -/
structure Written where
  /-- What stands before the lexeme. -/
  gap : List Char
  /-- The kind of the lexeme. -/
  kind : Kind
  /-- The text of the lexeme, or the string that a string literal denotes. -/
  value : String
  /-- Only blanks and closed comments stand before it. -/
  isGap : Layout.Gap gap
  /-- There are lexemes of this kind with this text. -/
  denotes : kind.Denotes value.toList

/-- How a lexeme behind a gap is written. -/
def Written.text (w : Written) : List Char := w.gap ++ spell w.kind w.value.toList

/-- What is read where a lexeme is written. -/
def Written.content (w : Written) : Kind × String := (w.kind, w.value)

/-- Lexemes with gaps between them are laid out as they are written. -/
theorem laidOut_written {row : List Written} (apart : ∀ w ∈ row.tail, w.gap ≠ []) {rest : List Char}
    (trailing : Layout.Trailing rest) :
    LaidOut (row.map Written.content) (row.flatMap Written.text ++ rest) := by
  induction row with
  | nil => exact .last trailing
  | cons w row ih =>
    have behind := ih fun w' listed => apart w' (List.mem_of_mem_tail listed)
    have breaks : ∀ c ∈ (row.flatMap Written.text ++ rest).head?, Breaks c := by
      intro c next
      refine breaks_of_layout ?_
      cases row with
      | nil => exact trailing.head c next
      | cons w' row =>
        obtain ⟨d, gap, split⟩ := List.exists_cons_of_ne_nil (apart w' List.mem_cons_self)
        have isGap := w'.isGap
        rw [List.flatMap_cons, Written.text, split] at next
        rw [split] at isGap
        obtain rfl := Option.some.inj next
        exact isGap.head
    rw [List.flatMap_cons, List.append_assoc]
    exact .lexeme w.isGap w.denotes (w.kind.longest_of_breaks _ breaks) behind

/-- **Reading undoes writing, whatever the layout.** Lexemes are written one behind
the other, the first behind any gap and each other one behind a gap that is not
empty; behind the last there may be a gap and an unclosed comment. Reading all of
it gives just these lexemes and then the end of the input. -/
theorem Cursor.readAll_written (row : List Written) (rest : List Char)
    (apart : ∀ w ∈ row.tail, w.gap ≠ []) (trailing : Layout.Trailing rest) :
    (ofText (String.ofList (row.flatMap Written.text ++ rest))).readAll.fault = none ∧
      (ofText (String.ofList (row.flatMap Written.text ++ rest))).readAll.tokens.map Token.content
        = row.map Written.content ++ [(.endOfInput, "")] := by
  have laidOut := laidOut_written apart trailing
  rw [ofText, String.toList_ofList]
  exact laidOut.readAll .start

/-- A keyword in mixed case, a parenthesis glued to comments on both sides and a
string literal with a quote in it, before a comment that is never closed. -/
theorem Cursor.readAll_written_glued : ∃ (row : List Written) (rest : List Char),
    row.flatMap Written.text ++ rest = "BeGiN(*)*)(\x7b'\x7d'it''s' (*)".toList ∧
      (∀ w ∈ row.tail, w.gap ≠ []) ∧ Layout.Trailing rest ∧
      (ofText (String.ofList (row.flatMap Written.text ++ rest))).readAll.fault = none ∧
      (ofText (String.ofList (row.flatMap Written.text ++ rest))).readAll.tokens.map Token.content
        = [(.beginKeyword, "BeGiN"), (.openParen, "("), (.text, "it's"), (.endOfInput, "")] := by
  have word : Kind.beginKeyword.Denotes "BeGiN".toList := by
    rw [show "BeGiN".toList = ['B', 'e', 'G', 'i', 'N'] by decide +kernel]
    have others : ['e', 'G', 'i', 'N'].all continuesWord = true := by decide
    exact .inl ⟨⟨by decide, List.all_eq_true.1 others⟩, by decide +kernel⟩
  have closed : Layout.Gap ['(', '*', ')', '*', ')'] :=
    @Layout.Gap.comment .stars [')'] [] (by decide) (by decide) .nil
  have quoted : Layout.Gap ['{', '\'', '}'] :=
    @Layout.Gap.comment .braces ['\''] [] (by decide) (by decide) .nil
  let row : List Written := [⟨[], .beginKeyword, "BeGiN", .nil, word⟩,
    ⟨['(', '*', ')', '*', ')'], .openParen, "(", closed, .inr (by decide +kernel)⟩,
    ⟨['{', '\'', '}'], .text, "it's", quoted, trivial⟩]
  have apart : ∀ w ∈ row.tail, w.gap ≠ [] := by
    intro w listed
    rcases List.mem_cons.1 listed with rfl | listed
    · exact List.cons_ne_nil _ _
    · obtain rfl := List.mem_singleton.1 listed
      exact List.cons_ne_nil _ _
  have trailing : Layout.Trailing [' ', '(', '*', ')'] :=
    ⟨[' '], ['(', '*', ')'], rfl, .blank (by decide) .nil, .inr ⟨.stars, [')'], by decide, rfl, by decide⟩⟩
  have written : row.flatMap Written.text ++ [' ', '(', '*', ')'] =
      "BeGiN(*)*)(\x7b'\x7d'it''s' (*)".toList := by
    show ([] ++ spell .beginKeyword "BeGiN".toList) ++
      ((['(', '*', ')', '*', ')'] ++ spell .openParen "(".toList) ++
        ((['{', '\'', '}'] ++ spell .text "it's".toList) ++ [])) ++ [' ', '(', '*', ')'] = _
    decide +kernel
  obtain ⟨noFault, tokens⟩ := readAll_written row _ apart trailing
  exact ⟨row, _, written, apart, trailing, noFault, tokens⟩

end PascalFront
