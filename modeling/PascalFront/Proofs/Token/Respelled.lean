import PascalFront.Proofs.Token.Respelling
/-!
# Tokens of respelled texts

Reading two texts of which one is a respelling of the other yields tokens of the same kinds
with respelled values, and the same fault behind them, all at corresponding positions
(`Respelling.readAll`). It is shown for each sort of lexeme first: words and numbers are runs
of characters told by a property that characters read alike share, the marks stay as they are,
and string literals are closed by the same quote.
-/

namespace PascalFront

open Text Lexeme

/-- There is no `\r` in a word. -/
theorem IsWord.return_notMem {value : List Char} (h : IsWord value) : '\r' ∉ value := by
  have starts : startsWord '\r' = false := by decide +kernel
  have continues : continuesWord '\r' = false := by decide +kernel
  cases value with
  | nil => exact List.not_mem_nil
  | cons c rest =>
    intro listed
    rcases List.mem_cons.1 listed with rfl | listed
    · exact absurd h.1 (by rw [starts]; decide)
    · exact absurd (h.2 _ listed) (by rw [continues]; decide)

/-- What corresponds one by one are members of the two lists. -/
theorem forall₂_mem {α β : Type} {R : α → β → Prop} {u : List α} {v : List β}
    (h : List.Forall₂ R u v) : List.Forall₂ (fun a b => (a ∈ u ∧ b ∈ v) ∧ R a b) u v :=
  List.forall₂_iff_get.2 ⟨h.length_eq, fun _ inU inV =>
    ⟨⟨List.get_mem .., List.get_mem ..⟩, h.get inU inV⟩⟩

/-- What two options are related by can be weakened. -/
theorem rel_imp {α β : Type} {R S : α → β → Prop} {x : Option α} {y : Option β}
    (h : Option.Rel R x y) (weaker : ∀ a b, R a b → S a b) : Option.Rel S x y := by
  cases h with
  | none => exact .none
  | some related => exact .some (weaker _ _ related)

namespace Respelling

variable {f : Respelling} {text text' rest : List Char} {c : Char} {p p' : Position}

/-! ## Lexemes -/

/-- **Two lexemes** of the same kind have respelled values, and respelled texts behind them. -/
structure Lexemes (f : Respelling) (l l' : Lexeme) : Prop where
  /-- The kind is the same. -/
  kind : l'.kind = l.kind
  /-- The value is respelled. -/
  value : f.Texts l.value l'.value
  /-- So is what follows. -/
  rest : f.Texts l.rest l'.rest

/-- Doubling the quotes in a text is done alike. -/
theorem Texts.doubleQuotes (h : f.Texts text text') :
    f.Texts (doubleQuotes text) (doubleQuotes text') := by
  induction h with
  | nil => exact .nil
  | @cons c c' rest rest' first others ih =>
    show f.Texts ((if c = '\'' then ['\'', '\''] else [c]) ++ Lexeme.doubleQuotes rest)
      ((if c' = '\'' then ['\'', '\''] else [c']) ++ Lexeme.doubleQuotes rest')
    refine Texts.append ?_ ih
    by_cases quote : c = '\''
    · have quote' := ((f.alike first).eq_iff (by decide)).2 quote
      rw [if_pos quote, if_pos quote']
      rw [quote, quote'] at first
      exact .cons first (.cons first .nil)
    · rw [if_neg quote, if_neg (mt ((f.alike first).eq_iff (by decide)).1 quote)]
      exact .cons first .nil
  | join joins _ ih => exact .join joins ih

/-- Lexemes are spelled alike if quotes are. -/
theorem Lexemes.spelling {l l' : Lexeme} (h : f.Lexemes l l') (quotes : f.char '\'' '\'') :
    f.Texts l.spelling l'.spelling := by
  rw [Lexeme.spelling, Lexeme.spelling, spell, spell, h.kind]
  split
  · exact .cons quotes (h.value.doubleQuotes.append (.cons quotes .nil))
  · exact h.value

/-- **A word** is read alike. -/
theorem lexemes_word {c' : Char} {rest' : List Char} (first : f.char c c')
    (others : f.Texts rest rest') (starts : startsWord c = true) :
    f.Lexemes (word c rest) (word c' rest') := by
  have run := others.takeWhile (q := continuesWord) ReadAlike.continuesWord_eq (by decide +kernel)
  have value : f.Texts (word c rest).value (word c' rest').value := .cons first run.1
  refine ⟨?_, value, run.2⟩
  have lower : Kind.lowered (word c' rest').value = Kind.lowered (word c rest).value :=
    congrArg String.ofList (value.map_toLower (isWord_word starts rest).return_notMem)
  exact congrArg (fun word => (Kind.keywords.lookup word).getD .identifier) lower

/-- Whether a point and a digit stand in front. -/
def hasFraction (text : List Char) : Bool := text.head? = some '.' ∧ text.tail.head?.any isDigit

/-- A number goes on behind a point if a digit follows it. -/
theorem number_eq (c : Char) (rest : List Char) :
    number c rest =
      let tail := rest.dropWhile isDigit
      if hasFraction tail then
        ⟨.number, c :: rest.takeWhile isDigit ++ '.' :: tail.tail.takeWhile isDigit,
          tail.tail.dropWhile isDigit⟩
      else ⟨.number, c :: rest.takeWhile isDigit, tail⟩ := by
  unfold number hasFraction
  generalize rest.dropWhile isDigit = tail
  split
  · rename_i d more
    by_cases digit : isDigit d = true
    · simp [digit]
    · simp [digit]
  · rename_i other
    rcases tail with - | ⟨first, - | ⟨second, more⟩⟩
    · rfl
    · simp
    · have noPoint : first ≠ '.' := by
        rintro rfl
        exact other _ _ rfl
      simp [noPoint]

/-- **A number** is read alike. -/
theorem lexemes_number {c' : Char} {rest' : List Char} (first : f.char c c')
    (others : f.Texts rest rest') : f.Lexemes (number c rest) (number c' rest') := by
  have digits {text text' : List Char} (h : f.Texts text text') :=
    h.takeWhile (q := isDigit) ReadAlike.isDigit_eq (by decide)
  obtain ⟨run, behind⟩ := digits others
  rw [number_eq, number_eq]
  dsimp only
  generalize rest.dropWhile isDigit = tail at behind
  generalize rest'.dropWhile isDigit = tail' at behind
  have integral : f.Lexemes ⟨.number, c :: rest.takeWhile isDigit, tail⟩
    ⟨.number, c' :: rest'.takeWhile isDigit, tail'⟩ := ⟨rfl, .cons first run, behind⟩
  by_cases point : tail.head? = some '.'
  · obtain ⟨more, rfl⟩ := List.head?_eq_some_iff.1 point
    obtain ⟨more', rfl, isPoint, behind⟩ := behind.of_cons_of_plain (by decide)
    have same : hasFraction ('.' :: more') = hasFraction ('.' :: more) := by
      have heads := behind.head?
      simp only [hasFraction, List.head?_cons, List.tail_cons]
      generalize more.head? = next at heads
      generalize more'.head? = next' at heads
      cases heads with
      | none => rfl
      | some alike => simp [alike.isDigit_eq]
    rw [same]
    split
    · exact ⟨rfl, .append (.cons first run) (.cons isPoint (digits behind).1), (digits behind).2⟩
    · exact integral
  · have noFraction : hasFraction tail = false := by simp [hasFraction, point]
    have noFraction' : hasFraction tail' = false := by
      simp [hasFraction, mt (behind.head?_eq_iff (d := '.') (by decide)).1 point]
    rw [noFraction, noFraction']
    exact integral

/-- A closing quote. -/
theorem content_of_quote (single : rest.head? ≠ some '\'') :
    content? ('\'' :: rest) = some ([], rest) := by
  rw [content?.eq_3, if_pos rfl]
  rintro more _ rfl
  exact single rfl

/-- A character of a string literal. -/
theorem content_of_other (other : c ≠ '\'') :
    content? (c :: rest) = (content? rest).map fun (value, more) => (c :: value, more) := by
  rw [content?.eq_3, if_neg other]
  rintro more rfl
  exact absurd rfl other

/-- What two string literals denote, with what stands behind them. -/
def Contents (f : Respelling) (x x' : List Char × List Char) : Prop :=
  f.Texts x.1 x'.1 ∧ f.Texts x.2 x'.2

/-- One more character in front of both. -/
theorem contents_cons {c' : Char} (first : f.char c c')
    {found found' : Option (List Char × List Char)} (h : Option.Rel f.Contents found found') :
    Option.Rel f.Contents (found.map fun (value, more) => (c :: value, more))
      (found'.map fun (value, more) => (c' :: value, more)) := by
  cases h with
  | none => exact .none
  | some same => exact .some ⟨.cons first same.1, same.2⟩

/-- **The content of a string literal** is read alike. -/
theorem Texts.content (h : f.Texts text text') :
    Option.Rel f.Contents (content? text) (content? text') := by
  fun_induction content? text generalizing text' with
  | case1 =>
    cases h
    exact .none
  | case2 rest ih =>
    obtain ⟨_, rfl, first, others⟩ := h.of_cons_of_plain (by decide)
    obtain ⟨_, rfl, second, others⟩ := others.of_cons_of_plain (by decide)
    exact contents_cons second (ih others)
  | case3 rest noQuote =>
    obtain ⟨rest', rfl, first, others⟩ := h.of_cons_of_plain (by decide)
    rw [content_of_quote]
    · exact .some ⟨.nil, others⟩
    · intro quote
      obtain ⟨more, rfl⟩ := List.head?_eq_some_iff.1 ((others.head?_eq_iff (by decide)).1 quote)
      exact noQuote more rfl rfl
  | case4 c rest _ noQuote ih =>
    rcases h.of_cons with ⟨c', rest', rfl, first, others⟩ | ⟨more, rfl, rfl, joins, others⟩
    · rw [content_of_other (mt ((f.alike first).eq_iff (by decide)).1 noQuote)]
      exact contents_cons first (ih others)
    · -- the literal goes on with the newline that the dropped character stands before
      have same := ih others
      rw [content_of_other (by decide)] at same ⊢
      generalize content? more = found at same
      generalize content? text' = found' at same
      cases found with
      | none =>
        cases same
        exact .none
      | some x =>
        obtain ⟨value, behind⟩ := x
        cases same with
        | some same => exact .some ⟨.join joins same.1, same.2⟩

/-- Which mark of two characters there is, is told alike. -/
theorem ofMarks?_eq {d d' : Char} (h : ReadAlike d d') (c : Char) :
    Kind.ofMarks? c d' = Kind.ofMarks? c d := by
  have none_of (d : Char) (notGreater : d ≠ '>') (notEqual : d ≠ '=') : Kind.ofMarks? c d = none := by
    unfold Kind.ofMarks?
    split <;> first | rfl | exact absurd rfl notGreater | exact absurd rfl notEqual
  by_cases greater : d = '>'
  · rw [(h.eq_iff (by decide)).2 greater, greater]
  by_cases equal : d = '='
  · rw [(h.eq_iff (by decide)).2 equal, equal]
  rw [none_of d greater equal, none_of d' (mt (h.eq_iff (by decide)).1 greater)
    (mt (h.eq_iff (by decide)).1 equal)]

/-- The second character of a mark is only read like itself. -/
theorem plain_of_ofMarks? {c d : Char} {kind : Kind} (found : Kind.ofMarks? c d = some kind) :
    Plain d := by
  unfold Kind.ofMarks? at found
  split at found <;> first | decide | exact absurd found (by simp)

/-- A mark of one character in front of respelled texts. -/
theorem lexemes_single (first : f.char c c) {rest' : List Char} (others : f.Texts rest rest') :
    Option.Rel f.Lexemes ((Kind.ofMark? c).map fun kind => ⟨kind, [c], rest⟩)
      ((Kind.ofMark? c).map fun kind => ⟨kind, [c], rest'⟩) := by
  cases Kind.ofMark? c with
  | none => exact .none
  | some kind => exact .some ⟨rfl, .cons first .nil, others⟩

/-- **A mark** is read alike. -/
theorem lexemes_mark (first : f.char c c) {rest' : List Char} (others : f.Texts rest rest') :
    Option.Rel f.Lexemes (mark? c rest) (mark? c rest') := by
  have single := lexemes_single first others
  have heads := others.head?
  unfold mark?
  rcases rest with - | ⟨d, more⟩
  · obtain rfl := others.eq_nil_iff.2 rfl
    exact single
  · rcases rest' with - | ⟨d', more'⟩
    · exact absurd (others.eq_nil_iff.1 rfl) (by simp)
    · cases heads with
      | some alike =>
        dsimp only
        rw [ofMarks?_eq alike]
        cases found : Kind.ofMarks? c d with
        | none => exact single
        | some kind =>
          obtain ⟨_, same, second, others⟩ := others.of_cons_of_plain (plain_of_ofMarks? found)
          obtain ⟨rfl, rfl⟩ := List.cons.inj same
          exact .some ⟨rfl, .cons first (.cons second .nil), others⟩

/-- No mark is a string literal. -/
theorem ne_text_of_mark {l : Lexeme} (found : mark? c rest = some l) : l.kind ≠ .text := by
  have listed {spelled : String} {kind : Kind} (h : (spelled, kind) ∈ Kind.marks) :
      kind ≠ .text := by
    have all : ∀ entry ∈ Kind.marks, entry.2 ≠ .text := by decide
    exact all _ h
  have single (found : (Kind.ofMark? c).map (fun kind => (⟨kind, [c], rest⟩ : Lexeme)) = some l) :
      l.kind ≠ .text := by
    obtain ⟨kind, isMark, rfl⟩ := Option.map_eq_some_iff.1 found
    exact listed (Kind.mem_marks_of_mark isMark)
  unfold mark? at found
  split at found
  · exact single found
  · split at found
    · rename_i isMark
      obtain rfl := Option.some.inj found
      exact listed (Kind.mem_marks_of_marks isMark)
    · exact single found

/-- **Two lexemes that are read, or the same cause why there is none**, met at the same
character. -/
inductive Reads (f : Respelling) (c c' : Char) :
    (first second : Except LexicalCause Lexeme) → Prop where
  | ok {l l' : Lexeme} (lexemes : f.Lexemes l l') (spelling : f.Texts l.spelling l'.spelling) :
      Reads f c c' (.ok l) (.ok l')
  | error (cause : LexicalCause) (same : c' = c) : Reads f c c' (.error cause) (.error cause)

/-- **A lexeme is read alike** where no layout starts. -/
theorem reads {c' : Char} {rest' : List Char} (first : f.char c c') (others : f.Texts rest rest')
    (notBlank : isBlank c = false) :
    f.Reads c c' (Lexeme.read c rest) (Lexeme.read c' rest') := by
  have alike := f.alike first
  -- only string literals have quotes, and they begin with one
  have plain {l l' : Lexeme} (same : f.Lexemes l l') (notText : l.kind ≠ .text) :
      f.Reads c c' (.ok l) (.ok l') := by
    refine .ok same ?_
    rw [Lexeme.spelling, Lexeme.spelling, spell, spell, same.kind, if_neg notText, if_neg notText]
    exact same.value
  unfold Lexeme.read
  rw [alike.isDigit_eq, alike.startsWord_eq]
  by_cases digit : isDigit c = true
  · rw [if_pos digit, if_pos digit]
    refine plain (lexemes_number first others) ?_
    rw [number_eq]
    dsimp only
    split <;> simp
  rw [if_neg digit, if_neg digit]
  by_cases quote : c = '\''
  · have quote' := (alike.eq_iff (by decide)).2 quote
    rw [if_pos quote, if_pos quote']
    have quotes : f.char '\'' '\'' := by rwa [quote, quote'] at first
    have contents := others.content
    generalize content? rest = found at contents
    generalize content? rest' = found' at contents
    cases contents with
    | none => exact .error .unterminated (quote'.trans quote.symm)
    | @some x x' same =>
      have lexemes : f.Lexemes ⟨.text, x.1, x.2⟩ ⟨.text, x'.1, x'.2⟩ := ⟨rfl, same.1, same.2⟩
      exact .ok lexemes (lexemes.spelling quotes)
  rw [if_neg quote, if_neg (mt (alike.eq_iff (by decide)).1 quote)]
  by_cases starts : startsWord c = true
  · rw [if_pos starts, if_pos starts]
    exact plain (lexemes_word first others starts) (ofWord_ne_text _)
  rw [if_neg starts, if_neg starts]
  obtain rfl := alike.eq_of_not_startsWord notBlank (Bool.eq_false_iff.2 starts)
  have marks := lexemes_mark first others
  cases found : mark? c' rest with
  | none =>
    rw [found] at marks
    generalize mark? c' rest' = found' at marks
    cases marks
    exact .error _ rfl
  | some l =>
    rw [found] at marks
    generalize mark? c' rest' = found' at marks
    cases marks with
    | some same => exact plain same (ne_text_of_mark found)

/-! ## Tokens -/

/-- **Two tokens** of the same kind have respelled values and stand at positions that
correspond. -/
structure Tokens (f : Respelling) (t t' : Token) : Prop where
  /-- The kind is the same. -/
  kind : t'.kind = t.kind
  /-- The value is respelled. -/
  value : f.Texts t.value.toList t'.value.toList
  /-- Where they begin. -/
  start : Option.Rel f.places t.start t'.start
  /-- Where they end. -/
  stop : Option.Rel f.places t.stop t'.stop

/-- **The same lexical fault** is met at positions that correspond. -/
inductive Faults (f : Respelling) : Fault → Fault → Prop where
  | lexical (cause : LexicalCause) (found : String) {p p' : Position} (places : f.places p p') :
      Faults f (.lexical cause found p) (.lexical cause found p')

/-- **What two readers find in front of them.** -/
inductive Finds (f : Respelling) : (first second : Except Fault Token × Cursor) → Prop where
  | ok {t t' : Token} {x x' : Cursor} (tokens : f.Tokens t t') (behind : f.Cursors x x') :
      Finds f (.ok t, x) (.ok t', x')
  | error {fault fault' : Fault} {x x' : Cursor} (faults : f.Faults fault fault') :
      Finds f (.error fault, x) (.error fault', x')

/-- The ends of the input at positions that correspond. -/
theorem tokens_endAt (places : f.places p p') : f.Tokens (.endAt (some p)) (.endAt (some p')) :=
  ⟨rfl, .nil, .some places, .some places⟩

variable {x x' : Cursor}

/-- **The next token** is read alike. -/
theorem Cursors.next (h : f.Cursors x x') : f.Finds x.next x'.next := by
  have skipped : f.Cursors x.skipLayout x'.skipLayout := h.rest.skip .outside h.places
  have clear : Layout.Clear x.skipLayout.rest := Layout.clear_skip ..
  unfold Cursor.next
  generalize x.skipLayout = y at skipped clear
  generalize x'.skipLayout = y' at skipped
  obtain ⟨text, p⟩ := y
  obtain ⟨text', p'⟩ := y'
  obtain ⟨texts, places⟩ := skipped
  cases texts with
  | nil => exact .ok (tokens_endAt places) ⟨.nil, places⟩
  | join => exact absurd clear.1 (by decide)
  | @cons c c' rest rest' first others =>
    have same := reads first others clear.1
    unfold Cursor.take
    dsimp only at *
    generalize Lexeme.read c rest = found at same
    generalize Lexeme.read c' rest' = found' at same
    cases same with
    | ok lexemes spelling =>
      refine .ok ⟨lexemes.kind, ?_, .some places, .some (spelling.afterAll places)⟩
        ⟨lexemes.rest, spelling.afterAll places⟩
      simpa only [Cursor.tokenOf, String.toList_ofList] using lexemes.value
    | error cause same =>
      obtain rfl := same
      exact .error (.lexical _ _ places)

/-- Corresponding tokens are the end of the input together. -/
theorem Tokens.isEnd_eq {t t' : Token} (h : f.Tokens t t') : t'.isEnd = t.isEnd := by
  rw [Token.isEnd, Token.isEnd, h.kind]

/-- **All tokens** are read alike, and so is the fault behind them. -/
theorem Cursors.readAll (h : f.Cursors x x') :
    List.Forall₂ f.Tokens x.readAll.tokens x'.readAll.tokens ∧
      Option.Rel f.Faults x.readAll.fault x'.readAll.fault := by
  induction x using Cursor.readAll.induct generalizing x' with
  | case1 x fault after read =>
    have found := h.next
    generalize read' : x'.next = second at found
    rw [read] at found
    cases found with
    | error faults =>
      rw [Cursor.readAll_of_error read, Cursor.readAll_of_error read']
      exact ⟨.nil, .some faults⟩
  | case2 x t after read last =>
    have found := h.next
    generalize read' : x'.next = second at found
    rw [read] at found
    cases found with
    | ok tokens _ =>
      rw [Cursor.readAll_of_end read last,
        Cursor.readAll_of_end read' (tokens.isEnd_eq.trans last)]
      exact ⟨.cons tokens .nil, .none⟩
  | case3 x t after read notLast _ ih =>
    have found := h.next
    generalize read' : x'.next = second at found
    rw [read] at found
    cases found with
    | ok tokens behind =>
      rw [Cursor.readAll_of_more read notLast,
        Cursor.readAll_of_more read' (by rwa [tokens.isEnd_eq])]
      obtain ⟨others, faults⟩ := ih behind
      exact ⟨.cons tokens others, faults⟩

/-- **Reading a respelled text** yields corresponding tokens, and the same fault. -/
theorem readAll {a b : String} (h : f.Texts a.toList b.toList) :
    List.Forall₂ f.Tokens (Cursor.ofText a).readAll.tokens (Cursor.ofText b).readAll.tokens ∧
      Option.Rel f.Faults (Cursor.ofText a).readAll.fault (Cursor.ofText b).readAll.fault :=
  Cursors.readAll ⟨h, f.start⟩

end Respelling

end PascalFront
