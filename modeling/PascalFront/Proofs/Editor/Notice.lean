import PascalFront.Editor.Documents
import PascalFront.Proofs.Editor.Range
import PascalFront.Proofs.Grammar.Lazy
import PascalFront.Proofs.Token.Requests
/-!
# Notices about a text

What is wrong with a text is a token that does not fit, the end of the input, or a character
that starts no token. The range of the notice covers just that (`Editor.Covers`): the token
from its first character to behind its last, nothing at the end of the text, or one character
of one line. In a text that is not too long for an editor there always is such a range
(`exists_range`), so that a document can always be analysed (`Document.exists_analyse?`). What
is known about it then is its program, or one notice that tells what is wrong
(`Document.of_analyse?`).
-/

namespace PascalFront.Editor

/-- **A range covers what is wrong with a text.** -/
inductive Covers (text : String) : Range → Fault → Prop where
  /-- A token that lies on a piece of the text. -/
  | token {complaint : Complaint} {t : Token} {first last : Nat}
      (listed : t ∈ (Cursor.ofText text).readAll.tokens) (lies : t.LiesOn text.toList first last) :
      Covers text (.inText text.toList first last) (.grammatical complaint (some t.span))
  /-- The end of the input. -/
  | ending {complaint : Complaint} {t : Token}
      (listed : t ∈ (Cursor.ofText text).readAll.tokens) (last : t.isEnd) :
      Covers text (.inText text.toList text.toList.length text.toList.length)
        (.grammatical complaint (some t.span))
  /-- A character on a line. -/
  | character {cause : LexicalCause} {c : Char} {place line character : Nat}
      (here : text.toList[place]? = some c)
      (is : Place.inText text.toList place = ⟨line, character⟩)
      (met : (Cursor.ofText text).readAll.fault =
        some (.lexical cause (String.singleton c) (.inText text.toList place))) :
      Covers text ⟨⟨line, character⟩, ⟨line, character + 1⟩⟩
        (.lexical cause (String.singleton c) (.inText text.toList place))

variable {text : String} {fault : Fault}

/-- A span of one character on one line has a range of one character on one line. -/
theorem Range.inText_succ {text : List Char} {place : Nat} {c : Char}
    (here : text[place]? = some c)
    (oneLine : (Position.inText text (place + 1)).line = (Position.inText text place).line) :
    Range.inText text place (place + 1) =
      ⟨.inText text place,
        ⟨(Place.inText text place).line, (Place.inText text place).character + 1⟩⟩ := by
  have other : c ≠ '\n' := by
    rintro rfl
    rw [Position.inText_succ here, Position.after, if_pos rfl] at oneLine
    dsimp only at oneLine
    omega
  rw [Range.inText, Place.inText_succ here, if_neg other]

/-- **What is wrong with a text stands between two places of it.** A token stands on a piece of
the text, the end of the input behind all of it, and a character is one of its characters. -/
inductive Offends (text : String) : Fault → (first last : Nat) → Prop where
  /-- A token that lies on a piece of the text. -/
  | token {complaint : Complaint} {t : Token} {first last : Nat}
      (listed : t ∈ (Cursor.ofText text).readAll.tokens) (lies : t.LiesOn text.toList first last) :
      Offends text (.grammatical complaint (some t.span)) first last
  /-- The end of the input. -/
  | ending {complaint : Complaint} {t : Token}
      (listed : t ∈ (Cursor.ofText text).readAll.tokens) (last : t.isEnd) :
      Offends text (.grammatical complaint (some t.span)) text.toList.length text.toList.length
  /-- A character of the text. -/
  | character {cause : LexicalCause} {c : Char} {place : Nat} (here : text.toList[place]? = some c)
      (met : (Cursor.ofText text).readAll.fault =
        some (.lexical cause (String.singleton c) (.inText text.toList place))) :
      Offends text (.lexical cause (String.singleton c) (.inText text.toList place)) place (place + 1)

/-- The places are in order, and in the text. -/
theorem Offends.bounds {first last : Nat} (h : Offends text fault first last) :
    first ≤ last ∧ last ≤ text.toList.length := by
  cases h with
  | token _ lies => exact ⟨lies.notEmpty.le, lies.within⟩
  | ending => exact ⟨le_rfl, le_rfl⟩
  | character here => exact ⟨Nat.le_succ _, (List.getElem?_eq_some_iff.1 here).1⟩

/-- **A fault of a text stands in the text.** -/
theorem exists_offends (refused : Program.ofText text = .error fault) :
    ∃ first last, Offends text fault first last := by
  have stands := Cursor.standsAt_ofText text
  rcases Program.exists_offending refused with met | ⟨complaint, t, listed, rfl⟩
  · obtain ⟨-, -, -, -, faults⟩ := stands.readAll
    obtain ⟨cause, place, c, here, rfl, -⟩ := faults _ met
    exact ⟨place, place + 1, .character here met⟩
  · cases last : t.isEnd with
    | true => exact ⟨_, _, .ending listed last⟩
    | false =>
      obtain ⟨first, final, -, lies⟩ := stands.exists_liesOn listed last
      exact ⟨first, final, .token listed lies⟩

/-- **Its span says where.** -/
theorem Offends.place? {first last : Nat} (h : Offends text fault first last) :
    fault.place? = some ⟨.inText text.toList first, .inText text.toList last⟩ := by
  have stands := Cursor.standsAt_ofText text
  cases h with
  | token _ lies => exact congrArg some lies.span
  | @ending _ t listed last =>
    have span : t.span = ⟨.inText text.toList text.toList.length,
        .inText text.toList text.toList.length⟩ := by
      rw [stands.eq_endAt listed last]
      exact Position.between_inText ..
    exact congrArg some span
  | character _ met =>
    obtain ⟨-, -, -, -, faults⟩ := stands.readAll
    obtain ⟨_, place, _, -, same, spans⟩ := faults _ met
    obtain rfl : first = place :=
      Int.ofNat.inj (congrArg Position.offset (Fault.lexical.inj same).2.2)
    exact spans

/-- The places of what is wrong are the offsets of its span. -/
theorem Offends.eq_of_place? {first last m n : Nat} {l c l' c' : Int}
    (h : Offends text fault first last)
    (spans : fault.place? = some ⟨⟨l, c, m⟩, ⟨l', c', n⟩⟩) : first = m ∧ last = n := by
  have same := Option.some.inj (h.place?.symm.trans spans)
  have start : (first : Int) = m := congrArg (·.start.offset) same
  have stop : (last : Int) = n := congrArg (·.stop.offset) same
  exact ⟨Int.ofNat.inj start, Int.ofNat.inj stop⟩

/-- The range of the piece covers what is wrong. -/
theorem Offends.covers {first last : Nat} (h : Offends text fault first last) :
    Covers text (.inText text.toList first last) fault := by
  have spans := h.place?
  cases h with
  | token listed lies => exact .token listed lies
  | ending listed isLast => exact .ending listed isLast
  | character here met =>
    have stop : Position.inText text.toList (first + 1) =
        ⟨(Position.inText text.toList first).line, (Position.inText text.toList first).column + 1,
          (Position.inText text.toList first).offset + 1⟩ :=
      (congrArg Span.stop (Option.some.inj spans)).symm
    rw [Range.inText_succ here (by rw [stop])]
    exact .character here rfl met

/-- **There is a range for the fault of a text** that is not too long. -/
theorem exists_range (short : text.length ≤ maxCoordinate)
    (refused : Program.ofText text = .error fault) :
    ∃ range, Range.ofPlace? fault.place? = some range := by
  obtain ⟨first, last, offends⟩ := exists_offends refused
  obtain ⟨ordered, within⟩ := offends.bounds
  rw [String.length_toList] at within
  rw [offends.place?]
  exact ⟨_, Range.ofSpan?_inText _ ordered (within.trans short)⟩

/-- **A notice tells what is wrong with a text**: how serious it is, its code, the words of the
fault with the code before them, and a range that covers it. -/
structure Notice.Tells (text : String) (fault : Fault) (notice : Notice) : Prop where
  /-- It is an error. -/
  severity : notice.severity = .error
  /-- The code is that of the fault. -/
  code : notice.code = fault.code
  /-- The message begins with the code. -/
  message : notice.message = s!"[{fault.code}] {fault.message}"
  /-- An editor has the numbers of the range. -/
  valid : notice.range.Valid
  /-- The range covers what is wrong. -/
  covers : Covers text notice.range fault

/-- The notice about the fault of a text, if there is one, tells what is wrong with it. -/
theorem Notice.tells_of_ofFault? {uri : String} {notice : Notice}
    (refused : Program.ofText text = .error fault) (told : ofFault? fault uri = some notice) :
    notice.Tells text fault := by
  obtain ⟨first, last, offends⟩ := exists_offends refused
  obtain ⟨range, found, told⟩ := Option.bind_eq_some_iff.1 told
  obtain rfl := Option.some.inj told
  rw [offends.place?] at found
  obtain ⟨rfl, start, stop⟩ := Range.eq_of_ofSpan? found
  have ordered := Place.inText_mono text.toList offends.bounds.1
  exact ⟨rfl, rfl, rfl, ⟨ordered, start, stop⟩, offends.covers⟩

namespace Document

variable {uri : String} {d : Document}

/-- **What is known about an analysed document**: its program and nothing else, or one notice
and no program. It is what reading the text gives. -/
theorem of_analyse? (analysed : analyse? uri text = some d) : d.text = text ∧
    ((∃ p, Program.ofText text = .ok p ∧ d.program? = some p ∧ d.notices = []) ∨
      ∃ fault notice, Program.ofText text = .error fault ∧
        Notice.ofFault? fault uri = some notice ∧ notice.Tells text fault ∧
        d.program? = none ∧ d.notices = [notice]) := by
  rw [analyse?] at analysed
  cases read : Program.ofText text with
  | ok p =>
    rw [read] at analysed
    obtain rfl := Option.some.inj analysed
    exact ⟨rfl, .inl ⟨p, rfl, rfl, rfl⟩⟩
  | error fault =>
    rw [read] at analysed
    obtain ⟨notice, told, analysed⟩ := Option.bind_eq_some_iff.1 analysed
    obtain rfl := Option.some.inj analysed
    exact ⟨rfl, .inr ⟨fault, notice, rfl, told, Notice.tells_of_ofFault? read told, rfl, rfl⟩⟩

/-- **A document with a text that is not too long** can be analysed. -/
theorem exists_analyse? (uri : String) (short : text.length ≤ maxCoordinate) :
    ∃ d, analyse? uri text = some d := by
  rw [analyse?]
  cases read : Program.ofText text with
  | ok p => exact ⟨_, rfl⟩
  | error fault =>
    obtain ⟨range, found⟩ := exists_range short read
    simp only [Notice.ofFault?, found]
    exact ⟨_, rfl⟩

end Document

end PascalFront.Editor
