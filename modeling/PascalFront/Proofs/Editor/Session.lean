import PascalFront.Editor.Session
import PascalFront.Proofs.Editor.Documents
/-!
# What a session knows and what an editor shows

Whatever messages came before, in whatever order and about whatever documents, the documents of
a session are told by the history alone: a document is open just when the last message that
gave it a text came after the last one that closed it, and then it is what that text is analysed
to be (`Session.documents_latest`).

What an editor shows is told by the history too, but by less of it: the notices about the text
that was given last, whether the document has been closed since or not. As long as a document is
open that is what the session holds (`Session.shown_latest`). Once it is closed the notices stay,
since closing publishes nothing (`Session.not_shown_nothing_of_closed`).
-/

namespace PascalFront.Editor

namespace Message

/-- **The text that a message gives to a document**: the one it is opened with, or the last of
those it is changed to. -/
def text? (uri : String) : Message → Option String
  | opened name text => if name = uri then some text else none
  | changed name texts => if name = uri then some (texts.getLast?.getD "") else none
  | closed _ | outline _ | completion _ => none

/-- The document that a message makes of that text. There is none if the text has a fault
outside of the editor's numbers. -/
def document? (uri : String) (m : Message) : Option Document :=
  (m.text? uri).bind (Document.analyse? uri)

/-- **A message leaves a document as it is**: it does not close it, and makes no other one of
it. -/
def Leaves (uri : String) (m : Message) : Prop := m ≠ .closed uri ∧ m.document? uri = none

variable {uri : String} {m : Message}

/-- A message about another document gives no text to this one. -/
theorem document?_of_ne (other : m.uri ≠ uri) : m.document? uri = none := by
  have none_ : m.text? uri = none := by
    cases m with
    | opened name text => exact if_neg other
    | changed name texts => exact if_neg other
    | closed | outline | completion => rfl
  rw [document?, none_]
  rfl

/-- A message about another document leaves this one as it is. -/
theorem leaves_of_ne (other : m.uri ≠ uri) : m.Leaves uri := by
  refine ⟨?_, document?_of_ne other⟩
  rintro rfl
  exact other rfl

end Message

namespace Session

open Message

variable {ms : List Message} {uri : String}

/-! ## One message -/

/-- Taking in a text replaces the document with that name, if it can be analysed. -/
theorem get?_publish_open? (s : Session) (name text uri : String) :
    (s.publish name (s.docs.open? name text)).2.docs.get? uri =
      ((if name = uri then some text else none).bind (Document.analyse? uri)).or
        (s.docs.get? uri) := by
  by_cases same : name = uri
  · subst same
    rw [if_pos rfl, Option.bind_some]
    cases analysed : Document.analyse? name text with
    | none => simp [Documents.open?, analysed, publish]
    | some d => simp [Documents.open?_of_analyse? _ analysed, publish]
  · rw [if_neg same, Option.bind_none, Option.none_or]
    cases analysed : Document.analyse? name text with
    | none => simp [Documents.open?, analysed, publish]
    | some d =>
      rw [Documents.open?_of_analyse? _ analysed]
      exact Documents.get?_put_of_ne _ _ (Ne.symm same)

/-- **What a message does to a document**: it closes it, or makes another one of it, or leaves it
as it is. -/
theorem get?_handle (s : Session) (m : Message) (uri : String) :
    (s.handle m).2.docs.get? uri =
      if m = .closed uri then none else (m.document? uri).or (s.docs.get? uri) := by
  cases m with
  | opened name text =>
    rw [if_neg (by simp)]
    exact s.get?_publish_open? name text uri
  | changed name texts =>
    rw [if_neg (by simp)]
    exact s.get?_publish_open? name (texts.getLast?.getD "") uri
  | closed name =>
    by_cases same : name = uri
    · subst same
      rw [if_pos rfl]
      exact Documents.get?_close_self ..
    · rw [if_neg (by simpa using same)]
      exact Documents.get?_close_of_ne _ (Ne.symm same)
  | outline | completion => rw [if_neg (by simp)]; rfl

/-- Taking in a text publishes the notices about it, if it can be analysed. -/
theorem shown_publish_open? (s : Session) (name text uri : String) :
    (s.publish name (s.docs.open? name text)).2.shown uri =
      (((if name = uri then some text else none).bind (Document.analyse? uri)).map
        Document.notices).getD (s.shown uri) := by
  by_cases same : name = uri
  · subst same
    rw [if_pos rfl, Option.bind_some]
    cases analysed : Document.analyse? name text with
    | none => simp [Documents.open?, analysed, publish]
    | some d => simp [Documents.open?_of_analyse? _ analysed, publish, shown]
  · rw [if_neg same]
    cases analysed : Document.analyse? name text with
    | none => simp [Documents.open?, analysed, publish]
    | some d =>
      have differs : (uri == name) = false := beq_eq_false_iff_ne.2 (Ne.symm same)
      simp [Documents.open?_of_analyse? _ analysed, publish, shown, List.lookup_cons, differs]

/-- **What a message does to what is shown**: the notices about a document that it makes take the
place of those before. Closing a document leaves them. -/
theorem shown_handle (s : Session) (m : Message) (uri : String) :
    (s.handle m).2.shown uri =
      ((m.document? uri).map Document.notices).getD (s.shown uri) := by
  cases m with
  | opened name text => exact s.shown_publish_open? name text uri
  | changed name texts => exact s.shown_publish_open? name (texts.getLast?.getD "") uri
  | closed | outline | completion => rfl

/-! ## A history of messages -/

theorem handleAll_concat (s : Session) (ms : List Message) (m : Message) :
    s.handleAll (ms ++ [m]) = ((s.handleAll ms).handle m).2 := by
  rw [handleAll, List.foldl_append]
  rfl

/-- A document that has just been closed is not open. -/
theorem get?_handleAll_closed (ms : List Message) (uri : String) :
    (start.handleAll (ms ++ [.closed uri])).docs.get? uri = none := by
  rw [handleAll_concat, get?_handle, if_pos rfl]

/-- **The document that a history ends with**: some message gave the text, and all messages
behind it leave the document as it is. -/
def EndsWith (uri : String) (ms : List Message) (d : Document) : Prop :=
  ∃ before m behind, ms = before ++ m :: behind ∧ m.document? uri = some d ∧
    ∀ m' ∈ behind, m'.Leaves uri

/-- One message more makes a document, or leaves the one before. -/
theorem endsWith_concat {m : Message} {d : Document} :
    EndsWith uri (ms ++ [m]) d ↔
      m.document? uri = some d ∨ m.Leaves uri ∧ EndsWith uri ms d := by
  constructor
  · rintro ⟨before, m', behind, split, given, leave⟩
    rcases List.eq_nil_or_concat' behind with rfl | ⟨others, last, rfl⟩
    · obtain ⟨rfl, same⟩ := List.append_inj' split rfl
      exact .inl ((List.cons.inj same).1 ▸ given)
    · rw [← List.cons_append, ← List.append_assoc] at split
      obtain ⟨rfl, same⟩ := List.append_inj' split rfl
      obtain rfl := (List.cons.inj same).1
      exact .inr ⟨leave _ (by simp), before, m', others, rfl, given,
        fun m' listed => leave m' (List.mem_append_left _ listed)⟩
  · rintro (given | ⟨leaves, before, m', behind, rfl, given, leave⟩)
    · exact ⟨ms, m, [], rfl, given, by simp⟩
    · refine ⟨before, m', behind ++ [m], by simp, given, fun m'' listed => ?_⟩
      rcases List.mem_append.1 listed with listed | listed
      · exact leave m'' listed
      · exact List.mem_singleton.1 listed ▸ leaves

/-- **An open document is the one that the history ends with.** -/
theorem get?_handleAll (ms : List Message) (uri : String) (d : Document) :
    (start.handleAll ms).docs.get? uri = some d ↔ EndsWith uri ms d := by
  induction ms using List.reverseRecOn with
  | nil =>
    constructor
    · intro found
      exact absurd found (by simp [start, handleAll, Documents.empty, Documents.get?])
    · rintro ⟨before, m, behind, split, -⟩
      simp at split
  | append_singleton ms m ih =>
    rw [handleAll_concat, get?_handle, endsWith_concat, ← ih]
    by_cases closes : m = .closed uri
    · subst closes
      have none_ : (Message.closed uri).document? uri = none := rfl
      simp [none_, Leaves]
    · rw [if_neg closes]
      cases given : m.document? uri with
      | none => simp [Leaves, closes, given]
      | some d' => simp [Leaves, given]

/-- The document that was made last, whether it has been closed since or not. -/
def lastMade? (uri : String) (ms : List Message) : Option Document :=
  ms.reverse.findSome? (·.document? uri)

theorem lastMade?_concat (uri : String) (ms : List Message) (m : Message) :
    lastMade? uri (ms ++ [m]) = (m.document? uri).or (lastMade? uri ms) := by
  rw [lastMade?, List.reverse_append, List.reverse_singleton, List.singleton_append,
    List.findSome?_cons]
  cases m.document? uri <;> rfl

/-- **The notices shown are those about the document that was made last.** -/
theorem shown_handleAll (ms : List Message) (uri : String) :
    (start.handleAll ms).shown uri =
      ((lastMade? uri ms).map Document.notices).getD [] := by
  induction ms using List.reverseRecOn with
  | nil => rfl
  | append_singleton ms m ih =>
    rw [handleAll_concat, shown_handle, ih, lastMade?_concat]
    cases m.document? uri <;> rfl

/-- The document that a history ends with was made last. -/
theorem EndsWith.lastMade? {d : Document} (h : EndsWith uri ms d) :
    lastMade? uri ms = some d := by
  obtain ⟨before, m, behind, rfl, given, leave⟩ := h
  rw [Session.lastMade?, List.reverse_append, List.reverse_cons, List.findSome?_append,
    List.findSome?_append, List.findSome?_eq_none_iff.2 fun m' listed =>
      (leave m' (List.mem_reverse.1 listed)).2]
  simp [given]

/-- **Messages about other documents do not matter.** -/
theorem get?_handleAll_filter (ms : List Message) (uri : String) :
    (start.handleAll (ms.filter (·.uri = uri))).docs.get? uri =
      (start.handleAll ms).docs.get? uri := by
  induction ms using List.reverseRecOn with
  | nil => rfl
  | append_singleton ms m ih =>
    rw [List.filter_append, handleAll_concat, get?_handle]
    by_cases about : m.uri = uri
    · rw [List.filter_cons_of_pos (by simpa using about), List.filter_nil, handleAll_concat,
        get?_handle, ih]
    · obtain ⟨notClosed, none_⟩ := leaves_of_ne about
      rw [List.filter_cons_of_neg (by simpa using about), List.filter_nil, List.append_nil, ih,
        if_neg notClosed, none_, Option.none_or]

/-! ## What a session knows -/

/-- The answer to the wish for an outline depends on the document alone. -/
theorem handle_outline (s : Session) (uri : String) :
    (s.handle (.outline uri)).1 =
      match (s.docs.get? uri).bind Document.program? with
      | none => .outline none
      | some p => .ofOutline? (Symbol.ofProgram? p) := rfl

/-- **The documents of a session are those of its history.** A document is open just when some
message gave it a text and no later one closed it or gave it another; it holds that text. If
reading the text gives a program, it holds this and no notice. If reading it gives a fault, it
holds no program and one notice: an error with the code of the fault, its message behind the
code, and the range of what is wrong. Its outline is that of the program, and there is none if
there is no program or no open document. Messages about other documents do not matter. Only a
text that is too long for an editor may be passed over. -/
theorem documents_latest (ms : List Message) (uri : String) :
    (∀ d, (start.handleAll ms).docs.get? uri = some d ↔ EndsWith uri ms d) ∧
    (∀ d, EndsWith uri ms d →
      (∃ p, Program.ofText d.text = .ok p ∧ d.program? = some p ∧ d.notices = [] ∧
        ((start.handleAll ms).handle (.outline uri)).1 = .ofOutline? (Symbol.ofProgram? p) ∧
        (d.text.length ≤ maxCoordinate →
          ∃ root, Symbol.ofProgram? p = some root ∧ root.Outlines p)) ∨
      ∃ fault notice, Program.ofText d.text = .error fault ∧ d.program? = none ∧
        d.notices = [notice] ∧ Notice.ofFault? fault uri = some notice ∧
        notice.severity = .error ∧ notice.code = fault.code ∧
        notice.message = s!"[{fault.code}] {fault.message}" ∧
        notice.range.Valid ∧ Covers d.text notice.range fault ∧
        ((start.handleAll ms).handle (.outline uri)).1 = .outline none) ∧
    ((∀ d, ¬ EndsWith uri ms d) → ((start.handleAll ms).handle (.outline uri)).1 = .outline none) ∧
    ((start.handleAll (ms.filter (·.uri = uri))).docs.get? uri =
        (start.handleAll ms).docs.get? uri ∧
      ((start.handleAll (ms.filter (·.uri = uri))).handle (.outline uri)).1 =
        ((start.handleAll ms).handle (.outline uri)).1) ∧
    (∀ (m : Message) d, m.document? uri = some d → m.text? uri = some d.text) ∧
    ∀ (m : Message) text, m.text? uri = some text → text.length ≤ maxCoordinate →
      ∃ d, m.document? uri = some d ∧ d.text = text := by
  refine ⟨get?_handleAll ms uri, fun d ends => ?_, fun absent => ?_, ?_, ?_, ?_⟩
  · have found := (get?_handleAll ms uri d).2 ends
    obtain ⟨-, m, -, -, given, -⟩ := ends
    obtain ⟨text, -, analysed⟩ := Option.bind_eq_some_iff.1 given
    rw [handle_outline, found, Option.bind_some]
    obtain ⟨rfl, ⟨p, accepted, program, silent⟩ |
        ⟨fault, notice, refused, told, tells, noProgram, notices⟩⟩ := Document.of_analyse? analysed
    · refine .inl ⟨p, accepted, program, silent, by rw [program], fun short => ?_⟩
      exact Symbol.exists_ofProgram? p (Symbol.ranged_program short accepted)
    · exact .inr ⟨fault, notice, refused, noProgram, notices, told, tells.severity, tells.code,
        tells.message, tells.valid, tells.covers, by rw [noProgram]⟩
  · have none_ : (start.handleAll ms).docs.get? uri = none :=
      Option.eq_none_iff_forall_not_mem.2 fun d found =>
        absent d ((get?_handleAll ms uri d).1 found)
    rw [handle_outline, none_]
    rfl
  · have same := get?_handleAll_filter ms uri
    exact ⟨same, by rw [handle_outline, handle_outline, same]⟩
  · intro m d given
    obtain ⟨text, gives, analysed⟩ := Option.bind_eq_some_iff.1 given
    rw [gives, (Document.of_analyse? analysed).1]
  · intro m text gives short
    obtain ⟨d, analysed⟩ := Document.exists_analyse? uri short
    refine ⟨d, ?_, (Document.of_analyse? analysed).1⟩
    rw [document?, gives]
    exact analysed

/-- Three documents at once: the first is broken and then mended, the second the other way
round, and the third is broken and closed. -/
def interleaved : List Message :=
  [.opened "a.pas" "?", .opened "b.pas" "program p; begin end.",
    .changed "a.pas" ["", "program q; begin end."], .outline "a.pas", .changed "b.pas" ["?"],
    .opened "c.pas" "?", .closed "c.pas"]

/-- The history ends with the mended text of the first document. -/
theorem exists_endsWith_interleaved :
    ∃ d, EndsWith "a.pas" interleaved d ∧ d.text = "program q; begin end." := by
  have short : "program q; begin end.".length ≤ maxCoordinate := by decide
  obtain ⟨d, analysed⟩ := Document.exists_analyse? "a.pas" short
  refine ⟨d, ⟨interleaved.take 2, .changed "a.pas" ["", "program q; begin end."],
    interleaved.drop 3, rfl, analysed, fun m listed => ?_⟩, (Document.of_analyse? analysed).1⟩
  simp only [interleaved, List.drop_succ_cons, List.drop_zero, List.mem_cons,
    List.not_mem_nil, or_false] at listed
  rcases listed with rfl | rfl | rfl | rfl
  · exact ⟨by simp, rfl⟩
  all_goals exact leaves_of_ne (by decide)

/-- It ends with the broken text of the second one. -/
theorem exists_endsWith_broken :
    ∃ d, EndsWith "b.pas" interleaved d ∧ d.text = "?" := by
  have short : "?".length ≤ maxCoordinate := by decide
  obtain ⟨d, analysed⟩ := Document.exists_analyse? "b.pas" short
  refine ⟨d, ⟨interleaved.take 4, .changed "b.pas" ["?"], interleaved.drop 5, rfl, analysed,
    fun m listed => ?_⟩, (Document.of_analyse? analysed).1⟩
  simp only [interleaved, List.drop_succ_cons, List.drop_zero, List.mem_cons,
    List.not_mem_nil, or_false] at listed
  rcases listed with rfl | rfl
  all_goals exact leaves_of_ne (by decide)

/-- The first document is what the session holds, and it has an outline. The second one has a
notice instead. -/
theorem documents_latest_interleaved :
    (∃ d p root, EndsWith "a.pas" interleaved d ∧
      (start.handleAll interleaved).docs.get? "a.pas" = some d ∧
      Program.ofText "program q; begin end." = .ok p ∧ root.Outlines p ∧
      ((start.handleAll interleaved).handle (.outline "a.pas")).1 = .outline (some root)) ∧
    ∃ d notice, (start.handleAll interleaved).docs.get? "b.pas" = some d ∧
      d.program? = none ∧ d.notices = [notice] ∧ notice.code = "E100" ∧
      notice.message = "[E100] Unexpected character '?'" ∧
      ((start.handleAll interleaved).handle (.outline "b.pas")).1 = .outline none := by
  constructor
  · obtain ⟨d, ends, text⟩ := exists_endsWith_interleaved
    obtain ⟨found, holds, -⟩ := documents_latest interleaved "a.pas"
    rcases holds d ends with ⟨p, accepted, -, -, reply, outlined⟩ | ⟨fault, -, refused, -⟩
    · obtain ⟨root, shown, outlines⟩ := outlined (by rw [text]; decide)
      rw [text] at accepted
      rw [shown] at reply
      exact ⟨d, p, root, ends, (found d).2 ends, accepted, outlines, reply⟩
    · rw [text] at refused
      have accepted : (Program.ofText "program q; begin end.").isOk = true := by decide +kernel
      rw [refused] at accepted
      exact absurd accepted Bool.false_ne_true
  · obtain ⟨d, ends, text⟩ := exists_endsWith_broken
    obtain ⟨found, holds, -⟩ := documents_latest interleaved "b.pas"
    have unexpected : Program.ofText "?" = .error (.lexical (.unexpected '?') "?" ⟨1, 1, 0⟩) :=
      Program.eq_error_of_fault? (by decide +kernel)
    rcases holds d ends with ⟨p, accepted, -⟩ |
      ⟨fault, notice, refused, noProgram, notices, -, -, code, message, -, -, reply⟩
    · rw [text, unexpected] at accepted
      exact absurd accepted (by simp)
    · rw [text] at refused
      obtain rfl := Except.error.inj (unexpected.symm.trans refused)
      exact ⟨d, notice, (found d).2 ends, noProgram, notices, code, message, reply⟩

/-! ## What an editor shows -/

/-- **The notices shown are those about the text that was given last.** While a document is open
that is the text it holds. Closing it changes nothing. -/
theorem shown_latest (ms : List Message) (uri : String) :
    (∀ d, (start.handleAll ms).docs.get? uri = some d →
      EndsWith uri ms d ∧ (start.handleAll ms).shown uri = d.notices) ∧
    (start.handleAll ms).shown uri = ((lastMade? uri ms).map Document.notices).getD [] := by
  refine ⟨fun d found => ?_, shown_handleAll ms uri⟩
  have ends := (get?_handleAll ms uri d).1 found
  refine ⟨ends, ?_⟩
  rw [shown_handleAll, ends.lastMade?]
  rfl

/-- The first document is open and shown as it is held; the third one is closed, but the notice
about its text is still shown. -/
theorem shown_latest_interleaved :
    (∃ d, (start.handleAll interleaved).docs.get? "a.pas" = some d ∧
      (start.handleAll interleaved).shown "a.pas" = d.notices) ∧
    (start.handleAll interleaved).docs.get? "c.pas" = none ∧
    ((start.handleAll interleaved).shown "c.pas").map Notice.message =
      ["[E100] Unexpected character '?'"] := by
  obtain ⟨d, ends, -⟩ := exists_endsWith_interleaved
  have found := (get?_handleAll interleaved "a.pas" d).2 ends
  refine ⟨⟨d, found, ((shown_latest interleaved "a.pas").1 d found).2⟩,
    get?_handleAll_closed (interleaved.take 6) "c.pas", ?_⟩
  rw [(shown_latest interleaved "c.pas").2]
  decide +kernel

/-- **Closing a document does not take back what is shown about it.** So what an editor shows is
not always empty for a document that is not open. -/
theorem not_shown_nothing_of_closed :
    ¬ ∀ (ms : List Message) (uri : String),
      (∀ d, (start.handleAll ms).docs.get? uri = some d →
        (start.handleAll ms).shown uri = d.notices) ∧
      ((start.handleAll ms).docs.get? uri = none → (start.handleAll ms).shown uri = []) := by
  intro inStep
  have shown := (inStep [.opened "a.pas" "?", .closed "a.pas"] "a.pas").2
    (get?_handleAll_closed [.opened "a.pas" "?"] "a.pas")
  exact absurd shown (by decide +kernel)

end Session

end PascalFront.Editor
