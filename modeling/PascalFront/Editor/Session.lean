import PascalFront.Editor.Completion
import PascalFront.Editor.Documents
/-!
# Sessions

An editor sends one message after another, and each is dealt with before the
next one. A message that gives a document a text is answered by publishing the
notices about that text. One that leads outside of the editor's numbers cannot
be answered; it leaves everything as it was.
-/

namespace PascalFront.Editor

/-- **What an editor tells or asks.** -/
inductive Message where
  /-- A document is opened with a text. -/
  | opened (uri text : String)
  /-- A document is changed; each of the texts replaces all of it. -/
  | changed (uri : String) (texts : List String)
  /-- A document is closed. -/
  | closed (uri : String)
  /-- The outline of a document is wanted. -/
  | outline (uri : String)
  /-- Completions are wanted in a document. -/
  | completion (uri : String)
  deriving DecidableEq, Repr

/-- The document that a message is about. -/
def Message.uri : Message → String
  | opened uri _ | changed uri _ | closed uri | outline uri | completion uri => uri

/-- **What the editor gets back.** -/
inductive Reply where
  /-- The notices about a document. -/
  | published (uri : String) (notices : List Notice)
  /-- Nothing. -/
  | silence
  /-- The outline of a document, if it is open and holds a program. -/
  | outline (root : Option Symbol)
  /-- The words that may be completed. -/
  | completions (words : List Completion)
  /-- A place that the answer needs lies outside the editor's numbers. -/
  | outOfRange

/-- The answer with the outline of a program, if its places are within the editor's numbers. -/
def Reply.ofOutline? : Option Symbol → Reply
  | some root => .outline (some root)
  | none => .outOfRange

/-- **A session with an editor.** -/
structure Session where
  /-- The open documents. -/
  docs : Documents
  /-- What has been published about which document, the last first. -/
  published : List (String × List Notice)

namespace Session

/-- Before the first message. -/
def start : Session := ⟨.empty, []⟩

/-- Publishes what taking in a document has yielded. -/
def publish (s : Session) (uri : String) : Option (Documents × List Notice) → Reply × Session
  | some (docs, notices) => (.published uri notices, ⟨docs, (uri, notices) :: s.published⟩)
  | none => (.outOfRange, s)

/-- The answer to the wish for an outline. -/
def outlineOf (s : Session) (uri : String) : Reply :=
  match s.docs.program? uri with
  | none => .outline none
  | some p => .ofOutline? (Symbol.ofProgram? p)

/-- **Deals with a message.** -/
def handle (s : Session) : Message → Reply × Session
  | .opened uri text => s.publish uri (s.docs.open? uri text)
  | .changed uri texts => s.publish uri (s.docs.change? uri texts)
  | .closed uri => (.silence, { s with docs := s.docs.close uri })
  | .outline uri => (s.outlineOf uri, s)
  | .completion _ => (.completions Editor.completions, s)

/-- Deals with messages one after another. -/
def handleAll (s : Session) (messages : List Message) : Session :=
  messages.foldl (fun s m => (s.handle m).2) s

/-- **The notices that an editor shows** about a document: those published last. -/
def shown (s : Session) (uri : String) : List Notice := (s.published.lookup uri).getD []

end Session

end PascalFront.Editor
