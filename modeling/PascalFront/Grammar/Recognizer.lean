import PascalFront.Token.Stream
/-!
# Recognizers

A recognizer reads tokens from a stream and yields what they make up, or the
first fault. It looks at tokens ahead of taking them, never takes the end of the
input, and leaves the stream where it stopped, also when it meets a fault.

Loops run as long as there is a further item. Every item takes a token, so the
number of tokens that are left bounds the number of rounds.

What is nested in something else is recognized one level deeper. The level is
closed again in every case, also when a fault is met inside of it.
-/

namespace PascalFront

/-- **A recognizer** reads from a stream; it yields a result or meets a fault,
and leaves the stream where it stopped in both cases. -/
abbrev Recognizer := EStateM Fault TokenStream

namespace Recognizer

/-- Looks at one more token and puts it into the buffer. Behind the end of the
input there is only that end again. -/
def pull : Recognizer Token := fun s =>
  match s.buffer.getLast?.filter Token.isEnd with
  | some t => .ok t { s with buffer := s.buffer ++ [t] }
  | none =>
    match s.pending with
    | t :: rest => .ok t { s with pending := rest, buffer := s.buffer ++ [t] }
    | [] =>
      match s.fault with
      | some fault => .error fault { s with fault := none }
      | none => .ok s.closing { s with buffer := s.buffer ++ [s.closing] }

/-- Looks at `count + 1` more tokens and yields the last of them. -/
def pullMore : (count : Nat) → Recognizer Token
  | 0 => pull
  | count + 1 => do
    let _ ← pull
    pullMore count

/-- The token `ahead` places after the next one. -/
def peekAt (ahead : Nat) : Recognizer Token := do
  let buffer := (← get).buffer
  match buffer[ahead]? with
  | some t => return t
  | none => pullMore (ahead - buffer.length)

/-- The next token. -/
def peek : Recognizer Token := peekAt 0

/-- Whether the next token is the end of the input. -/
def atEnd : Recognizer Bool := return (← peek).isEnd

/-- **Takes the next token.** The end of the input stays. -/
def advance : Recognizer Token := do
  let t ← peek
  modify fun s =>
    { s with buffer := if t.isEnd then s.buffer else s.buffer.tail, previous := some t }
  return t

/-- Whether the next token is of a kind. The end of the input is of none. -/
def check (kind : Kind) : Recognizer Bool := do
  let t ← peek
  return !t.isEnd && t.kind = kind

/-- Takes the next token if it is of a kind. -/
def accept (kind : Kind) : Recognizer Bool := do
  if ← check kind then
    let _ ← advance
    return true
  else
    return false

/-- Takes the next token if it is of one of some kinds. -/
def acceptAny : List Kind → Recognizer Bool
  | [] => return false
  | kind :: others => do
    if ← accept kind then return true
    acceptAny others

/-- Refuses a token. -/
def refuse {α : Type} (complaint : Complaint) (t : Token) : Recognizer α :=
  throw (.grammatical complaint (some t.span))

/-- Refuses the next token. -/
def reject {α : Type} (complaint : Complaint) : Recognizer α := do
  refuse complaint (← peek)

/-- Takes the next token, which must be of a kind. -/
def expect (kind : Kind) (complaint : Complaint) : Recognizer Token := do
  if ← check kind then advance else reject complaint

/-- Takes a keyword, which must also be spelled as one, in any letter case. -/
def expectKeyword (kind : Kind) (word : String) : Recognizer Token := do
  let t ← peek
  if t.kind = kind ∧ Kind.lowered t.value.toList = word then advance
  else reject (.missing (.keyword word))

/-- The span from a position to the end of the token taken last. -/
def since (start : Position) : Recognizer Span :=
  return .between start (((← get).previous.map Token.stopPosition).getD .zero)

/-- The number of levels to which bodies of routines, statements and
expressions may be nested in one another. -/
def maxNesting : Nat := 200

/-- **One level of nesting deeper.** The level is counted while `r` runs, and no
longer when that has yielded something or met a fault. A level too deep is
refused before `r` begins. -/
def nested {α : Type} (r : Recognizer α) : Recognizer α := do
  modify fun s => { s with depth := s.depth + 1 }
  try
    if (← get).depth > maxNesting then reject .nestingTooDeep
    r
  finally
    modify fun s => { s with depth := s.depth - 1 }

/-- Items one after the other while `item` yields one, in at most `limit`
rounds. -/
def collect {σ α : Type} (item : σ → Recognizer (Option (α × σ))) :
    (limit : Nat) → σ → Recognizer (List α)
  | 0, _ => return []
  | limit + 1, state => do
    match ← item state with
    | none => return []
    | some (a, state) => return a :: (← collect item limit state)

/-- **Items one after the other** while `item` yields one. Every item takes a
token, so there are no more items than tokens left, and one more round finds
that there is no further item. -/
def many {σ α : Type} (item : σ → Recognizer (Option (α × σ))) (state : σ) :
    Recognizer (List α) := do
  collect item ((← get).size + 1) state

/-- Items while `item` yields one, without a state between them. -/
def manyOf {α : Type} (item : Recognizer (Option α)) : Recognizer (List α) :=
  many (fun _ => return (← item).map (·, ())) ()

/-- An item, and more of them while a token of kind `separator` comes
between. -/
def separated {α : Type} (separator : Kind) (item : Recognizer α) : Recognizer (List α) := do
  let first ← item
  let others ← manyOf do
    if ← accept separator then return some (← item) else return none
  return first :: others

end Recognizer

end PascalFront
