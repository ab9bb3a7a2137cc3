import PascalFront.Token.Reader
/-!
# Token streams

A program is recognized from a stream of tokens that is read only as far as
needed: the next token is known once it has been looked at, and a token further
ahead only if someone asked for it. The tokens that have been looked at but not
taken wait in a buffer.

The end of the input is never taken. A stream without such a token behaves as
if it had one at the end of its last token. A stream that comes from a faulty
text meets the fault when it is first asked for a token beyond it; asked again
it behaves as if the text ended before the fault.

What is recognized from a stream may be nested. The levels that are open are
counted with the stream, so that the count outlives what is recognized.
-/

namespace PascalFront

/-- **A stream of tokens.** -/
structure TokenStream where
  /-- The tokens that have not been looked at. -/
  pending : List Token
  /-- The fault behind them, until it has been met. -/
  fault : Option Fault
  /-- The tokens that have been looked at but not taken. -/
  buffer : List Token
  /-- The token taken last. -/
  previous : Option Token
  /-- The number of levels of nesting that are open. -/
  depth : Nat
  deriving DecidableEq, Repr

namespace TokenStream

/-- The stream of given tokens. -/
def ofTokens (tokens : List Token) : TokenStream := ⟨tokens, none, [], none, 0⟩

/-- The stream of the tokens of a text. -/
def ofText (text : String) : TokenStream :=
  let reading := (Cursor.ofText text).readAll
  ⟨reading.tokens, reading.fault, [], none, 0⟩

/-- The number of tokens that have not been taken. -/
def size (s : TokenStream) : Nat := s.buffer.length + s.pending.length

/-- The token that ends a stream without an end: it stands behind the last
token that was looked at. -/
def closing (s : TokenStream) : Token :=
  .endAt ((s.buffer.getLast? <|> s.previous).bind Token.stop)

end TokenStream

end PascalFront
