import PascalFront.Toml.Scalar
/-!
# Settings files

A settings file is read line by line into one table. A line in brackets names
the table that the following lines fill, one in double brackets appends a new
table to an array; any other line gives a value to a key.

What has been defined may not be defined again. Arrays and tables that are
written as values are closed once and for all. A table that a line in brackets
names may not be named again; one that only came into being on the way of a
dotted key may be filled by further dotted keys up to the next line in brackets,
and from then on it counts as named.
-/

namespace PascalFront.Toml

open Reader

/-! ## Keys -/

/-- Whether a character may stand in a key without quotes. -/
def isBareKeyChar (c : Char) : Bool := c.isAlphanum || c = '-' || c = '_'

/-- A part of a key between points. -/
def keyPart : Reader String := do
  match ← peek? with
  | some '"' => do
    drop 1
    return String.ofList (← basicText false)
  | some '\'' => do
    drop 1
    return String.ofList (← literalText false)
  | _ => do
    let part ← takeWhile isBareKeyChar
    if part.isEmpty then malformed
    return String.ofList part

/-- A key; blanks may stand around its parts. -/
def key : Reader Key :=
  loop (fun reversed => do
    let part ← keyPart
    skipBlanks
    if ← accept "." then
      skipBlanks
      return .inl (part :: reversed)
    else return .inr (part :: reversed).reverse) []

/-- A key and its value. -/
def keyValue (value : Reader Value) : Reader (Key × Value) := do
  let name ← key
  expect "="
  skipBlanks
  return (name, ← value)

/-! ## Values -/

/-- Whether a value has others in it. -/
def Value.isContainer : Value → Bool
  | .array _ | .table _ => true
  | _ => false

/-- An array, behind its opening bracket. A comma may follow the last item. -/
def array (value : Reader Value) : Reader Value := do
  skipLines
  loop (fun reversed => do
    if ← accept "]" then return .inr (.array reversed.reverse)
    let item ← value
    skipLines
    if ← accept "," then
      skipLines
      return .inl (item :: reversed)
    expect "]"
    return .inr (.array (item :: reversed).reverse)) []

/-- A table in braces, behind the opening one. It stands on one line, and a comma
is always followed by another key. -/
def inlineTable (value : Reader Value) : Reader Value := do
  skipBlanks
  if ← accept "\x7d" then return .table []
  loop (fun (entries, closed) => do
    let (name, v) ← keyValue value
    if closed.any fun (k : Key) => k.isPrefixOf name then malformed
    match Table.change? false (Table.add? (name.getLast?.getD "") v) name.dropLast entries with
    | none => malformed
    | some entries => do
      skipBlanks
      if ← accept "\x7d" then return .inr (.table entries)
      expect ","
      skipBlanks
      return .inl (entries, if v.isContainer then name :: closed else closed))
    (([] : Table), ([] : List Key))

/-- A value in which values are nested at most `room` deep. -/
def valueWithin : (room : Nat) → Reader Value
  | 0 => malformed
  | room + 1 => do
    match ← peek? with
    | some '"' => return .text (String.ofList (← doubleQuoted))
    | some '\'' => return .text (String.ofList (← singleQuoted))
    | some '[' => do
      drop 1
      array (valueWithin room)
    | some '{' => do
      drop 1
      inlineTable (valueWithin room)
    | _ => do
      if ← accept "true" then return .boolean true
      if ← accept "false" then return .boolean false
      unquoted

/-- **A value.** Each level of nesting takes a bracket or a brace. -/
def value : Reader Value := do valueWithin ((← get).length + 1)

/-! ## Lines -/

/-- What has been read, and what may no longer be changed. -/
structure Progress where
  /-- The table so far. -/
  root : Table
  /-- The path of the table that is being filled. -/
  header : Key
  /-- The paths of arrays and tables written as values; nothing below them may
  change. -/
  closed : List Key
  /-- The paths of tables that have been named. -/
  named : List Key
  /-- The paths that count as named from the next line in brackets on. -/
  pending : List Key

namespace Progress

/-- Nothing has been read. -/
def start : Progress := ⟨[], [], [], [], []⟩

/-- Whether nothing below a path may change. -/
def isClosed (p : Progress) (path : Key) : Bool :=
  !path.isEmpty && p.closed.any fun k => k.isPrefixOf path

/-- Takes the paths that are pending as named. -/
def settle (p : Progress) : Progress := { p with named := p.pending ++ p.named, pending := [] }

/-- Starts to fill the table at a path. -/
def enterTable? (p : Progress) (path : Key) : Option Progress :=
  if path ∈ p.named ∨ p.isClosed path then none
  else do
    let root ← Table.change? true some path p.root
    some { p with root, header := path, named := path :: p.named }

/-- Starts to fill a new table at the end of the array at a path. What was said
about the tables below the path held for the table before it. -/
def enterItem? (p : Progress) (path : Key) : Option Progress :=
  if p.isClosed path then none
  else do
    let root ← Table.change? true (Table.appendTable? (path.getLast?.getD "")) path.dropLast p.root
    some { p with
      root
      header := path
      closed := p.closed.filter fun k => !path.isPrefixOf k
      named := path :: p.named.filter fun k => !path.isPrefixOf k }

/-- The paths of the tables on the way of a dotted key. -/
def pathsOnTheWay (header name : Key) : List Key :=
  (List.range (name.length - 1)).map fun count => header ++ name.take (count + 1)

/-- Gives a value to a key in the table that is being filled. -/
def assign? (p : Progress) (name : Key) (v : Value) : Option Progress :=
  let way := pathsOnTheWay p.header name
  let parent := p.header ++ name.dropLast
  if way.any (· ∈ p.named) ∨ p.isClosed parent then none
  else do
    let root ← Table.change? true (Table.add? (name.getLast?.getD "") v) parent p.root
    some { p with
      root
      closed := if v.isContainer then (p.header ++ name) :: p.closed else p.closed
      pending := way ++ p.pending }

end Progress

/-- What a step yields, if it is allowed. -/
def allowed (step : Option Progress) : Reader Progress :=
  match step with
  | some p => return p
  | none => malformed

/-- What stands on a line before its comment. -/
def statement (p : Progress) : Reader Progress := do
  if ← accept "[[" then
    skipBlanks
    let p ← allowed (p.settle.enterItem? (← key))
    expect "]]"
    return p
  if ← accept "[" then
    skipBlanks
    let p ← allowed (p.settle.enterTable? (← key))
    expect "]"
    return p
  match ← peek? with
  | none | some '#' | some '\n' => return p
  | _ => do
    let (name, v) ← keyValue value
    allowed (p.assign? name v)

/-- The lines of a settings file. -/
def document : Reader Table :=
  loop (fun p => do
    skipBlanks
    let p ← statement p
    skipBlanks
    skipComment
    match ← next? with
    | none => return .inr p.root
    | some '\n' => return .inl p
    | some _ => malformed) Progress.start

/-- The text with `\n` for each `\r\n`. -/
def uniformLines : List Char → List Char
  | [] => []
  | '\r' :: '\n' :: rest => '\n' :: uniformLines rest
  | c :: rest => c :: uniformLines rest

/-- **The table that a settings file holds.** -/
def read (text : List Char) : Except Defect Table := do
  let (table, _) ← document (uniformLines text)
  return table

end PascalFront.Toml
