import PascalFront.Text.Utf8
/-!
# Folders and paths

Programs and settings are kept in files, which are sequences of octets, in a
tree of folders. A path is written as names with slashes between them; it
starts at the folder that one works in, or at the root of the file system. Of the
folders above the one that one works in, and of the root, it is known that they
exist, but nothing that they hold.

There are two ways to follow a path. `find?` walks it step by step as the file
system does, so that each folder on the way must exist, also one that the path
leaves again by `..`. `resolve` removes the steps `..` from the path alone.

A path has no NUL character, and neither a path nor a name in it may be longer
than the file system allows.
-/

namespace PascalFront

/-- **What a folder may contain**: files and folders. -/
inductive Entry where
  /-- A file with its octets. -/
  | file (octets : List UInt8)
  /-- A folder with its entries by name. -/
  | folder (entries : List (String × Entry))

/-- The names along a path. -/
abbrev Path := List String

/-- **Where a path leads** by its text alone: to names below the folder that one
works in, or below some folder outside of it. -/
structure Place where
  /-- Whether it lies outside of the folder that one works in. -/
  outside : Bool
  /-- The names on the way to it. -/
  path : Path
  deriving DecidableEq, Repr

/-- Why a text is no path. -/
inductive PathFault where
  /-- There is a NUL character in it. -/
  | holdsNul
  /-- The path, or a name in it, is too long. -/
  | tooLong
  deriving DecidableEq, Repr

/-- The wording of a path fault. -/
def PathFault.message : PathFault → String
  | holdsNul => "the path holds a NUL character"
  | tooLong => "the path is too long"

namespace Path

/-- The octets of the longest name. -/
def maxNameSize : Nat := 255

/-- The octets of the longest path. -/
def maxSize : Nat := 4095

/-- Whether the text of a path holds a NUL character. -/
def holdsNul (text : String) : Bool := text.toList.contains '\x00'

/-- The names that slashes separate; there is always one, which may be
empty. -/
def splitSlashes : List Char → List (List Char)
  | [] => [[]]
  | c :: rest =>
    if c = '/' then [] :: splitSlashes rest
    else match splitSlashes rest with
      | [] => [[c]]
      | name :: others => (c :: name) :: others

/-- The names in the text of a path, as the slashes separate them. -/
def split (text : String) : Path := (splitSlashes text.toList).map String.ofList

/-- The path of a text; empty names and the name `.` stand for no step. -/
def ofText (text : String) : Path := (split text).filter fun name => name ≠ "" ∧ name ≠ "."

/-- Whether the text of a path starts at the root of the file system. -/
def isAbsolute (text : String) : Bool := text.toList.head? = some '/'

/-- The text of a path. -/
def text (path : Path) : String := if path.isEmpty then "." else "/".intercalate path

/-- Where a path leads from a place, whose path is in reverse. A step `..` takes
back the step before it; where there is none it leads outside. -/
def resolveFrom (outside : Bool) (done : Path) : Path → Place
  | [] => ⟨outside, done.reverse⟩
  | name :: rest =>
    if name = ".." then
      match done with
      | [] => resolveFrom true [] rest
      | _ :: before => resolveFrom outside before rest
    else resolveFrom outside (name :: done) rest

/-- **Where the text of a path leads.** -/
def resolve (text : String) : Place := resolveFrom (isAbsolute text) [] (ofText text)

/-- The ending of a file name: from its last point on, unless that is the first
or the last character. -/
def suffix (name : String) : String :=
  let reversed := name.toList.reverse
  let ending := reversed.takeWhile (· ≠ '.')
  let stem := (reversed.dropWhile (· ≠ '.')).tail
  if ending.isEmpty ∨ stem.isEmpty then "" else String.ofList ('.' :: ending.reverse)

end Path

namespace Entry

/-- An empty folder. -/
def empty : Entry := folder []

/-- Whether an entry is a file. -/
def isFile : Entry → Bool
  | file _ => true
  | folder _ => false

/-- The entry of a folder with a name. -/
def get? : Entry → String → Option Entry
  | file _, _ => none
  | folder entries, name => entries.lookup name

/-- The entry at the end of names none of which is `..`. -/
def descend? (e : Entry) : Path → Option Entry
  | [] => some e
  | name :: rest => (e.get? name).bind (descend? · rest)

/-- Whether the way along some names meets one that is too long. It ends where
there is nothing, or a file. -/
def meetsLongName : Entry → Path → Bool
  | _, [] => false
  | file _, _ :: _ => false
  | folder entries, name :: rest =>
    if Path.maxNameSize < name.utf8ByteSize then true
    else match entries.lookup name with
      | none => false
      | some next => meetsLongName next rest

/-- The folder from which a path is followed: the one that one works in, or one
outside of it, about which nothing is known. -/
def base (root : Entry) (outside : Bool) : Entry := if outside then .empty else root

/-- Walks step by step; the folders above the present one are kept in order to
return to them, and above the first one there is always a further one, about which
nothing is known. A path that goes on behind a file leads nowhere. -/
def walk? (above : List Entry) (here : Entry) : Path → Option Entry
  | [] => some here
  | name :: rest =>
    if here.isFile then none
    else if name = "" ∨ name = "." then walk? above here rest
    else if name = ".." then
      match above with
      | [] => walk? [] .empty rest
      | parent :: others => walk? others parent rest
    else (here.get? name).bind fun next => walk? (here :: above) next rest

/-- **The entry that the text of a path leads to.** -/
def find? (root : Entry) (text : String) : Option Entry :=
  if text = "" ∨ Path.maxSize < text.utf8ByteSize then none
  else walk? [] (root.base (Path.isAbsolute text)) (Path.split text)

/-- The entry that a path of names leads to. -/
def at? (root : Entry) (text : String) : Option Entry :=
  let path := Path.ofText text
  if Path.maxSize < path.text.utf8ByteSize then none
  else walk? [] (root.base (Path.isAbsolute text)) path

/-- The entries with one more, or with one replaced. -/
def put (name : String) (e : Entry) (entries : List (String × Entry)) : List (String × Entry) :=
  (name, e) :: entries.filter fun entry => entry.1 ≠ name

/-- The tree with an entry at the end of a path; folders on the way are made
where they are missing. -/
def insert (e : Entry) (path : Path) (new : Entry) : Entry :=
  match path, e with
  | [], _ => new
  | name :: rest, folder entries =>
    folder (put name (insert ((entries.lookup name).getD empty) rest new) entries)
  | name :: rest, file _ => folder [(name, insert empty rest new)]

mutual

/-- The files below an entry with their paths, in no particular order. -/
def files (path : Path) : Entry → List (Path × List UInt8)
  | file octets => [(path.reverse, octets)]
  | folder entries => filesIn path entries

/-- The files below the entries of a folder. -/
def filesIn (path : Path) : List (String × Entry) → List (Path × List UInt8)
  | [] => []
  | (name, e) :: rest => files (name :: path) e ++ filesIn path rest

end

/-- **The files below a folder**, name by name in the order of their paths. -/
def sortedFiles (e : Entry) : List (Path × List UInt8) :=
  (e.files []).mergeSort fun a b =>
    @decide _ (@List.decidableLE String instDecidableEqString String.instLT String.decidableLT a.1 b.1)

end Entry

end PascalFront
