import PascalFront.Numeral.Binary64
/-!
# Values of settings files

A settings file is a table of named values; values may be tables and arrays in
turn. Dates and times are kept as they are written. A table is reached by a path
of names, and tables on the way are made where they are missing; in a path
through an array the last item of the array is meant.
-/

namespace PascalFront.Toml

/-- **The values of a settings file.** -/
inductive Value where
  /-- A truth value. -/
  | boolean (value : Bool)
  /-- A whole number. -/
  | integer (value : Int)
  /-- A real number. -/
  | real (value : Binary64)
  /-- A text. -/
  | text (value : String)
  /-- A date or a time, as written. -/
  | moment (written : String)
  /-- Values in a row. -/
  | array (items : List Value)
  /-- Values by name. -/
  | table (entries : List (String × Value))

/-- Values by name, each name once. -/
abbrev Table := List (String × Value)

/-- A name along a path of tables. -/
abbrev Key := List String

namespace Table

/-- The table with another value under a name that it has. -/
def replace (name : String) (new : Value) (t : Table) : Table :=
  t.map fun entry => if entry.1 = name then (name, new) else entry

/-- The table with a value under a name that it lacks; none if it has one. -/
def add? (name : String) (new : Value) (t : Table) : Option Table :=
  if (t.lookup name).isSome then none else some (t ++ [(name, new)])

/-- Changes the table at the end of a path. None if there is something else on
the way, an array included unless `throughArrays`. -/
def change? (throughArrays : Bool) (change : Table → Option Table) : Key → Table → Option Table
  | [], t => change t
  | name :: rest, t =>
    match t.lookup name with
    | none => (change? throughArrays change rest []).map fun new => t ++ [(name, .table new)]
    | some (.table inner) =>
      (change? throughArrays change rest inner).map fun new => replace name (.table new) t
    | some (.array items) =>
      match throughArrays, items.getLast? with
      | true, some (.table inner) =>
        (change? throughArrays change rest inner).map fun new =>
          replace name (.array (items.dropLast ++ [.table new])) t
      | _, _ => none
    | some _ => none

/-- Appends an empty table to the array under a name. -/
def appendTable? (name : String) (t : Table) : Option Table :=
  match t.lookup name with
  | none => some (t ++ [(name, .array [.table []])])
  | some (.array items) => some (replace name (.array (items ++ [.table []])) t)
  | some _ => none

end Table

end PascalFront.Toml
