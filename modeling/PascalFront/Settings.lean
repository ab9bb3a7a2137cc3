import PascalFront.Folder
import PascalFront.Toml.Document
/-!
# Settings

Settings stand in a file of one fixed name. For a path the nearest such file
counts: the one in the folder of the path, or in the folder above, and so on.
Without any file, and for each setting that a file does not give, there is a
default.

A setting has whatever value the file gives it. Whether a value switches
something on is a question to every value: false, zero and what is empty do
not. Only the endings of file names have to be texts in a row, once they are
needed; a text counts as the row of its characters and a table as the row of its
names.
-/

namespace PascalFront

/-- Whether a value switches a setting on. -/
def Toml.Value.isOn : Toml.Value → Bool
  | .boolean value => value
  | .integer value => value ≠ 0
  | .real (.finite _ magnitude) => magnitude.mantissa ≠ 0
  | .real _ => true
  | .text value => !value.isEmpty
  | .moment _ => true
  | .array items => !items.isEmpty
  | .table entries => !entries.isEmpty

/-- The name of settings files. -/
def Settings.filename : String := "pasparse.toml"

/-- Why settings cannot be used. -/
inductive SettingsFault where
  /-- What they are to count for is no path. -/
  | path (fault : PathFault)
  /-- There is no settings file. -/
  | missing
  /-- What has the name of a settings file is a folder. -/
  | folder
  /-- The file is not text. -/
  | notText (flaw : Text.Utf8.Flaw)
  /-- The file cannot be read. -/
  | unreadable (defect : Toml.Defect)
  /-- Settings that belong together are not in a table. -/
  | noTable
  /-- The endings of file names are not in a row. -/
  | endingsNoList
  /-- An ending of file names is not a text. -/
  | endingNoText
  deriving DecidableEq, Repr

/-- The wording of a settings fault. -/
def SettingsFault.message : SettingsFault → String
  | path fault => fault.message
  | missing => s!"No {Settings.filename} found in any parent directory"
  | folder => s!"{Settings.filename} is a folder"
  | notText _ => s!"{Settings.filename} is not valid UTF-8"
  | unreadable .malformed => s!"{Settings.filename} is malformed"
  | unreadable .integerTooLong => s!"{Settings.filename} holds too long an integer"
  | noTable => s!"{Settings.filename} holds something else than a table of settings"
  | endingsNoList => "the endings of file names are not in a list"
  | endingNoText => "an ending of file names is not a text"

/-- **Settings.** -/
structure Settings where
  /-- The endings of the names of the files that are checked. -/
  endings : Toml.Value
  /-- Whether diagnostics have colours. -/
  color : Toml.Value
  /-- Whether trees are shown with spans. -/
  spans : Toml.Value

namespace Settings

/-- The settings without a file. -/
def default : Settings :=
  ⟨.array [.text ".pas", .text ".pp", .text ".dpr"], .boolean true, .boolean false⟩

/-- The settings of one concern, if there are any. -/
def group? (name : String) (table : Toml.Table) : Except SettingsFault Toml.Table :=
  match table.lookup name with
  | none => .ok []
  | some (.table entries) => .ok entries
  | some _ => .error .noTable

/-- The settings that a table gives. -/
def ofTable (table : Toml.Table) : Except SettingsFault Settings := do
  let check ← group? "check" table
  let view ← group? "view" table
  return {
    endings := (check.lookup "extensions").getD default.endings
    color := (check.lookup "color").getD default.color
    spans := (view.lookup "locations").getD default.spans }

/-- The settings that the text of a settings file gives. -/
def ofText (text : List Char) : Except SettingsFault Settings := do
  let table ← (Toml.read text).mapError .unreadable
  ofTable table

/-- The settings that the octets of a settings file give. -/
def ofOctets (octets : List UInt8) : Except SettingsFault Settings := do
  let text ← (Text.Utf8.decode octets).mapError .notText
  ofText text

/-- The folders from a path upwards; the path is in reverse. -/
def upwards : Path → List Path
  | [] => [[]]
  | name :: rest => (name :: rest).reverse :: upwards rest

/-- Where the text of a path leads, if settings can be looked for from there. -/
def startingPlace (root : Entry) (text : String) : Except PathFault Place :=
  if Path.holdsNul text then .error .holdsNul
  else
    let place := Path.resolve text
    let candidate := place.path ++ [filename]
    if Path.maxSize < (Path.text candidate).utf8ByteSize then .error .tooLong
    else if (root.base place.outside).meetsLongName place.path then .error .tooLong
    else .ok place

/-- The settings file that counts for a path, and what is there. A path that is
not given is the folder that one works in. -/
def locate (root : Entry) (start : Option String) : Except SettingsFault (Path × Entry) := do
  let place ← (startingPlace root (start.getD "")).mapError .path
  let found := (upwards place.path.reverse).findSome? fun folder =>
    let candidate := folder ++ [filename]
    ((root.base place.outside).descend? candidate).map (candidate, ·)
  match found with
  | some result => .ok result
  | none => .error .missing

/-- The settings in a settings file. -/
def load : Entry → Except SettingsFault Settings
  | .file octets => ofOctets octets
  | .folder _ => .error .folder

/-- **The settings that count for a path.** -/
def resolve (root : Entry) (start : Option String) : Except SettingsFault Settings :=
  match locate root start with
  | .ok (_, e) => load e
  | .error .missing => .ok default
  | .error fault => .error fault

/-- The texts in a row of values. -/
def texts (values : List Toml.Value) : Except SettingsFault (List String) :=
  values.mapM fun
    | .text value => .ok value
    | _ => .error .endingNoText

/-- The endings of file names. -/
def endingList (s : Settings) : Except SettingsFault (List String) :=
  match s.endings with
  | .array items => texts items
  | .text value => .ok (value.toList.map String.singleton)
  | .table entries => .ok (entries.map Prod.fst)
  | _ => .error .endingsNoList

end Settings

end PascalFront
