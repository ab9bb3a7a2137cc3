import PascalFront.CommandLine.Run
import PascalFront.Proofs.Diagnostic.ShownLine
import PascalFront.Proofs.Grammar.LineEnds
import PascalFront.Proofs.Text.Utf8
/-!
# Checking files

Files are checked one after the other, with one renderer for what is wrong with any of them.
What it knows from the files before never shows in a picture (`CommandLine.showFault_eq`): a
file's own text is registered before its fault is shown, and a file without a text has a fault
without a place. So each file has a report of its own, and a check prints these reports and the
number of those that tell of a fault (`CommandLine.checkFiles_eq`).

Checking a file that holds a text in UTF-8 comes down to reading that text with uniform line
ends (`CommandLine.examine_toUTF8`), and so to reading the text itself: the file passes if the
text holds a program, and otherwise what is shown is told in the words that the text is refused
with (`CommandLine.check_spec`). What words on the command line ask to check is checked
(`CommandLine.run_of_check`).
-/

namespace PascalFront

open Text

/-- A file with the octets of a text is that text with uniform line ends. -/
theorem SourceFile.read_toUTF8 (text : String) :
    read text.toUTF8.data.toList = .ok (String.ofList (uniformLineEnds text.toList)) := by
  rw [read, Utf8.decode_toUTF8]

/-- A file that is not text has a fault without a place. -/
theorem SourceFile.place?_of_read {octets : List UInt8} {fault : Fault}
    (notText : read octets = .error fault) : fault.place? = none := by
  rw [read] at notText
  cases decoded : Utf8.decode octets with
  | error flaw =>
    rw [decoded] at notText
    rw [← Except.error.inj notText]
    rfl
  | ok text => rw [decoded] at notText; exact absurd notText (by simp)

namespace CommandLine

/-- **Examining a file with the octets of a text** yields a program if the text holds one, and
a fault that is told in the same words otherwise. -/
theorem examine_toUTF8 (text : String) :
    (∃ p q, Program.ofText text = .ok p ∧ examine text.toUTF8.data.toList = .ok q) ∨
    ∃ fault fault', Program.ofText text = .error fault ∧ fault.ToldAlike fault' ∧
      examine text.toUTF8.data.toList =
        .error (fault', some (String.ofList (uniformLineEnds text.toList))) := by
  rw [examine, SourceFile.read_toUTF8]
  dsimp only
  rcases Program.ofText_uniform text with
    ⟨p, q, accepted, accepted', -⟩ | ⟨fault, fault', refused, refused', alike⟩
  · exact .inl ⟨p, q, accepted, by rw [accepted']; rfl⟩
  · exact .inr ⟨fault, fault', refused, alike, by rw [refused']; rfl⟩

/-! ## Showing faults -/

/-- A fault without a place is shown without a source. -/
theorem picture_of_noPlace {fault : Fault} (unplaced : fault.place? = none) (color : Bool)
    (filename : String) (source source' : List String) :
    (fault.diagnostic filename).picture color source =
      (fault.diagnostic filename).picture color source' := by
  have noLabels : (fault.diagnostic filename).labels = [] := by
    rw [Fault.diagnostic, unplaced]
    rfl
  rw [Diagnostic.picture, Diagnostic.picture, Diagnostic.rows, Diagnostic.rows, noLabels]
  rfl

/-- **What was shown before does not matter.** A fault is shown with the text of its own file
only, if it has one. -/
theorem showFault_eq (r : Renderer) (disk : Entry) (filename : String) {text : Option String}
    {fault : Fault} (placed : text = none → fault.place? = none) :
    ∃ r', showFault r disk filename text fault =
      .ok (faultPicture r.color filename text fault, r') ∧ r'.color = r.color := by
  have about : (fault.diagnostic filename).filename = filename := rfl
  have labels : (fault.diagnostic filename).labels = [] ↔ fault.place? = none := by
    rw [Fault.diagnostic]
    cases fault.place? <;> simp
  cases text with
  | none =>
    refine ⟨r, ?_, rfl⟩
    rw [showFault, Renderer.render, labels.2 (placed rfl)]
    rfl
  | some text =>
    refine ⟨r.addSource filename text, ?_, rfl⟩
    by_cases unplaced : fault.place? = none
    · rw [showFault, Renderer.render, labels.2 unplaced, faultPicture, Option.map_some,
        Option.getD_some, picture_of_noPlace unplaced _ _ (displayLines text) []]
      rfl
    · exact Renderer.render_addSource r disk filename text _ about (unplaced ∘ labels.1)

/-! ## One file after the other -/

variable {color : Bool} {name : String} {octets : List UInt8}

/-- **What is examined**: a file is not text, or it has a text, which holds a program or not. -/
theorem examine_cases (octets : List UInt8) :
    (∃ fault, SourceFile.read octets = .error fault ∧ fault.place? = none ∧
        examine octets = .error (fault, none)) ∨
      (∃ text fault, SourceFile.read octets = .ok text ∧ Program.ofText text = .error fault ∧
        examine octets = .error (fault, some text)) ∨
      ∃ text p, SourceFile.read octets = .ok text ∧ Program.ofText text = .ok p ∧
        examine octets = .ok p := by
  cases read : SourceFile.read octets with
  | error fault =>
    exact .inl ⟨fault, rfl, SourceFile.place?_of_read read, by rw [examine, read]⟩
  | ok text =>
    cases met : Program.ofText text with
    | error fault =>
      exact .inr (.inl ⟨text, fault, rfl, met, by rw [examine, read]; dsimp only; rw [met]; rfl⟩)
    | ok p =>
      exact .inr (.inr ⟨text, p, rfl, met, by rw [examine, read]; dsimp only; rw [met]; rfl⟩)

/-- What is printed about a file. -/
def fileReport (color : Bool) (name : String) (octets : List UInt8) : Echo :=
  match examine octets with
  | .ok _ => .out s!"ok {name}"
  | .error (fault, text) => .err (faultPicture color name text fault)

/-- Whether something is printed to the error output. -/
def Echo.isError : Echo → Bool
  | out _ => false
  | err _ => true

/-- **What a check prints**, given what is printed about each of its files. -/
def Outcome.ofReports (reports : List Echo) : Outcome :=
  let failed := reports.countP Echo.isError
  if reports = [] then ⟨[.err "warning: no Pascal sources found"], 0, none⟩
  else if failed = 0 then ⟨reports, 0, none⟩
  else ⟨reports ++ [.err s!"{failed} of {reports.length} file(s) failed to parse"], 1, none⟩

/-- **The first file that is left** has a report that does not depend on the renderer, and the
others are checked with one that has the same colours. -/
theorem checkFrom_cons (disk : Entry) (total : Nat) (r : Renderer) (failed : Nat) (name : String)
    (octets : List UInt8) (rest : List (String × List UInt8)) :
    ∃ r', r'.color = r.color ∧ checkFrom disk total r failed ((name, octets) :: rest) =
      (checkFrom disk total r'
        (failed + if (fileReport r.color name octets).isError then 1 else 0) rest).after
          [fileReport r.color name octets] := by
  have toldAlone {fault : Fault} {text : Option String}
      (met : examine octets = .error (fault, text)) (placed : text = none → fault.place? = none) :
      ∃ r', r'.color = r.color ∧ checkFrom disk total r failed ((name, octets) :: rest) =
        (checkFrom disk total r' (failed + 1) rest).after
          [.err (faultPicture r.color name text fault)] := by
    obtain ⟨r', shown, same⟩ := showFault_eq r disk name placed
    refine ⟨r', same, ?_⟩
    rw [checkFrom, met]
    dsimp only
    rw [shown]
  rw [fileReport]
  rcases examine_cases octets with
    ⟨fault, -, unplaced, met⟩ | ⟨text, fault, -, -, met⟩ | ⟨text, p, -, -, passed⟩
  · rw [met]
    exact toldAlone met fun _ => unplaced
  · rw [met]
    exact toldAlone met (absurd · (by simp))
  · rw [checkFrom, passed]
    exact ⟨r, rfl, rfl⟩

/-- **Files that are left are checked like any others**; those that failed before only count at
the end. -/
theorem checkFrom_eq (disk : Entry) (total : Nat) (r : Renderer) (failed : Nat)
    (files : List (String × List UInt8)) :
    checkFrom disk total r failed files =
      let reports := files.map fun file => fileReport r.color file.1 file.2
      (checkEnd total (failed + reports.countP Echo.isError)).after reports := by
  induction files generalizing r failed with
  | nil => rfl
  | cons file files ih =>
    obtain ⟨r', same, first⟩ := checkFrom_cons disk total r failed file.1 file.2 files
    rw [first, ih, same, List.map_cons]
    dsimp only
    rw [List.countP_cons, Nat.add_assoc, Nat.add_comm (ite ..)]
    rfl

/-- **Each file has a report of its own**, and a check prints these reports. -/
theorem checkFiles_eq (disk : Entry) (color : Bool) (files : List (String × List UInt8)) :
    checkFiles disk color files =
      .ofReports (files.map fun file => fileReport color file.1 file.2) := by
  rw [checkFiles, Outcome.ofReports]
  by_cases none : files = []
  · rw [none]
    rfl
  · rw [if_neg (by simpa using none), if_neg (by simpa using none), checkFrom_eq, List.length_map]
    dsimp only [Renderer.new]
    rw [Nat.zero_add, checkEnd]
    split
    · rw [Outcome.after, List.append_nil]
    · rfl

/-! ## One file -/

/-- The outcome for a file that passes. -/
theorem checkFiles_singleton_of_ok {disk : Entry} {p : Program} (passed : examine octets = .ok p) :
    checkFiles disk color [(name, octets)] = ⟨[.out s!"ok {name}"], 0, none⟩ := by
  rw [checkFiles_eq, List.map_singleton, fileReport, passed]
  rfl

/-- The outcome for a file that does not pass. -/
theorem checkFiles_singleton_of_error {disk : Entry} {fault : Fault} {text : Option String}
    (failed : examine octets = .error (fault, text)) :
    checkFiles disk color [(name, octets)] =
      ⟨[.err (faultPicture color name text fault), .err "1 of 1 file(s) failed to parse"], 1,
        none⟩ := by
  have total : s!"{1} of {1} file(s) failed to parse" = "1 of 1 file(s) failed to parse" := rfl
  rw [checkFiles_eq, List.map_singleton, fileReport, failed, ← total]
  rfl

variable {root found : Entry} {path : String}

/-- Without a settings file the default settings count. -/
theorem resolve_of_missing (noSettings : Settings.locate root (some path) = .error .missing) :
    Settings.resolve root (some path) = .ok .default := by
  rw [Settings.resolve, noSettings]

/-- A path for which settings can be looked for holds no NUL character. -/
theorem holdsNul_of_missing (noSettings : Settings.locate root (some path) = .error .missing) :
    Path.holdsNul path = false := by
  refine Bool.eq_false_iff.2 fun holdsNul => ?_
  rw [Settings.locate, Settings.startingPlace, Option.getD_some, if_pos holdsNul] at noSettings
  change Except.error (SettingsFault.path .holdsNul) = _ at noSettings
  exact absurd noSettings (by simp)

/-- **Checking a file without settings.** -/
theorem check_file (noSettings : Settings.locate root (some path) = .error .missing)
    (noColor : Bool) :
    check root path (.file octets) noColor =
      checkFiles root (!noColor) [((Path.ofText path).text, octets)] := by
  rw [check, resolve_of_missing noSettings]
  rfl

/-- **Checking a file with the octets of a text.** It passes if the text holds a program;
otherwise it is shown what is wrong, in the words that the text is refused with. -/
theorem check_spec (text : String) (noColor : Bool)
    (noSettings : Settings.locate root (some path) = .error .missing) :
    (∃ p, Program.ofText text = .ok p ∧
      check root path (.file text.toUTF8.data.toList) noColor =
        ⟨[.out s!"ok {(Path.ofText path).text}"], 0, none⟩) ∨
    ∃ fault fault', Program.ofText text = .error fault ∧ fault.ToldAlike fault' ∧
      check root path (.file text.toUTF8.data.toList) noColor =
        ⟨[.err (faultPicture (!noColor) (Path.ofText path).text
            (some (String.ofList (uniformLineEnds text.toList))) fault'),
          .err "1 of 1 file(s) failed to parse"], 1, none⟩ := by
  rw [check_file noSettings]
  rcases examine_toUTF8 text with ⟨p, q, accepted, passed⟩ | ⟨fault, fault', refused, alike, failed⟩
  · exact .inl ⟨p, accepted, checkFiles_singleton_of_ok passed⟩
  · exact .inr ⟨fault, fault', refused, alike, checkFiles_singleton_of_error failed⟩

/-! ## The command line -/

/-- What words ask to check is checked. -/
theorem run_of_check {words : List String} {noColor : Bool}
    (asks : Request.ofWords root words = .run (.check path found noColor)) :
    run root words = check root path found noColor := by
  rw [run, asks]
  rfl

/-- **What the words ask for**: to check what the path leads to, unless it looks like an
option. -/
theorem ofWords_check (leads : root.find? path = some found)
    (noOption : Words.isOption path = false) (noNul : Path.holdsNul path = false) :
    Request.ofWords root ["check", path] = .run (.check path found false) := by
  have noEnd : path ≠ "--" := by
    rintro rfl
    exact absurd noOption (by decide)
  have program : Words.sort (Opt.available none) false ["check", path] =
      .ok ⟨[], ["check", path]⟩ := by
    rw [Words.sort, if_neg (by decide), if_neg (by decide)]
    rfl
  have command : Words.sort (Opt.available (some .check)) true [path] = .ok ⟨[], [path]⟩ := by
    rw [Words.sort, if_neg noEnd, noOption]
    rfl
  have word : Command.ofWord? "check" = some .check := by decide
  have task : Request.task root .check ⟨[], [path]⟩ = .ok (.check path found false) := by
    simp only [Request.task, Request.entryAt, List.head?_cons, Option.getD_some, leads]
    rfl
  rw [Request.ofWords, if_neg (by simp), Request.ofOptions, program]
  dsimp only [List.head?_nil]
  rw [Request.ofArguments, word]
  dsimp only
  rw [Request.ofCommand, command]
  simp [Request.path?, noNul, task]

/-- The command `check` with a path that leads to a file checks that file. -/
theorem run_check_file (leads : root.find? path = some (.file octets))
    (noOption : Words.isOption path = false)
    (noSettings : Settings.locate root (some path) = .error .missing) :
    run root ["check", path] = check root path (.file octets) false :=
  run_of_check (ofWords_check leads noOption (holdsNul_of_missing noSettings))

end CommandLine

end PascalFront
