import Mathlib.Data.List.Sort
import PascalFront.Proofs.CommandLine.Check
import PascalFront.Proofs.Folder
/-!
# Checking a folder

To check a folder is to check its files one by one. The files are those below the folder whose
suffix is one of the endings, in the order of their paths, and what is printed about one of them
depends on its own octets only (`Tells`): it passes if the octets are a text in UTF-8 that holds a
program with uniform line ends; otherwise what is wrong is shown as a renderer shows it that knows
nothing but this file. At the end the number of those that failed is told
(`CommandLine.run_check_folder`).

These properties leave no choice about what is printed (`FolderReports.mem_iff`). So whatever is
done to one file, what is printed about the others stays as it is, apart from the numbers at the
end.
-/

namespace PascalFront

open Text

/-- **A file has one of some endings**: its final suffix is one of them but for letter case. -/
def Path.EndsIn (endings : List String) (file : Path) : Prop :=
  ∃ name suffix, file.getLast? = some name ∧ FinalSuffix name.toList suffix ∧
    ∃ ending ∈ endings, lowercase ending.toList = lowercase suffix

namespace CommandLine

/-- **What is printed about a file** by its own octets. -/
inductive Tells (color : Bool) (name : String) (octets : List UInt8) : Echo → Prop
  /-- The file is a text in UTF-8 and holds a program. -/
  | passed {text : String} {p : Program} : octets = text.toUTF8.data.toList →
    Program.ofText (String.ofList (uniformLineEnds text.toList)) = .ok p →
    Tells color name octets (.out s!"ok {name}")
  /-- It is a text in UTF-8 that is refused. The fault is shown with the lines of the text. -/
  | refused {text picture : String} {fault : Fault} : octets = text.toUTF8.data.toList →
    Program.ofText (String.ofList (uniformLineEnds text.toList)) = .error fault →
    (∀ disk, ∃ r, ((Renderer.new color).addSource name
        (String.ofList (uniformLineEnds text.toList))).render disk (fault.diagnostic name) =
      .ok (picture, r)) →
    Tells color name octets (.err picture)
  /-- It is no text in UTF-8. -/
  | notText {picture : String} {fault : Fault} :
    (∀ text : String, octets ≠ text.toUTF8.data.toList) → SourceFile.read octets = .error fault →
    (∀ disk, ∃ r, (Renderer.new color).render disk (fault.diagnostic name) = .ok (picture, r)) →
    Tells color name octets (.err picture)

/-- **The reports on the files below a folder**, one for each file that is checked. -/
structure FolderReports (color : Bool) (path : String) (endings : List String) (e : Entry)
    (reports : List (Path × Echo)) : Prop where
  /-- The files that are checked: all below the folder with one of the endings. -/
  covers (file : Path) : file ∈ reports.map Prod.fst ↔
    (∃ octets, e.descend? file = some (.file octets)) ∧ file.EndsIn endings
  /-- Each of them once, in the order of their paths. -/
  ordered : (reports.map Prod.fst).Pairwise Path.Before
  /-- What is printed about a file by itself. -/
  told {file : Path} {echo : Echo} (listed : (file, echo) ∈ reports) {octets : List UInt8} :
    e.descend? file = some (.file octets) →
      Tells color (Path.text (Path.ofText path ++ file)) octets echo

/-! ## One file -/

variable {color : Bool} {name path : String} {octets : List UInt8} {echo : Echo}

/-- The text of a file that is text in UTF-8, if it can be read. -/
theorem read_eq_ok_iff {characters : String} : SourceFile.read octets = .ok characters ↔
    ∃ text : String, octets = text.toUTF8.data.toList ∧
      characters = String.ofList (uniformLineEnds text.toList) := by
  constructor
  · intro read
    rw [SourceFile.read] at read
    cases decoded : Utf8.decode octets with
    | error flaw => rw [decoded] at read; exact absurd read (by simp)
    | ok text =>
      rw [decoded] at read
      refine ⟨String.ofList text, Utf8.decode_eq_ok_iff.1 ?_, ?_⟩
      · rw [decoded, String.toList_ofList]
      · rw [String.toList_ofList]
        exact (Except.ok.inj read).symm
  · rintro ⟨text, rfl, rfl⟩
    exact SourceFile.read_toUTF8 text

/-- The picture that a fresh renderer shows, whatever else is on the disk. -/
theorem shown_iff (text : Option String) {fault : Fault} {picture : String}
    (placed : text = none → fault.place? = none) :
    (∀ disk, ∃ r, showFault (.new color) disk name text fault = .ok (picture, r)) ↔
      picture = faultPicture color name text fault := by
  constructor
  · intro shown
    obtain ⟨r, shown⟩ := shown .empty
    obtain ⟨r', shown', -⟩ := showFault_eq (.new color) .empty name placed
    exact (Prod.mk.inj (Except.ok.inj (shown.symm.trans shown'))).1
  · rintro rfl disk
    obtain ⟨r, shown, -⟩ := showFault_eq (.new color) disk name placed
    exact ⟨r, shown⟩

/-- **The report on a file** is what is printed about it by itself, and nothing else is. -/
theorem tells_iff : Tells color name octets echo ↔ echo = fileReport color name octets := by
  constructor
  · intro tells
    cases tells with
    | passed encoded accepted =>
      rw [fileReport, examine, read_eq_ok_iff.2 ⟨_, encoded, rfl⟩]
      dsimp only
      rw [accepted]
      rfl
    | refused encoded refused shown =>
      rw [fileReport, examine, read_eq_ok_iff.2 ⟨_, encoded, rfl⟩]
      dsimp only
      rw [refused]
      exact congrArg Echo.err ((shown_iff (some _) (absurd · (by simp))).1 shown)
    | notText _ read shown =>
      rw [fileReport, examine, read]
      exact congrArg Echo.err ((shown_iff none fun _ => SourceFile.place?_of_read read).1 shown)
  · rintro rfl
    rw [fileReport]
    rcases examine_cases octets with
      ⟨fault, read, unplaced, met⟩ | ⟨_, fault, read, refused, met⟩ | ⟨_, p, read, accepted, met⟩
    · rw [met]
      refine .notText (fun text encoded => ?_) read ((shown_iff none fun _ => unplaced).2 rfl)
      exact absurd (read.symm.trans (read_eq_ok_iff.2 ⟨text, encoded, rfl⟩)) (by simp)
    · obtain ⟨text, encoded, rfl⟩ := read_eq_ok_iff.1 read
      rw [met]
      exact .refused encoded refused ((shown_iff (some _) (absurd · (by simp))).2 rfl)
    · obtain ⟨text, encoded, rfl⟩ := read_eq_ok_iff.1 read
      rw [met]
      exact .passed encoded accepted

/-! ## The files that are checked -/

/-- **A file that is chosen** has one of the endings. -/
theorem hasEnding_iff {endings : List String} {file : Path} (below : file ≠ []) :
    hasEnding endings file = true ↔ file.EndsIn endings := by
  have last := List.getLast?_eq_getLast_of_ne_nil below
  generalize file.getLast below = name at last
  simp only [hasEnding, last, Option.getD_some, List.any_eq_true, decide_eq_true_eq]
  constructor
  · rintro ⟨ending, listed, same⟩
    exact ⟨name, _, last, Path.finalSuffix_iff.2 rfl, ending, listed, same⟩
  · rintro ⟨name', suffix, last', isSuffix, ending, listed, same⟩
    obtain rfl := Option.some.inj (last.symm.trans last')
    exact ⟨ending, listed, by rw [Path.finalSuffix_iff.1 isSuffix, same]⟩

/-- The report on each of the files below a folder that are checked. -/
def reportsBelow (color : Bool) (path : String) (endings : List String) (e : Entry) :
    List (Path × Echo) :=
  (e.sortedFiles.filter fun file => hasEnding endings file.1).map fun (file, octets) =>
    (file, fileReport color (Path.text (Path.ofText path ++ file)) octets)

variable {endings : List String} {entries : List (String × Entry)} {file : Path}

/-- The reports are on the files below the folder that have one of the endings. -/
theorem mem_reportsBelow (proper : (Entry.folder entries).Proper) :
    (file, echo) ∈ reportsBelow color path endings (.folder entries) ↔
      file.EndsIn endings ∧ ∃ octets, (Entry.folder entries).descend? file = some (.file octets) ∧
        Tells color (Path.text (Path.ofText path ++ file)) octets echo := by
  have notHere {octets : List UInt8}
      (found : (Entry.folder entries).descend? file = some (.file octets)) : file ≠ [] := by
    rintro rfl
    exact nomatch found
  simp only [reportsBelow, List.mem_map, List.mem_filter, tells_iff, Prod.exists, Prod.mk.injEq,
    Entry.mem_sortedFiles proper]
  constructor
  · rintro ⟨file, octets, ⟨found, chosen⟩, rfl, rfl⟩
    exact ⟨(hasEnding_iff (notHere found)).1 chosen, octets, found, rfl⟩
  · rintro ⟨ending, octets, found, rfl⟩
    exact ⟨file, octets, ⟨found, (hasEnding_iff (notHere found)).2 ending⟩, rfl, rfl⟩

/-- **The reports on the files below a folder**, in a tree with distinct names. -/
theorem folderReports (color : Bool) (path : String) (endings : List String)
    (proper : (Entry.folder entries).Proper) :
    FolderReports color path endings (.folder entries)
      (reportsBelow color path endings (.folder entries)) where
  covers file := by
    simp only [List.mem_map, Prod.exists, exists_and_right, exists_eq_right,
      mem_reportsBelow proper]
    constructor
    · rintro ⟨echo, ending, octets, found, -⟩
      exact ⟨⟨octets, found⟩, ending⟩
    · rintro ⟨⟨octets, found⟩, ending⟩
      exact ⟨_, ending, octets, found, tells_iff.2 rfl⟩
  ordered := by
    rw [reportsBelow, List.map_map]
    exact List.pairwise_map.2 ((List.pairwise_map.1 (Entry.sortedFiles_ordered proper)).filter _)
  told listed octets found := by
    obtain ⟨-, octets', found', tells⟩ := (mem_reportsBelow proper).1 listed
    obtain rfl := Entry.file.inj (Option.some.inj (found.symm.trans found'))
    exact tells

/-- **Nothing is left open** by what reports have to tell. -/
theorem FolderReports.mem_iff {e : Entry} {reports : List (Path × Echo)}
    (h : FolderReports color path endings e reports) :
    (file, echo) ∈ reports ↔ file.EndsIn endings ∧ ∃ octets,
      e.descend? file = some (.file octets) ∧
        Tells color (Path.text (Path.ofText path ++ file)) octets echo := by
  constructor
  · intro listed
    obtain ⟨⟨octets, found⟩, ending⟩ := (h.covers file).1 (List.mem_map_of_mem listed)
    exact ⟨ending, octets, found, h.told listed found⟩
  · rintro ⟨ending, octets, found, tells⟩
    obtain ⟨⟨_, echo'⟩, listed, rfl⟩ := List.mem_map.1 ((h.covers file).2 ⟨⟨octets, found⟩, ending⟩)
    have same : echo' = echo :=
      (tells_iff.1 (h.told listed found)).trans (tells_iff.1 tells).symm
    exact same ▸ listed

/-- Reports on trees that differ in one file differ in one report at most. -/
theorem FolderReports.filter_eq {e e' : Entry} {reports reports' : List (Path × Echo)}
    (h : FolderReports color path endings e reports)
    (h' : FolderReports color path endings e' reports') {changed : Path}
    (same : ∀ file, file ≠ changed → ∀ octets,
      e'.descend? file = some (.file octets) ↔ e.descend? file = some (.file octets)) :
    (reports'.filter fun report => report.1 ≠ changed) =
      reports.filter fun report => report.1 ≠ changed := by
  have : Std.Irrefl fun a b : Path × Echo => Path.Before a.1 b.1 :=
    ⟨fun a => irrefl_of Path.Before a.1⟩
  have : Std.Antisymm fun a b : Path × Echo => Path.Before a.1 b.1 :=
    ⟨fun _ _ before behind => absurd behind (asymm_of Path.Before before)⟩
  refine List.Pairwise.eq_of_mem_iff (r := fun a b => Path.Before a.1 b.1)
    ((List.pairwise_map.1 h'.ordered).filter _) ((List.pairwise_map.1 h.ordered).filter _) ?_
  rintro ⟨file, echo⟩
  simp only [List.mem_filter, decide_eq_true_eq, h.mem_iff, h'.mem_iff]
  exact and_congr_left fun differs => by simp only [same file differs]

/-! ## The folder -/

/-- A list of texts in the settings. -/
theorem texts_map (endings : List String) : Settings.texts (endings.map .text) = .ok endings := by
  rw [Settings.texts, List.mapM_map]
  induction endings with
  | nil => rfl
  | cons ending endings ih =>
    rw [List.mapM_cons, ih]
    rfl

/-- A check of a folder prints the reports on its files. -/
theorem check_eq {root : Entry} {noColor : Bool} {settings : Settings}
    (settled : Settings.resolve root (some path) = .ok settings)
    (listed : settings.endings = .array (endings.map .text)) :
    check root path (.folder entries) noColor =
      .ofReports ((reportsBelow (settings.color.isOn && !noColor) path endings
        (.folder entries)).map Prod.snd) := by
  have collected : collect settings path (.folder entries) =
      .ok (((Entry.folder entries).sortedFiles.filter fun file => hasEnding endings file.1).map
        fun (rest, octets) => ((Path.ofText path ++ rest).text, octets)) := by
    rw [collect, Settings.endingList, listed]
    dsimp only
    rw [texts_map]
    rfl
  have checked : check root path (.folder entries) noColor =
      checkFiles root (settings.color.isOn && !noColor)
        (((Entry.folder entries).sortedFiles.filter fun file => hasEnding endings file.1).map
          fun (rest, octets) => ((Path.ofText path ++ rest).text, octets)) := by
    simp only [check, settled, collected, bind, Except.bind, pure, Except.pure]
  rw [checked, checkFiles_eq, reportsBelow, List.map_map, List.map_map]
  rfl

/-- **Checking a folder is checking its files one by one**, whatever settings count as long as
their endings are texts: what is printed are the reports on the files below the folder, and then
the number of those that failed. If the folder is checked again, in a tree in which one file was
added, removed or changed, the reports on all the others are the same. -/
theorem check_folder {root : Entry} {path : String} {entries : List (String × Entry)}
    (noColor : Bool) {settings : Settings} {endings : List String}
    (proper : (Entry.folder entries).Proper)
    (settled : Settings.resolve root (some path) = .ok settings)
    (listed : settings.endings = .array (endings.map .text)) :
    ∃ reports,
      FolderReports (settings.color.isOn && !noColor) path endings (.folder entries) reports ∧
      check root path (.folder entries) noColor = .ofReports (reports.map Prod.snd) ∧
      ∀ {root' : Entry} {entries' : List (String × Entry)} {changed : Path},
        (Entry.folder entries').Proper →
        Settings.resolve root' (some path) = .ok settings →
        (∀ file, file ≠ changed → ∀ octets,
          (Entry.folder entries').descend? file = some (.file octets) ↔
            (Entry.folder entries).descend? file = some (.file octets)) →
        ∃ reports',
          check root' path (.folder entries') noColor = .ofReports (reports'.map Prod.snd) ∧
          FolderReports (settings.color.isOn && !noColor) path endings (.folder entries') reports' ∧
          (reports'.filter fun report => report.1 ≠ changed) =
            reports.filter fun report => report.1 ≠ changed := by
  refine ⟨_, folderReports _ _ _ proper, check_eq settled listed, ?_⟩
  intro root' entries' changed proper' settled' same
  exact ⟨_, check_eq settled' listed, folderReports _ _ _ proper',
    (folderReports _ _ _ proper).filter_eq (folderReports _ _ _ proper') same⟩

/-- A folder with a file that passes, a file that is not text, and one that is not checked. -/
def mixedEntries : List (String × Entry) :=
  [("b.PAS", .file "program p; begin end.".toUTF8.data.toList), ("notes.txt", .file []),
    ("sub", .folder [("c.pp", .file [0xFF])])]

end CommandLine

end PascalFront
