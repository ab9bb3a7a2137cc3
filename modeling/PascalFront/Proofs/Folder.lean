import Mathlib.Data.Char
import Mathlib.Data.List.Lex
import Mathlib.Data.List.Nodup
import Mathlib.Data.List.TakeWhile
import PascalFront.Folder
/-!
# The files below a folder

In a tree of folders in which the names within a folder are distinct, the files below a folder
are exactly those that a path of names leads to (`Entry.mem_sortedFiles`). They are listed in the
order of their paths, name by name, and so each of them once (`Entry.sortedFiles_ordered`).

The suffix of a file name is what stands behind its last point, with the point, if there is
something on both sides of it (`Path.finalSuffix_iff`).
-/

namespace PascalFront

namespace Path

/-! ## The order of paths -/

/-- A name comes before another one by the order of characters. -/
def NameBefore (a b : String) : Prop := List.Lex (· < ·) a.toList b.toList

/-- **A path comes before another one** by the order of names. -/
def Before (p q : Path) : Prop := List.Lex NameBefore p q

/-- Lists are ordered by their first difference. -/
theorem isStrictTotalOrder_lex {α : Type} (r : α → α → Prop) [IsStrictTotalOrder α r] :
    IsStrictTotalOrder (List α) (List.Lex r) where
  trichotomous := (List.Lex.trichotomous r).trichotomous
  irrefl := List.lex_irrefl (irrefl_of r)
  trans _ _ _ := List.lex_trans (trans_of r)

instance : IsStrictTotalOrder String NameBefore where
  trichotomous _ _ notBefore notBehind :=
    have := isStrictTotalOrder_lex (α := Char) (· < ·)
    String.toList_inj.1 (this.trichotomous _ _ notBefore notBehind)
  irrefl name := List.lex_irrefl lt_irrefl name.toList
  trans _ _ _ := List.lex_trans lt_trans

instance : IsStrictTotalOrder Path Before := isStrictTotalOrder_lex NameBefore

instance : DecidableRel Before :=
  @List.decidableLT String instDecidableEqString String.instLT String.decidableLT

/-! ## Suffixes -/

/-- **The final suffix of a file name.** -/
inductive FinalSuffix : List Char → List Char → Prop
  /-- The last point with what stands behind it, if there is something on both sides of it. -/
  | point {stem ending : List Char} : stem ≠ [] → ending ≠ [] → '.' ∉ ending →
    FinalSuffix (stem ++ '.' :: ending) ('.' :: ending)
  /-- Nothing if there is no point. -/
  | noPoint {name : List Char} : '.' ∉ name → FinalSuffix name []
  /-- Nothing if the only point is the first character. -/
  | first {ending : List Char} : '.' ∉ ending → FinalSuffix ('.' :: ending) []
  /-- Nothing if the last character is a point. -/
  | last {stem : List Char} : FinalSuffix (stem ++ ['.']) []

/-- A name has no point, or something stands behind its last one. -/
theorem exists_lastPoint (name : List Char) :
    '.' ∉ name ∨ ∃ stem ending, name = stem ++ '.' :: ending ∧ '.' ∉ ending := by
  by_cases point : '.' ∈ name.reverse
  · obtain ⟨behind, before, split, notIn⟩ := List.eq_append_cons_of_mem point
    refine .inr ⟨before.reverse, behind.reverse, ?_, by simpa using notIn⟩
    rw [← name.reverse_reverse, split]
    simp
  · exact .inl (by simpa using point)

/-- A name without a point has no suffix. -/
theorem suffix_of_notMem {name : String} (noPoint : '.' ∉ name.toList) : suffix name = "" := by
  have none : name.toList.reverse.dropWhile (· ≠ '.') = [] :=
    List.dropWhile_eq_nil_iff.2 fun c inside => by
      have : c ≠ '.' := fun same => noPoint (same ▸ List.mem_reverse.1 inside)
      simpa using this
  rw [suffix, none, if_pos (.inr rfl)]

/-- The suffix of a name with a point. -/
theorem suffix_of_point {name : String} {stem ending : List Char}
    (split : name.toList = stem ++ '.' :: ending) (last : '.' ∉ ending) :
    (suffix name).toList = if ending = [] ∨ stem = [] then [] else '.' :: ending := by
  have reversed : name.toList.reverse = ending.reverse ++ '.' :: stem.reverse := by
    rw [split]
    simp
  have behind : ∀ c ∈ ending.reverse, decide (c ≠ '.') = true := fun c inside => by
    have : c ≠ '.' := fun same => last (same ▸ List.mem_reverse.1 inside)
    simpa using this
  have taken : name.toList.reverse.takeWhile (· ≠ '.') = ending.reverse := by
    rw [reversed, List.takeWhile_append_of_pos behind]
    simp
  have dropped : name.toList.reverse.dropWhile (· ≠ '.') = '.' :: stem.reverse := by
    rw [reversed, List.dropWhile_append_of_pos behind]
    simp
  simp only [suffix, taken, dropped, List.tail_cons, List.isEmpty_reverse, List.isEmpty_iff,
    List.reverse_reverse]
  split
  · rfl
  · exact String.toList_ofList

/-- **The suffix of a name** is its final suffix. -/
theorem finalSuffix_iff {name : String} {ending : List Char} :
    FinalSuffix name.toList ending ↔ (suffix name).toList = ending := by
  constructor
  · intro h
    generalize characters : name.toList = l at h
    cases h with
    | point before behind last =>
      rw [suffix_of_point characters last, if_neg (not_or.2 ⟨behind, before⟩)]
    | noPoint notIn => rw [suffix_of_notMem (characters ▸ notIn)]; rfl
    | @first ending last => rw [@suffix_of_point _ [] _ characters last, if_pos (.inr rfl)]
    | last => rw [suffix_of_point characters (List.not_mem_nil), if_pos (.inl rfl)]
  · rintro rfl
    rcases exists_lastPoint name.toList with notIn | ⟨stem, behind, split, last⟩
    · rw [suffix_of_notMem notIn]
      exact .noPoint notIn
    · rw [suffix_of_point split last, split]
      split_ifs with empty
      · rcases empty with rfl | rfl
        · exact .last
        · exact .first last
      · exact .point (fun none => empty (.inr none)) (fun none => empty (.inl none)) last

end Path

namespace Entry

/-! ## The files -/

/-- **A proper tree**: the names in each of its folders are distinct. -/
inductive Proper : Entry → Prop
  /-- A file. -/
  | file (octets : List UInt8) : Proper (.file octets)
  /-- A folder of proper trees. -/
  | folder {entries : List (String × Entry)} : (entries.map Prod.fst).Nodup →
    (∀ entry ∈ entries, Proper entry.2) → Proper (.folder entries)

variable {e : Entry} {entries : List (String × Entry)} {above file : Path} {octets : List UInt8}

/-- The files below the entries of a folder, entry by entry. -/
theorem filesIn_eq_flatMap (above : Path) (entries : List (String × Entry)) :
    filesIn above entries = entries.flatMap fun entry => files (entry.1 :: above) entry.2 := by
  induction entries with
  | nil => rfl
  | cons entry entries ih => rw [filesIn, ih, List.flatMap_cons]

/-- The entry with a name, where names are distinct. -/
theorem lookup_eq_some_iff (distinct : (entries.map Prod.fst).Nodup) {name : String} :
    entries.lookup name = some e ↔ (name, e) ∈ entries := by
  induction entries with
  | nil => simp
  | cons entry entries ih =>
    obtain ⟨other, e'⟩ := entry
    rw [List.map_cons, List.nodup_cons] at distinct
    by_cases same : name = other
    · subst same
      rw [List.lookup_cons_self, List.mem_cons]
      constructor
      · intro found
        exact .inl (by rw [Option.some.inj found])
      · rintro (here | behind)
        · rw [(Prod.mk.inj here).2]
        · exact absurd (List.mem_map_of_mem (f := Prod.fst) behind) distinct.1
    · rw [List.lookup_cons, beq_false_of_ne same, List.mem_cons]
      dsimp only
      rw [ih distinct.2]
      exact ⟨.inr, fun found => found.resolve_left fun here => same (Prod.mk.inj here).1⟩

/-- A tree stays proper when something proper is put into it. -/
theorem Proper.insert (proper : e.Proper) (path : Path) {new : Entry} (properNew : new.Proper) :
    (e.insert path new).Proper := by
  induction path generalizing e with
  | nil => exact properNew
  | cons name rest ih =>
    have properEmpty : empty.Proper := .folder List.nodup_nil fun _ none => nomatch none
    cases proper with
    | file octets =>
      refine .folder (List.nodup_singleton _) fun entry listed => ?_
      rw [List.mem_singleton.1 listed]
      exact ih properEmpty
    | @folder entries distinct below =>
      have properOld : ((entries.lookup name).getD empty).Proper := by
        cases found : entries.lookup name with
        | none => exact properEmpty
        | some e => exact below _ ((lookup_eq_some_iff distinct).1 found)
      refine .folder ?_ fun entry listed => ?_
      · refine List.nodup_cons.2 ⟨fun listed => ?_, distinct.sublist (List.filter_sublist.map _)⟩
        obtain ⟨entry, kept, same⟩ := List.mem_map.1 listed
        exact of_decide_eq_true (List.mem_filter.1 kept).2 same
      · rcases List.mem_cons.1 listed with rfl | kept
        · exact ih properOld
        · exact below entry (List.mem_filter.1 kept).1

/-- A new file in a folder is all that is new below it. -/
theorem descend?_cons_file {name : String} (fresh : entries.lookup name = none) (added : List UInt8)
    (other : file ≠ [name]) :
    (folder ((name, .file added) :: entries)).descend? file = some (.file octets) ↔
      (folder entries).descend? file = some (.file octets) := by
  cases file with
  | nil => simp [descend?]
  | cons first rest =>
    by_cases new : first = name
    · subst new
      have further : rest ≠ [] := fun none => other (by rw [none])
      obtain ⟨second, others, rfl⟩ := List.exists_cons_of_ne_nil further
      simp [descend?, get?, fresh]
    · rw [descend?, descend?, get?, get?, List.lookup_cons, beq_false_of_ne new]

/-- **The files below an entry** are those that a path leads to. -/
theorem mem_files (proper : e.Proper) :
    (file, octets) ∈ e.files above ↔
      ∃ rest, file = above.reverse ++ rest ∧ e.descend? rest = some (.file octets) := by
  induction proper generalizing above with
  | file octets' =>
    rw [files, List.mem_singleton]
    constructor
    · intro same
      obtain ⟨rfl, rfl⟩ := Prod.mk.inj same
      exact ⟨[], (List.append_nil _).symm, rfl⟩
    · rintro ⟨_ | ⟨name, rest⟩, rfl, found⟩
      · cases found
        rw [List.append_nil]
      · exact nomatch found
  | @folder entries distinct _ ih =>
    rw [files, filesIn_eq_flatMap, List.mem_flatMap]
    constructor
    · rintro ⟨⟨name, e⟩, listed, inside⟩
      obtain ⟨rest, rfl, found⟩ := (ih _ listed).1 inside
      refine ⟨name :: rest, by simp, ?_⟩
      rw [descend?, get?, (lookup_eq_some_iff distinct).2 listed]
      exact found
    · rintro ⟨_ | ⟨name, rest⟩, rfl, found⟩
      · exact nomatch found
      · obtain ⟨e, listed, found⟩ := Option.bind_eq_some_iff.1 found
        have listed := (lookup_eq_some_iff distinct).1 listed
        exact ⟨(name, e), listed, (ih _ listed).2 ⟨rest, by simp, found⟩⟩

/-- **A path leads to each file below a folder**, and the files are all those to which one leads. -/
theorem mem_sortedFiles (proper : e.Proper) :
    (file, octets) ∈ e.sortedFiles ↔ e.descend? file = some (.file octets) := by
  rw [sortedFiles, (List.mergeSort_perm _ _).mem_iff, mem_files proper]
  simp

/-- The paths to the files below an entry of a folder go through its name. -/
theorem exists_of_mem_files (proper : e.Proper) {name : String}
    (listed : file ∈ (e.files (name :: above)).map Prod.fst) :
    ∃ rest, file = above.reverse ++ name :: rest := by
  obtain ⟨⟨_, octets⟩, inside, rfl⟩ := List.mem_map.1 listed
  obtain ⟨rest, rfl, -⟩ := (mem_files proper).1 inside
  exact ⟨rest, by simp⟩

/-- The paths to the files below an entry are distinct. -/
theorem nodup_files (proper : e.Proper) (above : Path) :
    ((e.files above).map Prod.fst).Nodup := by
  induction proper generalizing above with
  | file octets => exact List.nodup_singleton _
  | @folder entries distinct below ih =>
    rw [files, filesIn_eq_flatMap, List.map_flatMap, List.nodup_flatMap]
    refine ⟨fun entry listed => ih entry listed _, ?_⟩
    refine (List.pairwise_map.1 distinct).imp_of_mem fun {a b} first second differ => ?_
    intro path inFirst inSecond
    obtain ⟨rest, rfl⟩ := exists_of_mem_files (below a first) inFirst
    obtain ⟨rest', same⟩ := exists_of_mem_files (below b second) inSecond
    exact differ (List.cons.inj (List.append_cancel_left same)).1

/-- **The files below a folder are in the order of their paths**, each of them once. -/
theorem sortedFiles_ordered (proper : e.Proper) :
    (e.sortedFiles.map Prod.fst).Pairwise Path.Before := by
  have sorted : e.sortedFiles.Pairwise fun a b => decide (¬ Path.Before b.1 a.1) = true := by
    refine List.pairwise_mergeSort (fun a b c first second => ?_) (fun a b => ?_) (e.files [])
    · have first := of_decide_eq_true first
      have second := of_decide_eq_true second
      refine decide_eq_true fun behind => ?_
      rcases trichotomous_of Path.Before a.1 b.1 with before | same | after
      · exact second (trans_of Path.Before behind before)
      · exact second (same ▸ behind)
      · exact first after
    · by_cases behind : Path.Before b.1 a.1
      · simp [behind, asymm_of Path.Before behind]
      · simp [behind]
  have distinct : (e.sortedFiles.map Prod.fst).Nodup :=
    ((List.mergeSort_perm _ _).map Prod.fst).nodup_iff.2 (nodup_files proper [])
  refine List.pairwise_map.2 ((sorted.and (List.pairwise_map.1 distinct)).imp ?_)
  rintro a b ⟨notBehind, differ⟩
  rcases trichotomous_of Path.Before a.1 b.1 with before | same | after
  · exact before
  · exact absurd same differ
  · exact absurd after (of_decide_eq_true notBehind)

end Entry

end PascalFront
