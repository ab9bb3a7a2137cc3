import PascalFront.CommandLine.Inspect
import PascalFront.Proofs.Tree.Recovered
/-!
# What is shown of a tree is all of it

A tree is shown in lines, and those of different trees are different, whatever stands in the
strings and numbers of the trees: what the command prints determines the tree up to its spans
(`CommandLine.shownTree_eq_iff`). Each line of it can be printed, so none is broken in two and a
terminal has nothing to take out of it.
-/

namespace PascalFront.CommandLine

open Text

/-! ## Lines as they are printed -/

/-- A text of characters that can be printed. -/
def IsPrintable (text : String) : Prop := ∀ c ∈ text.toList, isPrintable c = true

variable {text : String}

theorem IsPrintable.newline_notMem (h : IsPrintable text) : '\n' ∉ text.toList :=
  fun listed => absurd (h _ listed) (by decide +kernel)

/-- Such a text holds no instruction to a terminal. -/
theorem IsPrintable.printed_eq (h : IsPrintable text) (terminal : Bool) :
    printed terminal text = text := by
  have noEscape : escapeMark ∉ text.toList := fun listed => absurd (h _ listed) (by decide +kernel)
  unfold printed
  split
  · rfl
  · rw [stripEscapes_of_notMem noEscape, String.ofList_toList]

/-- The first line is known from a text. -/
theorem append_newline_inj {first second rest rest' : List Char} (oneLine : '\n' ∉ first)
    (oneLine' : '\n' ∉ second) (same : first ++ '\n' :: rest = second ++ '\n' :: rest') :
    first = second ∧ rest = rest' := by
  have until_newline {line : List Char} (oneLine : '\n' ∉ line) (rest : List Char) :
      (line ++ '\n' :: rest).takeWhile (· ≠ '\n') = line := by
    have inLine : ∀ c ∈ line, decide (c ≠ '\n') = true :=
      fun c listed => decide_eq_true fun newline => oneLine (newline ▸ listed)
    rw [List.takeWhile_append_of_pos inLine]
    simp
  have lines_eq : first = second := by
    rw [← until_newline oneLine rest, same, until_newline oneLine']
  rw [lines_eq] at same
  exact ⟨lines_eq, (List.cons.inj (List.append_cancel_left same)).2⟩

/-- **Texts of one line each are known from what is printed.** -/
theorem joinLines_inj {texts others : List String} (oneLine : ∀ text ∈ texts, '\n' ∉ text.toList)
    (oneLine' : ∀ text ∈ others, '\n' ∉ text.toList)
    (same : Outcome.joinLines texts = Outcome.joinLines others) : texts = others := by
  have cons (text : String) (rest : List String) : (Outcome.joinLines (text :: rest)).toList =
      text.toList ++ '\n' :: (Outcome.joinLines rest).toList := by
    simp [Outcome.joinLines]
  have nil_ne (text : String) (rest : List String) :
      Outcome.joinLines [] ≠ Outcome.joinLines (text :: rest) := by
    intro none
    have chars := congrArg String.toList none
    rw [cons] at chars
    exact absurd chars.symm (by simp [Outcome.joinLines])
  induction texts generalizing others with
  | nil =>
    cases others with
    | nil => rfl
    | cons text others => exact absurd same (nil_ne text others)
  | cons text texts ih =>
    cases others with
    | nil => exact absurd same.symm (nil_ne text texts)
    | cons text' others =>
      obtain ⟨here, behind⟩ := List.forall_mem_cons.1 oneLine
      obtain ⟨here', behind'⟩ := List.forall_mem_cons.1 oneLine'
      have chars := congrArg String.toList same
      rw [cons, cons] at chars
      obtain ⟨first, rest⟩ := append_newline_inj here here' chars
      rw [String.toList_injective first, ih behind behind' (String.toList_injective rest)]

/-! ## The lines of a tree -/

/-- **What is printed of a tree**, its spans not shown. -/
def shownTree (terminal : Bool) (p : Program) : String :=
  Outcome.joinLines (((Sketch.ofProgram p).lines false 0).map (printed terminal))

/-- The lines of a tree can be printed. -/
theorem isPrintable_lines (p : Program) :
    ∀ line ∈ (Sketch.ofProgram p).lines false 0, IsPrintable line := by
  have space : isPrintable ' ' = true := by decide +kernel
  rw [Sketch.lines_eq]
  refine LineTree.forall_mem_lines (fun depth line label => ?_) 0 (Sketch.each_ofProgram p)
  unfold IsPrintable
  rw [LineTree.toList_indented]
  exact List.forall_mem_append.2
    ⟨fun c listed => (List.eq_of_mem_replicate listed).symm ▸ space, List.all_eq_true.1 label.2⟩

/-- Nothing is taken out of the lines of a tree. -/
theorem shownTree_eq (terminal : Bool) (p : Program) :
    shownTree terminal p = Outcome.joinLines ((Sketch.ofProgram p).lines false 0) := by
  rw [shownTree, List.map_congr_left fun line listed =>
    (isPrintable_lines p line listed).printed_eq terminal, List.map_id']

/-- **What the command prints**, where no spans are asked for, is what is shown of the tree that
the file holds, and off a terminal nothing of it is lost. -/
theorem stdout_viewTree (terminal : Bool) (root : Entry) (path : String) (octets : List UInt8)
    {settings : Settings} (resolved : Settings.resolve root (some path) = .ok settings)
    (noSpans : settings.spans.isOn = false) {p : Program} (holds : examine octets = .ok p) :
    (viewTree root path octets false).stdout = shownTree terminal p := by
  rw [shownTree_eq, viewTree, withSettings, resolved]
  dsimp only
  rw [holds, noSpans]
  simp [Outcome.stdout]

/-- **What is shown of a tree determines the tree** up to its spans, and does not depend on
them. -/
theorem shownTree_eq_iff (terminal : Bool) (p q : Program) :
    shownTree terminal p = shownTree terminal q ↔
      p.relabelled .unplaced = q.relabelled .unplaced := by
  have flush (p : Program) := (Sketch.each_ofProgram p).imp fun _ label => label.1
  rw [← Sketch.ofProgram_inj, shownTree_eq, shownTree_eq]
  constructor
  · intro same
    have lines_eq := joinLines_inj
      (fun line listed => (isPrintable_lines p line listed).newline_notMem)
      (fun line listed => (isPrintable_lines q line listed).newline_notMem) same
    rw [Sketch.lines_eq, Sketch.lines_eq] at lines_eq
    exact LineTree.eq_of_lines (flush p) (flush q) lines_eq
  · intro same
    rw [Sketch.lines_eq, Sketch.lines_eq, same]

end PascalFront.CommandLine
