import Mathlib.Tactic.TFAE
import PascalFront.Proofs.CommandLine.Check
import PascalFront.Proofs.Editor.Documents
/-!
# Every way to ask gives the same answer

Whether a text is a program can be asked in several ways: by a plain question, by asking for
the program, by opening a document with the text in an editor, and by checking a file that
holds the text. The last one does not see the same text, since a file is read with uniform line
ends, and each of them handles faults on its own. All of them give the same answer, and tell
what is wrong in the same words (`check_agrees`), also where the check is asked for by the words
of a command line.
-/

namespace PascalFront

open Text Editor CommandLine

/-- A text is valid if there is a program for it. -/
theorem Program.isValid_eq (text : String) : isValid text = (ofText text).isOk := by
  rw [isValid]
  cases ofText text <;> rfl

/-- **All ways to ask agree** on whether a text is a program, and on the words that tell what
is wrong with it. The text may have any line ends, but not more characters than an editor has
numbers for; the file that is checked holds it in UTF-8, and no settings count for it. -/
theorem check_agrees (text : String) (short : text.length ≤ maxCoordinate) (docs : Documents)
    (uri : String) {root : Entry} {path : String} (noColor : Bool)
    (noSettings : Settings.locate root (some path) = .error .missing) :
    List.TFAE [Program.isValid text = true, (Program.ofText text).isOk = true,
      ∃ docs', docs.open? uri text = some (docs', []),
      (check root path (.file text.toUTF8.data.toList) noColor).exit = 0] ∧
    ∀ fault, Program.ofText text = .error fault →
      (∃ docs' notice, docs.open? uri text = some (docs', [notice]) ∧
        notice.code = fault.code ∧ notice.message = s!"[{fault.code}] {fault.message}") ∧
      ∃ fault', fault'.code = fault.code ∧ fault'.message = fault.message ∧
        check root path (.file text.toUTF8.data.toList) noColor =
          ⟨[.err (faultPicture (!noColor) (Path.ofText path).text
              (some (String.ofList (uniformLineEnds text.toList))) fault'),
            .err "1 of 1 file(s) failed to parse"], 1, none⟩ := by
  have checked := check_spec text noColor noSettings
  rw [Program.isValid_eq]
  rcases docs.open?_spec uri short with
    ⟨p, docs', accepted, opens⟩ | ⟨fault, docs', notice, refused, opens, code, message⟩
  · have isOk : (Program.ofText text).isOk = true := by rw [accepted]; rfl
    have passes : (check root path (.file text.toUTF8.data.toList) noColor).exit = 0 := by
      rcases checked with ⟨_, -, outcome⟩ | ⟨_, _, refused, -⟩
      · rw [outcome]
      · exact absurd (accepted.symm.trans refused) (by simp)
    refine ⟨?_, fun fault refused => absurd (accepted.symm.trans refused) (by simp)⟩
    tfae_have 1 ↔ 2 := Iff.rfl
    tfae_have 2 ↔ 3 := iff_of_true isOk ⟨docs', opens⟩
    tfae_have 3 ↔ 4 := iff_of_true ⟨docs', opens⟩ passes
    tfae_finish
  · rcases checked with ⟨_, accepted, -⟩ | ⟨_, fault', refused', told, outcome⟩
    · exact absurd (refused.symm.trans accepted) (by simp)
    obtain rfl := Except.error.inj (refused.symm.trans refused')
    have notOk : ¬ (Program.ofText text).isOk = true := by rw [refused]; exact Bool.false_ne_true
    have notEmpty : ¬ ∃ docs', docs.open? uri text = some (docs', []) := by
      rintro ⟨docs'', empty⟩
      exact absurd (opens.symm.trans empty) (by simp)
    have fails : ¬ (check root path (.file text.toUTF8.data.toList) noColor).exit = 0 := by
      rw [outcome]
      exact Nat.one_ne_zero
    constructor
    · tfae_have 1 ↔ 2 := Iff.rfl
      tfae_have 2 ↔ 3 := iff_of_false notOk notEmpty
      tfae_have 3 ↔ 4 := iff_of_false notEmpty fails
      tfae_finish
    · intro other refused'
      obtain rfl := Except.error.inj (refused.symm.trans refused')
      exact ⟨⟨docs', notice, opens, code, message⟩, fault', told.code, told.message, outcome⟩

/-- A folder with one file, which holds a text. -/
def holding (text : String) : Entry := .folder [("p.pas", .file text.toUTF8.data.toList)]

/-- A program with line ends of both sorts, one of them in a string literal. -/
def mixedProgram : String := "program p;\r\nbegin\rs := '\r\n'; end."

/-- The same with an expression that breaks off. -/
def mixedBroken : String := "program p;\r\nbegin\rs := '\r\n' + end."

end PascalFront
