import PascalFront.Text.Lowercase
import PascalFront.Token.Basic
/-!
# Lower case and keywords

A word is a keyword if its lower-case form is one, and the lower-case form is
that of the whole of Unicode. Reading a word lowers its ASCII letters only
(`Kind.lowered`). That comes to the same: from beyond ASCII only the Kelvin sign
becomes an ASCII letter alone, and no keyword has a `k`
(`Text.lowerAfter_eq_iff`, `Kind.lowercase_eq_keyword_iff`).
-/

namespace PascalFront

namespace Text

/-- The small letters of ASCII without `k`. All keywords are made of them. -/
def isKeywordLetter (c : Char) : Bool := 'a' ≤ c && c ≤ 'z' && c ≠ 'k'

/-- A run of upper-case characters reaches no keyword letter from beyond ASCII:
it lies in ASCII, its lower-case forms lie outside of the small letters, or it
is the Kelvin sign. -/
theorem upperRuns_apart : ∀ run ∈ upperRuns, run.last < 128 ∨ (run.last : Int) + run.shift < 97 ∨
    122 < (run.first : Int) + run.shift ∨ (run.first = run.last ∧ (run.first : Int) + run.shift = 107) := by
  decide +kernel

/-- A code point that is a keyword letter is the code point of a small letter
other than `k`. -/
theorem bounds_of_isKeywordLetter {c : Char} (h : isKeywordLetter c = true) :
    97 ≤ c.toNat ∧ c.toNat ≤ 122 ∧ c.toNat ≠ 107 := by
  simp only [isKeywordLetter, Bool.and_eq_true, decide_eq_true_eq] at h
  obtain ⟨⟨first, last⟩, notK⟩ := h
  refine ⟨first, last, fun same => notK ?_⟩
  exact Char.toNat_inj.1 same

/-- In ASCII the lower-case form is that of the letter. -/
theorem lowerChar_of_ascii {c : Char} (h : c.toNat < 128) : lowerChar c = [c.toLower] := by
  have all : ∀ n < 128, lowerChar (Char.ofNat n) = [(Char.ofNat n).toLower] := by decide +kernel
  have := all c.toNat h
  rwa [Char.ofNat_toNat] at this

/-- **From beyond ASCII** the lower-case form has a character that occurs in no
keyword. -/
theorem exists_of_lowerChar {c : Char} (h : 128 ≤ c.toNat) :
    ∃ d ∈ lowerChar c, isKeywordLetter d = false := by
  have itself : isKeywordLetter c = false := by
    refine Bool.eq_false_iff.2 fun letter => ?_
    have := bounds_of_isKeywordLetter letter
    omega
  by_cases dotted : c = '\u0130'
  · rw [lowerChar, if_pos dotted]
    exact ⟨'\u0307', by simp, by decide⟩
  · rw [lowerChar, if_neg dotted]
    cases found : upperRuns.find? fun run => c.toNat ≤ run.last with
    | none => exact ⟨c, List.mem_singleton_self c, itself⟩
    | some run =>
      dsimp only
      by_cases member : run.first ≤ c.toNat ∧ (c.toNat - run.first) % run.step = 0
      · rw [if_pos member]
        refine ⟨_, List.mem_singleton_self _, Bool.eq_false_iff.2 fun letter => ?_⟩
        obtain ⟨low, high, notK⟩ := bounds_of_isKeywordLetter letter
        have within : c.toNat ≤ run.last := by simpa using List.find?_some found
        have apart := upperRuns_apart run (List.mem_of_find?_eq_some found)
        have same (n : Nat) : (Char.ofNat n).toNat = n ∨ (Char.ofNat n).toNat = 0 := by
          rw [Char.ofNat]
          by_cases valid : n.isValidChar
          · exact .inl (by rw [dif_pos valid]; rfl)
          · exact .inr (by rw [dif_neg valid]; rfl)
        have := same ((c.toNat : Int) + run.shift).toNat
        omega
      · rw [if_neg member]
        exact ⟨c, List.mem_singleton_self c, itself⟩

/-- Lowering ASCII letters leaves every other character. -/
theorem toLower_of_not_ascii {c : Char} (h : 128 ≤ c.toNat) : c.toLower = c := by
  unfold Char.toLower
  split
  · rename_i upper
    have : c.toNat ≤ 90 := upper.2
    omega
  · rfl

/-- **The lower-case form is a text of keyword letters** just when lowering the
ASCII letters gives that text. -/
theorem lowerAfter_eq_iff {target : List Char} (letters : ∀ d ∈ target, isKeywordLetter d = true)
    (before word : List Char) :
    lowerAfter before word = target ↔ word.map Char.toLower = target := by
  induction word generalizing before target with
  | nil => rfl
  | cons c word ih =>
    by_cases ascii : c.toNat < 128
    · have notSigma : c ≠ '\u03a3' := by
        rintro rfl
        exact absurd ascii (by decide)
      rw [lowerAfter, if_neg notSigma, lowerChar_of_ascii ascii, List.singleton_append, List.map_cons]
      cases target with
      | nil => simp
      | cons d target =>
        rw [List.cons.injEq, List.cons.injEq, ih fun e listed => letters e (.tail _ listed)]
    · have beyond : 128 ≤ c.toNat := Nat.le_of_not_lt ascii
      constructor
      · intro same
        obtain ⟨d, listed, notLetter⟩ : ∃ d ∈ lowerAfter before (c :: word),
            isKeywordLetter d = false := by
          rw [lowerAfter]
          split
          · refine ⟨_, List.mem_append_left _ (List.mem_singleton_self _), ?_⟩
            split <;> decide
          · obtain ⟨d, listed, notLetter⟩ := exists_of_lowerChar beyond
            exact ⟨d, List.mem_append_left _ listed, notLetter⟩
        rw [same] at listed
        rw [letters d listed] at notLetter
        exact absurd notLetter (by decide)
      · intro same
        have letter := letters c (by
          rw [← same, List.map_cons, toLower_of_not_ascii beyond]
          exact List.mem_cons_self)
        have := bounds_of_isKeywordLetter letter
        omega

end Text

namespace Kind

/-- Keywords are made of keyword letters. -/
theorem isKeywordLetter_of_keyword :
    ∀ entry ∈ keywords, ∀ d ∈ entry.1.toList, Text.isKeywordLetter d = true := by
  have all : keywords.all (·.1.toList.all Text.isKeywordLetter) = true := by decide +kernel
  simpa only [List.all_eq_true] using all

/-- **A keyword is the lower-case form of a word** just when the word is that
keyword with its ASCII letters lowered. -/
theorem lowercase_eq_keyword_iff {entry : String × Kind} (listed : entry ∈ keywords)
    (word : List Char) :
    String.ofList (Text.lowercase word) = entry.1 ↔ lowered word = entry.1 := by
  have := Text.lowerAfter_eq_iff (isKeywordLetter_of_keyword entry listed) [] word
  rw [lowered, ← String.ofList_toList (s := entry.1), String.ofList_inj, String.ofList_inj]
  exact this

end Kind

end PascalFront
