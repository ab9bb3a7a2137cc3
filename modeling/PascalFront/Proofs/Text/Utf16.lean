import PascalFront.Proofs.Text.Lines
/-!
# UTF-16

In UTF-16 a character is one code unit of sixteen bits, or two of them beyond the first 65536
code points. An editor counts these units along a line, and it starts a line behind `\n`,
`\r\n` and `\r` (`Utf16.unitsBefore`). A text is also counted by characters, and by newlines
alone. The two ways agree on a place just when no carriage return before it stands alone and the
line that leads to it has no character of two units (`Utf16.unitsBefore_eq_iff`).
-/

namespace PascalFront.Text

variable {before : List Char} {c : Char}

namespace Utf16

/-- Whether a character is one code unit. -/
def IsNarrow (c : Char) : Prop := c.toNat < 0x10000

instance (c : Char) : Decidable (IsNarrow c) := inferInstanceAs (Decidable (_ < _))

/-- **The code units of a character.** -/
def encodeChar (c : Char) : List UInt16 :=
  if IsNarrow c then [c.toNat.toUInt16]
  else
    let above := c.toNat - 0x10000
    [(0xD800 + above / 0x400).toUInt16, (0xDC00 + above % 0x400).toUInt16]

/-- The code units of a text. -/
def encode (text : List Char) : List UInt16 := text.flatMap encodeChar

/-- Whether a character ends a line. -/
def isLineEnd (c : Char) : Bool := c = '\n' || c = '\r'

/-- **The code units before a place** of a text, given by its line and the code units before it
on that line. The place is on the line even if that has fewer of them, and at the end of the text
if this has fewer lines. -/
def unitsBefore : List Char → (line character : Nat) → Nat
  | text, 0, character => min character (encode (text.takeWhile (!isLineEnd ·))).length
  | [], _ + 1, _ => 0
  | '\r' :: '\n' :: rest, line + 1, character => 2 + unitsBefore rest line character
  | c :: rest, line + 1, character =>
    if isLineEnd c then 1 + unitsBefore rest line character
    else (encodeChar c).length + unitsBefore rest (line + 1) character

@[simp] theorem encode_nil : encode [] = [] := rfl

@[simp] theorem encode_cons (c : Char) (text : List Char) :
    encode (c :: text) = encodeChar c ++ encode text := List.flatMap_cons ..

@[simp] theorem encode_append (first second : List Char) :
    encode (first ++ second) = encode first ++ encode second := List.flatMap_append

theorem length_encodeChar (c : Char) : (encodeChar c).length = if IsNarrow c then 1 else 2 := by
  unfold encodeChar
  split <;> rfl

theorem length_encode_cons (c : Char) (text : List Char) :
    (encode (c :: text)).length = (encodeChar c).length + (encode text).length := by
  rw [encode_cons, List.length_append]

/-- A line end is one code unit. -/
theorem length_encodeChar_of_isLineEnd (ends : isLineEnd c = true) : (encodeChar c).length = 1 := by
  rw [isLineEnd, Bool.or_eq_true, decide_eq_true_eq, decide_eq_true_eq] at ends
  rcases ends with rfl | rfl <;> rfl

/-- A text has at least as many code units as characters. -/
theorem length_le_encode (text : List Char) : text.length ≤ (encode text).length := by
  induction text with
  | nil => exact Nat.le_refl _
  | cons c text ih =>
    rw [length_encode_cons, List.length_cons, length_encodeChar]
    split <;> omega

/-- It has just as many if all of its characters are narrow. -/
theorem length_encode_eq_iff (text : List Char) :
    (encode text).length = text.length ↔ ∀ c ∈ text, IsNarrow c := by
  induction text with
  | nil => simp
  | cons c text ih =>
    have more := length_le_encode text
    rw [length_encode_cons, List.length_cons, length_encodeChar, List.forall_mem_cons, ← ih]
    split
    · rename_i narrow
      simp only [narrow, true_and]
      omega
    · rename_i wide
      simp only [wide, false_and, iff_false]
      omega

/-- **Both ways of counting agree before a place**: each carriage return belongs to the newline
behind it, and the characters behind the last newline are narrow. -/
structure CountedAlike (before : List Char) : Prop where
  /-- No carriage return stands alone. -/
  paired : ∀ i, before[i]? = some '\r' → before[i + 1]? = some '\n'
  /-- Behind the last newline each character is one code unit. -/
  narrow : ∀ c ∈ lastLine before, IsNarrow c

/-! ## One character in front -/

theorem countedAlike_nil : CountedAlike [] := ⟨by simp, by simp [lastLine]⟩

/-- A carriage return with its newline. -/
theorem countedAlike_pair : CountedAlike ('\r' :: '\n' :: before) ↔ CountedAlike before := by
  have line : lastLine ('\r' :: '\n' :: before) = lastLine before := by
    rw [lastLine_cons (.inr List.mem_cons_self), lastLine_cons (.inl rfl)]
  constructor
  · rintro ⟨paired, narrow⟩
    exact ⟨fun i => paired (i + 2), line ▸ narrow⟩
  · rintro ⟨paired, narrow⟩
    refine ⟨fun i => ?_, line.symm ▸ narrow⟩
    match i with
    | 0 => exact fun _ => rfl
    | 1 => exact fun same => absurd (Option.some.inj same) (by decide)
    | i + 2 => exact paired i

/-- A carriage return that stands alone. -/
theorem not_countedAlike_return (alone : before.head? ≠ some '\n') :
    ¬ CountedAlike ('\r' :: before) := by
  rintro ⟨paired, -⟩
  have next := paired 0 rfl
  rw [List.getElem?_cons_succ, ← List.head?_eq_getElem?] at next
  exact alone next

/-- Any other character before the last newline, or that newline. -/
theorem countedAlike_cons (other : c ≠ '\r') (h : c = '\n' ∨ '\n' ∈ before) :
    CountedAlike (c :: before) ↔ CountedAlike before := by
  have line := lastLine_cons h
  constructor
  · rintro ⟨paired, narrow⟩
    exact ⟨fun i => paired (i + 1), line ▸ narrow⟩
  · rintro ⟨paired, narrow⟩
    refine ⟨fun i => ?_, line.symm ▸ narrow⟩
    match i with
    | 0 => exact fun same => absurd (Option.some.inj same) other
    | i + 1 => exact paired i

/-- What stands on one line. -/
theorem countedAlike_of_line (oneLine : '\n' ∉ before) :
    CountedAlike before ↔ '\r' ∉ before ∧ ∀ c ∈ before, IsNarrow c := by
  have line := lastLine_of_notMem oneLine
  constructor
  · rintro ⟨paired, narrow⟩
    refine ⟨fun listed => ?_, fun c listed => narrow c (by simpa [line] using listed)⟩
    obtain ⟨i, here⟩ := List.getElem?_of_mem listed
    exact oneLine (List.mem_of_getElem? (paired i here))
  · rintro ⟨noReturn, narrow⟩
    refine ⟨fun i here => absurd (List.mem_of_getElem? here) noReturn, fun c listed => ?_⟩
    rw [line] at listed
    exact narrow c (List.mem_reverse.1 listed)

/-! ## Counting code units -/

theorem unitsBefore_zero (text : List Char) (character : Nat) :
    unitsBefore text 0 character =
      min character (encode (text.takeWhile (!isLineEnd ·))).length := by
  cases text <;> rfl

theorem unitsBefore_pair (text : List Char) (line character : Nat) :
    unitsBefore ('\r' :: '\n' :: text) (line + 1) character =
      2 + unitsBefore text line character := rfl

/-- A line end behind which a line starts. -/
theorem unitsBefore_lineEnd {text : List Char} (ends : isLineEnd c = true)
    (alone : c = '\r' → text.head? ≠ some '\n') (line character : Nat) :
    unitsBefore (c :: text) (line + 1) character = 1 + unitsBefore text line character := by
  rw [unitsBefore, if_pos ends]
  rintro rest rfl rfl
  exact alone rfl rfl

/-- A character within a line. -/
theorem unitsBefore_cons {text : List Char} (within : isLineEnd c = false) (line character : Nat) :
    unitsBefore (c :: text) (line + 1) character =
      (encodeChar c).length + unitsBefore text (line + 1) character := by
  rw [unitsBefore, if_neg (by simp [within])]
  rintro rest rfl rfl
  exact absurd within (by decide)

/-- Up to the first line end there are fewer code units than up to a place behind it. -/
theorem length_takeWhile_lt (listed : c ∈ before) (ends : isLineEnd c = true) (rest : List Char) :
    (encode ((before ++ rest).takeWhile (!isLineEnd ·))).length < (encode before).length := by
  induction before with
  | nil => exact absurd listed List.not_mem_nil
  | cons d before ih =>
    have here : 0 < (encodeChar d).length := by
      rw [length_encodeChar]
      split <;> omega
    rw [List.cons_append, length_encode_cons]
    by_cases first : isLineEnd d = true
    · rw [List.takeWhile_cons_of_neg (by simp [first]), encode_nil, List.length_nil]
      omega
    · have other : c ≠ d := by
        rintro rfl
        exact first ends
      have later := ih ((List.mem_cons.1 listed).resolve_left other)
      rw [List.takeWhile_cons_of_pos (by simp [first]), length_encode_cons]
      omega

theorem unitsBefore_zero_lt (broken : '\n' ∈ before) (rest : List Char) (character : Nat) :
    unitsBefore (before ++ rest) 0 character < (encode before).length := by
  rw [unitsBefore_zero]
  exact (Nat.min_le_right ..).trans_lt (length_takeWhile_lt broken rfl rest)

/-- What follows a carriage return alone before a newline is no newline, also if the text goes
on. -/
theorem head?_append_ne (rest : List Char) {line : Nat}
    (alone : ∀ behind, c = '\r' → before = '\n' :: behind → False)
    (broken : line < before.count '\n') (return_ : c = '\r') :
    (before ++ rest).head? ≠ some '\n' := by
  cases before with
  | nil => exact absurd broken (by simp)
  | cons d before =>
    rintro same
    obtain rfl := Option.some.inj same
    exact alone before return_ rfl

/-- **A line with a lower number** than newlines come before the place ends before it. -/
theorem unitsBefore_lt (before rest : List Char) {line : Nat} (character : Nat)
    (earlier : line < before.count '\n') :
    unitsBefore (before ++ rest) line character < (encode before).length := by
  -- Line end by line end: a carriage return that stands alone leaves a newline to spare.
  induction before using uniformLineEnds.induct generalizing line with
  | case1 => exact absurd earlier (by simp)
  | case2 before ih =>
    cases line with
    | zero => exact unitsBefore_zero_lt (List.count_pos_iff.1 earlier) rest character
    | succ line =>
      have fewer : line < before.count '\n' := by simpa using earlier
      have shorter := ih fewer
      rw [List.cons_append, List.cons_append, unitsBefore_pair, length_encode_cons,
        length_encode_cons, length_encodeChar_of_isLineEnd rfl, length_encodeChar_of_isLineEnd rfl]
      omega
  | case3 c before alone ih =>
    cases line with
    | zero => exact unitsBefore_zero_lt (List.count_pos_iff.1 earlier) rest character
    | succ line =>
      rw [List.cons_append, length_encode_cons]
      by_cases ends : isLineEnd c = true
      · have later : line < before.count '\n' := by
          have most : (c :: before).count '\n' ≤ before.count '\n' + 1 := by
            rw [List.count_cons]
            split <;> omega
          omega
        have shorter := ih later
        rw [unitsBefore_lineEnd ends (head?_append_ne rest alone later),
          length_encodeChar_of_isLineEnd ends]
        omega
      · have within : isLineEnd c = false := Bool.eq_false_iff.2 ends
        have other : c ≠ '\n' := by
          rintro rfl
          exact ends rfl
        have behind : line + 1 < before.count '\n' := by
          rwa [List.count_cons_of_ne other] at earlier
        have shorter := ih behind
        rw [unitsBefore_cons within]
        omega

/-- On the first line both ways of counting agree if there is no carriage return and no wide
character. -/
theorem unitsBefore_eq_iff_of_line (oneLine : '\n' ∉ before) (rest : List Char) :
    unitsBefore (before ++ rest) 0 before.length = (encode before).length ↔
      '\r' ∉ before ∧ ∀ c ∈ before, IsNarrow c := by
  have most := length_le_encode before
  rw [unitsBefore_zero]
  constructor
  · intro same
    have enough : (encode before).length = before.length := by omega
    refine ⟨fun listed => ?_, (length_encode_eq_iff before).1 enough⟩
    have fewer := length_takeWhile_lt listed rfl rest
    omega
  · rintro ⟨noReturn, narrow⟩
    have within : ∀ c ∈ before, (!isLineEnd c) = true := by
      intro c listed
      have notNewline : c ≠ '\n' := fun same => oneLine (same ▸ listed)
      have notReturn : c ≠ '\r' := fun same => noReturn (same ▸ listed)
      simp [isLineEnd, notNewline, notReturn]
    have enough := (length_encode_eq_iff before).2 narrow
    rw [List.takeWhile_append_of_pos within, encode_append, List.length_append]
    omega

/-- **Both ways of counting lead to the same place** just when they agree on all that stands
before it. -/
theorem unitsBefore_eq_iff (before rest : List Char) :
    unitsBefore (before ++ rest) (before.count '\n') (lastLine before).length =
      (encode before).length ↔ CountedAlike before := by
  induction before using uniformLineEnds.induct with
  | case1 => simp [unitsBefore_zero, lastLine, countedAlike_nil]
  | case2 before ih =>
    have line : lastLine ('\r' :: '\n' :: before) = lastLine before := by
      rw [lastLine_cons (.inr List.mem_cons_self), lastLine_cons (.inl rfl)]
    have count : ('\r' :: '\n' :: before).count '\n' = before.count '\n' + 1 := by simp
    rw [countedAlike_pair, ← ih, line, count, List.cons_append, List.cons_append, unitsBefore_pair,
      length_encode_cons, length_encode_cons, length_encodeChar_of_isLineEnd rfl,
      length_encodeChar_of_isLineEnd rfl]
    omega
  | case3 c before alone ih =>
    by_cases oneLine : '\n' ∉ c :: before
    · rw [countedAlike_of_line oneLine, List.count_eq_zero_of_not_mem oneLine,
        lastLine_of_notMem oneLine, List.length_reverse]
      exact unitsBefore_eq_iff_of_line oneLine rest
    have broken : c = '\n' ∨ '\n' ∈ before := by
      rcases List.mem_cons.1 (not_not.1 oneLine) with newline | later
      · exact .inl newline.symm
      · exact .inr later
    rw [lastLine_cons broken, List.cons_append, length_encode_cons]
    by_cases return_ : c = '\r'
    · -- The line behind the carriage return is one that positions do not count.
      subst return_
      obtain ⟨line, count⟩ := Nat.exists_eq_succ_of_ne_zero
        (List.count_pos_iff.2 (broken.resolve_left (by decide))).ne'
      have earlier : line < before.count '\n' := by omega
      have goesOn := head?_append_ne rest alone earlier
      have shorter := unitsBefore_lt before rest (lastLine before).length earlier
      have notAlike : ¬ CountedAlike ('\r' :: before) :=
        not_countedAlike_return fun same => by
          obtain ⟨behind, rfl⟩ := List.head?_eq_some_iff.1 same
          exact alone behind rfl rfl
      rw [List.count_cons_of_ne (by decide), count, unitsBefore_lineEnd rfl goesOn,
        length_encodeChar_of_isLineEnd rfl]
      exact iff_of_false (by omega) notAlike
    rw [countedAlike_cons return_ broken, ← ih]
    by_cases newline : c = '\n'
    · subst newline
      rw [List.count_cons_self, unitsBefore_lineEnd rfl fun same => absurd same (by decide),
        length_encodeChar_of_isLineEnd rfl]
      omega
    · have within : isLineEnd c = false := by simp [isLineEnd, newline, return_]
      obtain ⟨line, count⟩ := Nat.exists_eq_succ_of_ne_zero
        (List.count_pos_iff.2 (broken.resolve_left newline)).ne'
      rw [List.count_cons_of_ne newline, count, unitsBefore_cons within]
      exact Nat.add_left_cancel_iff

instance (before : List Char) : Decidable (CountedAlike before) :=
  decidable_of_iff _ (unitsBefore_eq_iff before [])

end Utf16

end PascalFront.Text
