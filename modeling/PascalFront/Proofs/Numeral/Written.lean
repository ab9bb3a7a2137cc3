import PascalFront.Proofs.Numeral.Interval
import PascalFront.Proofs.Numeral.Literal
import PascalFront.Text.Printable
/-!
# Numbers are told apart by their texts

The text of a binary number is a decimal, and the decimal has one value, whichever layout it
is written in (`Number.decimal?_layOut`). That value lies in the interval around the magnitude
of the number (`Binary64.decimal?_body`), and intervals have no number in common, so different
numbers have different texts (`Number.text_injective`). An integer has nothing but digits and a
sign in its text, a real number always has something else.
-/

namespace PascalFront

namespace Number

open Text Binary64

theorem isPrintable_of_isDigit {c : Char} (digit : isDigit c = true) : isPrintable c = true := by
  have digits : ∀ n < 58, 48 ≤ n → isPrintable (.ofNat n) = true := by decide +kernel
  obtain ⟨low, high⟩ : '0' ≤ c ∧ c ≤ '9' := by simpa [isDigit] using digit
  have printable := digits c.toNat (Nat.lt_succ_of_le high) low
  rwa [Char.ofNat_toNat] at printable

/-! ## The value of a decimal -/

/-- **The value of a decimal**: digits with a point among them, or none, and an exponent. -/
def decimal? (text : List Char) : Option ℚ :=
  let (whole, fraction, rest) := splitPoint text
  (exponent? rest).map fun exponent : ℤ =>
    digitsValue (whole ++ fraction) * 10 ^ (exponent - fraction.length)

variable {digits whole fraction : List Char}

theorem isDigit_decimalDigits (n : Nat) : ∀ c ∈ decimalDigits n, isDigit c = true := by
  intro c listed
  have digit := Nat.isDigit_of_mem_toDigits (by decide) (by decide) listed
  obtain ⟨low, high⟩ : '0' ≤ c ∧ c ≤ '9' := Char.isDigit_iff_toNat.1 digit
  simp [isDigit, low, high]

theorem digitsValue_decimalDigits (n : Nat) : digitsValue (decimalDigits n) = n :=
  Nat.ofDigitChars_ten_toDigits

theorem digitsValue_append_zeros (digits : List Char) (n : Nat) :
    digitsValue (digits ++ List.replicate n '0') = 10 ^ n * digitsValue digits := by
  change Nat.ofDigitChars 10 _ 0 = _
  rw [Nat.ofDigitChars_append, Nat.ofDigitChars_replicate_zero]
  rfl

theorem digitsValue_zeros_append (n : Nat) (digits : List Char) :
    digitsValue (List.replicate n '0' ++ digits) = digitsValue digits := by
  change Nat.ofDigitChars 10 _ 0 = _
  rw [Nat.ofDigitChars_append, Nat.ofDigitChars_replicate_zero, Nat.mul_zero]
  rfl

theorem isDigit_zeros (n : Nat) : ∀ c ∈ List.replicate n '0', isDigit c = true := by
  intro c listed
  rw [List.eq_of_mem_replicate listed]
  decide

/-- An exponent is read as it was written. -/
theorem exponent?_exponentText (exponent : ℤ) :
    exponent? ('e' :: exponentText exponent) = some exponent := by
  have some_digit : decimalDigits exponent.natAbs ≠ [] := Nat.toDigits_ne_nil
  have all : (List.replicate (2 - (decimalDigits exponent.natAbs).length) '0' ++
      decimalDigits exponent.natAbs).all isDigit = true := by
    rw [List.all_append, Bool.and_eq_true, List.all_eq_true, List.all_eq_true]
    exact ⟨isDigit_zeros _, isDigit_decimalDigits _⟩
  unfold exponent? exponentText
  by_cases negative : exponent < 0
  · simp [negative, takeSign, all, digitsValue_zeros_append, digitsValue_decimalDigits, signed,
      some_digit, abs_of_neg]
  · simp [negative, takeSign, all, digitsValue_zeros_append, digitsValue_decimalDigits, signed,
      some_digit, abs_of_nonneg (not_lt.1 negative)]

/-- A decimal with a point. -/
theorem decimal?_append (inWhole : ∀ c ∈ whole, isDigit c = true)
    (inFraction : ∀ c ∈ fraction, isDigit c = true) (rest : List Char)
    (ends : ∀ c ∈ rest.head?, isDigit c = false) :
    decimal? (whole ++ '.' :: (fraction ++ rest)) = (exponent? rest).map fun exponent : ℤ =>
      (digitsValue (whole ++ fraction) * 10 ^ (exponent - fraction.length) : ℚ) := by
  rw [decimal?, splitPoint_append inWhole inFraction rest ends]

/-- A decimal of one digit at most, with an exponent. -/
theorem decimal?_exponent (inWhole : ∀ c ∈ whole, isDigit c = true) (exponent : ℤ) :
    decimal? (whole ++ 'e' :: exponentText exponent) =
      some (digitsValue whole * 10 ^ exponent : ℚ) := by
  have letter : isDigit 'e' = false := by decide
  unfold decimal? splitPoint
  rw [List.takeWhile_append_of_pos inWhole, List.dropWhile_append_of_pos inWhole]
  simp [letter, exponent?_exponentText]

/-- A decimal without an exponent. -/
theorem decimal?_point (inWhole : ∀ c ∈ whole, isDigit c = true)
    (inFraction : ∀ c ∈ fraction, isDigit c = true) :
    decimal? (whole ++ '.' :: fraction) =
      some (digitsValue (whole ++ fraction) * 10 ^ (-fraction.length : ℤ) : ℚ) := by
  have read := decimal?_append inWhole inFraction [] (by simp)
  rwa [List.append_nil, exponent?, Option.map_some, zero_sub] at read

/-- A decimal in scientific layout: a point behind the first digit if there are more. -/
theorem decimal?_scientific (inDigits : ∀ c ∈ digits, isDigit c = true) (point : ℤ) :
    decimal? (digits.take 1 ++ (if digits.tail.isEmpty then [] else '.' :: digits.tail) ++
        'e' :: exponentText (point - 1)) =
      some (digitsValue digits * 10 ^ (point - digits.length) : ℚ) := by
  match digits with
  | [] =>
    have read := decimal?_exponent inDigits (point - 1)
    simpa [digitsValue] using read
  | [digit] =>
    have read := decimal?_exponent inDigits (point - 1)
    simpa using read
  | digit :: next :: others =>
    obtain ⟨first, behind⟩ := List.forall_mem_cons.1 inDigits
    have read := decimal?_append (List.forall_mem_singleton.2 first) behind
      ('e' :: exponentText (point - 1)) (by simp; decide)
    have exponent : point - 1 - ((next :: others).length : ℤ) =
        point - (digit :: next :: others).length := by
      rw [List.length_cons (a := digit)]
      omega
    rw [exponent?_exponentText, Option.map_some, exponent] at read
    exact read

/-- A decimal with zeros between the point and its digits. -/
theorem decimal?_zeros_append (inDigits : ∀ c ∈ digits, isDigit c = true) (n : Nat) :
    decimal? ('0' :: '.' :: (List.replicate n '0' ++ digits)) =
      some (digitsValue digits * 10 ^ (-n - digits.length : ℤ) : ℚ) := by
  have zero : isDigit '0' = true := by decide
  have read := decimal?_point (List.forall_mem_singleton.2 zero)
    (List.forall_mem_append.2 ⟨isDigit_zeros n, inDigits⟩)
  have value : digitsValue (['0'] ++ (List.replicate n '0' ++ digits)) = digitsValue digits := by
    rw [← List.append_assoc]
    exact digitsValue_zeros_append (n + 1) digits
  have exponent : -((List.replicate n '0' ++ digits).length : ℤ) = -n - digits.length := by
    rw [List.length_append, List.length_replicate]
    omega
  rwa [value, exponent] at read

/-- A decimal with zeros between its digits and the point. -/
theorem decimal?_append_zeros (inDigits : ∀ c ∈ digits, isDigit c = true) (n : Nat) :
    decimal? (digits ++ List.replicate n '0' ++ ['.', '0']) =
      some (digitsValue digits * 10 ^ (n : ℤ) : ℚ) := by
  have zero : isDigit '0' = true := by decide
  have read := decimal?_point (List.forall_mem_append.2 ⟨inDigits, isDigit_zeros n⟩)
    (List.forall_mem_singleton.2 zero)
  have value : digitsValue (digits ++ List.replicate n '0' ++ ['0']) =
      10 ^ (n + 1) * digitsValue digits := by
    rw [List.append_assoc, ← digitsValue_append_zeros, List.replicate_succ']
  rw [read, value, List.length_singleton, zpow_natCast, Nat.cast_one, zpow_neg_one]
  push_cast
  exact congrArg some (by ring)

/-- **In every layout a decimal has the same value.** -/
theorem decimal?_layOut (inDigits : ∀ c ∈ digits, isDigit c = true) (point : ℤ) :
    decimal? (layOut digits point) =
      some (digitsValue digits * 10 ^ (point - digits.length) : ℚ) := by
  unfold layOut
  split
  · exact decimal?_scientific inDigits point
  split
  · rename_i small
    have read := decimal?_zeros_append inDigits (-point).toNat
    have exponent : -((-point).toNat : ℤ) = point := by omega
    rwa [exponent] at read
  rename_i large
  dsimp only
  split
  · rename_i empty
    have short : digits.length ≤ point.toNat := List.drop_eq_nil_iff.1 (List.isEmpty_iff.1 empty)
    have read := decimal?_append_zeros inDigits (point.toNat - digits.length)
    have exponent : ((point.toNat - digits.length : ℕ) : ℤ) = point - digits.length := by omega
    rw [exponent] at read
    rwa [List.take_of_length_le short]
  · rename_i some_digit
    have long : point.toNat ≤ digits.length := by
      refine (Nat.lt_of_not_le fun short => some_digit ?_).le
      rw [List.drop_eq_nil_iff.2 short]
      rfl
    have inWhole : ∀ c ∈ digits.take point.toNat, isDigit c = true :=
      fun c listed => inDigits c (List.mem_of_mem_take listed)
    have inFraction : ∀ c ∈ digits.drop point.toNat, isDigit c = true :=
      fun c listed => inDigits c (List.mem_of_mem_drop listed)
    have read := decimal?_point inWhole inFraction
    have exponent : -((digits.drop point.toNat).length : ℤ) = point - digits.length := by
      rw [List.length_drop]
      omega
    rw [List.take_append_drop, exponent] at read
    rw [List.length_take_of_le long, Nat.sub_self, List.replicate_zero, List.append_nil, read]

/-- Without the zeros at its end a decimal has the same value, its digits counted accordingly. -/
theorem digitsValue_stripped (all : List Char) (power : ℤ) :
    let digits := (all.reverse.dropWhile (· = '0')).reverse
    (digitsValue digits * 10 ^ (all.length + power - digits.length) : ℚ) =
      digitsValue all * 10 ^ power := by
  intro digits
  obtain ⟨n, all_eq⟩ : ∃ n, all = digits ++ List.replicate n '0' := by
    have zeros : ∀ c ∈ all.reverse.takeWhile (· = '0'), c = '0' :=
      fun c listed => of_decide_eq_true (List.mem_takeWhile_imp (p := fun c => decide (c = '0')) listed)
    refine ⟨(all.reverse.takeWhile (· = '0')).length, ?_⟩
    rw [← List.reverse_replicate, ← List.eq_replicate_of_mem zeros, ← List.reverse_append,
      List.takeWhile_append_dropWhile, List.reverse_reverse]
  have length_eq : (all.length + power - digits.length : ℤ) = n + power := by
    rw [all_eq, List.length_append, List.length_replicate]
    omega
  have value : digitsValue all = 10 ^ n * digitsValue digits := by
    rw [← digitsValue_append_zeros, ← all_eq]
  rw [length_eq, value, zpow_add₀ (by norm_num), zpow_natCast]
  push_cast
  ring

end Number

namespace Binary64

open Number Text

/-! ## The decimal of a magnitude -/

/-- The decimal of a magnitude. -/
def body (m : Magnitude) : List Char :=
  if m.mantissa = 0 then "0.0".toList else layOut (shortestDigits m).1 (shortestDigits m).2

theorem text_finite (negative : Bool) (m : Magnitude) :
    (finite negative m).text = signText negative ++ body m := rfl

/-- The decimal that is found for a magnitude. -/
def found (m : Magnitude) : Nat × ℤ :=
  (Interval.around m).search (Interval.around m).leading 17 0

theorem shortestDigits_eq (m : Magnitude) :
    shortestDigits m =
      (((decimalDigits (found m).1).reverse.dropWhile (· = '0')).reverse,
        (decimalDigits (found m).1).length + (found m).2) := rfl

theorem isDigit_shortestDigits (m : Magnitude) :
    ∀ c ∈ (shortestDigits m).1, isDigit c = true := by
  intro c listed
  rw [shortestDigits_eq] at listed
  exact isDigit_decimalDigits _ c
    (List.mem_reverse.1 ((List.dropWhile_suffix _).subset (List.mem_reverse.1 listed)))

/-- **The decimal of a magnitude lies in its interval.** -/
theorem decimal?_body (m : Magnitude) :
    ∃ x, decimal? (body m) = some x ∧ (Interval.around m).Holds x := by
  unfold body
  split
  · rename_i zero
    refine ⟨0, by decide +kernel, ?_⟩
    rw [Magnitude.holds_around, if_pos (by omega)]
    simp [Magnitude.lower, zero]
  · rename_i notZero
    refine ⟨_, decimal?_layOut (isDigit_shortestDigits m) _, ?_⟩
    rw [shortestDigits_eq, digitsValue_stripped, digitsValue_decimalDigits]
    exact Magnitude.holds_search_around notZero

/-! ## The characters of a decimal -/

/-- The characters of a decimal. -/
def IsDecimal (c : Char) : Prop := isDigit c = true ∨ c ∈ ".e+-".toList

/-- **A decimal begins with digits**, and behind them comes the point or an exponent. -/
def BeginsWithDigits (text : List Char) : Prop :=
  ∃ front mark behind, text = front ++ mark :: behind ∧ (∀ c ∈ front, isDigit c = true) ∧
    (mark = '.' ∨ mark = 'e') ∧ ∀ c ∈ behind, IsDecimal c

theorem isDecimal_exponentText (exponent : ℤ) : ∀ c ∈ exponentText exponent, IsDecimal c := by
  refine List.forall_mem_cons.2 ⟨.inr ?_, List.forall_mem_append.2
    ⟨fun c listed => .inl (isDigit_zeros _ c listed),
      fun c listed => .inl (isDigit_decimalDigits _ c listed)⟩⟩
  split <;> decide

theorem beginsWithDigits_layOut {digits : List Char} (inDigits : ∀ c ∈ digits, isDigit c = true)
    (point : ℤ) : BeginsWithDigits (layOut digits point) := by
  have taken (n : Nat) : ∀ c ∈ digits.take n, isDigit c = true :=
    fun c listed => inDigits c (List.mem_of_mem_take listed)
  have exponent : ∀ c ∈ 'e' :: exponentText (point - 1), IsDecimal c :=
    List.forall_mem_cons.2 ⟨.inr (by decide), isDecimal_exponentText _⟩
  unfold layOut
  split
  · dsimp only
    split
    · exact ⟨digits.take 1, 'e', exponentText (point - 1), by rw [List.append_nil], taken 1,
        .inr rfl, isDecimal_exponentText _⟩
    · exact ⟨digits.take 1, '.', digits.tail ++ 'e' :: exponentText (point - 1),
        by rw [List.append_assoc, List.cons_append], taken 1, .inl rfl, List.forall_mem_append.2
          ⟨fun c listed => .inl (inDigits c (List.mem_of_mem_tail listed)), exponent⟩⟩
  split
  · exact ⟨['0'], '.', List.replicate (-point).toNat '0' ++ digits, rfl, isDigit_zeros 1, .inl rfl,
      List.forall_mem_append.2
        ⟨fun c listed => .inl (isDigit_zeros _ c listed), fun c listed => .inl (inDigits c listed)⟩⟩
  · refine ⟨_, '.', _, rfl, List.forall_mem_append.2 ⟨taken _, isDigit_zeros _⟩, .inl rfl, ?_⟩
    split
    · exact List.forall_mem_singleton.2 (.inl (by decide))
    · exact fun c listed => .inl (inDigits c (List.mem_of_mem_drop listed))

theorem beginsWithDigits_body (m : Magnitude) : BeginsWithDigits (body m) := by
  unfold body
  split
  · exact ⟨['0'], '.', ['0'], by decide, isDigit_zeros 1, .inl rfl,
      List.forall_mem_singleton.2 (.inl (by decide))⟩
  · exact beginsWithDigits_layOut (isDigit_shortestDigits m) _

/-- A decimal has no sign. -/
theorem takeSign_body (m : Magnitude) : takeSign (body m) = (false, body m) := by
  obtain ⟨front, mark, behind, body_eq, digits, isMark, -⟩ := beginsWithDigits_body m
  refine takeSign_of_head fun c first => ?_
  have shown : isDigit c = true ∨ c = '.' ∨ c = 'e' := by
    rw [body_eq] at first
    cases front with
    | nil =>
      obtain rfl : mark = c := by simpa using first
      exact .inr isMark
    | cons d front =>
      obtain rfl : d = c := by simpa using first
      exact .inl (digits d List.mem_cons_self)
  refine ⟨?_, ?_⟩ <;> rintro rfl <;> exact absurd shown (by decide)

/-! ## The text of a binary number -/

/-- Behind its sign, the text of a number. -/
def unsigned : Binary64 → List Char
  | nan => "nan".toList
  | infinite _ => "inf".toList
  | finite _ m => body m

/-- Whether a number has a minus sign. -/
def isNegative : Binary64 → Bool
  | nan => false
  | infinite negative | finite negative _ => negative

/-- The sign of a number is read off its text. -/
theorem takeSign_text (v : Binary64) : takeSign v.text = (v.isNegative, v.unsigned) := by
  match v with
  | nan => rfl
  | infinite false => rfl
  | infinite true => rfl
  | finite false m => exact takeSign_body m
  | finite true m => rfl

/-- **Different binary numbers have different texts.** -/
theorem text_injective : Function.Injective text := by
  intro v w same
  have signs : (v.isNegative, v.unsigned) = (w.isNegative, w.unsigned) := by
    rw [← takeSign_text, same, takeSign_text]
  obtain ⟨negative, unsigned⟩ := Prod.mk.inj signs
  -- Neither of the two words is a decimal.
  have no_word (m : Magnitude) (word : List Char) (none : decimal? word = none) : body m ≠ word := by
    rintro rfl
    obtain ⟨x, some, -⟩ := decimal?_body m
    rw [none] at some
    exact absurd some (by simp)
  have words : "nan".toList ≠ "inf".toList := by decide
  match v, w with
  | nan, nan => rfl
  | infinite _, infinite _ => exact congrArg infinite negative
  | finite _ m, finite _ n =>
    obtain ⟨x, inFirst, holds⟩ := decimal?_body m
    obtain ⟨y, inSecond, holds'⟩ := decimal?_body n
    have bodies : body m = body n := unsigned
    rw [bodies, inSecond] at inFirst
    obtain rfl := Option.some.inj inFirst
    exact congrArg₂ finite negative (Magnitude.eq_of_holds holds holds')
  | nan, infinite _ => exact absurd unsigned words
  | infinite _, nan => exact absurd unsigned words.symm
  | nan, finite _ n => exact absurd unsigned.symm (no_word n "nan".toList (by decide +kernel))
  | infinite _, finite _ n => exact absurd unsigned.symm (no_word n "inf".toList (by decide +kernel))
  | finite _ m, nan => exact absurd unsigned (no_word m "nan".toList (by decide +kernel))
  | finite _ m, infinite _ => exact absurd unsigned (no_word m "inf".toList (by decide +kernel))

theorem isPrintable_signText (negative : Bool) : ∀ c ∈ signText negative, isPrintable c = true := by
  exact List.all_eq_true.1 (by cases negative <;> decide +kernel)

/-- The text of a binary number has a character that is neither a digit nor a minus sign. -/
theorem exists_foreign (v : Binary64) : ∃ c ∈ v.text, isDigit c = false ∧ c ≠ '-' := by
  match v with
  | nan => exact ⟨'n', by decide, by decide⟩
  | infinite negative => exact ⟨'i', by cases negative <;> decide, by decide⟩
  | finite negative m =>
    obtain ⟨front, mark, behind, body_eq, -, isMark, -⟩ := beginsWithDigits_body m
    refine ⟨mark, by simp [text_finite, body_eq], ?_⟩
    rcases isMark with rfl | rfl <;> decide

/-- The text of a binary number can be printed. -/
theorem isPrintable_text (v : Binary64) : ∀ c ∈ v.text, isPrintable c = true := by
  match v with
  | nan => exact List.all_eq_true.1 (by decide +kernel)
  | infinite negative => exact List.all_eq_true.1 (by cases negative <;> decide +kernel)
  | finite negative m =>
    obtain ⟨front, mark, behind, body_eq, digits, isMark, decimal⟩ := beginsWithDigits_body m
    have printable : ∀ c ∈ ".e+-".toList, isPrintable c = true :=
      List.all_eq_true.1 (by decide +kernel)
    rw [text_finite, body_eq]
    refine List.forall_mem_append.2 ⟨isPrintable_signText negative, List.forall_mem_append.2
      ⟨fun c listed => isPrintable_of_isDigit (digits c listed), List.forall_mem_cons.2 ⟨?_, ?_⟩⟩⟩
    · rcases isMark with rfl | rfl <;> decide +kernel
    · exact fun c listed => (decimal c listed).elim isPrintable_of_isDigit (printable c)

end Binary64

namespace Number

open Text Binary64

/-! ## The text of a number -/

/-- The text of an integer is its sign and the digits of its absolute value. -/
theorem toList_toString (value : ℤ) :
    (toString value).toList = signText (value < 0) ++ decimalDigits value.natAbs := by
  match value with
  | .ofNat n =>
    exact Nat.toList_repr
  | .negSucc n =>
    change ("-" ++ (n + 1).repr).toList = _
    rw [String.toList_append, Nat.toList_repr]
    simp [signText, decimalDigits]

/-- **An integer is read off its text.** -/
theorem takeSign_toString (value : ℤ) :
    takeSign (toString value).toList = (decide (value < 0), decimalDigits value.natAbs) := by
  rw [toList_toString]
  by_cases negative : value < 0
  · rw [decide_eq_true negative]
    rfl
  · rw [decide_eq_false negative]
    refine takeSign_of_head fun c first => ?_
    have digit := isDigit_decimalDigits _ c (List.mem_of_mem_head? first)
    refine ⟨?_, ?_⟩ <;> rintro rfl <;> exact absurd digit (by decide)

theorem toString_injective {first second : ℤ} (same : toString first = toString second) :
    first = second := by
  have read := takeSign_toString first
  rw [same, takeSign_toString, Prod.mk.injEq, decide_eq_decide] at read
  obtain ⟨sign, digits⟩ := read
  have := congrArg digitsValue digits
  rw [digitsValue_decimalDigits, digitsValue_decimalDigits] at this
  omega

/-- The text of an integer has digits and a minus sign only. -/
theorem isDigit_toString (value : ℤ) :
    ∀ c ∈ (toString value).toList, isDigit c = true ∨ c = '-' := by
  rw [toList_toString]
  refine List.forall_mem_append.2 ⟨fun c listed => .inr ?_, fun c listed =>
    .inl (isDigit_decimalDigits _ c listed)⟩
  unfold signText at listed
  split at listed
  · exact List.mem_singleton.1 listed
  · exact absurd listed List.not_mem_nil

/-- **Different numbers have different texts.** -/
theorem text_injective : Function.Injective text := by
  have apart (value : ℤ) (v : Binary64) : (integer value).text ≠ (real v).text := by
    intro same
    obtain ⟨c, listed, foreign⟩ := v.exists_foreign
    have inInteger : c ∈ (toString value).toList := by
      rw [show toString value = String.ofList v.text from same, String.toList_ofList]
      exact listed
    rcases isDigit_toString value c inInteger with digit | minus
    · exact absurd (foreign.1.symm.trans digit) (by decide)
    · exact foreign.2 minus
  intro first second same
  match first, second with
  | integer _, integer _ => exact congrArg integer (toString_injective same)
  | real _, real _ => exact congrArg real (Binary64.text_injective (String.ofList_injective same))
  | integer value, real v => exact absurd same (apart value v)
  | real v, integer value => exact absurd same.symm (apart value v)

/-- The text of a number can be printed. -/
theorem isPrintable_text (n : Number) : ∀ c ∈ n.text.toList, isPrintable c = true := by
  match n with
  | integer value =>
    change ∀ c ∈ (toString value).toList, _
    rw [toList_toString]
    exact List.forall_mem_append.2 ⟨isPrintable_signText _,
      fun c listed => isPrintable_of_isDigit (isDigit_decimalDigits _ c listed)⟩
  | real v =>
    rw [text, String.toList_ofList]
    exact v.isPrintable_text

end Number

end PascalFront
