import Mathlib.Data.List.Basic
import PascalFront.Text.Utf8
/-!
# Reading back what was encoded

The octets of a text in UTF-8 are read back as that text (`decode_encoded`). An encoded
character is one octet of ASCII, or an octet that opens it with one to three octets behind it
(`Unfinished`), each of which brings six bits. The bounds that the opening octet sets for the
next one never exclude an encoded character, since that has as few octets as it can and is no
surrogate.

Nothing else is read: octets that are read as a text are those of the text
(`encoded_of_decode`). In the middle of a character, the octets of it so far are kept with the
state (`Begun`); the bounds are what makes them the encoding of the character when its last one
comes.
-/

namespace PascalFront.Text.Utf8

variable {offset : Nat} {octet : UInt8} {rest : List UInt8}

/-- The octet with a number below 256. -/
theorem toNat_ofNat_of_lt {n : Nat} (small : n < 256) : (UInt8.ofNat n).toNat = n := by
  rw [UInt8.toNat_ofNat', Nat.mod_eq_of_lt small]

/-! ## One octet -/

/-- An octet of ASCII is a character. -/
theorem decodeFrom_ascii (ascii : octet.toNat < 128) :
    decodeFrom offset none (octet :: rest) =
      (decodeFrom (offset + 1) none rest).map (Char.ofNat octet.toNat :: ·) := by
  rw [decodeFrom, if_pos (UInt8.lt_iff_toNat_lt.2 ascii)]
  cases decodeFrom (offset + 1) none rest <;> rfl

/-- An octet beyond ASCII opens a character. -/
theorem decodeFrom_opened {character : Unfinished} (beyond : 128 ≤ octet.toNat)
    (opens : opened? offset octet = some character) :
    decodeFrom offset none (octet :: rest) = decodeFrom (offset + 1) (some character) rest := by
  have notAscii : ¬ octet < 0x80 := fun ascii => Nat.not_lt.2 beyond (UInt8.lt_iff_toNat_lt.1 ascii)
  rw [decodeFrom, if_neg notAscii, opens]

/-- **An octet that is owed** lies between the bounds. -/
structure Owed (character : Unfinished) (octet : UInt8) : Prop where
  /-- It is not too small. -/
  low : character.low.toNat ≤ octet.toNat
  /-- It is not too great. -/
  high : octet.toNat ≤ character.high.toNat

/-- It is taken. -/
theorem Owed.not_outside {character : Unfinished} (h : Owed character octet) :
    ¬ (octet < character.low ∨ character.high < octet) := by
  rw [UInt8.lt_iff_toNat_lt, UInt8.lt_iff_toNat_lt]
  have := h.low
  have := h.high
  omega

/-- The last octet of a character ends it. -/
theorem decodeFrom_last {start bits : Nat} {low high : UInt8}
    (owed : Owed ⟨start, 0, low, high, bits⟩ octet) :
    decodeFrom offset (some ⟨start, 0, low, high, bits⟩) (octet :: rest) =
      (decodeFrom (offset + 1) none rest).map (Char.ofNat (bits * 64 + octet.toNat % 64) :: ·) := by
  rw [decodeFrom, if_neg owed.not_outside]
  dsimp only
  cases decodeFrom (offset + 1) none rest <;> rfl

/-- Any other one is followed by octets that bring six bits each. -/
theorem decodeFrom_more {start bits more : Nat} {low high : UInt8}
    (owed : Owed ⟨start, more + 1, low, high, bits⟩ octet) :
    decodeFrom offset (some ⟨start, more + 1, low, high, bits⟩) (octet :: rest) =
      decodeFrom (offset + 1) (some ⟨start, more, 0x80, 0xBF, bits * 64 + octet.toNat % 64⟩) rest := by
  rw [decodeFrom, if_neg owed.not_outside]

/-! ## One character -/

/-- An octet that brings six bits. -/
def continuing (n : Nat) : UInt8 := UInt8.ofNat (n % 64 + 128)

theorem toNat_continuing (n : Nat) : (continuing n).toNat = n % 64 + 128 :=
  toNat_ofNat_of_lt (by omega)

/-- It is owed where no closer bounds are set. -/
theorem owed_continuing (start more bits n : Nat) :
    Owed ⟨start, more, 0x80, 0xBF, bits⟩ (continuing n) := by
  have number := toNat_continuing n
  refine ⟨?_, ?_⟩
  · rw [number]
    exact Nat.le_add_left ..
  · rw [number]
    show n % 64 + 128 ≤ 191
    omega

/-- An octet that is not below a bound. -/
theorem not_lt_of_le {bound : UInt8} (h : bound.toNat ≤ octet.toNat) : ¬ octet < bound :=
  fun below => Nat.not_lt.2 h (UInt8.lt_iff_toNat_lt.1 below)

/-- An octet other than a given one. -/
theorem ne_of_toNat {other : UInt8} (h : octet.toNat ≠ other.toNat) : octet ≠ other :=
  fun same => h (congrArg UInt8.toNat same)

/-- What opens a character of two octets. -/
theorem opened?_two (low : 194 ≤ octet.toNat) (high : octet.toNat < 224) :
    opened? offset octet = some ⟨offset, 0, 0x80, 0xBF, octet.toNat % 32⟩ := by
  rw [opened?, if_neg (not_lt_of_le (show (0xC2 : UInt8).toNat ≤ octet.toNat from low)),
    if_pos (UInt8.lt_iff_toNat_lt.2 high)]

/-- What opens a character of three octets, and bounds that admit the next one. -/
theorem opened?_three {n : Nat} (low : 224 ≤ octet.toNat) (high : octet.toNat < 240)
    (short : octet.toNat = 224 → 32 ≤ n % 64) (noSurrogate : octet.toNat = 237 → n % 64 < 32) :
    ∃ character, opened? offset octet = some character ∧ character.owed = 1 ∧
      character.bits = octet.toNat % 16 ∧ Owed character (continuing n) := by
  have number := toNat_continuing n
  have beyondTwo : ¬ octet < 0xE0 := not_lt_of_le low
  have opensOne : ¬ octet < 0xC2 := not_lt_of_le (Nat.le_trans (by decide) low)
  simp only [opened?]
  rw [if_neg opensOne, if_neg beyondTwo]
  by_cases first : octet.toNat = 224
  · obtain rfl : octet = 0xE0 := UInt8.toNat_inj.1 first
    rw [if_pos rfl]
    refine ⟨_, rfl, rfl, rfl, ?_, (owed_continuing 0 0 0 n).high⟩
    show 160 ≤ (continuing n).toNat
    have := short first
    omega
  rw [if_neg (ne_of_toNat first)]
  by_cases surrogate : octet.toNat = 237
  · obtain rfl : octet = 0xED := UInt8.toNat_inj.1 surrogate
    refine ⟨_, rfl, rfl, rfl, (owed_continuing 0 0 0 n).low, ?_⟩
    show (continuing n).toNat ≤ 159
    have := noSurrogate surrogate
    omega
  rw [if_neg (ne_of_toNat surrogate), if_pos (UInt8.lt_iff_toNat_lt.2 high)]
  exact ⟨_, rfl, rfl, rfl, owed_continuing ..⟩

/-- What opens a character of four octets, and bounds that admit the next one. -/
theorem opened?_four {n : Nat} (low : 240 ≤ octet.toNat) (high : octet.toNat < 245)
    (short : octet.toNat = 240 → 16 ≤ n % 64) (inRange : octet.toNat = 244 → n % 64 < 16) :
    ∃ character, opened? offset octet = some character ∧ character.owed = 2 ∧
      character.bits = octet.toNat % 8 ∧ Owed character (continuing n) := by
  have number := toNat_continuing n
  have beyondThree : ¬ octet < 0xF0 := not_lt_of_le low
  have opensOne : ¬ octet < 0xC2 := not_lt_of_le (Nat.le_trans (by decide) low)
  have beyondTwo : ¬ octet < 0xE0 := not_lt_of_le (Nat.le_trans (by decide) low)
  have notLeast : octet ≠ 0xE0 := fun same => beyondThree (same ▸ by decide)
  have notSurrogate : octet ≠ 0xED := fun same => beyondThree (same ▸ by decide)
  simp only [opened?]
  rw [if_neg opensOne, if_neg beyondTwo, if_neg notLeast, if_neg notSurrogate, if_neg beyondThree]
  by_cases first : octet.toNat = 240
  · obtain rfl : octet = 0xF0 := UInt8.toNat_inj.1 first
    refine ⟨_, rfl, rfl, rfl, ?_, (owed_continuing 0 0 0 n).high⟩
    show 144 ≤ (continuing n).toNat
    have := short first
    omega
  rw [if_neg (ne_of_toNat first)]
  by_cases last : octet.toNat = 244
  · obtain rfl : octet = 0xF4 := UInt8.toNat_inj.1 last
    refine ⟨_, rfl, rfl, rfl, (owed_continuing 0 0 0 n).low, ?_⟩
    show (continuing n).toNat ≤ 143
    have := inRange last
    omega
  rw [if_pos (UInt8.lt_iff_toNat_lt.2 (show octet.toNat < 244 by omega))]
  exact ⟨_, rfl, rfl, rfl, owed_continuing ..⟩

/-- **An encoded character is read back.** -/
theorem decodeFrom_encoded (c : Char) (offset : Nat) (rest : List UInt8) :
    ∃ behind, decodeFrom offset none (String.utf8EncodeChar c ++ rest) =
      (decodeFrom behind none rest).map (c :: ·) := by
  have valid : c.toNat < 0xD800 ∨ 0xDFFF < c.toNat ∧ c.toNat < 0x110000 := c.valid
  have number : c.val.toNat = c.toNat := rfl
  have back := Char.ofNat_toNat c
  unfold String.utf8EncodeChar
  rw [number]
  dsimp only
  generalize c.toNat = n at valid back
  split
  · have small : (UInt8.ofNat n).toNat = n := toNat_ofNat_of_lt (by omega)
    refine ⟨offset + 1, ?_⟩
    rw [List.cons_append, List.nil_append, decodeFrom_ascii (by omega), small, back]
  split
  · have first : (UInt8.ofNat (n / 64 % 32 + 192)).toNat = n / 64 + 192 := by
      rw [toNat_ofNat_of_lt (by omega)]
      omega
    refine ⟨offset + 2, ?_⟩
    show decodeFrom offset none (_ :: continuing n :: rest) = _
    rw [decodeFrom_opened (by omega) (opened?_two (by omega) (by omega)),
      decodeFrom_last (owed_continuing ..), toNat_continuing, first]
    have whole : (n / 64 + 192) % 32 * 64 + (n % 64 + 128) % 64 = n := by omega
    rw [whole, back]
  split
  · have first : (UInt8.ofNat (n / 4096 % 16 + 224)).toNat = n / 4096 + 224 := by
      rw [toNat_ofNat_of_lt (by omega)]
      omega
    obtain ⟨⟨start, owed, low, high, bits⟩, opens, rfl, rfl, second⟩ :=
      @opened?_three offset _ (n / 64) (by rw [first]; omega) (by rw [first]; omega)
        (by rw [first]; omega) (by rw [first]; omega)
    refine ⟨offset + 3, ?_⟩
    show decodeFrom offset none (_ :: continuing (n / 64) :: continuing n :: rest) = _
    rw [decodeFrom_opened (by rw [first]; omega) opens, decodeFrom_more second,
      decodeFrom_last (owed_continuing ..), toNat_continuing, toNat_continuing, first]
    have whole : ((n / 4096 + 224) % 16 * 64 + (n / 64 % 64 + 128) % 64) * 64 +
      (n % 64 + 128) % 64 = n := by omega
    rw [whole, back]
  · have first : (UInt8.ofNat (n / 262144 % 8 + 240)).toNat = n / 262144 + 240 := by
      rw [toNat_ofNat_of_lt (by omega)]
      omega
    obtain ⟨⟨start, owed, low, high, bits⟩, opens, rfl, rfl, second⟩ :=
      @opened?_four offset _ (n / 4096) (by rw [first]; omega) (by rw [first]; omega)
        (by rw [first]; omega) (by rw [first]; omega)
    refine ⟨offset + 4, ?_⟩
    show decodeFrom offset none
      (_ :: continuing (n / 4096) :: continuing (n / 64) :: continuing n :: rest) = _
    rw [decodeFrom_opened (by rw [first]; omega) opens, decodeFrom_more second,
      decodeFrom_more (owed_continuing ..), decodeFrom_last (owed_continuing ..), toNat_continuing,
      toNat_continuing, toNat_continuing, first]
    have whole : (((n / 262144 + 240) % 8 * 64 + (n / 4096 % 64 + 128) % 64) * 64 +
      (n / 64 % 64 + 128) % 64) * 64 + (n % 64 + 128) % 64 = n := by omega
    rw [whole, back]

/-- **The octets of a text are read back as the text.** -/
theorem decode_encoded (text : List Char) :
    decode (text.flatMap String.utf8EncodeChar) = .ok text := by
  have from_ (offset : Nat) : decodeFrom offset none (text.flatMap String.utf8EncodeChar) = .ok text := by
    induction text generalizing offset with
    | nil => rfl
    | cons c text ih =>
      obtain ⟨behind, same⟩ := decodeFrom_encoded c offset (text.flatMap String.utf8EncodeChar)
      rw [List.flatMap_cons, same, ih]
      rfl
  exact from_ 0

/-- The octets of a string are those of its characters. -/
theorem toList_toUTF8 (text : String) :
    text.toUTF8.data.toList = text.toList.flatMap String.utf8EncodeChar := by
  rw [String.toUTF8_eq_toByteArray, ← String.utf8Encode_toList, List.utf8Encode,
    List.toList_data_toByteArray]

/-- The octets of a string are read back as its characters. -/
theorem decode_toUTF8 (text : String) : decode text.toUTF8.data.toList = .ok text.toList := by
  rw [toList_toUTF8]
  exact decode_encoded text.toList

/-! ## What is read was encoded -/

/-- The number of a character that is given by its number. -/
theorem toNat_val_ofNat {n : Nat} (valid : n.isValidChar) : (Char.ofNat n).val.toNat = n := by
  rw [Char.ofNat, dif_pos valid]
  rfl

/-- The octet with a number. -/
theorem ofNat_eq_of_toNat (octet : UInt8) {n : Nat} (h : octet.toNat = n) :
    UInt8.ofNat n = octet := by
  rw [← h, UInt8.ofNat_toNat]

variable {a b c d : UInt8}

/-- One octet of ASCII is the encoding of its character. -/
theorem encode_one (ascii : a.toNat < 128) : String.utf8EncodeChar (Char.ofNat a.toNat) = [a] := by
  have number := @toNat_val_ofNat a.toNat (.inl (by omega))
  rw [String.utf8EncodeChar, number, if_pos (by omega), UInt8.ofNat_toNat]

/-- Two octets are the encoding of their character. -/
theorem encode_two (opens : 194 ≤ a.toNat ∧ a.toNat < 224)
    (second : 128 ≤ b.toNat ∧ b.toNat < 192) :
    String.utf8EncodeChar (Char.ofNat (a.toNat % 32 * 64 + b.toNat % 64)) = [a, b] := by
  have number := @toNat_val_ofNat (a.toNat % 32 * 64 + b.toNat % 64) (.inl (by omega))
  rw [String.utf8EncodeChar, number, if_neg (by omega), if_pos (by omega),
    ofNat_eq_of_toNat a (by omega), ofNat_eq_of_toNat b (by omega)]

/-- So are three, if the second one makes the number great enough and no surrogate. -/
theorem encode_three (opens : 224 ≤ a.toNat ∧ a.toNat < 240)
    (second : 128 ≤ b.toNat ∧ b.toNat < 192) (third : 128 ≤ c.toNat ∧ c.toNat < 192)
    (long : a.toNat = 224 → 160 ≤ b.toNat) (noSurrogate : a.toNat = 237 → b.toNat < 160) :
    String.utf8EncodeChar
      (Char.ofNat ((a.toNat % 16 * 64 + b.toNat % 64) * 64 + c.toNat % 64)) = [a, b, c] := by
  have valid : ((a.toNat % 16 * 64 + b.toNat % 64) * 64 + c.toNat % 64).isValidChar := by
    unfold Nat.isValidChar
    omega
  rw [String.utf8EncodeChar, toNat_val_ofNat valid, if_neg (by omega), if_neg (by omega),
    if_pos (by omega), ofNat_eq_of_toNat a (by omega),
    ofNat_eq_of_toNat b (by omega), ofNat_eq_of_toNat c (by omega)]

/-- So are four, if the second one makes the number great enough and not too great. -/
theorem encode_four (opens : 240 ≤ a.toNat ∧ a.toNat < 245)
    (second : 128 ≤ b.toNat ∧ b.toNat < 192) (third : 128 ≤ c.toNat ∧ c.toNat < 192)
    (fourth : 128 ≤ d.toNat ∧ d.toNat < 192)
    (long : a.toNat = 240 → 144 ≤ b.toNat) (inRange : a.toNat = 244 → b.toNat < 144) :
    String.utf8EncodeChar
      (Char.ofNat (((a.toNat % 8 * 64 + b.toNat % 64) * 64 + c.toNat % 64) * 64 + d.toNat % 64)) =
      [a, b, c, d] := by
  have valid : (((a.toNat % 8 * 64 + b.toNat % 64) * 64 + c.toNat % 64) * 64 +
      d.toNat % 64).isValidChar := by
    unfold Nat.isValidChar
    omega
  rw [String.utf8EncodeChar, toNat_val_ofNat valid, if_neg (by omega), if_neg (by omega),
    if_neg (by omega), ofNat_eq_of_toNat a (by omega),
    ofNat_eq_of_toNat b (by omega), ofNat_eq_of_toNat c (by omega),
    ofNat_eq_of_toNat d (by omega)]

/-- **What an octet opens**: a character of two, three or four octets, with bounds for the second
one. -/
inductive Opens (a : UInt8) : Unfinished → Prop
  /-- The second octet is the last one. -/
  | two {offset bits : Nat} {low high : UInt8} : bits = a.toNat % 32 →
    194 ≤ a.toNat ∧ a.toNat < 224 → 128 ≤ low.toNat ∧ high.toNat < 192 →
    Opens a ⟨offset, 0, low, high, bits⟩
  /-- One follows it. -/
  | three {offset bits : Nat} {low high : UInt8} : bits = a.toNat % 16 →
    224 ≤ a.toNat ∧ a.toNat < 240 → 128 ≤ low.toNat ∧ high.toNat < 192 →
    (a.toNat = 224 → 160 ≤ low.toNat) → (a.toNat = 237 → high.toNat < 160) →
    Opens a ⟨offset, 1, low, high, bits⟩
  /-- Two follow it. -/
  | four {offset bits : Nat} {low high : UInt8} : bits = a.toNat % 8 →
    240 ≤ a.toNat ∧ a.toNat < 245 → 128 ≤ low.toNat ∧ high.toNat < 192 →
    (a.toNat = 240 → 144 ≤ low.toNat) → (a.toNat = 244 → high.toNat < 144) →
    Opens a ⟨offset, 2, low, high, bits⟩

/-- The state behind an octet says what it opens. -/
theorem opens_of_opened? {character : Unfinished} (found : opened? offset a = some character) :
    Opens a character := by
  simp only [opened?, UInt8.lt_iff_toNat_lt, ← UInt8.toNat_inj, UInt8.reduceToNat] at found
  -- One case for each sort of opening octet; the two that open nothing go with the equation.
  repeat' split at found
  all_goals cases found
  all_goals
    constructor
    all_goals first | omega | (simp only [UInt8.reduceToNat]; omega)

/-- **The octets of a character so far**: those that led to the state in the middle of it. -/
inductive Begun : List UInt8 → Unfinished → Prop
  /-- The octet that opens the character. -/
  | opening {octet : UInt8} {character : Unfinished} :
    Opens octet character → Begun [octet] character
  /-- Those so far, and one that is owed but not the last. -/
  | further {octets : List UInt8} {octet low high : UInt8} {start more bits : Nat} :
    Begun octets ⟨start, more + 1, low, high, bits⟩ →
    Owed ⟨start, more + 1, low, high, bits⟩ octet →
    Begun (octets ++ [octet]) ⟨start, more, 0x80, 0xBF, bits * 64 + octet.toNat % 64⟩

/-- No more than two octets are owed behind the next one. -/
theorem Begun.owed_le {octets : List UInt8} {character : Unfinished}
    (h : Begun octets character) : character.owed ≤ 2 := by
  induction h with
  | opening opens =>
    cases opens with
    | two | three => exact Nat.le_of_ble_eq_true rfl
    | four => exact Nat.le_refl 2
  | further _ _ ih => exact Nat.le_of_succ_le ih

/-- An octet that is owed lies between all bounds around those of the character. -/
theorem Owed.between {character : Unfinished} {low high : Nat} (h : Owed character a)
    (bounds : low ≤ character.low.toNat ∧ character.high.toNat < high) :
    low ≤ a.toNat ∧ a.toNat < high :=
  ⟨Nat.le_trans bounds.1 h.low, Nat.lt_of_le_of_lt h.high bounds.2⟩

/-- **The last octet of a character** completes its encoding. -/
theorem Begun.last {octets : List UInt8} {start bits : Nat} {low high : UInt8}
    (begun : Begun octets ⟨start, 0, low, high, bits⟩) (owed : Owed ⟨start, 0, low, high, bits⟩ a) :
    octets ++ [a] = String.utf8EncodeChar (Char.ofNat (bits * 64 + a.toNat % 64)) := by
  have later : 128 ≤ (0x80 : UInt8).toNat ∧ (0xBF : UInt8).toNat < 192 := by decide
  cases begun with
  | opening opens =>
    cases opens with
    | two number first bounds =>
      subst number
      exact (encode_two first (owed.between bounds)).symm
  | further begun owed' =>
    cases begun with
    | opening opens =>
      cases opens with
      | three number first bounds long noSurrogate =>
        subst number
        exact (encode_three first (owed'.between bounds) (owed.between later)
          (fun least => Nat.le_trans (long least) owed'.low)
          fun near => Nat.lt_of_le_of_lt owed'.high (noSurrogate near)).symm
    | further begun owed'' =>
      cases begun with
      | opening opens =>
        cases opens with
        | four number first bounds long inRange =>
          subst number
          exact (encode_four first (owed''.between bounds) (owed'.between later)
            (owed.between later) (fun least => Nat.le_trans (long least) owed''.low)
            fun near => Nat.lt_of_le_of_lt owed''.high (inRange near)).symm
      | further begun _ =>
        have := begun.owed_le
        dsimp only at this
        omega

/-- The octets that have been read of a character, if there is one. -/
inductive Pending : List UInt8 → Option Unfinished → Prop
  /-- Between two characters there are none. -/
  | none : Pending [] none
  /-- In the middle of one. -/
  | some {octets : List UInt8} {character : Unfinished} :
    Begun octets character → Pending octets (some character)

/-- A text that is read with a character in front of it. -/
theorem of_map_cons {result : Except Flaw (List Char)} {c : Char} {text : List Char}
    (h : result.map (c :: ·) = .ok text) : ∃ others, result = .ok others ∧ text = c :: others := by
  cases result with
  | ok others => exact ⟨others, rfl, (Except.ok.inj h).symm⟩
  | error flaw => exact nomatch h

/-- An octet beyond ASCII that is read opens a character. -/
theorem of_decodeFrom_beyond {text : List Char} (beyond : 128 ≤ octet.toNat)
    (read : decodeFrom offset none (octet :: rest) = .ok text) :
    ∃ character, Opens octet character ∧
      decodeFrom (offset + 1) (some character) rest = .ok text := by
  cases found : opened? offset octet with
  | none =>
    rw [decodeFrom, if_neg (not_lt_of_le (show (0x80 : UInt8).toNat ≤ octet.toNat from beyond)),
      found] at read
    exact nomatch read
  | some character =>
    rw [decodeFrom_opened beyond found] at read
    exact ⟨character, opens_of_opened? found, read⟩

/-- An octet that is read in the middle of a character is owed. -/
theorem owed_of_decodeFrom {character : Unfinished} {text : List Char}
    (read : decodeFrom offset (some character) (octet :: rest) = .ok text) :
    Owed character octet := by
  by_cases outside : octet < character.low ∨ character.high < octet
  · rw [decodeFrom, if_pos outside] at read
    exact nomatch read
  · rw [UInt8.lt_iff_toNat_lt, UInt8.lt_iff_toNat_lt] at outside
    exact ⟨by omega, by omega⟩

/-- **What is read is the encoding of the text**, together with the octets that are pending. -/
theorem encoded_of_decodeFrom {pending octets : List UInt8} {unfinished : Option Unfinished}
    {text : List Char} (state : Pending pending unfinished)
    (read : decodeFrom offset unfinished octets = .ok text) :
    pending ++ octets = text.flatMap String.utf8EncodeChar := by
  induction octets generalizing offset pending unfinished text with
  | nil =>
    cases state with
    | none => cases read; rfl
    | some => exact nomatch read
  | cons octet rest ih =>
    cases state with
    | none =>
      by_cases ascii : octet.toNat < 128
      · rw [decodeFrom_ascii ascii] at read
        obtain ⟨others, behind, rfl⟩ := of_map_cons read
        rw [List.flatMap_cons, encode_one ascii, ← ih .none behind]
        rfl
      · obtain ⟨character, opens, read⟩ := of_decodeFrom_beyond (Nat.not_lt.1 ascii) read
        exact ih (.some (.opening opens)) read
    | @some _ character begun =>
      have owed := owed_of_decodeFrom read
      obtain ⟨start, more, low, high, bits⟩ := character
      rw [List.append_cons]
      cases more with
      | zero =>
        rw [decodeFrom_last owed] at read
        obtain ⟨others, behind, rfl⟩ := of_map_cons read
        rw [List.flatMap_cons, begun.last owed, ← ih .none behind]
        rfl
      | succ more =>
        rw [decodeFrom_more owed] at read
        exact ih (.some (begun.further owed)) read

/-- **Octets that are read as a text are its encoding.** -/
theorem encoded_of_decode {octets : List UInt8} {text : List Char}
    (read : decode octets = .ok text) :
    octets = text.flatMap String.utf8EncodeChar :=
  encoded_of_decodeFrom .none read

/-- **Octets are read as the characters of a string** just when they are those of the string. -/
theorem decode_eq_ok_iff {octets : List UInt8} {text : String} :
    decode octets = .ok text.toList ↔ octets = text.toUTF8.data.toList := by
  rw [toList_toUTF8]
  exact ⟨encoded_of_decode, fun same => same ▸ decode_encoded text.toList⟩

end PascalFront.Text.Utf8
