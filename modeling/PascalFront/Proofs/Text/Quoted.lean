import Mathlib.Algebra.Group.Nat.Defs
import PascalFront.Text.Quoted
/-!
# Between quotes texts stay apart

A character stands between quotes as itself, as a backslash with a letter, or as a backslash
with a letter and as many hexadecimal digits as the letter tells. So where characters follow
one another it is known where each of them ends (`escapeChar_selfDelimiting`), and two texts
that are quoted in the same way are the same (`quoted_injective`). All of what is written can be
printed (`isPrintable_quoted`), so it is on one line and nothing in it is an instruction to a
terminal.
-/

namespace PascalFront.Text

/-! ## Hexadecimal digits -/

theorem digitChar_injOn {m n : Nat} (first : m < 16) (second : n < 16)
    (same : Nat.digitChar m = Nat.digitChar n) : m = n := by
  have all : ∀ m < 16, ∀ n < 16, Nat.digitChar m = Nat.digitChar n → m = n := by decide
  exact all m first n second same

/-- A number of limited size is known from its digits. -/
theorem hexDigits_injOn {width m n : Nat} (first : m < 16 ^ width) (second : n < 16 ^ width)
    (same : hexDigits width m = hexDigits width n) : m = n := by
  induction width generalizing m n with
  | zero => omega
  | succ width ih =>
    obtain ⟨high, low⟩ := List.append_inj same (by simp)
    have high_eq := ih (by omega) (by omega) high
    have low_eq := digitChar_injOn (by omega) (by omega) (List.cons.inj low).1
    omega

theorem isPrintable_hexDigits (width n : Nat) : ∀ c ∈ hexDigits width n, isPrintable c = true := by
  have digit : ∀ n < 16, isPrintable (Nat.digitChar n) = true := by decide +kernel
  induction width generalizing n with
  | zero => exact List.forall_mem_nil _
  | succ width ih =>
    exact List.forall_mem_append.2
      ⟨ih _, List.forall_mem_singleton.2 (digit (n % 16) (by omega))⟩

/-! ## One character -/

/-- **A code whose words are told apart where they follow one another.** -/
def SelfDelimiting (code : Char → List Char) : Prop :=
  ∀ ⦃c d : Char⦄ ⦃rest rest' : List Char⦄,
    code c ++ rest = code d ++ rest' → c = d ∧ rest = rest'

/-- Texts are told apart by the words of such a code for their characters. -/
theorem SelfDelimiting.flatMap_injective {code : Char → List Char} (delimiting : SelfDelimiting code)
    (notEmpty : ∀ c, code c ≠ []) : Function.Injective fun text : List Char => text.flatMap code := by
  intro first second same
  induction first generalizing second with
  | nil =>
    cases second with
    | nil => rfl
    | cons d second => simp [notEmpty] at same
  | cons c first ih =>
    cases second with
    | nil => simp [notEmpty] at same
    | cons d second =>
      obtain ⟨rfl, rest⟩ := delimiting same
      rw [ih rest]

/-- What a letter behind a backslash stands for, if no digits follow. -/
def meaning : Char → Char
  | 'n' => '\n'
  | 'r' => '\r'
  | 't' => '\t'
  | c => c

/-- How many digits follow a letter behind a backslash. -/
def width? : Char → Option Nat
  | 'x' => some 2
  | 'u' => some 4
  | 'U' => some 8
  | _ => none

/-- The marks that a text is put between. -/
def IsMark (mark : Char) : Prop := mark = '\'' ∨ mark = '"'

variable {mark : Char}

/-- **The three forms of a character between quotes.** -/
theorem escapeChar_form (isMark : IsMark mark) (c : Char) :
    (escapeChar mark c = [c] ∧ c ≠ '\\' ∧ isPrintable c = true) ∨
      (∃ letter, escapeChar mark c = ['\\', letter] ∧ width? letter = none ∧ c = meaning letter ∧
        isPrintable letter = true) ∨
      ∃ letter width, escapeChar mark c = '\\' :: letter :: hexDigits width c.toNat ∧
        width? letter = some width ∧ c.toNat < 16 ^ width ∧ isPrintable letter = true := by
  unfold escapeChar
  split
  · rename_i self
    refine .inr (.inl ⟨c, rfl, ?_⟩)
    rcases self with rfl | rfl
    · rcases isMark with rfl | rfl <;> decide +kernel
    · decide +kernel
  rename_i other
  split
  · rename_i newline
    exact .inr (.inl ⟨'n', rfl, rfl, newline, by decide +kernel⟩)
  split
  · rename_i carriage
    exact .inr (.inl ⟨'r', rfl, rfl, carriage, by decide +kernel⟩)
  split
  · rename_i tab
    exact .inr (.inl ⟨'t', rfl, rfl, tab, by decide +kernel⟩)
  split
  · rename_i printable
    exact .inl ⟨rfl, fun backslash => other (.inr backslash), printable⟩
  -- What cannot be printed is written by its code point.
  have bounded : c.toNat < 0x110000 := by
    have := c.valid
    simp only [UInt32.isValidChar, Nat.isValidChar] at this
    simp only [Char.toNat]
    omega
  refine .inr (.inr ?_)
  unfold escapeCodePoint
  dsimp only
  split
  · exact ⟨'x', 2, rfl, rfl, by omega, by decide +kernel⟩
  split
  · exact ⟨'u', 4, rfl, rfl, by omega, by decide +kernel⟩
  · exact ⟨'U', 8, rfl, rfl, by omega, by decide +kernel⟩

/-- **Where characters follow one another between quotes, they are told apart.** -/
theorem escapeChar_selfDelimiting (isMark : IsMark mark) : SelfDelimiting (escapeChar mark) := by
  intro c d rest rest' same
  rcases escapeChar_form isMark c with ⟨form, plain, -⟩ | ⟨letter, form, none, named, -⟩ |
      ⟨letter, width, form, some, bounded, -⟩ <;>
    rcases escapeChar_form isMark d with ⟨form', plain', -⟩ | ⟨letter', form', none', named', -⟩ |
      ⟨letter', width', form', some', bounded', -⟩ <;>
    rw [form, form'] at same
  · exact List.cons.inj same
  · exact absurd (List.cons.inj same).1 plain
  · exact absurd (List.cons.inj same).1 plain
  · exact absurd (List.cons.inj same).1.symm plain'
  · obtain ⟨rfl, rest_eq⟩ := List.cons.inj (List.cons.inj same).2
    exact ⟨named.trans named'.symm, rest_eq⟩
  · obtain ⟨rfl, -⟩ := List.cons.inj (List.cons.inj same).2
    rw [none] at some'
    exact absurd some' (by simp)
  · exact absurd (List.cons.inj same).1.symm plain'
  · obtain ⟨rfl, -⟩ := List.cons.inj (List.cons.inj same).2
    rw [none'] at some
    exact absurd some (by simp)
  · obtain ⟨rfl, digits⟩ := List.cons.inj (List.cons.inj same).2
    obtain rfl : width = width' := Option.some.inj (some.symm.trans some')
    obtain ⟨digits_eq, rest_eq⟩ := List.append_inj digits (by simp)
    exact ⟨Char.toNat_inj.1 (hexDigits_injOn bounded bounded' digits_eq), rest_eq⟩

theorem escapeChar_ne_nil (isMark : IsMark mark) (c : Char) : escapeChar mark c ≠ [] := by
  rcases escapeChar_form isMark c with ⟨form, -⟩ | ⟨_, form, -⟩ | ⟨_, _, form, -⟩ <;>
    rw [form] <;> exact List.cons_ne_nil _ _

theorem isPrintable_escapeChar (isMark : IsMark mark) (c : Char) :
    ∀ d ∈ escapeChar mark c, isPrintable d = true := by
  have backslash : isPrintable '\\' = true := by decide +kernel
  rcases escapeChar_form isMark c with ⟨form, -, printable⟩ | ⟨letter, form, -, -, printable⟩ |
      ⟨letter, width, form, -, -, printable⟩ <;> rw [form]
  · exact List.forall_mem_singleton.2 printable
  · exact List.forall_mem_cons.2 ⟨backslash, List.forall_mem_singleton.2 printable⟩
  · exact List.forall_mem_cons.2 ⟨backslash, List.forall_mem_cons.2
      ⟨printable, isPrintable_hexDigits width c.toNat⟩⟩

/-! ## A text -/

theorem isMark_quoteMark (text : List Char) : IsMark (quoteMark text) := by
  unfold quoteMark
  split
  · exact .inr rfl
  · exact .inl rfl

/-- **Different texts are different between quotes.** -/
theorem quoted_injective : Function.Injective quoted := by
  intro first second same
  obtain ⟨marks, inside⟩ := List.cons.inj same
  rw [marks] at inside
  have isMark := isMark_quoteMark second
  exact (escapeChar_selfDelimiting isMark).flatMap_injective (escapeChar_ne_nil isMark)
    (List.append_cancel_right inside)

/-- **Whatever a text holds**, between quotes it can be printed. -/
theorem isPrintable_quoted (text : List Char) : ∀ c ∈ quoted text, isPrintable c = true := by
  have isMark := isMark_quoteMark text
  have mark : isPrintable (quoteMark text) = true := by
    rcases isMark with mark | mark <;> rw [mark] <;> decide +kernel
  refine List.forall_mem_cons.2 ⟨mark, List.forall_mem_append.2
    ⟨fun c listed => ?_, List.forall_mem_singleton.2 mark⟩⟩
  obtain ⟨d, -, inWord⟩ := List.mem_flatMap.1 listed
  exact isPrintable_escapeChar isMark d c inWord

end PascalFront.Text
