/-!
# UTF-8

Source files are sequences of octets. The first octet of a character says how
many more it owes and between which bounds the next one must lie; the bounds
after `E0`, `ED`, `F0` and `F4` leave out the overlong forms, the surrogates and
what lies beyond the last code point. An octet that opens no character, one
that is not owed, and an end in mid-character are three different flaws, and
each is reported at the first octet of the sequence it spoils.
-/

namespace PascalFront.Text.Utf8

/-- What makes a sequence of octets unreadable. -/
inductive Defect where
  /-- An octet that opens no character. -/
  | badStart
  /-- An octet outside the bounds that the character so far sets. -/
  | badContinuation
  /-- The end of the sequence within a character. -/
  | truncated
  deriving DecidableEq, Repr

/-- A defect and the offset of the character it lies in. -/
structure Flaw where
  /-- What is wrong. -/
  defect : Defect
  /-- The offset of the first octet of the spoiled character. -/
  offset : Nat
  deriving DecidableEq, Repr

/-- A character of which some octets have been read. -/
structure Unfinished where
  /-- The offset of its first octet. -/
  start : Nat
  /-- How many octets follow the next one. -/
  owed : Nat
  /-- The least octet that may come next. -/
  low : UInt8
  /-- The greatest octet that may come next. -/
  high : UInt8
  /-- The bits of the code point so far. -/
  bits : Nat
  deriving DecidableEq, Repr

/-- What an octet at `offset` above the ASCII ones opens. -/
def opened? (offset : Nat) (octet : UInt8) : Option Unfinished :=
  let value := octet.toNat
  if octet < 0xC2 then none
  else if octet < 0xE0 then some ⟨offset, 0, 0x80, 0xBF, value % 32⟩
  else if octet = 0xE0 then some ⟨offset, 1, 0xA0, 0xBF, 0⟩
  else if octet = 0xED then some ⟨offset, 1, 0x80, 0x9F, value % 16⟩
  else if octet < 0xF0 then some ⟨offset, 1, 0x80, 0xBF, value % 16⟩
  else if octet = 0xF0 then some ⟨offset, 2, 0x90, 0xBF, 0⟩
  else if octet < 0xF4 then some ⟨offset, 2, 0x80, 0xBF, value % 8⟩
  else if octet = 0xF4 then some ⟨offset, 2, 0x80, 0x8F, value % 8⟩
  else none

/-- Reads the octets from `offset` on, in the middle of the character
`unfinished` if there is one. -/
def decodeFrom (offset : Nat) (unfinished : Option Unfinished) :
    List UInt8 → Except Flaw (List Char)
  | [] =>
    match unfinished with
    | none => .ok []
    | some character => .error ⟨.truncated, character.start⟩
  | octet :: rest =>
    match unfinished with
    | none =>
      if octet < 0x80 then do
        let others ← decodeFrom (offset + 1) none rest
        return Char.ofNat octet.toNat :: others
      else
        match opened? offset octet with
        | none => .error ⟨.badStart, offset⟩
        | some character => decodeFrom (offset + 1) (some character) rest
    | some character =>
      if octet < character.low ∨ character.high < octet then
        .error ⟨.badContinuation, character.start⟩
      else
        let bits := character.bits * 64 + octet.toNat % 64
        match character.owed with
        | 0 => do
          let others ← decodeFrom (offset + 1) none rest
          return Char.ofNat bits :: others
        | owed + 1 =>
          decodeFrom (offset + 1) (some ⟨character.start, owed, 0x80, 0xBF, bits⟩) rest

/-- The characters that octets encode, or the first flaw. -/
def decode (octets : List UInt8) : Except Flaw (List Char) := decodeFrom 0 none octets

end PascalFront.Text.Utf8
