import PascalFront.Proofs.Grammar.Language
import PascalFront.Proofs.Grammar.Unambiguous
import PascalFront.Proofs.Numeral.Literal
import PascalFront.Proofs.Token.Tiling
/-!
# The limit of nesting is exact

Bodies of routines, statements and the expressions that are opened in them may be nested
200 deep and no deeper. How deeply a program is nested is read off the one derivation of
its tokens that has each `else` at the nearest choice. If the numbers in it denote
something, that depth alone decides whether the program is recognized
(`Program.ofStream_nesting`).
-/

namespace PascalFront

open Grammar TokenStream

/-- A number of a program denotes something. -/
def Token.HasNumber (t : Token) : Prop :=
  t.kind = .number → (Number.ofLiteral? t.value.toList).isSome

namespace Grammar

variable {symbol : Symbol} {items : List Item}

/-- A rule denotes something if the numbers in it do. -/
theorem Rule.isSome_denote (rule : Rule symbol items) {below : Forest items}
    {values : Values items} (found : below.values? = some values)
    (numbers : ∀ t ∈ below.tokens, t.HasNumber) : (rule.denote values below.tokens).isSome := by
  cases rule
  case number =>
    cases below with
    | token t isNumber nothing =>
      cases nothing
      obtain rfl := Option.some.inj found
      exact (Option.isSome_map ..).trans (numbers t List.mem_cons_self isNumber)
  all_goals rfl

/-- **A forest denotes something** if the numbers in it do. -/
theorem Forest.isSome_values? (forest : Forest items) (numbers : ∀ t ∈ forest.tokens, t.HasNumber) :
    forest.values?.isSome := by
  induction forest with
  | nil => rfl
  | token t fits others ih =>
    rw [values?, Option.isSome_map]
    exact ih fun t' listed => numbers t' (List.mem_cons_of_mem t listed)
  | part rule below others ihBelow ihOthers =>
    have numbersBelow : ∀ t ∈ below.tokens, t.HasNumber := fun t listed =>
      numbers t (List.mem_append_left _ listed)
    obtain ⟨values, found⟩ := Option.isSome_iff_exists.1 (ihBelow numbersBelow)
    obtain ⟨a, denoted⟩ := Option.isSome_iff_exists.1 (rule.isSome_denote found numbersBelow)
    have others_ := ihOthers fun t listed => numbers t (List.mem_append_right _ listed)
    rw [values?, found, Option.bind_some, denoted, Option.bind_some, Option.isSome_map]
    exact others_

/-- A derivation denotes something if the numbers in it do. -/
theorem Derivation.isSome_value? (d : Derivation symbol) (numbers : ∀ t ∈ d.tokens, t.HasNumber) :
    d.value?.isSome := by
  obtain ⟨values, found⟩ := Option.isSome_iff_exists.1 (d.below.isSome_values? numbers)
  rw [value?, found]
  exact d.rule.isSome_denote found numbers

end Grammar

namespace Program

/-- **A result is that of a program so deeply nested**: a program if it is nested at most
200 deep, and the complaint about the nesting if it is nested deeper. -/
def DecidedByNesting (depth : Nat) (result : Except Fault Program) : Prop :=
  (depth ≤ 200 → ∃ p, result = .ok p) ∧
    (200 < depth → ∃ place, result = .error (.grammatical .nestingTooDeep place))

/-- The depth of a derivation with each `else` at the nearest choice decides, together with the
levels that are open before it. -/
theorem decidedByNesting {d : Grammar.Derivation .program} {s : TokenStream} (open_ : s.depth ≤ 200)
    (place : d.InPlace true none) (holds : Holds d.tokens s)
    (numbers : ∀ t ∈ d.tokens, t.HasNumber) : DecidedByNesting (s.depth + d.depth) (ofStream s) := by
  have deeper : 200 < s.depth + d.depth ↔ Recognizer.maxNesting - s.depth < d.depth := by
    rw [Recognizer.maxNesting]
    omega
  have value := d.isSome_value? numbers
  have found := Recognizer.program_of_holds d place holds
  unfold ofStream
  cases run : Recognizer.program s with
  | ok p s' =>
    -- What has been read is nested no deeper than the limit, and it is this derivation.
    obtain ⟨d', tokens, yields, -⟩ := Recognizer.exists_yields run
    obtain rfl : d = d' := Derivation.unique place yields.place (holds.ahead.symm.trans tokens)
    exact ⟨fun _ => ⟨p, rfl⟩, fun deep => absurd yields.depth (Nat.not_le.2 (deeper.1 deep))⟩
  | error fault s' =>
    rw [run] at found
    cases found with
    | nesting deep where_ =>
      exact ⟨fun shallow => absurd shallow (Nat.not_le.2 (deeper.2 deep)), fun _ => ⟨where_, rfl⟩⟩
    | literal large => exact absurd value (by simp [large])

/-- The numbers of a text denote something if its integers are short enough. -/
theorem hasNumber_of_short {text : String} {t : Token}
    (listed : t ∈ (Cursor.ofText text).readAll.tokens) (notEnd : t.isEnd = false)
    (short : t.kind = .number → '.' ∉ t.value.toList → t.value.length ≤ 4300) : t.HasNumber := by
  intro isNumber
  obtain ⟨first, last, -, lies⟩ := (Cursor.standsAt_ofText text).exists_liesOn listed notEnd
  exact Number.isSome_ofLiteral? (isNumber ▸ lies.denotes) (short isNumber)

/-- **The limit of nesting is exact.** The tokens of a program have just one derivation
with each `else` at the nearest choice. If it is nested at most 200 deep the tokens are
recognized, and if it is nested deeper they are refused for that. This holds of every
stream of the tokens whose numbers denote something, where the levels that are open in the
stream count, too; and of every text whose integers have at most 4300 digits. -/
theorem ofStream_nesting (tokens : List Token) (isProgram : IsProgram tokens) :
    ∃ n : Grammar.Derivation .program, (n.tokens = tokens ∧ n.InPlace true none) ∧
      (∀ n' : Grammar.Derivation .program, n'.tokens = tokens → n'.InPlace true none → n' = n) ∧
      (∀ s, s.depth ≤ 200 → Holds tokens s →
        (∀ t ∈ tokens, t.kind = .number → Kind.number.Denotes t.value.toList ∧
          ('.' ∉ t.value.toList → t.value.length ≤ 4300)) →
        DecidedByNesting (s.depth + n.depth) (ofStream s)) ∧
      ∀ text last, (Cursor.ofText text).readAll.fault = none →
        (Cursor.ofText text).readAll.tokens = tokens ++ [last] →
        (∀ t ∈ tokens, t.kind = .number → '.' ∉ t.value.toList → t.value.length ≤ 4300) →
        DecidedByNesting n.depth (ofText text) := by
  obtain ⟨d, place, rfl⟩ := id isProgram
  obtain ⟨n, tokens, nearest⟩ := d.exists_nearest place
  rw [← tokens] at isProgram ⊢
  refine ⟨n, ⟨rfl, nearest⟩, fun n' same place' => Derivation.unique place' nearest same,
    fun s open_ holds numbers => ?_, fun text last noFault read short => ?_⟩
  · refine decidedByNesting open_ nearest holds fun t listed isNumber => ?_
    obtain ⟨denotes, short⟩ := numbers t listed isNumber
    exact Number.isSome_ofLiteral? denotes short
  · have decided := decidedByNesting (Nat.zero_le _) nearest (holds_ofText noFault read)
    rw [show (TokenStream.ofText text).depth = 0 from rfl, Nat.zero_add] at decided
    refine decided fun t listed => ?_
    exact hasNumber_of_short (read ▸ List.mem_append_left _ listed) (isProgram.notEnd t listed)
      (short t listed)

/-- A choice between two assignments is not nested too deeply. -/
theorem ofStream_nesting_choice :
    ∃ (tokens : List Token) (n : Grammar.Derivation .program), IsProgram tokens ∧
      n.tokens = tokens ∧ n.InPlace true none ∧ n.depth ≤ 200 ∧
      DecidedByNesting n.depth (ofText "program p; begin if a then x := (1) else x := -2; end.") := by
  have valid : isValid "program p; begin if a then x := (1) else x := -2; end." = true := by
    decide +kernel
  have short : ∀ t ∈ (Cursor.ofText
      "program p; begin if a then x := (1) else x := -2; end.").readAll.tokens,
      t.kind = .number → '.' ∉ t.value.toList → t.value.length ≤ 4300 := by decide +kernel
  obtain ⟨p, found⟩ := exists_of_isValid valid
  obtain ⟨noFault, d, last, -, read, place, -⟩ := derivation_of_ofText found
  have isProgram : IsProgram d.tokens := ⟨d, ⟨⟨place.1.1, by simp⟩, place.2.loose⟩, rfl⟩
  obtain ⟨n, ⟨tokens, nearest⟩, -, -, onText⟩ := ofStream_nesting d.tokens isProgram
  have decided := onText _ last noFault read fun t listed =>
    short t (read ▸ List.mem_append_left _ listed)
  refine ⟨d.tokens, n, isProgram, tokens, nearest, Nat.not_lt.1 fun deep => ?_, decided⟩
  obtain ⟨place, refused⟩ := decided.2 deep
  exact absurd (found.symm.trans refused) (by simp)

end Program

end PascalFront
