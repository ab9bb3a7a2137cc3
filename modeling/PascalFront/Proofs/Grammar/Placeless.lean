import PascalFront.Proofs.Grammar.Agreement
import PascalFront.Proofs.Token.Spelling
/-!
# Where tokens stand decides nothing

Tokens carry their places in the source, known or not. A recognizer only hands them on: it
puts them into the spans of a tree and into the place of a fault. So tokens that say the same
make up the same tree up to its spans, or all of them are refused with the same complaint,
which is made about the token at the same index (`Program.ofTokens_placeless`).

Two lists of tokens are compared by the correspondence that relates the tokens with the same
index. That the index is the same for all lists takes one list in which a span tells the index
of its token (`numbered`): every other list is compared with that one.
-/

namespace PascalFront

/-- **Tokens say the same** as others, one by one. -/
def SaySame (u v : List Token) : Prop := v.map Token.content = u.map Token.content

/-- Tokens that say the same do so up to any relabelling. -/
theorem Token.Alike.of_content {t t' : Token} (f : Relabelling) (same : t'.content = t.content) :
    t.Alike f t' := by
  have kind : t'.kind = t.kind := congrArg Prod.fst same
  have value : t'.value = t.value := congrArg Prod.snd same
  exact ⟨kind, fun _ => by rw [value], fun _ => by rw [value], fun _ => by rw [value],
    fun _ _ => value⟩

/-- The token with an index, or else the end that is put behind the tokens. -/
def tokenAt (u : List Token) (index : Nat) : Token :=
  u[index]?.getD (.endAt (u.getLast?.bind Token.stop))

variable {u v : List Token}

/-- An index within the list is that of a token of it. -/
theorem tokenAt_of_lt {index : Nat} (h : index < u.length) : tokenAt u index = u[index] := by
  rw [tokenAt, List.getElem?_eq_getElem h, Option.getD_some]

/-- Behind the list there is the end. -/
theorem tokenAt_length (u : List Token) :
    tokenAt u u.length = .endAt (u.getLast?.bind Token.stop) := by
  rw [tokenAt, List.getElem?_eq_none (Nat.le_refl _), Option.getD_none]

/-- Lists that say the same are equally long. -/
theorem SaySame.length_eq (same : SaySame u v) : v.length = u.length := by
  simpa using congrArg List.length same

/-- Tokens with the same index say the same. -/
theorem SaySame.content_tokenAt (same : SaySame u v) (index : Nat) :
    (tokenAt v index).content = (tokenAt u index).content := by
  have ends (w : List Token) : (tokenAt w index).content =
      ((w.map Token.content)[index]?).getD (Token.endAt none).content := by
    rw [tokenAt, List.getElem?_map]
    cases w[index]? <;> rfl
  rw [ends, ends, same]

namespace Correspondence

/-- **Tokens correspond by their index** in lists that say the same. -/
def byIndex (same : SaySame u v) : Correspondence where
  labels := .unplaced
  tokens t t' := ∃ index ≤ u.length, t = tokenAt u index ∧ t' = tokenAt v index
  faults _ _ := False
  alike := by
    rintro _ _ ⟨index, -, rfl, rfl⟩
    exact .of_content _ (same.content_tokenAt index)
  between _ _ := rfl
  combine _ _ := rfl

/-- The streams of two lists that say the same correspond. -/
theorem streams_byIndex (same : SaySame u v) :
    (byIndex same).Streams (.ofTokens u) (.ofTokens v) where
  pending := by
    refine List.forall₂_iff_get.2 ⟨same.length_eq.symm, fun index inU inV => ?_⟩
    exact ⟨index, Nat.le_of_lt inU, (tokenAt_of_lt inU).symm, (tokenAt_of_lt inV).symm⟩
  buffer := .nil
  previous := .none
  fault := .none
  closing := by
    refine ⟨u.length, Nat.le_refl _, ?_, ?_⟩
    · rw [TokenStream.ofTokens, TokenStream.final_fresh, tokenAt_length]
    · rw [TokenStream.ofTokens, TokenStream.final_fresh, ← same.length_eq, tokenAt_length]
  depth := rfl

/-- **Tokens that say the same correspond**, wherever they stand. Unlike `byIndex` this needs
no two lists, but it leaves open about which token of them a complaint is made. -/
def ofContent : Correspondence where
  labels := .unplaced
  tokens t t' := t'.content = t.content
  faults := Eq
  alike := .of_content _
  between _ _ := rfl
  combine _ _ := rfl

/-- Tokens that say the same correspond one by one. -/
theorem forall₂_ofContent (same : SaySame u v) : List.Forall₂ ofContent.tokens u v := by
  have all : List.Forall₂ Eq (u.map Token.content) (v.map Token.content) :=
    List.forall₂_eq_eq_eq ▸ same.symm
  exact (List.forall₂_map_left_iff.1 (List.forall₂_map_right_iff.1 all)).imp fun _ _ => Eq.symm

end Correspondence

/-- **Two lists that say the same** make up the same tree up to its spans, or are refused
with the same complaint about tokens with the same index. -/
theorem SaySame.ofTokens (same : SaySame u v) :
    (∃ p q, Program.ofTokens u = .ok p ∧ Program.ofTokens v = .ok q ∧
      q.relabelled .unplaced = p.relabelled .unplaced) ∨
    ∃ complaint, ∃ index ≤ u.length,
      Program.ofTokens u = .error (.grammatical complaint (some (tokenAt u index).span)) ∧
      Program.ofTokens v = .error (.grammatical complaint (some (tokenAt v index).span)) := by
  rcases (Correspondence.byIndex same).ofStream (Correspondence.streams_byIndex same) with
    ⟨p, q, read, read', programs⟩ | ⟨_, _, met, met', faults⟩
  · exact .inl ⟨p, q, read, read', programs⟩
  · cases faults with
    | behind none_ => exact none_.elim
    | refused complaint tokens =>
      obtain ⟨index, inside, rfl, rfl⟩ := tokens
      exact .inr ⟨complaint, index, inside, met, met'⟩

/-! ## One index for all lists -/

/-- The token with an index says where it stands in the list. -/
def numberedToken (t : Token) (index : Nat) : Token :=
  ⟨t.kind, t.value, some ⟨1, index + 1, index⟩, some ⟨1, index + 2, index + 1⟩⟩

/-- **The same tokens, each on one column of one line.** -/
def numbered (u : List Token) : List Token := u.mapIdx fun index t => numberedToken t index

/-- Numbered tokens say the same. -/
theorem saySame_numbered (u : List Token) : SaySame (numbered u) u := by
  refine List.ext_getElem? fun index => ?_
  rw [List.getElem?_map, List.getElem?_map, numbered, List.getElem?_mapIdx, Option.map_map]
  rfl

/-- The span of a numbered token tells its index. -/
theorem offset_tokenAt_numbered {index : Nat} (inside : index ≤ u.length) :
    (tokenAt (numbered u) index).span.start.offset = index := by
  have length : (numbered u).length = u.length := List.length_mapIdx
  rcases Nat.lt_or_eq_of_le inside with within | rfl
  · rw [tokenAt_of_lt (length ▸ within)]
    simp [numbered, numberedToken, Token.span, Token.startPosition, Token.stopPosition,
      Span.between, Position.zero]
  · have last := tokenAt_length (numbered u)
    rw [length] at last
    rw [last, List.getLast?_eq_getElem?, length, numbered, List.getElem?_mapIdx]
    cases within : u[u.length - 1]? with
    | none =>
      have := List.getElem?_eq_none_iff.1 within
      obtain rfl : u = [] := List.length_eq_zero_iff.1 (by omega)
      rfl
    | some t =>
      have := (List.getElem?_eq_some_iff.1 within).1
      simp [numberedToken, Token.span, Token.startPosition, Token.stopPosition, Token.endAt,
        Span.between, Position.zero]
      omega

/-- **Where tokens stand decides nothing.** All lists of tokens that say the same as `u`,
whatever their places are and whether they are known, hold programs that are equal up to
spans, or all of them are refused with the same complaint about the token with the same
index; the end that is put behind the tokens is that with the index `u.length`. -/
theorem Program.ofTokens_placeless (u : List Token) :
    (∃ p, ∀ v, SaySame u v → ∃ q, Program.ofTokens v = .ok q ∧ q.relabelled .unplaced = p) ∨
    ∃ complaint, ∃ index ≤ u.length, ∀ v, SaySame u v →
      Program.ofTokens v = .error (.grammatical complaint (some (tokenAt v index).span)) := by
  have compare {v : List Token} (same : SaySame u v) :=
    SaySame.ofTokens (Eq.trans same (saySame_numbered u))
  have length : (numbered u).length = u.length := List.length_mapIdx
  rcases compare rfl with ⟨p, -, numbers, -⟩ | ⟨complaint, index, inside, numbers, -⟩
  · refine .inl ⟨p.relabelled .unplaced, fun v same => ?_⟩
    rcases compare same with ⟨p', q, numbers', read, alike⟩ | ⟨_, _, _, numbers', -⟩
    · obtain rfl := Except.ok.inj (numbers.symm.trans numbers')
      exact ⟨q, read, alike⟩
    · exact absurd (numbers.symm.trans numbers') (by simp)
  · refine .inr ⟨complaint, index, length ▸ inside, fun v same => ?_⟩
    rcases compare same with ⟨_, _, numbers', -⟩ | ⟨complaint', index', inside', numbers', met⟩
    · exact absurd (numbers.symm.trans numbers') (by simp)
    · have faults := Except.error.inj (numbers.symm.trans numbers')
      injection faults with complaints places
      obtain rfl := complaints
      have offsets := congrArg (·.start.offset) (Option.some.inj places)
      simp only [offset_tokenAt_numbered (length ▸ inside),
        offset_tokenAt_numbered (length ▸ inside')] at offsets
      obtain rfl : index = index' := by omega
      exact met

/-- A heading that breaks off, with one place known and one not. -/
def brokenHeading : List Token :=
  [⟨.programKeyword, "program", none, none⟩, ⟨.identifier, "P", some .start, none⟩]

/-- It is refused in the same way wherever its tokens stand. -/
theorem Program.ofTokens_placeless_brokenHeading :
    SaySame brokenHeading (numbered brokenHeading) ∧
      ∃ complaint, ∃ index ≤ brokenHeading.length, ∀ v, SaySame brokenHeading v →
        Program.ofTokens v = .error (.grammatical complaint (some (tokenAt v index).span)) := by
  refine ⟨rfl, (ofTokens_placeless brokenHeading).resolve_left ?_⟩
  rintro ⟨_, hold⟩
  obtain ⟨q, read, -⟩ := hold _ rfl
  have refused : Program.ofTokens brokenHeading =
      .error (.grammatical (.missing .semicolonAfterProgramName) (some .zero)) := rfl
  exact absurd (refused.symm.trans read) (by simp)

end PascalFront
