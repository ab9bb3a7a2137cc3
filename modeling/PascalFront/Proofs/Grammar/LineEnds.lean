import PascalFront.Proofs.Grammar.Agreement
import PascalFront.Proofs.Token.Respelled
import PascalFront.Proofs.Token.Tiling
import PascalFront.Text.Lines
/-!
# How lines end decides nothing

A file is read with its line ends made uniform, so the reader meets `\n` where the file has
`\r\n` or `\r`. Making line ends uniform is a way to respell a text: a line end lies between
tokens, in a comment or in a string literal, and only the value of the latter shows it. So
the text and the one with uniform line ends hold programs that are equal up to their spans
and the texts of their string literals, or both are refused with the same words
(`Program.ofText_uniform`).
-/

namespace PascalFront

open Text Lexeme

/-! ## Uniform line ends -/

/-- **Every line end may become a newline.** It may be anywhere. -/
def Respelling.uniform : Respelling where
  char c c' := c' = if c = '\r' then '\n' else c
  joins := True
  places _ _ := True
  alike same := by
    split at same <;> subst same
    · rename_i isReturn
      exact isReturn ▸ .lineEnd
    · exact .same _
  start := trivial
  after _ _ := trivial
  joined _ _ := trivial

/-- Making line ends uniform is respelling. -/
theorem texts_uniformLineEnds (text : List Char) :
    Respelling.uniform.Texts text (uniformLineEnds text) := by
  fun_induction uniformLineEnds text with
  | case1 => exact .nil
  | case2 rest ih => exact .join trivial (.cons rfl ih)
  | case3 c rest _ ih => exact .cons rfl ih

/-- Without `\r` nothing is respelled. -/
theorem Respelling.Texts.eq_of_return_notMem {text text' : List Char}
    (h : Respelling.uniform.Texts text text') (noReturn : '\r' ∉ text) : text' = text := by
  induction h with
  | nil => rfl
  | @cons c c' _ _ first _ ih =>
    obtain ⟨other, others⟩ := List.ne_and_not_mem_of_not_mem_cons noReturn
    have same : c' = c := first.trans (if_neg (Ne.symm other))
    rw [same, ih others]
  | join => exact absurd List.mem_cons_self noReturn

/-! ## Values without line ends -/

/-- There is no `\r` in a number. -/
theorem IsDigits.return_notMem {value : List Char} (h : IsDigits value) : '\r' ∉ value :=
  fun listed => absurd (h.2 _ listed) (by decide)

/-- **A line end can only be in the value of a string literal.** -/
theorem Kind.Denotes.return_notMem {kind : Kind} {value : List Char} (h : kind.Denotes value)
    (notText : kind ≠ .text) : '\r' ∉ value := by
  have listed (h : (IsWord value ∧ (String.ofList (lowercase value), kind) ∈ keywords) ∨
      (String.ofList value, kind) ∈ marks) : '\r' ∉ value := by
    rcases h with ⟨isWord, -⟩ | listed
    · exact isWord.return_notMem
    · have all : ∀ entry ∈ marks, '\r' ∉ entry.1.toList := by decide +kernel
      simpa only [String.toList_ofList] using all _ listed
  cases kind
  case number =>
    rcases h with digits | ⟨whole, fraction, rfl, before, behind⟩
    · exact digits.return_notMem
    · have noPoint : '\r' ≠ '.' := by decide
      simp [before.return_notMem, behind.return_notMem, noPoint]
  case text => exact absurd rfl notText
  case identifier => exact h.1.return_notMem
  all_goals exact listed h

/-- There is no `\r` in the value of a token that is no string literal. -/
theorem Cursor.return_notMem_value {text : String} {t : Token}
    (listed : t ∈ (ofText text).readAll.tokens) (notText : t.kind ≠ .text) :
    '\r' ∉ t.value.toList := by
  cases last : t.isEnd with
  | true =>
    rw [(standsAt_ofText text).eq_endAt listed last]
    exact List.not_mem_nil
  | false =>
    obtain ⟨_, _, -, lies⟩ := (standsAt_ofText text).exists_liesOn listed last
    exact lies.denotes.return_notMem notText

/-! ## Programs -/

/-- **Two faults are told in the same words**, wherever they lie. -/
structure Fault.ToldAlike (fault fault' : Fault) : Prop where
  /-- The code is the same. -/
  code : fault'.code = fault.code
  /-- The message is the same. -/
  message : fault'.message = fault.message

namespace Correspondence

/-- **Tokens correspond if they are of the same kind**, and have the same value unless they
are string literals. -/
def byWords : Correspondence where
  labels := .textless
  tokens t t' := t'.kind = t.kind ∧ (t.kind ≠ .text → t'.value = t.value)
  faults := Fault.ToldAlike
  alike same :=
    { kind := same.1
      keyword := fun isKeyword => by
        rw [same.2]
        rintro isText
        rw [isText] at isKeyword
        exact absurd isKeyword (by decide)
      typeName := fun isType => by
        rw [same.2]
        rintro isText
        rw [isText] at isType
        exact absurd isType (by decide)
      text := fun _ => rfl
      value := fun _ => same.2 }
  between _ _ := rfl
  combine _ _ := rfl

/-- The streams of a text and of that with uniform line ends correspond. -/
theorem streams_uniform (text : String) :
    byWords.Streams (.ofText text) (.ofText (String.ofList (uniformLineEnds text.toList))) := by
  have respelled : Respelling.uniform.Texts text.toList
      (String.ofList (uniformLineEnds text.toList)).toList := by
    rw [String.toList_ofList]
    exact texts_uniformLineEnds text.toList
  obtain ⟨tokens, faults⟩ := Respelling.readAll respelled
  have ends (stop stop' : Option Position) : byWords.tokens (.endAt stop) (.endAt stop') :=
    ⟨rfl, fun _ => rfl⟩
  refine ⟨?_, .nil, .none, ?_, ends _ _, rfl⟩
  · refine (forall₂_mem tokens).imp fun t t' ⟨listed, same⟩ => ⟨same.kind, fun notText => ?_⟩
    have noReturn := Cursor.return_notMem_value listed.1 notText
    exact String.toList_inj.1 (same.value.eq_of_return_notMem noReturn)
  · refine rel_imp faults fun fault fault' same => ?_
    cases same
    exact ⟨rfl, rfl⟩

/-- Corresponding faults are told in the same words. -/
theorem toldAlike_of_faults {fault fault' : Fault} (h : byWords.Faults fault fault') :
    fault.ToldAlike fault' := by
  cases h with
  | behind same => exact same
  | refused complaint _ => exact ⟨rfl, rfl⟩

end Correspondence

/-- **How lines end decides nothing.** A text and the one with uniform line ends hold programs
that are equal up to spans and the texts of string literals, or both are refused, in the same
words. -/
theorem Program.ofText_uniform (text : String) :
    (∃ p q, ofText text = .ok p ∧ ofText (String.ofList (uniformLineEnds text.toList)) = .ok q ∧
      q.relabelled .textless = p.relabelled .textless) ∨
    ∃ fault fault', ofText text = .error fault ∧
      ofText (String.ofList (uniformLineEnds text.toList)) = .error fault' ∧
      fault.ToldAlike fault' := by
  rcases Correspondence.byWords.ofStream (Correspondence.streams_uniform text) with
    ⟨p, q, read, read', programs⟩ | ⟨fault, fault', met, met', faults⟩
  · exact .inl ⟨p, q, read, read', programs⟩
  · exact .inr ⟨fault, fault', met, met', Correspondence.toldAlike_of_faults faults⟩

end PascalFront
