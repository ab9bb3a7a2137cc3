import PascalFront.Proofs.Grammar.Agreement
import PascalFront.Proofs.Text.Lowercase
import PascalFront.Proofs.Token.Respelled
import PascalFront.Proofs.Tree.Spans
/-!
# The case of letters in keywords

Two texts that differ only in the case of letters inside keywords are read alike: the reader
finds tokens of the same kinds in the same places, and the same fault. All tokens that are no
keywords are even the same, since none of their letters has changed (`Token.Recased`). So the
recognizer yields the same tree for both, spans included and up to the case of the keywords
that name types, or the same fault for both (`Program.ofText_recased`).

That the other tokens are the same takes the places of tokens: no other token covers a letter
of a keyword.
-/

namespace PascalFront

open Text Lexeme

/-! ## Letter case -/

/-- Lowering leaves a character that is no letter of ASCII, and makes a letter a letter. -/
theorem isAlpha_toLower (c : Char) :
    c.toLower.isAlpha = c.isAlpha ∧ (c.isAlpha = false → c.toLower = c) := by
  by_cases ascii : c.toNat < 128
  · have all : ∀ n < 128, (Char.ofNat n).toLower.isAlpha = (Char.ofNat n).isAlpha ∧
        ((Char.ofNat n).isAlpha = false → (Char.ofNat n).toLower = Char.ofNat n) := by
      decide +kernel
    have := all c.toNat ascii
    rwa [Char.ofNat_toNat] at this
  · rw [toLower_of_not_ascii (Nat.le_of_not_lt ascii)]
    exact ⟨rfl, fun _ => rfl⟩

/-- Characters that are the same in lower case are the same, or letters of ASCII. -/
theorem readAlike_of_toLower_eq {c c' : Char} (lower : c'.toLower = c.toLower) :
    ReadAlike c c' := by
  have letters : c'.isAlpha = c.isAlpha := by
    rw [← (isAlpha_toLower c').1, lower, (isAlpha_toLower c).1]
  cases alpha : c.isAlpha with
  | true => exact .letter alpha (letters.trans alpha) lower
  | false =>
    rw [(isAlpha_toLower c').2 (letters.trans alpha), (isAlpha_toLower c).2 alpha] at lower
    rw [lower]
    exact .same c

/-- Positions behind characters that are the same in lower case. -/
theorem Position.after_eq_of_toLower_eq {c c' : Char} (lower : c'.toLower = c.toLower)
    (p : Position) : p.after c' = p.after c := by
  have newline : c' = '\n' ↔ c = '\n' := by
    cases readAlike_of_toLower_eq lower with
    | same => rfl
    | lineEnd => exact absurd lower (by decide)
    | letter alpha alpha' _ =>
      constructor <;> rintro rfl
      · exact absurd alpha' (by decide)
      · exact absurd alpha (by decide)
  rw [after, after]
  simp only [newline]

/-- Texts that are the same in lower case, character by character. -/
def SameLetters (text text' : List Char) : Prop :=
  List.Forall₂ (fun c c' : Char => c'.toLower = c.toLower) text text'

/-- **Letters may change their case**, and everything stays in its place. -/
def Respelling.byCase : Respelling where
  char c c' := c'.toLower = c.toLower
  joins := False
  places p p' := p' = p
  alike := readAlike_of_toLower_eq
  start := rfl
  after lower same := by
    rw [same]
    exact Position.after_eq_of_toLower_eq lower _
  joined none_ := none_.elim

/-- Changing the case is respelling. -/
theorem texts_byCase {text text' : List Char} :
    Respelling.byCase.Texts text text' ↔ SameLetters text text' := by
  constructor
  · intro h
    induction h with
    | nil => exact .nil
    | cons first _ ih => exact .cons first ih
    | join none_ => exact none_.elim
  · intro h
    induction h with
    | nil => exact .nil
    | cons first _ ih => exact .cons first ih

/-- Such texts are the same in lower case. -/
theorem SameLetters.lowered {text text' : List Char} (h : SameLetters text text') :
    Kind.lowered text' = Kind.lowered text := by
  have maps : text'.map Char.toLower = text.map Char.toLower := by
    induction h with
    | nil => rfl
    | cons first _ ih => rw [List.map_cons, List.map_cons, first, ih]
  rw [Kind.lowered, Kind.lowered, maps]

/-! ## Tokens -/

/-- **A token with its letters in another case**: a keyword may have changed, any other token
is the same. -/
structure Token.Recased (t t' : Token) : Prop where
  /-- The kind is the same. -/
  kind : t'.kind = t.kind
  /-- It begins in the same place. -/
  start : t'.start = t.start
  /-- It ends in the same place. -/
  stop : t'.stop = t.stop
  /-- The value is the same up to letter case. -/
  lowered : Kind.lowered t'.value.toList = Kind.lowered t.value.toList
  /-- Any value but that of a keyword is the same. -/
  value : t.kind.isKeyword = false → t'.value = t.value

/-- **Two texts differ only in the case of letters inside keywords.** -/
structure KeywordsRecased (a b : String) : Prop where
  /-- They are the same up to letter case. -/
  letters : SameLetters a.toList b.toList
  /-- Where they differ there is a keyword. -/
  covered : ∀ index : Nat, b.toList[index]? ≠ a.toList[index]? →
    ∃ t ∈ (Cursor.ofText a).readAll.tokens, t.kind.isKeyword = true ∧
      t.startPosition.offset ≤ index ∧ (index : Int) < t.stopPosition.offset

/-- What is written alike as a token of one kind is the same. -/
theorem spell_inj {kind : Kind} {value value' : List Char}
    (same : spell kind value = spell kind value') : value = value' := by
  unfold spell at same
  split at same
  · have content : content? (doubleQuotes value ++ ['\'']) = some (value, []) :=
      content_spell value (by simp)
    rw [List.cons.inj same |>.2, content_spell value' (by simp)] at content
    exact ((Prod.mk.inj (Option.some.inj content)).1).symm
  · exact same

namespace Cursor

variable {text : List Char} {c : Cursor} {t t' : Token}

/-- Every token but the last stands before the end of the input. -/
theorem mem_takeWhile (listed : t ∈ c.readAll.tokens) (notLast : t.isEnd = false) :
    t ∈ c.readAll.tokens.takeWhile (!·.isEnd) := by
  induction c using readAll.induct with
  | case1 c fault after read =>
    rw [readAll_of_error read] at listed
    exact absurd listed List.not_mem_nil
  | case2 c t' after read last =>
    rw [readAll_of_end read last] at listed
    obtain rfl := List.mem_singleton.1 listed
    exact absurd last (Bool.eq_false_iff.1 notLast)
  | case3 c t' after read more _ ih =>
    rw [readAll_of_more read more] at listed ⊢
    rw [List.takeWhile_cons, if_pos (by simpa using more)]
    rcases List.mem_cons.1 listed with rfl | listed
    · exact List.mem_cons_self
    · exact .tail _ (ih listed)

/-- **No two tokens cover the same character.** -/
theorem eq_of_covered {a : String} (listed : t ∈ (ofText a).readAll.tokens)
    (listed' : t' ∈ (ofText a).readAll.tokens) (notLast : t.isEnd = false)
    (notLast' : t'.isEnd = false) {index : Int}
    (covered : t.startPosition.offset ≤ index ∧ index < t.stopPosition.offset)
    (covered' : t'.startPosition.offset ≤ index ∧ index < t'.stopPosition.offset) : t = t' := by
  have ordered := (standsAt_ofText a).placedInOrder.ordered
  by_contra other
  have apart := (List.Pairwise.forall_of_forall_of_flip (R := fun t t' : Token => t ≠ t' →
      t.stopPosition.offset ≤ t'.startPosition.offset ∨
        t'.stopPosition.offset ≤ t.startPosition.offset)
    (fun _ _ same => absurd rfl same) (ordered.imp fun before _ => .inl before)
    (ordered.imp fun before _ => .inr before)) (mem_takeWhile listed notLast)
    (mem_takeWhile listed' notLast') other
  omega

end Cursor

/-- A piece of two texts in which they do not differ. -/
theorem extract_congr {text text' : List Char} {first last : Nat}
    (same : ∀ index, first ≤ index → index < last → text'[index]? = text[index]?) :
    text'.extract first last = text.extract first last := by
  refine List.ext_getElem? fun index => ?_
  simp only [List.extract, List.getElem?_take, List.getElem?_drop]
  split
  · exact same _ (by omega) (by omega)
  · rfl

/-- **A token that is no keyword is the same** in a text in which only keywords have changed. -/
theorem KeywordsRecased.value_eq {a b : String} (h : KeywordsRecased a b) {t t' : Token}
    (listed : t ∈ (Cursor.ofText a).readAll.tokens)
    (listed' : t' ∈ (Cursor.ofText b).readAll.tokens) (kind : t'.kind = t.kind)
    (start : t'.start = t.start) (stop : t'.stop = t.stop) (other : t.kind.isKeyword = false) :
    t'.value = t.value := by
  have ends : t'.isEnd = t.isEnd := by rw [Token.isEnd, Token.isEnd, kind]
  cases last : t.isEnd with
  | true =>
    rw [(Cursor.standsAt_ofText a).eq_endAt listed last,
      (Cursor.standsAt_ofText b).eq_endAt listed' (ends.trans last)]
    rfl
  | false =>
    obtain ⟨first, final, -, lies⟩ := (Cursor.standsAt_ofText a).exists_liesOn listed last
    obtain ⟨first', final', -, lies'⟩ :=
      (Cursor.standsAt_ofText b).exists_liesOn listed' (ends.trans last)
    have offset {x x' : Nat} (same : some (Position.inText b.toList x') =
        some (Position.inText a.toList x)) : x' = x :=
      Int.ofNat.inj (congrArg Position.offset (Option.some.inj same))
    obtain rfl := offset (lies'.start.symm.trans (start.trans lies.start))
    obtain rfl := offset (lies'.stop.symm.trans (stop.trans lies.stop))
    have startsAt : t.startPosition.offset = first' := by rw [Token.startPosition, lies.start]; rfl
    have stopsAt : t.stopPosition.offset = final' := by rw [Token.stopPosition, lies.stop]; rfl
    have unchanged : b.toList.extract first' final' = a.toList.extract first' final' := by
      refine extract_congr fun index low high => by_contra fun differs => ?_
      obtain ⟨word, inside, isKeyword, begun, notEnded⟩ := h.covered index differs
      have notEnd : word.isEnd = false := by
        refine Bool.eq_false_iff.2 fun isEnd => ?_
        rw [show word.kind = .endOfInput from of_decide_eq_true isEnd] at isKeyword
        exact absurd isKeyword (by decide)
      have within : t.startPosition.offset ≤ index ∧ (index : Int) < t.stopPosition.offset :=
        ⟨by omega, by omega⟩
      have same : word = t :=
        Cursor.eq_of_covered inside listed notEnd last ⟨begun, notEnded⟩ within
      rw [same, other] at isKeyword
      exact absurd isKeyword (by decide)
    rw [lies.spelled, lies'.spelled, kind] at unchanged
    exact String.toList_inj.1 (spell_inj unchanged)

/-- Things that are related by being the same. -/
theorem eq_of_rel {α : Type} {x x' : Option α} (h : Option.Rel (fun a a' => a' = a) x x') :
    x' = x := by
  cases h with
  | none => rfl
  | some same => rw [same]

/-- **Reading with keywords in another case** yields the same tokens up to that, and the same
fault. -/
theorem KeywordsRecased.readAll {a b : String} (h : KeywordsRecased a b) :
    List.Forall₂ Token.Recased (Cursor.ofText a).readAll.tokens
        (Cursor.ofText b).readAll.tokens ∧
      (Cursor.ofText b).readAll.fault = (Cursor.ofText a).readAll.fault := by
  obtain ⟨tokens, faults⟩ := Respelling.readAll (texts_byCase.2 h.letters)
  constructor
  · refine (forall₂_mem tokens).imp fun t t' ⟨⟨listed, listed'⟩, same⟩ => ?_
    have start := eq_of_rel same.start
    have stop := eq_of_rel same.stop
    exact ⟨same.kind, start, stop, (texts_byCase.1 same.value).lowered,
      h.value_eq listed listed' same.kind start stop⟩
  · refine eq_of_rel (rel_imp faults fun fault fault' same => ?_)
    cases same with
    | lexical cause found places => rw [show _ = _ from places]

/-! ## Programs -/

namespace Correspondence

/-- **Tokens correspond if their keywords are the same up to letter case.** -/
def byKeywords : Correspondence where
  labels := .lowercaseTypes
  tokens := Token.Recased
  faults fault fault' := fault' = fault
  alike same :=
    { kind := same.kind
      keyword := fun _ => same.lowered
      typeName := fun _ => same.lowered
      text := fun isText => same.value (by rw [isText]; decide)
      value := fun other _ => same.value other }
  between same same' := by
    simp only [Token.startPosition, Token.stopPosition, same.start, same'.start, same'.stop]
  combine spans spans' := by
    have same {x x' : Span} (h : Relabelling.lowercaseTypes.span x' =
        Relabelling.lowercaseTypes.span x) : x' = x := h
    rw [same spans, same spans']

/-- The streams of texts in which only keywords differ correspond. -/
theorem streams_byKeywords {a b : String} (h : KeywordsRecased a b) :
    byKeywords.Streams (.ofText a) (.ofText b) := by
  obtain ⟨tokens, faults⟩ := h.readAll
  refine ⟨tokens, .nil, .none, ?_, ?_, rfl⟩
  · show Option.Rel _ (Cursor.ofText a).readAll.fault (Cursor.ofText b).readAll.fault
    rw [faults]
    cases (Cursor.ofText a).readAll.fault with
    | none => exact .none
    | some fault => exact .some rfl
  · have lasts := rel_getLast? tokens
    rw [TokenStream.ofText, TokenStream.ofText, TokenStream.final_fresh, TokenStream.final_fresh]
    generalize (Cursor.ofText a).readAll.tokens.getLast? = last at lasts
    generalize (Cursor.ofText b).readAll.tokens.getLast? = last' at lasts
    have same : last'.bind Token.stop = last.bind Token.stop := by
      cases lasts with
      | none => rfl
      | some same => exact same.stop
    rw [same]
    exact ⟨rfl, rfl, rfl, rfl, fun _ => rfl⟩

end Correspondence

/-- **Keywords may be written in any letter case.** -/
theorem Program.ofText_recased {a b : String} (h : KeywordsRecased a b) :
    (List.Forall₂ Token.Recased (Cursor.ofText a).readAll.tokens
        (Cursor.ofText b).readAll.tokens ∧
      (Cursor.ofText b).readAll.fault = (Cursor.ofText a).readAll.fault) ∧
    ((∃ p q, Program.ofText a = .ok p ∧ Program.ofText b = .ok q ∧
        q.relabelled .lowercaseTypes = p.relabelled .lowercaseTypes) ∨
      ∃ fault, Program.ofText a = .error fault ∧ Program.ofText b = .error fault) := by
  refine ⟨h.readAll, ?_⟩
  rcases Correspondence.byKeywords.ofStream (Correspondence.streams_byKeywords h) with
    ⟨p, q, read, read', programs⟩ | ⟨fault, fault', met, met', faults⟩
  · exact .inl ⟨p, q, read, read', programs⟩
  · refine .inr ⟨fault, met, met'.trans (congrArg _ ?_)⟩
    cases faults with
    | behind same => exact same
    | refused complaint tokens =>
      rw [Token.span, Token.startPosition, Token.stopPosition, tokens.start, tokens.stop]
      rfl

/-- A program in two ways, where the name of a type is one of the keywords that differ. -/
theorem Program.ofText_recased_declaration :
    KeywordsRecased "program p; var x: Real; begin end." "Program p; VAR x: reaL; begin END." ∧
      ∃ p q, Program.ofText "program p; var x: Real; begin end." = .ok p ∧
        Program.ofText "Program p; VAR x: reaL; begin END." = .ok q ∧
        q.relabelled .lowercaseTypes = p.relabelled .lowercaseTypes := by
  have recased : KeywordsRecased "program p; var x: Real; begin end."
      "Program p; VAR x: reaL; begin END." := by
    refine ⟨?_, fun index differs => ?_⟩
    · show List.Forall₂ _ _ _
      decide +kernel
    · by_cases inside : index < 34
      · revert differs
        revert index
        decide +kernel
      · refine absurd ?_ differs
        rw [List.getElem?_eq_none, List.getElem?_eq_none] <;>
          exact Nat.le_of_not_lt inside
  refine ⟨recased, (ofText_recased recased).2.resolve_right ?_⟩
  rintro ⟨fault, met, -⟩
  have accepted : (ofText "program p; var x: Real; begin end.").isOk = true := by decide +kernel
  rw [met] at accepted
  exact absurd accepted Bool.false_ne_true

end PascalFront
