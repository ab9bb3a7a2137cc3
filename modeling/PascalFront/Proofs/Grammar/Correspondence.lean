import Mathlib.Data.List.Forall2
import PascalFront.Proofs.Grammar.Primitive
import PascalFront.Proofs.Tree.Relabelled
/-!
# Two runs side by side

A recognizer runs on two streams whose tokens correspond one by one. Of a token it reads
the kind, and the value only where a keyword has to be spelled as one, where a number has to
have a value and where a fault quotes a name; whatever else tokens carry goes into the tree
and decides nothing. So if corresponding tokens agree in what is read, the two runs take the
same steps: both yield trees that are equal up to a relabelling, or both stop with the same
complaint at corresponding tokens (`Correspondence.Agree`).

This module holds what streams, tokens and results that correspond are, and the agreement of
the primitive recognizers and of loops. It is carried through the grammar in
`PascalFront.Proofs.Grammar.Agreement`.
-/

namespace PascalFront

open TokenStream

/-- Whether tokens of a kind are keywords, type names and truth values included. -/
def Kind.isKeyword (kind : Kind) : Bool := kind ∈ Kind.keywords.map Prod.snd

/-- **Two tokens say the same up to a relabelling**: they are of the same kind, keywords may
differ in letter case, and type names and string literals in what the relabelling makes
equal. -/
structure Token.Alike (f : Relabelling) (t t' : Token) : Prop where
  /-- The kind is the same. -/
  kind : t'.kind = t.kind
  /-- A keyword is the same up to letter case. -/
  keyword : t.kind.isKeyword → Kind.lowered t'.value.toList = Kind.lowered t.value.toList
  /-- The name of a type is relabelled alike. -/
  typeName : t.kind.isTypeName → f.typeName t'.value = f.typeName t.value
  /-- The text of a string literal is relabelled alike. -/
  text : t.kind = .text → f.text t'.value = f.text t.value
  /-- Any other value is the same. -/
  value : t.kind.isKeyword = false → t.kind ≠ .text → t'.value = t.value

/-- **A correspondence of tokens**, and of the faults that may follow them. -/
structure Correspondence where
  /-- The relabelling that makes the trees equal. -/
  labels : Relabelling
  /-- Which tokens correspond. -/
  tokens : Token → Token → Prop
  /-- Which faults behind the tokens correspond. -/
  faults : Fault → Fault → Prop
  /-- Corresponding tokens say the same. -/
  alike : ∀ {t t' : Token}, tokens t t' → t.Alike labels t'
  /-- Spans between corresponding tokens are relabelled alike. -/
  between : ∀ {t t' u u' : Token}, tokens t t' → tokens u u' →
    labels.span (.between t'.startPosition u'.stopPosition) =
      labels.span (.between t.startPosition u.stopPosition)
  /-- So are spans between the ends of spans. -/
  combine : ∀ {x x' y y' : Span}, labels.span x' = labels.span x → labels.span y' = labels.span y →
    labels.span (.between x'.start y'.stop) = labels.span (.between x.start y.stop)

namespace TokenStream

/-- Where the end is put if none follows the tokens. -/
def final (s : TokenStream) : Option Position :=
  ((s.buffer ++ s.pending).getLast?.or s.previous).bind Token.stop

variable {s : TokenStream} {t : Token}

/-- Where no token is pending the end is put there. -/
theorem closing_eq (none_ : s.pending = []) : s.closing = .endAt s.final := by
  rw [closing, final, none_, List.append_nil]
  cases s.buffer.getLast? <;> rfl

/-- In a stream that nothing has been taken from, it is the end of the last token. -/
@[simp] theorem final_fresh (tokens : List Token) (fault : Option Fault) (depth : Nat) :
    final ⟨tokens, fault, [], none, depth⟩ = tokens.getLast?.bind Token.stop := by
  simp [final]

/-- Finding the last token again leaves it. -/
theorem final_again (last : s.buffer.getLast? = some t) :
    final { s with buffer := s.buffer ++ [t] } = s.final := by
  simp only [final, List.getLast?_append, List.getLast?_singleton, Option.some_or, last]

/-- Taking the token in front of the buffer leaves it. -/
theorem final_taken {others : List Token} (waiting : s.buffer = t :: others) :
    final { s with buffer := if t.isEnd then s.buffer else s.buffer.tail, previous := some t } =
      s.final := by
  cases t.isEnd with
  | true => simp [final, waiting, List.getLast?_cons]
  | false => cases h : others ++ s.pending <;> simp [final, waiting, h, List.getLast?_cons]

end TokenStream

namespace Correspondence

variable (c : Correspondence)

/-- **Two streams correspond**, token by token, with equally many levels of nesting open. -/
structure Streams (s s' : TokenStream) : Prop where
  /-- The tokens that nobody has looked at. -/
  pending : List.Forall₂ c.tokens s.pending s'.pending
  /-- The tokens that have been looked at. -/
  buffer : List.Forall₂ c.tokens s.buffer s'.buffer
  /-- The token taken last. -/
  previous : Option.Rel c.tokens s.previous s'.previous
  /-- The fault behind the tokens. -/
  fault : Option.Rel c.faults s.fault s'.fault
  /-- The end that is put behind tokens without one. -/
  closing : c.tokens (.endAt s.final) (.endAt s'.final)
  /-- The number of levels that are open. -/
  depth : s'.depth = s.depth

/-- **Two faults correspond**: they follow the tokens, or the same complaint is made about
corresponding tokens. -/
inductive Faults : Fault → Fault → Prop where
  | behind {fault fault' : Fault} (faults : c.faults fault fault') : Faults fault fault'
  | refused (complaint : Complaint) {t t' : Token} (tokens : c.tokens t t') :
      Faults (.grammatical complaint (some t.span)) (.grammatical complaint (some t'.span))

variable {α β σ : Type} {V : α → α → Prop} {W : β → β → Prop}

/-- **Two results correspond**: what is yielded is related by `V` and the streams go on
corresponding, or corresponding faults are met. -/
inductive Results (V : α → α → Prop) :
    (first second : EStateM.Result Fault TokenStream α) → Prop where
  | ok {a a' : α} {s s' : TokenStream} (values : V a a') (streams : c.Streams s s') :
      Results V (.ok a s) (.ok a' s')
  | error {fault fault' : Fault} {s s' : TokenStream} (faults : c.Faults fault fault') :
      Results V (.error fault s) (.error fault' s')

/-- **Two recognizers agree**: on corresponding streams they have corresponding results. -/
def Agree (V : α → α → Prop) (r r' : Recognizer α) : Prop :=
  ∀ s s', c.Streams s s' → c.Results V (r s) (r' s')

variable {c} {r r' : Recognizer β} {next next' : β → Recognizer α} {s s' : TokenStream}
  {t t' : Token}

/-! ## Steps -/

/-- One step after the other, from two streams on. -/
theorem Results.bind (first : c.Results W (r s) (r' s'))
    (behind : ∀ b b' s₁ s₁', r s = .ok b s₁ → r' s' = .ok b' s₁' → W b b' → c.Streams s₁ s₁' →
      c.Results V (next b s₁) (next' b' s₁')) :
    c.Results V ((r >>= next) s) ((r' >>= next') s') := by
  generalize run : r s = result at first
  generalize run' : r' s' = result' at first
  cases first with
  | ok values streams =>
    rw [Recognizer.bind_of_ok run, Recognizer.bind_of_ok run']
    exact behind _ _ _ _ run run' values streams
  | error faults =>
    rw [Recognizer.bind_of_error run, Recognizer.bind_of_error run']
    exact .error faults

/-- **One step after the other.** -/
theorem Agree.bind (first : c.Agree W r r')
    (behind : ∀ b b', W b b' → c.Agree V (next b) (next' b')) :
    c.Agree V (r >>= next) (r' >>= next') := fun s s' streams =>
  (first s s' streams).bind fun b b' _ _ _ _ values => behind b b' values _ _

/-- Yielding values that are related. -/
theorem agree_pure {a a' : α} (values : V a a') : c.Agree V (pure a) (pure a') :=
  fun _ _ streams => .ok values streams

/-- What two results are related by can be weakened. -/
theorem Results.mono {V' : α → α → Prop} {first second : EStateM.Result Fault TokenStream α}
    (h : c.Results V first second) (values : ∀ a a', V a a' → V' a a') :
    c.Results V' first second := by
  cases h with
  | ok related streams => exact .ok (values _ _ related) streams
  | error faults => exact .error faults

/-- What two recognizers yield is related more weakly as well. -/
theorem Agree.mono {V' : α → α → Prop} {r r' : Recognizer α} (h : c.Agree V r r')
    (values : ∀ a a', V a a' → V' a a') : c.Agree V' r r' :=
  fun s s' streams => (h s s' streams).mono values

/-- The same choice on both sides. -/
theorem agree_ite {p p' : Prop} [Decidable p] [Decidable p'] {x x' y y' : Recognizer α}
    (same : p' ↔ p) (yes : p → c.Agree V x x') (no : ¬ p → c.Agree V y y') :
    c.Agree V (if p then x else y) (if p' then x' else y') := by
  by_cases holds : p
  · rw [if_pos holds, if_pos (same.2 holds)]
    exact yes holds
  · rw [if_neg holds, if_neg (holds ∘ same.1)]
    exact no holds

/-- Corresponding tokens are the end of the input together. -/
theorem isEnd_eq (h : c.tokens t t') : t'.isEnd = t.isEnd := by
  rw [Token.isEnd, Token.isEnd, (c.alike h).kind]

/-! ## Looking at tokens -/

/-- What stands in the same place of lists that correspond corresponds. -/
theorem rel_getElem? {R : Token → Token → Prop} {u u' : List Token} (h : List.Forall₂ R u u')
    (place : Nat) : Option.Rel R u[place]? u'[place]? := by
  induction h generalizing place with
  | nil => exact .none
  | cons first _ ih =>
    cases place with
    | zero => exact .some first
    | succ place => exact ih place

/-- What stands last in lists that correspond corresponds. -/
theorem rel_getLast? {R : Token → Token → Prop} {u u' : List Token} (h : List.Forall₂ R u u') :
    Option.Rel R u.getLast? u'.getLast? := by
  rw [List.getLast?_eq_getElem?, List.getLast?_eq_getElem?, h.length_eq]
  exact rel_getElem? h _

/-- The ends of the input that lists of corresponding tokens end with correspond. -/
theorem rel_last {u u' : List Token} (h : List.Forall₂ c.tokens u u') :
    Option.Rel c.tokens (u.getLast?.filter Token.isEnd) (u'.getLast?.filter Token.isEnd) := by
  have lasts := rel_getLast? h
  generalize u.getLast? = last at lasts
  generalize u'.getLast? = last' at lasts
  cases lasts with
  | none => exact .none
  | some same =>
    rw [Option.filter_some, Option.filter_some, isEnd_eq same]
    split
    · exact .some same
    · exact .none

/-- Lists that correspond go on corresponding with one more token behind each. -/
theorem forall₂_concat {R : Token → Token → Prop} {u u' : List Token} (h : List.Forall₂ R u u')
    (last : R t t') : List.Forall₂ R (u ++ [t]) (u' ++ [t']) :=
  List.rel_append h (.cons last .nil)

/-- The first ends of the input in lists that correspond correspond. -/
theorem rel_find? {u u' : List Token} (h : List.Forall₂ c.tokens u u') :
    Option.Rel c.tokens (u.find? Token.isEnd) (u'.find? Token.isEnd) := by
  induction h with
  | nil => exact .none
  | cons first _ ih =>
    rw [List.find?_cons, List.find?_cons, isEnd_eq first]
    split
    · exact .some first
    · exact ih

/-- The tokens in front of these correspond. -/
theorem forall₂_takeWhile {u u' : List Token} (h : List.Forall₂ c.tokens u u') :
    List.Forall₂ c.tokens (u.takeWhile (!·.isEnd)) (u'.takeWhile (!·.isEnd)) := by
  induction h with
  | nil => exact .nil
  | cons first _ ih =>
    rw [List.takeWhile_cons, List.takeWhile_cons, isEnd_eq first]
    split
    · exact .cons first ih
    · exact .nil

/-- All tokens of corresponding streams correspond. -/
theorem Streams.all (streams : c.Streams s s') :
    List.Forall₂ c.tokens (s.buffer ++ s.pending) (s'.buffer ++ s'.pending) :=
  List.rel_append streams.buffer streams.pending

/-- **The tokens ahead of corresponding streams correspond.** -/
theorem Streams.ahead (streams : c.Streams s s') : List.Forall₂ c.tokens s.ahead s'.ahead :=
  forall₂_takeWhile streams.all

/-- If the end of the input follows them on the second stream, so it does on the first. -/
theorem Streams.exists_ending (streams : c.Streams s s') (ends : ∃ t, s'.ending = .ok t) :
    ∃ t, s.ending = .ok t := by
  obtain ⟨t, ends⟩ := ends
  have last := rel_find? streams.all
  have fault := streams.fault
  unfold ending at ends ⊢
  generalize (s.buffer ++ s.pending).find? Token.isEnd = found at last
  generalize (s'.buffer ++ s'.pending).find? Token.isEnd = found' at last ends
  generalize s.fault = cause at fault
  generalize s'.fault = cause' at fault ends
  cases last with
  | some => exact ⟨_, rfl⟩
  | none =>
    cases fault with
    | some => exact absurd ends (by simp)
    | none => exact ⟨_, rfl⟩

/-- **Looking at one more token.** -/
theorem agree_pull : c.Agree c.tokens Recognizer.pull Recognizer.pull := by
  intro s s' streams
  rw [Recognizer.pull_run, Recognizer.pull_run]
  have lasts := rel_last streams.buffer
  generalize last : s.buffer.getLast?.filter Token.isEnd = found at lasts
  generalize last' : s'.buffer.getLast?.filter Token.isEnd = found' at lasts
  cases lasts with
  | some same =>
    refine .ok same ⟨streams.pending, forall₂_concat streams.buffer same, streams.previous,
      streams.fault, ?_, streams.depth⟩
    rw [final_again (Option.filter_eq_some_iff.1 last).1,
      final_again (Option.filter_eq_some_iff.1 last').1]
    exact streams.closing
  | none =>
    obtain ⟨pending, fault, buffer, previous, depth⟩ := s
    obtain ⟨pending', fault', buffer', previous', depth'⟩ := s'
    obtain ⟨pendings, buffers, previouses, faults, closing, depths⟩ := streams
    cases pendings with
    | cons same others =>
      refine .ok same ⟨others, forall₂_concat buffers same, previouses, faults, ?_, depths⟩
      simpa only [final, List.append_assoc, List.singleton_append] using closing
    | nil =>
      cases faults with
      | some same => exact .error (.behind same)
      | none =>
        simp only [closing_eq]
        refine .ok closing ⟨.nil, forall₂_concat buffers closing, previouses, .none, ?_, depths⟩
        simpa [final, Token.endAt] using closing

/-- Looking at more tokens. -/
theorem agree_pullMore (count : Nat) :
    c.Agree c.tokens (Recognizer.pullMore count) (Recognizer.pullMore count) := by
  induction count with
  | zero => exact agree_pull
  | succ count ih => exact agree_pull.bind fun _ _ _ => ih

/-- **Looking at a token.** -/
theorem agree_peekAt (ahead : Nat) :
    c.Agree c.tokens (Recognizer.peekAt ahead) (Recognizer.peekAt ahead) := by
  intro s s' streams
  have found := rel_getElem? streams.buffer ahead
  rw [Recognizer.peekAt_run, Recognizer.peekAt_run, ← streams.buffer.length_eq]
  generalize s.buffer[ahead]? = first at found
  generalize s'.buffer[ahead]? = second at found
  cases found with
  | some same => exact .ok same streams
  | none => exact agree_pullMore _ s s' streams

theorem agree_peek : c.Agree c.tokens Recognizer.peek Recognizer.peek := agree_peekAt 0

theorem agree_atEnd : c.Agree (fun b b' => b' = b) Recognizer.atEnd Recognizer.atEnd :=
  agree_peek.bind fun _ _ same => agree_pure (isEnd_eq same)

theorem agree_check (kind : Kind) :
    c.Agree (fun b b' => b' = b) (Recognizer.check kind) (Recognizer.check kind) :=
  agree_peek.bind fun _ _ same => agree_pure (by rw [isEnd_eq same, (c.alike same).kind])

/-! ## Taking tokens -/

/-- **Taking a token that has been looked at** yields that token. -/
theorem Streams.advance (streams : c.Streams s s') {others : List Token}
    (waiting : s.buffer = t :: others) :
    c.Results (fun a a' => a = t ∧ c.tokens a a') (Recognizer.advance s) (Recognizer.advance s') := by
  have buffers := streams.buffer
  rw [waiting] at buffers
  generalize waiting' : s'.buffer = buffer at buffers
  cases buffers with
  | @cons _ t' _ others' same more =>
    rw [Recognizer.advance_run, Recognizer.advance_run, Recognizer.peek_of_buffer waiting,
      Recognizer.peek_of_buffer waiting']
    refine .ok ⟨rfl, same⟩ ⟨streams.pending, ?_, .some same, streams.fault, ?_, streams.depth⟩
    · show List.Forall₂ c.tokens (if t.isEnd then s.buffer else s.buffer.tail)
        (if t'.isEnd then s'.buffer else s'.buffer.tail)
      rw [isEnd_eq same]
      split
      · exact streams.buffer
      · rw [waiting, waiting']
        exact more
    · rw [final_taken waiting, final_taken waiting']
      exact streams.closing

/-- **Taking the next token** behind looking at it. -/
theorem results_advance (streams : c.Streams s s') {s₀ : TokenStream}
    (run : Recognizer.peek s₀ = .ok t s) :
    c.Results (fun a a' => a = t ∧ c.tokens a a') (Recognizer.advance s) (Recognizer.advance s') := by
  have peeked := Recognizer.peek_spec s₀
  rw [run] at peeked
  obtain ⟨others, waiting⟩ := peeked.waiting
  exact streams.advance waiting

/-- **Taking a token.** -/
theorem agree_advance : c.Agree c.tokens Recognizer.advance Recognizer.advance := by
  intro s s' streams
  have looked : c.Results c.tokens ((Recognizer.peek >>= fun _ => Recognizer.advance) s)
      ((Recognizer.peek >>= fun _ => Recognizer.advance) s') :=
    (agree_peek s s' streams).bind fun _ _ _ _ run _ _ streams₁ =>
      (results_advance streams₁ run).mono fun _ _ => And.right
  have twice (s : TokenStream) : (Recognizer.peek >>= fun _ => Recognizer.advance) s =
      Recognizer.advance s := by
    have peeked := Recognizer.peek_spec s
    cases run : Recognizer.peek s with
    | error fault s₁ => rw [Recognizer.bind_of_error run, Recognizer.advance_run, run]
    | ok t s₁ =>
      rw [run] at peeked
      obtain ⟨others, waiting⟩ := peeked.waiting
      rw [Recognizer.bind_of_ok run, Recognizer.advance_run, Recognizer.advance_run s, run,
        Recognizer.peek_of_buffer waiting]
  rwa [twice, twice] at looked

theorem agree_accept (kind : Kind) :
    c.Agree (fun b b' => b' = b) (Recognizer.accept kind) (Recognizer.accept kind) := by
  refine (agree_check kind).bind fun _ b same => ?_
  subst same
  exact agree_ite Iff.rfl (fun _ => agree_advance.bind fun _ _ _ => agree_pure rfl)
    fun _ => agree_pure rfl

/-- **Refusing corresponding tokens** with the same complaint. -/
theorem agree_refuse (complaint : Complaint) (same : c.tokens t t') :
    c.Agree V (Recognizer.refuse complaint t) (Recognizer.refuse complaint t') :=
  fun _ _ _ => .error (.refused complaint same)

/-- Refusing the next token. -/
theorem agree_reject (complaint : Complaint) :
    c.Agree V (Recognizer.reject complaint) (Recognizer.reject complaint) :=
  agree_peek.bind fun _ _ => agree_refuse complaint

/-- Corresponding tokens of which the first has a property. -/
def TokensOf (c : Correspondence) (P : Token → Prop) (t t' : Token) : Prop := c.tokens t t' ∧ P t

/-- **Taking the next token on a condition**, and refusing it otherwise. -/
theorem agree_take (complaint : Complaint) (P : Token → Prop) [DecidablePred P]
    (kept : ∀ t t', c.tokens t t' → (P t' ↔ P t)) :
    c.Agree (c.TokensOf P)
      (Recognizer.peek >>= fun t => if P t then Recognizer.advance else Recognizer.reject complaint)
      (Recognizer.peek >>= fun t => if P t then Recognizer.advance else Recognizer.reject complaint) := by
  intro s s' streams
  refine (agree_peek s s' streams).bind fun t t' s₁ s₁' run _ same streams₁ => ?_
  by_cases holds : P t
  · rw [if_pos holds, if_pos ((kept t t' same).2 holds)]
    refine (results_advance streams₁ run).mono ?_
    rintro a a' ⟨rfl, tokens⟩
    exact ⟨tokens, holds⟩
  · rw [if_neg holds, if_neg (holds ∘ (kept t t' same).1)]
    exact agree_reject complaint s₁ s₁' streams₁

/-- **Taking a token of a kind.** -/
theorem agree_expect (kind : Kind) (complaint : Complaint) :
    c.Agree (c.TokensOf (·.kind = kind)) (Recognizer.expect kind complaint)
      (Recognizer.expect kind complaint) := by
  have taken := agree_take (c := c) complaint (fun t => (!t.isEnd && t.kind = kind) = true)
    fun t t' same => by rw [isEnd_eq same, (c.alike same).kind]
  have by_kind : Recognizer.expect kind complaint = (Recognizer.peek >>= fun t =>
      if (!t.isEnd && t.kind = kind) = true then Recognizer.advance
      else Recognizer.reject complaint) := by
    rw [Recognizer.expect, Recognizer.check, bind_assoc]
    simp only [pure_bind]
  rw [by_kind]
  refine taken.mono ?_
  rintro t t' ⟨same, fits⟩
  exact ⟨same, of_decide_eq_true (Bool.and_eq_true_iff.1 fits).2⟩

/-- **Taking a keyword.** -/
theorem agree_expectKeyword {kind : Kind} (isKeyword : kind.isKeyword = true) (word : String) :
    c.Agree c.tokens (Recognizer.expectKeyword kind word) (Recognizer.expectKeyword kind word) := by
  have taken := agree_take (c := c) (.missing (.keyword word))
    (fun t => t.kind = kind ∧ Kind.lowered t.value.toList = word) fun t t' same => by
      rw [(c.alike same).kind]
      refine and_congr_right fun isKind => ?_
      rw [(c.alike same).keyword (isKind ▸ isKeyword)]
  exact taken.mono fun _ _ => And.left

/-- Two positions where corresponding tokens start. -/
def Starts (c : Correspondence) (p p' : Position) : Prop :=
  ∃ t t', c.tokens t t' ∧ p = t.startPosition ∧ p' = t'.startPosition

/-- Two spans that are relabelled alike. -/
def Spans (c : Correspondence) (x x' : Span) : Prop := c.labels.span x' = c.labels.span x

/-- **The span up to the token taken last.** -/
theorem agree_since {p p' : Position} (starts : c.Starts p p') :
    c.Agree c.Spans (Recognizer.since p) (Recognizer.since p') := by
  intro s s' streams
  obtain ⟨t, t', same, rfl, rfl⟩ := starts
  rw [Recognizer.since_run, Recognizer.since_run]
  refine .ok ?_ streams
  have lasts := streams.previous
  generalize s.previous = last at lasts
  generalize s'.previous = last' at lasts
  cases lasts with
  | some same' => exact c.between same same'
  | none => simp [Spans, Span.between]

/-! ## Loops -/

/-- **Items one after the other** agree if each of them does. -/
theorem agree_collect {item : σ → Recognizer (Option (α × σ))}
    (each : ∀ state, c.Agree (Option.Rel fun x x' => V x.1 x'.1 ∧ x'.2 = x.2) (item state)
      (item state)) (limit : Nat) (state : σ) :
    c.Agree (List.Forall₂ V) (Recognizer.collect item limit state)
      (Recognizer.collect item limit state) := by
  induction limit generalizing state with
  | zero => exact agree_pure .nil
  | succ limit ih =>
    refine (each state).bind fun found found' same => ?_
    cases same with
    | none => exact agree_pure .nil
    | @some x x' same =>
      obtain ⟨a, state⟩ := x
      obtain ⟨a', _⟩ := x'
      obtain ⟨first, rfl⟩ := same
      exact (ih _).bind fun _ _ others => agree_pure (.cons first others)

/-- **A loop** agrees if its items do: corresponding streams hold equally many tokens. -/
theorem agree_many {item : σ → Recognizer (Option (α × σ))}
    (each : ∀ state, c.Agree (Option.Rel fun x x' => V x.1 x'.1 ∧ x'.2 = x.2) (item state)
      (item state)) (state : σ) :
    c.Agree (List.Forall₂ V) (Recognizer.many item state) (Recognizer.many item state) := by
  intro s s' streams
  show c.Results _ (Recognizer.collect item (s.size + 1) state s)
    (Recognizer.collect item (s'.size + 1) state s')
  have same : s'.size = s.size := by
    rw [size, size, streams.buffer.length_eq, streams.pending.length_eq]
  rw [same]
  exact agree_collect each _ state s s' streams

/-- A loop without a state. -/
theorem agree_manyOf {item : Recognizer (Option α)} (each : c.Agree (Option.Rel V) item item) :
    c.Agree (List.Forall₂ V) (Recognizer.manyOf item) (Recognizer.manyOf item) := by
  refine agree_many (fun _ => each.bind fun found found' same => agree_pure ?_) ()
  cases same with
  | none => exact .none
  | some first => exact .some ⟨first, rfl⟩

/-- **Items with separators between them.** -/
theorem agree_separated (separator : Kind) {item : Recognizer α} (each : c.Agree V item item) :
    c.Agree (List.Forall₂ V) (Recognizer.separated separator item)
      (Recognizer.separated separator item) := by
  refine each.bind fun a a' first => ?_
  refine Agree.bind (W := List.Forall₂ V) (agree_manyOf ?_) fun _ _ others =>
    agree_pure (.cons first others)
  refine (agree_accept separator).bind fun _ yes same => ?_
  subst same
  exact agree_ite Iff.rfl (fun _ => each.bind fun _ _ next => agree_pure (.some next))
    fun _ => agree_pure .none

end Correspondence

end PascalFront
