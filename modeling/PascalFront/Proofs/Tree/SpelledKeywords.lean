import PascalFront.Proofs.Grammar.Language
import PascalFront.Proofs.Text.Lowercase
import PascalFront.Proofs.Tree.Roots
/-!
# The words that frame statements are spelled

A token that does not come from a text may be of the kind of a keyword and have any value. For
the words `program`, `begin` and `end` the grammar therefore wants the spelling as well as the
kind, in any letter case — but not for the `begin` of a compound statement. Once a program is
recognized, each token of one of these kinds is spelled as the word, or it is a `begin` and a
compound statement begins where it stands (`Program.keywords_spelled`).

Which items of a rule take a token without looking at its spelling is read off the rules
(`Item.checks`): it is the first item of the rules for compound statements, and no other. Where
a derivation stands is kept apart from what it denotes (`Forest.Has`), since the same tokens may
occur in several places.
-/

namespace PascalFront

open Grammar

/-- **The words that frame** a program and its statements, with their kinds. -/
def Kind.framing : List (String × Kind) :=
  [("program", .programKeyword), ("begin", .beginKeyword), ("end", .endKeyword)]

/-- **A token is spelled as a word**, in any letter case. -/
def Token.IsSpelled (word : String) (t : Token) : Prop :=
  String.ofList (Text.lowercase t.value.toList) = word

/-- A statement that begins with `begin` is a compound one, perhaps with a semicolon behind it. -/
theorem Statement.Terminated.isCompound {s : Statement} {t : Token} {w : List Token}
    (h : s.Terminated (t :: w)) (isBegin : t.kind = .beginKeyword) :
    ∃ items span, s = .compound items span := by
  have bare {u : List Token} (on : s.StandsOn (t :: u)) : ∃ items span, s = .compound items span := by
    cases on with
    | compound => exact ⟨_, _, rfl⟩
    | assignment isOther | call isOther | choice isOther | twoChoices isOther | repetition isOther
      | counting isOther => exact absurd (isBegin.symm.trans isOther) nofun
  generalize whole : t :: w = v at h
  cases h with
  | bare on =>
    obtain rfl := whole
    exact bare on
  | semicolon _ _ on =>
    rcases List.cons_eq_append_iff.1 whole with ⟨rfl, _⟩ | ⟨u, rfl, rfl⟩
    · cases on
    · exact bare on

namespace Grammar

variable {symbol : Symbol} {items : List Item} {sort : Terminal} {entry : String × Kind} {t : Token}
  {front behind : List Token}

/-! ## Where the spelling is looked at -/

/-- Whether a sort of tokens looks at the spelling of a word that frames statements, or does
not take such a word at all. -/
def Terminal.checks : Terminal → Bool
  | .kind wanted _ => wanted ∉ Kind.framing.map Prod.snd
  | _ => true

/-- Whether the separators in a symbol do. -/
def Symbol.checks : Symbol → Bool
  | nested inner | repeated inner => inner.checks
  | separated separator item => separator.checks && item.checks
  | _ => true

/-- Whether an item does. -/
def Item.checks : Item → Bool
  | .token sort => sort.checks
  | .part symbol => symbol.checks

/-- **The spelling is looked at in a row of items**, except where the row begins with a token. -/
structure ChecksBehind (items : List Item) : Prop where
  /-- Behind the first item it is looked at. -/
  tail : ∀ item ∈ items.tail, item.checks = true
  /-- So it is in a symbol that comes first. -/
  head : ∀ part rest, items = .part part :: rest → part.checks = true

/-- It may be looked at everywhere. -/
theorem ChecksBehind.of_checks (checked : ∀ item ∈ items, item.checks = true) :
    ChecksBehind items where
  tail item listed := checked item (List.mem_of_mem_tail listed)
  head part _ same := checked (.part part) (same ▸ List.mem_cons_self)

/-- **A token of a sort is spelled**, or it was taken by its kind. -/
theorem Terminal.isSpelled_or_kind (fits : sort.Fits t) (listed : entry ∈ Kind.framing)
    (isKind : t.kind = entry.2) : t.IsSpelled entry.1 ∨ ∃ notEnd, sort = .kind t.kind notEnd := by
  have others : ∀ e ∈ Kind.framing, e.2.isTypeName = false ∧ e.2 ≠ .identifier ∧ e.2.rank? = none ∧
      e.2 ≠ .plus ∧ e.2 ≠ .minus := by decide
  obtain ⟨noType, noName, noOperator, noPlus, noMinus⟩ := others entry listed
  cases sort with
  | kind kind notEnd =>
    obtain rfl : t.kind = kind := fits
    exact .inr ⟨notEnd, rfl⟩
  | word entry' listed' =>
    obtain ⟨isKind', spelled⟩ := fits
    -- no two keywords are of one kind
    have one : ∀ e ∈ Kind.framing, ∀ e' ∈ Kind.keywords, e'.2 = e.2 → e'.1 = e.1 := by decide
    rw [Token.IsSpelled, ← one entry listed entry' listed' (isKind'.symm.trans isKind)]
    exact .inl ((Kind.lowercase_eq_keyword_iff listed' _).2 spelled)
  | typeName =>
    rcases fits with isType | isName
    · exact absurd isType (by rw [isKind, noType]; decide)
    · exact absurd (isKind.symm.trans isName) noName
  | operator rank isRank =>
    have fits : t.kind.rank? = some rank := fits
    rw [isKind, noOperator] at fits
    cases fits
  | sign =>
    rcases fits with isPlus | isMinus
    · exact absurd (isKind.symm.trans isPlus) noPlus
    · exact absurd (isKind.symm.trans isMinus) noMinus

/-- A word that frames statements may have any spelling where it is taken by its kind. -/
theorem Terminal.not_checks_kind (listed : entry ∈ Kind.framing) (isKind : t.kind = entry.2)
    (notEnd : t.kind ≠ .endOfInput) : (Terminal.kind t.kind notEnd).checks = false := by
  have among : t.kind ∈ Kind.framing.map Prod.snd := isKind ▸ List.mem_map_of_mem listed
  exact decide_eq_false (not_not_intro among)

/-- So no row that looks at the spelling everywhere begins with its kind. -/
theorem ne_kind_cons (checked : ∀ item ∈ items, item.checks = true) (listed : entry ∈ Kind.framing)
    (isKind : t.kind = entry.2) {notEnd : t.kind ≠ .endOfInput} {rest : List Item} :
    items ≠ .token (.kind t.kind notEnd) :: rest := by
  rintro rfl
  have checked : (Terminal.kind t.kind notEnd).checks = true := checked _ List.mem_cons_self
  exact absurd (checked.symm.trans (Terminal.not_checks_kind listed isKind notEnd)) nofun

/-- **Behind its first item** a rule looks at the spelling. -/
theorem Rule.checksBehind (rule : Rule symbol items) (checked : symbol.checks = true) :
    ChecksBehind items := by
  constructor
  · cases rule
    case more => exact List.forall_mem_singleton.2 checked
    case further =>
      obtain ⟨separator, -⟩ := Bool.and_eq_true_iff.1 checked
      exact List.forall_mem_cons.2 ⟨separator, List.forall_mem_singleton.2 checked⟩
    all_goals exact List.all_eq_true.1 rfl
  · rintro part rest rfl
    cases rule
    case nested | more => exact checked
    case single | further => exact (Bool.and_eq_true_iff.1 checked).2
    all_goals rfl

/-- **Only the rules for compound statements** begin with a word whose spelling they do not look
at, and that is `begin`. -/
theorem Rule.compound_of_not_checks {rest : List Item} (rule : Rule symbol (.token sort :: rest))
    (unchecked : sort.checks = false) : symbol = .statement ∧ sort = .kind .beginKeyword := by
  cases rule
  case compound | compoundTerminated => exact ⟨rfl, rfl⟩
  all_goals exact absurd unchecked (by decide)

/-! ## Where a derivation stands -/

/-- **A derivation stands in a forest**, at any depth, behind some of its tokens. -/
inductive Forest.Has {symbol : Symbol} (d : Derivation symbol) :
    {items : List Item} → Forest items → List Token → Prop where
  /-- It comes first. -/
  | here {rest : List Item} {others : Forest rest} : Has d (.part d.rule d.below others) []
  /-- It stands below what comes first. -/
  | inner {symbol : Symbol} {items rest : List Item} {rule : Rule symbol items} {below : Forest items}
      {others : Forest rest} {front : List Token} (inside : Has d below front) :
      Has d (.part rule below others) front
  /-- It stands behind a token. -/
  | token {sort : Terminal} {rest : List Item} {t : Token} {fits : sort.Fits t}
      {others : Forest rest} {front : List Token} (behind : Has d others front) :
      Has d (.token t fits others) (t :: front)
  /-- It stands behind what comes first. -/
  | part {symbol : Symbol} {items rest : List Item} {rule : Rule symbol items} {below : Forest items}
      {others : Forest rest} {front : List Token} (behind : Has d others front) :
      Has d (.part rule below others) (below.tokens ++ front)

/-- **What a derivation in a forest denotes** stands in what the forest denotes, apart from
expressions. -/
theorem Forest.Has.exists_isIn {d : Derivation symbol} {forest : Forest items} {values : Values items}
    (h : forest.Has d front) (denotes : forest.values? = some values) :
    ∃ a, d.value? = some a ∧ ∀ n ∈ symbol.roots a, (∀ e, n ≠ .expression e) →
      ∃ root ∈ valuesRoots items values, root.IsIn n := by
  induction h with
  | here =>
    obtain ⟨a, more, first, -, rfl⟩ := Forest.exists_values_part denotes
    exact ⟨a, first, fun n made _ => ⟨n, List.mem_append_left _ made, .root⟩⟩
  | @inner _ _ _ rule below _ _ _ ih =>
    obtain ⟨b, more, first, -, rfl⟩ := Forest.exists_values_part denotes
    obtain ⟨values, found, denoted⟩ := Derivation.exists_values first
    obtain ⟨a, value, inside⟩ := ih found
    refine ⟨a, value, fun n made other => ?_⟩
    obtain ⟨c, listed, inside⟩ := inside n made other
    obtain ⟨root, made, inside⟩ := rule.exists_isIn (Forest.standsOn found) denoted listed inside other
    exact ⟨root, List.mem_append_left _ made, inside⟩
  | token _ ih =>
    obtain ⟨more, found, rfl⟩ := Forest.exists_values_token denotes
    exact ih found
  | part _ ih =>
    obtain ⟨b, more, -, found, rfl⟩ := Forest.exists_values_part denotes
    obtain ⟨a, value, inside⟩ := ih found
    refine ⟨a, value, fun n made other => ?_⟩
    obtain ⟨root, listed, inside⟩ := inside n made other
    exact ⟨root, List.mem_append_right _ listed, inside⟩

/-- A token in one of two rows stands in the first or in the second. -/
theorem split_append {v w : List Token} (split : v ++ w = front ++ t :: behind) :
    (∃ between, v = front ++ t :: between) ∨
      ∃ between, front = v ++ between ∧ w = between ++ t :: behind := by
  rcases List.append_eq_append_iff.1 split with further | ⟨between, rfl, same⟩
  · exact .inr further
  · rcases List.cons_eq_append_iff.1 same with ⟨rfl, rfl⟩ | ⟨between, rfl, -⟩
    · exact .inr ⟨[], by simp, rfl⟩
    · exact .inl ⟨between, rfl⟩

/-- **A word in a forest is spelled**, or it is a `begin` and a statement begins with it — unless
it comes first and has been taken by its kind. -/
theorem Forest.isSpelled_or_has {forest : Forest items} (checks : ChecksBehind items)
    (listed : entry ∈ Kind.framing) (isKind : t.kind = entry.2)
    (split : forest.tokens = front ++ t :: behind) :
    t.IsSpelled entry.1 ∨
      (t.kind = .beginKeyword ∧ ∃ (c : Derivation .statement) (w : List Token),
        forest.Has c front ∧ c.tokens = t :: w) ∨
      ∃ notEnd rest, items = .token (.kind t.kind notEnd) :: rest ∧ front = [] := by
  -- what is taken by its kind comes first in a rule, and there it begins a compound statement
  induction forest generalizing front behind with
  | nil => exact absurd split (by simp [Forest.tokens])
  | @token sort rest t' fits others ih =>
    rcases List.cons_eq_append_iff.1 split with ⟨rfl, same⟩ | ⟨front, rfl, splitOthers⟩
    · obtain ⟨rfl, rfl⟩ := List.cons.inj same
      rcases Terminal.isSpelled_or_kind fits listed isKind with spelled | ⟨notEnd, rfl⟩
      · exact .inl spelled
      · exact .inr (.inr ⟨notEnd, rest, rfl, rfl⟩)
    · rcases ih (.of_checks checks.tail) splitOthers with
        spelled | ⟨isBegin, c, w, stands, tokens⟩ | ⟨_, _, taken, -⟩
      · exact .inl spelled
      · exact .inr (.inl ⟨isBegin, c, w, .token stands, tokens⟩)
      · exact absurd taken (ne_kind_cons checks.tail listed isKind)
  | @part symbol items rest rule below others ihBelow ihOthers =>
    rcases split_append split with ⟨between, splitBelow⟩ | ⟨between, rfl, splitOthers⟩
    · rcases ihBelow (rule.checksBehind (checks.head symbol rest rfl)) splitBelow with
        spelled | ⟨isBegin, c, w, stands, tokens⟩ | ⟨notEnd, _, rfl, rfl⟩
      · exact .inl spelled
      · exact .inr (.inl ⟨isBegin, c, w, .inner stands, tokens⟩)
      · obtain ⟨rfl, isBegin⟩ :=
          rule.compound_of_not_checks (Terminal.not_checks_kind listed isKind notEnd)
        exact .inr (.inl ⟨Terminal.kind.inj isBegin, ⟨rule, below⟩, between, .here, splitBelow⟩)
    · rcases ihOthers (.of_checks checks.tail) splitOthers with
        spelled | ⟨isBegin, c, w, stands, tokens⟩ | ⟨_, _, taken, -⟩
      · exact .inl spelled
      · exact .inr (.inl ⟨isBegin, c, w, .part stands, tokens⟩)
      · exact absurd taken (ne_kind_cons checks.tail listed isKind)

/-- **A statement in a derivation of a program** that begins with `begin` is a compound statement
of the program. -/
theorem Derivation.isCompound_of_has {d : Derivation .program} {p : Program} (value : d.value? = some p)
    {c : Derivation .statement} {w : List Token} (stands : d.below.Has c front)
    (tokens : c.tokens = t :: w) (isBegin : t.kind = .beginKeyword) :
    ∃ items span, c.value? = some (.compound items span) ∧
      (Node.program p).IsIn (.statement (.compound items span)) := by
  have row := Forest.values?_of_value? value
  have stands : (Forest.cons d .nil).Has c front := .inner stands
  obtain ⟨s, value, inside⟩ := stands.exists_isIn row
  have on : Statement.Terminated s c.tokens := Derivation.standsOn value
  obtain ⟨items, span, rfl⟩ := Statement.Terminated.isCompound (tokens ▸ on) isBegin
  obtain ⟨root, listed, inside⟩ := inside _ (List.mem_singleton_self _) nofun
  obtain rfl := List.mem_singleton.1 listed
  exact ⟨items, span, value, inside⟩

end Grammar

namespace Program

variable {tokens : List Token} {p : Program}

/-- **The words that frame statements are spelled** in the program that some tokens hold. A
token of the kind of `program`, `begin` or `end` before the end of the input is spelled as the
word, in any letter case; or it is a `begin`, and where it stands a compound statement of the
program begins with it. -/
theorem keywords_spelled (accepted : ofTokens tokens = .ok p) :
    ∃ d : Derivation .program, d.tokens = tokens.takeWhile (!·.isEnd) ∧ d.InPlace true none ∧
      d.value? = some p ∧ ∀ (front behind : List Token) (t : Token), d.tokens = front ++ t :: behind →
        ∀ entry ∈ Kind.framing, t.kind = entry.2 → t.IsSpelled entry.1 ∨
          t.kind = .beginKeyword ∧ ∃ (c : Derivation .statement) (w : List Token)
            (items : List Statement) (span : Span), d.below.Has c front ∧ c.tokens = t :: w ∧
              c.value? = some (.compound items span) ∧
              (Node.program p).IsIn (.statement (.compound items span)) := by
  obtain ⟨d, same, place, value⟩ := derivation_of_ofTokens accepted
  refine ⟨d, same, place, value, fun front behind t split entry listed isKind => ?_⟩
  rcases Forest.isSpelled_or_has (d.rule.checksBehind rfl) listed isKind split with
    spelled | ⟨isBegin, c, w, stands, tokens⟩ | ⟨notEnd, _, first, -⟩
  · exact .inl spelled
  · obtain ⟨items, span, value, inside⟩ := Derivation.isCompound_of_has value stands tokens isBegin
    exact .inr ⟨isBegin, c, w, items, span, stands, tokens, value, inside⟩
  · obtain ⟨rule, below⟩ := d
    subst first
    have unchecked := Terminal.not_checks_kind listed isKind notEnd
    exact absurd (rule.compound_of_not_checks unchecked).1 nofun

/-- The tokens of `program p; begin x end end.`, where `x` is of the kind of `begin`. -/
def unspelledBegin : List Token :=
  [⟨.programKeyword, "program", none, none⟩, ⟨.identifier, "p", none, none⟩,
    ⟨.semicolon, ";", none, none⟩, ⟨.beginKeyword, "begin", none, none⟩,
    ⟨.beginKeyword, "x", none, none⟩, ⟨.endKeyword, "end", none, none⟩,
    ⟨.endKeyword, "end", none, none⟩, ⟨.dot, ".", none, none⟩]

/-- They are accepted. -/
theorem exists_unspelledBegin : ∃ p, ofTokens unspelledBegin = .ok p := by
  have accepted : (ofTokens unspelledBegin).toOption.isSome = true := by decide +kernel
  obtain ⟨p, found⟩ := Option.isSome_iff_exists.1 accepted
  exact ⟨p, eq_ok_of_toOption found⟩

/-- There `x` is not spelled `begin`. -/
theorem not_isSpelled_x : ¬ Token.IsSpelled "begin" ⟨.beginKeyword, "x", none, none⟩ := by
  unfold Token.IsSpelled
  decide +kernel

/-- A compound statement begins with `x`. -/
theorem keywords_spelled_compound :
    ∃ p, ofTokens unspelledBegin = .ok p ∧ ∃ d : Derivation .program, d.value? = some p ∧
      ∃ (c : Derivation .statement) (w : List Token) (items : List Statement) (span : Span),
        d.below.Has c (unspelledBegin.take 4) ∧
        c.tokens = ⟨.beginKeyword, "x", none, none⟩ :: w ∧
        c.value? = some (.compound items span) ∧
        (Node.program p).IsIn (.statement (.compound items span)) := by
  obtain ⟨p, accepted⟩ := exists_unspelledBegin
  obtain ⟨d, tokens, -, value, spelled⟩ := keywords_spelled accepted
  have split : d.tokens =
      unspelledBegin.take 4 ++ ⟨.beginKeyword, "x", none, none⟩ :: unspelledBegin.drop 5 := by
    rw [tokens]
    decide
  have listed : ("begin", Kind.beginKeyword) ∈ Kind.framing := by decide
  exact ⟨p, accepted, d, value,
    ((spelled _ _ _ split _ listed rfl).resolve_left not_isSpelled_x).2⟩

/-- **The spelling is not looked at everywhere**: some accepted tokens have one of the kind of
`begin` with another value. -/
theorem not_keywords_spelled :
    ¬ ∀ (tokens : List Token) (p : Program), ofTokens tokens = .ok p →
      ∀ t ∈ tokens.takeWhile (!·.isEnd), ∀ entry ∈ Kind.framing, t.kind = entry.2 →
        t.IsSpelled entry.1 := by
  intro everywhere
  obtain ⟨p, accepted⟩ := exists_unspelledBegin
  exact not_isSpelled_x (everywhere _ p accepted _ (by decide) ("begin", .beginKeyword) (by decide) rfl)

end Program

end PascalFront
