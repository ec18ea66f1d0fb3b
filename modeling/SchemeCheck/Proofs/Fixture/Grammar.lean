import SchemeCheck.Proofs.Fixture.AssertionLine
import SchemeCheck.Proofs.Number.Decimal
set_option autoImplicit false

/-!
The grammar of assertion lines. A line without the end that closes a comment is an opening, carets,
and groups of words; reading accepts these lines and no others, and of the clauses that the groups
spell the first that states a thing is the one that counts.
-/

namespace SchemeCheck
namespace Clause

inductive Spelled : Clause → List Text → Prop where
  | foreground (value : Text) : Spelled (.foreground value) ["fg=".toList ++ value]
  | background (value : Text) : Spelled (.background value) ["bg=".toList ++ value]
  | fontStyle (value : Text) {keywords : List Text} (h : ∀ word ∈ keywords, '=' ∉ word) :
      Spelled (.fontStyle value keywords) (("fs=".toList ++ value) :: keywords)
  | minBuild {sign digits : Text} {build : Nat} (hsign : sign = [] ∨ sign = ['+'])
      (number : Decimal.Denotes digits build) (small : build ≤ Decimal.maxUnsigned32) :
      Spelled (.minBuild build) ["build>=".toList ++ (sign ++ digits)]

/-- Words as the groups of clauses, one after the other. Every group starts with a word that has an
equals sign, so that a font style has all the keywords that follow it. -/
inductive Spells : List Clause → List Text → Prop where
  | nil : Spells [] []
  | cons {clause : Clause} {group : List Text} {clauses : List Clause} {words : List Text}
      (first : Spelled clause group) (others : Spells clauses words) :
      Spells (clause :: clauses) (group ++ words)

theorem Spelled.head {clause : Clause} {group : List Text} (h : Spelled clause group) :
    ∃ word words, group = word :: words ∧ '=' ∈ word := by
  cases h <;> exact ⟨_, _, rfl, by simp⟩

theorem Spells.head_not_keyword {clauses : List Clause} {words : List Text} (h : Spells clauses words) :
    ∀ word ∈ words.head?, isKeyword word = false := by
  cases h with
  | nil => simp
  | cons first others =>
    obtain ⟨word, words, rfl, equals⟩ := first.head
    simpa [isKeyword] using equals

theorem spells_of_readAll? {words : List Text} {clauses : List Clause}
    (h : readAll? words = some clauses) : Spells clauses words := by
  fun_induction readAll? words generalizing clauses with
  | case1 =>
    cases h
    exact .nil
  | case2 word words value hvalue ih =>
    obtain ⟨others, hothers, rfl⟩ := Option.map_eq_some_iff.1 h
    rw [Text.after?_eq_some_iff.1 hvalue]
    exact .cons (.foreground value) (ih hothers)
  | case3 word words _ value hvalue ih =>
    obtain ⟨others, hothers, rfl⟩ := Option.map_eq_some_iff.1 h
    rw [Text.after?_eq_some_iff.1 hvalue]
    exact .cons (.background value) (ih hothers)
  | case4 word words _ _ value hvalue ih =>
    obtain ⟨others, hothers, rfl⟩ := Option.map_eq_some_iff.1 h
    have keywords : ∀ keyword ∈ words.takeWhile isKeyword, '=' ∉ keyword := fun keyword hk => by
      simpa [isKeyword] using List.mem_takeWhile_imp hk
    -- What was taken and what was left make up the words again.
    have spelled := Spells.cons (.fontStyle value keywords) (ih hothers)
    rwa [List.cons_append, List.takeWhile_append_dropWhile,
      ← Text.after?_eq_some_iff.1 hvalue] at spelled
  | case5 word words _ _ _ build hbuild ih =>
    obtain ⟨others, hothers, rfl⟩ := Option.map_eq_some_iff.1 h
    obtain ⟨number, hnumber, hread⟩ := Option.bind_eq_some_iff.1 hbuild
    obtain ⟨sign, digits, hsign, rfl, denotes, small⟩ := Decimal.readUpTo?_eq_some_iff.1 hread
    rw [Text.after?_eq_some_iff.1 hnumber]
    exact .cons (.minBuild hsign denotes small) (ih hothers)
  | case6 => cases h

theorem after?_key (t : Text) :
    Text.after? "fg=".toList ("bg=".toList ++ t) = none ∧
      Text.after? "fg=".toList ("fs=".toList ++ t) = none ∧
      Text.after? "bg=".toList ("fs=".toList ++ t) = none ∧
      Text.after? "fg=".toList ("build>=".toList ++ t) = none ∧
      Text.after? "bg=".toList ("build>=".toList ++ t) = none ∧
      Text.after? "fs=".toList ("build>=".toList ++ t) = none :=
  ⟨rfl, rfl, rfl, rfl, rfl, rfl⟩

theorem readAll?_of_spells {words : List Text} {clauses : List Clause} (h : Spells clauses words) :
    readAll? words = some clauses := by
  induction h with
  | nil => rw [readAll?]
  | cons first others ih =>
    cases first with
    | foreground value => simp only [List.singleton_append, readAll?, Text.after?_append, ih,
        Option.map_some]
    | background value => simp only [List.singleton_append, readAll?, Text.after?_append, after?_key, ih,
        Option.map_some]
    | fontStyle value h =>
      have keywords : ∀ word ∈ _, isKeyword word = true := fun word hw => by
        simpa [isKeyword] using h word hw
      obtain ⟨taken, left⟩ := Text.span_append keywords others.head_not_keyword
      simp only [List.cons_append, readAll?, Text.after?_append, after?_key, taken, left, ih,
        Option.map_some]
    | @minBuild sign digits build hsign denotes small =>
      have number := Decimal.readUpTo?_eq_some_iff.2 ⟨sign, digits, hsign, rfl, denotes, small⟩
      simp only [List.singleton_append, readAll?, Text.after?_append, after?_key, Option.bind_some,
        number, ih, Option.map_some]

theorem readAll?_eq_some_iff {words : List Text} {clauses : List Clause} :
    readAll? words = some clauses ↔ Spells clauses words :=
  ⟨spells_of_readAll?, readAll?_of_spells⟩

/-- `result` is what the first of the clauses that state something states; none if no clause does. -/
def IsFirst {α : Type} (states : Clause → α → Prop) (clauses : List Clause) (result : Option α) : Prop :=
  ∀ value, result = some value ↔ ∃ before clause after, clauses = before ++ clause :: after ∧
    states clause value ∧ ∀ earlier ∈ before, ∀ other, ¬ states earlier other

theorem isFirst_findSome? {α : Type} {states : Clause → α → Prop} {stated? : Clause → Option α}
    (h : ∀ clause value, stated? clause = some value ↔ states clause value) (clauses : List Clause) :
    IsFirst states clauses (clauses.findSome? stated?) := by
  intro value
  simp only [List.findSome?_eq_some_iff, Option.eq_none_iff_forall_ne_some, ne_eq, h]

end Clause

namespace AssertionLine

def WithoutEnd (ending : List Char) (t rest : Text) : Prop :=
  ∃ tail, t = rest ++ tail ∧ (∀ c ∈ tail, c ∈ ending) ∧ ∀ c ∈ rest.getLast?, c ∉ ending

/-- `t` is the line in lower case without the ends of markup comments and then of block comments. -/
def NormalForm (line t : Text) : Prop :=
  ∃ inner, WithoutEnd [' ', '-', '>'] (Text.lower line) inner ∧ WithoutEnd [' ', '*', '/'] inner t

/-- What may follow the carets: nothing, or a space and pieces between single spaces, those of which
that are not empty are the words of the clauses. -/
inductive Follows : Text → List Clause → Prop where
  | nothing : Follows [] []
  | clauses {pieces : List Text} {clauses : List Clause} (free : ∀ piece ∈ pieces, ' ' ∉ piece)
      (words : Clause.Spells clauses (pieces.filter (· ≠ []))) :
      Follows (' ' :: [' '].intercalate pieces) clauses

def Grammatical (t : Text) (carets : Nat) (clauses : List Clause) : Prop :=
  ∃ before rest, Opening before ∧ CaretRun t before carets rest ∧ Follows rest clauses

/-- What an assertion line takes from clauses: of each kind the first, where a color that is empty
does not count as one, and an empty font style drops the keywords after it. -/
structure States (parsed : AssertionLine) (clauses : List Clause) : Prop where
  foreground : Clause.IsFirst (fun clause value => clause = .foreground value ∧ value ≠ []) clauses
    parsed.foreground
  background : Clause.IsFirst (fun clause value => clause = .background value ∧ value ≠ []) clauses
    parsed.background
  fontStyle : Clause.IsFirst (fun clause style => ∃ value keywords, clause = .fontStyle value keywords ∧
    style = if value = [] then [] else [' '].intercalate (value :: keywords)) clauses parsed.fontStyle
  minBuild : Clause.IsFirst (fun clause build => clause = .minBuild build) clauses parsed.minBuild

theorem withoutEnd_iff {ending : List Char} {t rest : Text} :
    WithoutEnd ending t rest ↔ Text.dropEndWhile ending.contains t = rest := by
  simp only [WithoutEnd, Text.dropEndWhile_eq_iff, List.contains_eq_mem,
    decide_eq_true_eq, decide_eq_false_iff_not]

theorem normalForm_iff {line t : Text} : NormalForm line t ↔ normalize line = t := by
  simp only [NormalForm, withoutEnd_iff, normalize, exists_eq_left']

theorem follows_iff {rest : Text} {clauses : List Clause} :
    Follows rest clauses ↔ (rest = [] ∨ rest.head? = some ' ') ∧
      Clause.readAll? (Text.fields (· == ' ') rest) = some clauses := by
  constructor
  · rintro (_ | @⟨pieces, _, free, words⟩)
    · exact ⟨.inl rfl, Clause.readAll?_eq_some_iff.2 .nil⟩
    · have fields := Text.fields_eq_iff.2 ⟨pieces, rfl, free, rfl⟩
      exact ⟨.inr rfl, by rwa [Text.fields_sep, fields, Clause.readAll?_eq_some_iff]⟩
  · rintro ⟨start, words⟩
    cases rest with
    | nil =>
      have none : clauses = [] := by simpa [Text.fields, Text.split, Clause.readAll?] using words.symm
      exact none ▸ .nothing
    | cons c body =>
      obtain rfl : c = ' ' := by simpa using start
      rw [Text.fields_sep, Clause.readAll?_eq_some_iff] at words
      obtain ⟨pieces, rfl, free, hfields⟩ :=
        Text.fields_eq_iff.1 (rfl : Text.fields (· == ' ') body = _)
      exact .clauses free (hfields ▸ words)

theorem states_ofClauses (t : Text) (carets : Nat) (clauses : List Clause) :
    (ofClauses t carets clauses).States clauses where
  foreground := Clause.isFirst_findSome? (fun clause value => by
    cases clause <;> grind [Clause.foreground?]) clauses
  background := Clause.isFirst_findSome? (fun clause value => by
    cases clause <;> grind [Clause.background?]) clauses
  fontStyle := Clause.isFirst_findSome? (fun clause style => by
    cases clause <;> simp [Clause.fontStyle?, eq_comm]) clauses
  minBuild := Clause.isFirst_findSome? (fun clause build => by
    cases clause <;> simp [Clause.minBuild?]) clauses

theorem read?_eq_some_iff {line : Text} {parsed : AssertionLine} :
    read? line = some parsed ↔ ∃ t carets clauses, NormalForm line t ∧
      Grammatical t carets clauses ∧ parsed = ofClauses t carets clauses := by
  simp only [read?_eq_some_ofClauses, normalForm_iff, Grammatical]
  constructor
  · rintro ⟨carets, rest, clauses, hcarets, start, hclauses, rfl⟩
    obtain ⟨before, opening, run⟩ := readCarets?_eq_some_iff.1 hcarets
    have follows := follows_iff.2 ⟨start, hclauses⟩
    exact ⟨_, carets, clauses, rfl, ⟨before, rest, opening, run, follows⟩, rfl⟩
  · rintro ⟨t, carets, clauses, rfl, ⟨before, rest, opening, run, follows⟩, rfl⟩
    obtain ⟨start, hclauses⟩ := follows_iff.1 follows
    have hcarets := readCarets?_eq_some_iff.2 ⟨before, opening, run⟩
    exact ⟨carets, rest, clauses, hcarets, start, hclauses, rfl⟩

/-- A line is an assertion line just if its normal form is grammatical, and it is read as the
carets and the clauses of the normal form. -/
theorem read?_grammar (line : Text) :
    ((∃ parsed, read? line = some parsed) ↔
      ∃ t carets clauses, NormalForm line t ∧ Grammatical t carets clauses) ∧
    ∀ t carets clauses, NormalForm line t → Grammatical t carets clauses →
      ∃ parsed, read? line = some parsed ∧ parsed.carets = carets ∧ parsed.States clauses ∧
        parsed.text = t := by
  have reading : ∀ t carets clauses, NormalForm line t → Grammatical t carets clauses →
      read? line = some (ofClauses t carets clauses) := fun t carets clauses normal grammatical =>
    read?_eq_some_iff.2 ⟨t, carets, clauses, normal, grammatical, rfl⟩
  refine ⟨⟨?_, ?_⟩, fun t carets clauses normal grammatical => ?_⟩
  · rintro ⟨parsed, h⟩
    obtain ⟨t, carets, clauses, normal, grammatical, -⟩ := read?_eq_some_iff.1 h
    exact ⟨t, carets, clauses, normal, grammatical⟩
  · rintro ⟨t, carets, clauses, normal, grammatical⟩
    exact ⟨_, reading t carets clauses normal grammatical⟩
  · exact ⟨_, reading t carets clauses normal grammatical, rfl, states_ofClauses t carets clauses, rfl⟩

end AssertionLine

namespace Sample

def crowded : Text := " /* ^^^ bg= fs=Bold italic fg=#ABC BUILD>=+07 fs= bold bg=#d */ -->".toList

def crowdedPieces : List Text :=
  ["bg=".toList, "fs=bold".toList, "italic".toList, "fg=#abc".toList, "build>=+07".toList,
    "fs=".toList, "bold".toList, "bg=#d".toList]

def crowdedClauses : List Clause :=
  [.background [], .fontStyle "bold".toList ["italic".toList], .foreground "#abc".toList, .minBuild 7,
    .fontStyle [] ["bold".toList], .background "#d".toList]

def crowdedForm : Text := " /* ^^^ ".toList ++ [' '].intercalate crowdedPieces

theorem spells_crowded : Clause.Spells crowdedClauses crowdedPieces := by
  have zero : Decimal.Denotes ['0'] 0 := .digit rfl
  have seven : Decimal.Denotes ['0', '7'] 7 := zero.snoc rfl
  exact .cons (.background []) (.cons (.fontStyle "bold".toList (by simp))
    (.cons (.foreground "#abc".toList) (.cons (.minBuild (.inr rfl) seven (by decide))
      (.cons (.fontStyle [] (by simp)) (.cons (.background "#d".toList) .nil)))))

theorem grammatical_crowded : AssertionLine.Grammatical crowdedForm 3 crowdedClauses := by
  have blank : ∀ c ∈ [' '], isBlank c := Text.forall_mem_of_all (by decide)
  have opening : AssertionLine.Opening " /* ".toList := ⟨[' '], [' '], .block, rfl, blank, blank⟩
  refine ⟨_, ' ' :: [' '].intercalate crowdedPieces, opening, ⟨rfl, by decide, by decide, by decide⟩, ?_⟩
  exact .clauses (by decide) spells_crowded

end Sample

theorem AssertionLine.read?_grammar_sample :
    NormalForm Sample.crowded Sample.crowdedForm ∧
      Grammatical Sample.crowdedForm 3 Sample.crowdedClauses ∧
      ∃ parsed, read? Sample.crowded = some parsed ∧ parsed.carets = 3 ∧
        parsed.States Sample.crowdedClauses ∧ parsed.text = Sample.crowdedForm := by
  have normal : NormalForm Sample.crowded Sample.crowdedForm := normalForm_iff.2 (by decide +kernel)
  exact ⟨normal, Sample.grammatical_crowded,
    (read?_grammar Sample.crowded).2 _ _ _ normal Sample.grammatical_crowded⟩

end SchemeCheck
