import SchemeCheck.Proofs.Fixture.Header
set_option autoImplicit false

namespace SchemeCheck
namespace Header

def quoted (name : Text) : Text := ' ' :: '"' :: (name ++ ['"'])

/-- What the text behind the color scheme says of the syntax. -/
structure StatesSyntax (rest : Text) (syntaxName : Option Text) (skip : Bool) : Prop where
  skippable : ∀ name after, IsName name → rest = skipWords ++ (quoted name ++ after) →
    syntaxName = some name ∧ skip = true
  required : ∀ name after, IsName name → rest = quoted name ++ after →
    syntaxName = some name ∧ skip = false
  unnamed : (∀ name after, IsName name →
    rest ≠ skipWords ++ (quoted name ++ after) ∧ rest ≠ quoted name ++ after) →
      syntaxName = none ∧ skip = false

structure IsStatable (h : Header) : Prop where
  colorScheme : IsName h.colorScheme
  syntaxName : ∀ name ∈ h.syntaxName, IsName name
  named : h.skipIfMissing = true → h.syntaxName ≠ none

def syntaxPart (h : Header) : Text :=
  match h.syntaxName with
  | some name => (if h.skipIfMissing then skipWords else []) ++ quoted name
  | none => []

/-- `t` is the header with one of the openings that its comment opener can stand in. -/
def Written (h : Header) (t : Text) : Prop :=
  ∃ opening, Opening h.opener opening ∧
    t = opening ++ (title ++ (h.colorScheme ++ '"' :: h.syntaxPart))

def closers : List Text := ["-->".toList, "?>".toList, "*/".toList]

inductive Closing : Text → Prop where
  | nothing : Closing []
  | closer {gap token : Text} (blank : ∀ c ∈ gap, isBlank c) (h : token ∈ closers) :
      Closing (gap ++ token)

theorem bind_readQuoted?_eq_some_iff {start t name rest : Text} :
    (Text.after? start t).bind readQuoted? = some (name, rest) ↔
      IsName name ∧ t = start ++ (name ++ '"' :: rest) := by
  simp only [Option.bind_eq_some_iff, Text.after?_eq_some_iff, readQuoted?_eq_some_iff]
  constructor
  · rintro ⟨_, rfl, isName, rfl⟩
    exact ⟨isName, rfl⟩
  · rintro ⟨isName, rfl⟩
    exact ⟨_, rfl, isName, rfl⟩

/-! ## The syntax -/

theorem readRequired_eq_some_iff {t name after : Text} :
    (Text.after? [' ', '"'] t).bind readQuoted? = some (name, after) ↔
      IsName name ∧ t = quoted name ++ after := by
  simp [bind_readQuoted?_eq_some_iff, quoted]

theorem readSkippable_eq_some_iff {t name after : Text} :
    (Text.after? (skipWords ++ [' ', '"']) t).bind readQuoted? = some (name, after) ↔
      IsName name ∧ t = skipWords ++ (quoted name ++ after) := by
  simp [bind_readQuoted?_eq_some_iff, quoted]

theorem skipWords_append_ne (t name after : Text) : skipWords ++ t ≠ quoted name ++ after := by
  intro same
  have second : 'S' = '"' := congrArg (·.tail.headD 'S') same
  exact absurd second (by decide)

theorem statesSyntax_readSyntax (t : Text) : StatesSyntax t (readSyntax t).1 (readSyntax t).2 := by
  unfold readSyntax
  cases hskip : (Text.after? (skipWords ++ [' ', '"']) t).bind readQuoted? with
  | some found =>
    obtain ⟨name, after⟩ := found
    obtain ⟨isName, form⟩ := readSkippable_eq_some_iff.1 hskip
    refine ⟨fun name' after' isName' form' => ?_, fun name' after' _ form' => ?_, fun none => ?_⟩
    · have again := hskip.symm.trans (readSkippable_eq_some_iff.2 ⟨isName', form'⟩)
      obtain ⟨rfl, -⟩ := Prod.mk.inj (Option.some.inj again)
      exact ⟨rfl, rfl⟩
    · exact absurd (form.symm.trans form') (skipWords_append_ne _ _ _)
    · exact absurd form (none name after isName).1
  | none =>
    have unskipped : ∀ name after, IsName name → t ≠ skipWords ++ (quoted name ++ after) := by
      intro name after isName form
      rw [readSkippable_eq_some_iff.2 ⟨isName, form⟩] at hskip
      contradiction
    cases hname : (Text.after? [' ', '"'] t).bind readQuoted? with
    | some found =>
      obtain ⟨name, after⟩ := found
      obtain ⟨isName, form⟩ := readRequired_eq_some_iff.1 hname
      refine ⟨fun name' after' isName' form' => absurd form' (unskipped name' after' isName'),
        fun name' after' isName' form' => ?_, fun none => absurd form (none name after isName).2⟩
      have again := hname.symm.trans (readRequired_eq_some_iff.2 ⟨isName', form'⟩)
      obtain ⟨rfl, -⟩ := Prod.mk.inj (Option.some.inj again)
      exact ⟨rfl, rfl⟩
    | none =>
      refine ⟨fun name' after' isName' form' => absurd form' (unskipped name' after' isName'),
        fun name' after' isName' form' => ?_, fun _ => ⟨rfl, rfl⟩⟩
      rw [readRequired_eq_some_iff.2 ⟨isName', form'⟩] at hname
      contradiction

theorem syntax_cases (rest : Text) :
    (∃ name after, IsName name ∧ rest = skipWords ++ (quoted name ++ after)) ∨
      (∃ name after, IsName name ∧ rest = quoted name ++ after) ∨
      ∀ name after, IsName name →
        rest ≠ skipWords ++ (quoted name ++ after) ∧ rest ≠ quoted name ++ after := by
  by_cases skipped : ∃ name after, IsName name ∧ rest = skipWords ++ (quoted name ++ after)
  · exact .inl skipped
  · by_cases named : ∃ name after, IsName name ∧ rest = quoted name ++ after
    · exact .inr (.inl named)
    · exact .inr (.inr fun name after isName => ⟨fun form => skipped ⟨name, after, isName, form⟩,
        fun form => named ⟨name, after, isName, form⟩⟩)

namespace StatesSyntax
variable {rest : Text} {syntaxName : Option Text} {skip : Bool}

theorem unique {syntaxName' : Option Text} {skip' : Bool} (h : StatesSyntax rest syntaxName skip)
    (h' : StatesSyntax rest syntaxName' skip') : syntaxName = syntaxName' ∧ skip = skip' := by
  rcases syntax_cases rest with ⟨name, after, isName, form⟩ | ⟨name, after, isName, form⟩ | nothing
  · obtain ⟨rfl, rfl⟩ := h.skippable name after isName form
    obtain ⟨rfl, rfl⟩ := h'.skippable name after isName form
    exact ⟨rfl, rfl⟩
  · obtain ⟨rfl, rfl⟩ := h.required name after isName form
    obtain ⟨rfl, rfl⟩ := h'.required name after isName form
    exact ⟨rfl, rfl⟩
  · obtain ⟨rfl, rfl⟩ := h.unnamed nothing
    obtain ⟨rfl, rfl⟩ := h'.unnamed nothing
    exact ⟨rfl, rfl⟩

theorem isName (h : StatesSyntax rest syntaxName skip) :
    (∀ name ∈ syntaxName, IsName name) ∧ (skip = true → syntaxName ≠ none) := by
  rcases syntax_cases rest with ⟨name, after, isName, form⟩ | ⟨name, after, isName, form⟩ | nothing
  · obtain ⟨rfl, rfl⟩ := h.skippable name after isName form
    simpa using isName
  · obtain ⟨rfl, rfl⟩ := h.required name after isName form
    simpa using isName
  · obtain ⟨rfl, rfl⟩ := h.unnamed nothing
    simp

end StatesSyntax

theorem statesSyntax_iff {rest : Text} {syntaxName : Option Text} {skip : Bool} :
    StatesSyntax rest syntaxName skip ↔ readSyntax rest = (syntaxName, skip) := by
  constructor
  · intro h
    obtain ⟨name, flag⟩ := (statesSyntax_readSyntax rest).unique h
    exact Prod.ext name flag
  · intro h
    have states := statesSyntax_readSyntax rest
    rwa [h] at states

/-! ## The opening -/

theorem readOpener_opening {o : Option CommentOpener} {opening : Text} (h : Opening o opening)
    (rest : Text) : readOpener (opening ++ 'C' :: rest) = (o, 'C' :: rest) := by
  cases h with
  | nothing => rfl
  | @comment tag gap o htag blank =>
    have untagged : ∀ body, Text.after? scriptTag (o.text ++ body) = none := by
      cases o <;> exact fun _ => rfl
    have body : (Text.after? scriptTag (tag ++ (o.text ++ (gap ++ 'C' :: rest)))).getD
        (tag ++ (o.text ++ (gap ++ 'C' :: rest))) = o.text ++ (gap ++ 'C' :: rest) := by
      rcases htag with rfl | rfl
      · rw [List.nil_append, untagged, Option.getD_none]
      · rw [Text.after?_append, Option.getD_some]
    rw [List.append_assoc, List.append_assoc, readOpener, body, CommentOpener.read?_text_append]
    exact congrArg (some o, ·) (Text.trimStart_blanks blank ('C' :: rest))

/-! ## The header -/

/-- A document is read as the header that it begins with. -/
theorem read?_eq_some_iff {content : Text} {h : Header} :
    read? content = some h ↔ ∃ opening rest, Opening h.opener opening ∧ IsName h.colorScheme ∧
      content = opening ++ (title ++ (h.colorScheme ++ '"' :: rest)) ∧
      StatesSyntax rest h.syntaxName h.skipIfMissing := by
  constructor
  · intro hread
    obtain ⟨opening, hopening, hcontent⟩ := exists_opening content
    unfold read? at hread
    cases hscheme : (Text.after? title (readOpener content).2).bind readQuoted? with
    | none => simp [hscheme] at hread
    | some found =>
      obtain ⟨colorScheme, rest⟩ := found
      obtain ⟨isName, body⟩ := bind_readQuoted?_eq_some_iff.1 hscheme
      simp only [hscheme, Option.some_inj] at hread
      subst hread
      refine ⟨opening, rest, hopening, isName, ?_, statesSyntax_readSyntax rest⟩
      rw [← body]
      exact hcontent
  · rintro ⟨opening, rest, hopening, isName, rfl, states⟩
    have begins : ∀ t, title ++ t = 'C' :: (title.tail ++ t) := fun t => rfl
    have scheme := bind_readQuoted?_eq_some_iff.2
      ⟨isName, (rfl : title ++ (h.colorScheme ++ '"' :: rest) = _)⟩
    rw [begins] at scheme ⊢
    rw [read?, readOpener_opening hopening]
    simp only [scheme, statesSyntax_iff.1 states]

theorem statesSyntax_skippable {name : Text} (h : IsName name) (after : Text) :
    StatesSyntax (skipWords ++ quoted name ++ after) (some name) true := by
  have states := statesSyntax_readSyntax (skipWords ++ quoted name ++ after)
  obtain ⟨named, skip⟩ := states.skippable name after h (List.append_assoc _ _ _)
  rwa [named, skip] at states

theorem statesSyntax_required {name : Text} (h : IsName name) (after : Text) :
    StatesSyntax (quoted name ++ after) (some name) false := by
  have states := statesSyntax_readSyntax (quoted name ++ after)
  obtain ⟨named, skip⟩ := states.required name after h rfl
  rwa [named, skip] at states

theorem statesSyntax_nothing {rest : Text}
    (h : ∀ b after, rest = ' ' :: b :: after → b ≠ 'S' ∧ b ≠ '"') : StatesSyntax rest none false where
  skippable _ _ _ form := absurd rfl (h 'S' _ form).1
  required _ _ _ form := absurd rfl (h '"' _ form).2
  unnamed _ := ⟨rfl, rfl⟩

theorem Closing.statesSyntax {closing : Text} (h : Closing closing) (after : Text) :
    StatesSyntax (closing ++ '\n' :: after) none false := by
  refine statesSyntax_nothing fun b after' same => ?_
  cases h with
  | nothing => simp at same
  | @closer gap token blank hcloser =>
    have starts : ∃ c more, token = c :: more ∧ c ≠ ' ' ∧ c ≠ 'S' ∧ c ≠ '"' := by
      simp only [closers, List.mem_cons, List.not_mem_nil, or_false] at hcloser
      rcases hcloser with rfl | rfl | rfl <;> exact ⟨_, _, rfl, by decide⟩
    obtain ⟨c, more, rfl, notSpace, other⟩ := starts
    -- The character behind a space is another blank or the first of the closer.
    match gap with
    | [] => exact absurd (List.cons.inj same).1 notSpace
    | [_] =>
      obtain rfl : c = b := by simpa using congrArg (·.tail.head?) same
      exact other
    | _ :: d :: _ =>
      obtain rfl : d = b := by simpa using congrArg (·.tail.head?) same
      have hd := blank d (by simp)
      refine ⟨?_, ?_⟩ <;> rintro rfl <;> exact absurd hd (by decide)

theorem IsStatable.statesSyntax {h : Header} (statable : h.IsStatable) {closing : Text}
    (hclosing : Closing closing) (after : Text) :
    StatesSyntax (h.syntaxPart ++ (closing ++ '\n' :: after)) h.syntaxName h.skipIfMissing := by
  have isName := statable.syntaxName
  have named := statable.named
  unfold syntaxPart
  cases hsyntax : h.syntaxName with
  | none =>
    have required : h.skipIfMissing = false := by
      rw [← Bool.not_eq_true]
      exact fun skip => named skip hsyntax
    rw [required]
    exact hclosing.statesSyntax after
  | some name =>
    have hname := isName name hsyntax
    cases h.skipIfMissing with
    | true => exact statesSyntax_skippable hname _
    | false => exact statesSyntax_required hname _

theorem written_render (h : Header) : h.Written h.render := by
  have blank : ∀ c ∈ [' '], isBlank c := Text.forall_mem_of_all (by decide)
  unfold Written render syntaxPart quoted
  cases h.opener with
  | none => exact ⟨[], .nothing, by cases h.syntaxName <;> simp⟩
  | some o => exact ⟨_, .comment o (.inl rfl) blank, by cases h.syntaxName <;> simp⟩

theorem exists_read? {o : Option CommentOpener} {opening name : Text} (hopening : Opening o opening)
    (isName : IsName name) (rest : Text) :
    ∃ h, read? (opening ++ (title ++ (name ++ '"' :: rest))) = some h ∧ h.colorScheme = name ∧
      h.opener = o ∧ StatesSyntax rest h.syntaxName h.skipIfMissing := by
  have states := statesSyntax_readSyntax rest
  refine ⟨⟨name, _, _, o⟩, read?_eq_some_iff.2 ?_, rfl, rfl, states⟩
  exact ⟨opening, rest, hopening, isName, rfl, states⟩

theorem read?_written {h : Header} (statable : h.IsStatable) {text closing : Text}
    (written : h.Written text) (hclosing : Closing closing) (after : Text) :
    read? (text ++ (closing ++ '\n' :: after)) = some h := by
  obtain ⟨opening, hopening, rfl⟩ := written
  refine read?_eq_some_iff.2 ⟨opening, _, hopening, statable.colorScheme, ?_,
    statable.statesSyntax hclosing after⟩
  simp only [List.append_assoc, List.cons_append]

theorem isStatable_iff {h : Header} : h.IsStatable ↔ ∃ content, read? content = some h := by
  constructor
  · exact fun statable => ⟨_, read?_written statable (written_render h) .nothing []⟩
  · rintro ⟨content, hread⟩
    obtain ⟨_, _, -, colorScheme, -, states⟩ := read?_eq_some_iff.1 hread
    exact ⟨colorScheme, states.isName.1, states.isName.2⟩

/-- A document has a header just if it begins with an opening, the title and a name in quotes. The
header is what these and the syntax behind them say, and every header that can be read is read again
from a document that begins with one of its written forms. -/
theorem read?_directive :
    (∀ content, (∃ h, read? content = some h) ↔ ∃ o opening name rest, Opening o opening ∧
      IsName name ∧ content = opening ++ (title ++ (name ++ '"' :: rest))) ∧
    (∀ o opening name rest, Opening o opening → IsName name →
      ∃ h, read? (opening ++ (title ++ (name ++ '"' :: rest))) = some h ∧ h.colorScheme = name ∧
        h.opener = o ∧ StatesSyntax rest h.syntaxName h.skipIfMissing) ∧
    ∀ h : Header, (h.IsStatable ↔ ∃ content, read? content = some h) ∧ h.Written h.render ∧
      (h.IsStatable → ∀ text closing after, h.Written text → Closing closing →
        read? (text ++ (closing ++ '\n' :: after)) = some h) := by
  refine ⟨fun content => ⟨?_, ?_⟩, fun o opening name rest hopening isName =>
    exists_read? hopening isName rest, fun h => ⟨isStatable_iff, written_render h, ?_⟩⟩
  · rintro ⟨h, hread⟩
    obtain ⟨opening, rest, hopening, isName, hcontent, -⟩ := read?_eq_some_iff.1 hread
    exact ⟨_, opening, _, rest, hopening, isName, hcontent⟩
  · rintro ⟨o, opening, name, rest, hopening, isName, rfl⟩
    obtain ⟨h, hread, -⟩ := exists_read? hopening isName rest
    exact ⟨h, hread⟩
  · exact fun statable text closing after written hclosing =>
      read?_written statable written hclosing after

end Header

namespace Sample

def skippable : Header := ⟨"a b".toList, some "Ruby".toList, true, some .block⟩

theorem isStatable_skippable : skippable.IsStatable :=
  ⟨⟨by decide, by decide⟩, by simp [skippable, Header.IsName], by simp [skippable]⟩

theorem written_skippable :
    skippable.Written "<?php /*\tCOLOR SCHEME TEST \"a b\" SKIP IF NOT \"Ruby\"".toList :=
  ⟨"<?php /*\t".toList, .comment .block (.inr rfl) (Text.forall_mem_of_all (by decide)), by decide⟩

end Sample

theorem Header.read?_directive_sample :
    Sample.skippable.IsStatable ∧
      Sample.skippable.Written "<?php /*\tCOLOR SCHEME TEST \"a b\" SKIP IF NOT \"Ruby\"".toList ∧
      Closing " */".toList ∧
      read? ("<?php /*\tCOLOR SCHEME TEST \"a b\" SKIP IF NOT \"Ruby\"".toList ++
        (" */".toList ++ '\n' :: " \"C\"".toList)) = some Sample.skippable := by
  have blank : ∀ c ∈ [' '], isBlank c := Text.forall_mem_of_all (by decide)
  have closing : Closing ([' '] ++ "*/".toList) := .closer blank (by decide)
  exact ⟨Sample.isStatable_skippable, Sample.written_skippable, closing,
    (read?_directive.2.2 Sample.skippable).2.2 Sample.isStatable_skippable _ _ _
      Sample.written_skippable closing⟩

end SchemeCheck
