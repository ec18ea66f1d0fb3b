import SchemeCheck.Proofs.Fixture.Assertion
import SchemeCheck.Proofs.Text.Letters
set_option autoImplicit false

/-!
Documents with other letters after the carets of their assertion lines. They make the same assertions.
They have the same header, too, unless a name in it goes on over the end of a line: only such a header
reaches down to an assertion line.
-/

namespace SchemeCheck

inductive AssertionLine.Respelled : Text → Text → Prop where
  | same (line : Text) : Respelled line line
  | afterCarets {line line' : Text} (before after after' : Text) (count : Nat) : isAccepted line = true →
      CaretRun line before count after → CaretRun line' before count after' →
      Text.SameLetters after after' → Respelled line line'

/-- Documents whose lines are the same, with the same ends, but for letters after carets. -/
structure Respelled (content content' : Text) : Prop where
  letters : Text.SameLetters content content'
  lines : List.Forall₂ AssertionLine.Respelled (Text.lines content) (Text.lines content')

namespace AssertionLine

theorem Respelled.letters {line line' : Text} (h : Respelled line line') :
    Text.SameLetters line line' := by
  cases h with
  | same => exact .refl line
  | afterCarets _ _ _ _ _ run run' letters =>
    rw [run.text_eq, run'.text_eq]
    exact (Text.SameLetters.refl _).append ((Text.SameLetters.refl _).append letters)

theorem read?_letters {line line' : Text} (h : Text.SameLetters line line') :
    read? line = read? line' := by
  unfold read? normalize
  rw [h.lower]

end AssertionLine

namespace Assertion

theorem ofLine?_letters {line line' : Text} (h : Text.SameLetters line line') (row : Nat)
    (parsed : AssertionLine) : ofLine? row line parsed = ofLine? row line' parsed := by
  unfold ofLine?
  rw [h.findIdx? (beq_toLower (by decide))]

theorem ofLinesFrom_letters {ls ls' : List Text} (h : List.Forall₂ Text.SameLetters ls ls')
    (index : Nat) (subject : Option Nat) : ofLinesFrom index subject ls = ofLinesFrom index subject ls' := by
  induction h generalizing index subject with
  | nil => rfl
  | @cons line line' _ _ first _ ih =>
    rw [ofLinesFrom, ofLinesFrom, AssertionLine.read?_letters first]
    cases AssertionLine.read? line' with
    | none => exact ih ..
    | some parsed => simp only [ofLine?_letters first, ih]

end Assertion

theorem Respelled.ofDocument_eq {content content' : Text} (h : Respelled content content') :
    Assertion.ofDocument content = Assertion.ofDocument content' :=
  Assertion.ofLinesFrom_letters (h.lines.imp fun _ _ line => line.letters) 0 none

/-! ## The first letter that differs -/

/-- The documents differ, if at all, after a caret, with no capital C before it in its line. -/
structure DifferAfter (above before tail tail' content content' : Text) : Prop where
  content_eq : content = above ++ (before ++ '^' :: tail)
  content'_eq : content' = above ++ (before ++ '^' :: tail')
  ends : above = [] ∨ ∃ lines, above = lines ++ ['\n']
  noCapital : 'C' ∉ before
  letters : Text.SameLetters tail tail'

theorem AssertionLine.Respelled.differAfter {line line' rest rest' : Text} (h : Respelled line line')
    (letters : Text.SameLetters (line ++ rest) (line' ++ rest')) :
    line = line' ∨ ∃ before tail tail', DifferAfter [] before tail tail' (line ++ rest) (line' ++ rest') := by
  cases h with
  | same => exact .inl rfl
  | afterCarets before after after' count accepted run run' =>
    obtain ⟨parsed, hparsed⟩ := Option.isSome_iff_exists.1 accepted
    obtain ⟨opening, _, first, noCapital⟩ := run_of_read? hparsed
    obtain ⟨rfl, -⟩ := run.unique first
    obtain ⟨k, rfl⟩ := Nat.exists_eq_succ_of_ne_zero (Nat.pos_iff_ne_zero.1 run.count_pos)
    have whole : line ++ rest = (before ++ ['^']) ++ (List.replicate k '^' ++ after ++ rest) := by
      rw [run.text_eq]
      simp [List.replicate_succ]
    have whole' : line' ++ rest' = (before ++ ['^']) ++ (List.replicate k '^' ++ after' ++ rest') := by
      rw [run'.text_eq]
      simp [List.replicate_succ]
    rw [whole, whole'] at letters ⊢
    exact .inr ⟨before, _, _, by simp, by simp, .inl rfl, noCapital, letters.append_cancel⟩

theorem DifferAfter.below {above before tail tail' content content' : Text}
    (h : DifferAfter above before tail tail' content content') (line : Text) :
    DifferAfter (line ++ '\n' :: above) before tail tail' (line ++ '\n' :: content)
      (line ++ '\n' :: content') := by
  obtain ⟨rfl, rfl, ends, noCapital, letters⟩ := h
  refine ⟨by simp, by simp, .inr ?_, noCapital, letters⟩
  rcases ends with rfl | ⟨lines, rfl⟩
  · exact ⟨line, rfl⟩
  · exact ⟨line ++ '\n' :: lines, by simp⟩

theorem eq_of_withoutReturn_eq {line line' : Text} (h : Text.SameLetters line line')
    (same : Text.withoutReturn line = Text.withoutReturn line') : line = line' := by
  have length := h.length_eq
  rcases Text.withoutReturn_append line with e | e <;> rcases Text.withoutReturn_append line' with e' | e'
  · rw [e, e', same]
  · rw [e, e', same] at length
    simp at length
  · rw [e, e', same] at length
    simp at length
  · rw [e, e', same]

theorem exists_differAfter {ls ls' : List Text} (h : List.Forall₂ AssertionLine.Respelled ls ls')
    {content content' : Text} (hl : Text.lines content = ls) (hl' : Text.lines content' = ls')
    (letters : Text.SameLetters content content') :
    content = content' ∨
      ∃ above before tail tail', DifferAfter above before tail tail' content content' := by
  induction h generalizing content content' with
  | nil =>
    rw [Text.lines_eq_nil_iff.1 hl, Text.lines_eq_nil_iff.1 hl']
    exact .inl rfl
  | @cons line line' _ _ first _ ih =>
    obtain ⟨r, hr, -⟩ := Text.exists_atLineEnd_of_lines_eq_cons hl
    obtain ⟨r', hr', -⟩ := Text.exists_atLineEnd_of_lines_eq_cons hl'
    have starts : Text.SameLetters (line ++ r) (line' ++ r') := by rwa [← hr, ← hr']
    rcases first.differAfter starts with rfl | ⟨before, tail, tail', differ⟩
    · by_cases hn : '\n' ∈ content
      · obtain ⟨body, rest, rfl, hbody⟩ := List.eq_append_cons_of_mem hn
        obtain ⟨body', ended, rfl, same, more⟩ := letters.exists_append
        obtain ⟨rest', rfl, below⟩ := more.exists_cons (by decide)
        have hbody' : '\n' ∉ body' := mt (same.mem_iff (by decide)).2 hbody
        rw [Text.lines_cons_line hbody] at hl
        rw [Text.lines_cons_line hbody'] at hl'
        obtain ⟨hline, others⟩ := List.cons.inj hl
        obtain ⟨hline', others'⟩ := List.cons.inj hl'
        obtain rfl := eq_of_withoutReturn_eq same (hline.trans hline'.symm)
        rcases ih others others' below with rfl | ⟨above, before, tail, tail', differ⟩
        · exact .inl rfl
        · exact .inr ⟨_, before, tail, tail', differ.below body⟩
      · have hn' : '\n' ∉ content' := mt (letters.mem_iff (by decide)).2 hn
        have ne : content ≠ [] := fun empty => by simp [empty] at hl
        have ne' : content' ≠ [] := fun empty => by simp [empty] at hl'
        rw [Text.lines_single hn ne] at hl
        rw [Text.lines_single hn' ne'] at hl'
        exact .inl ((List.cons.inj hl).1.trans (List.cons.inj hl').1.symm)
    · rw [← hr, ← hr'] at differ
      exact .inr ⟨[], before, tail, tail', differ⟩

/-! ## Headers -/

namespace Header

theorem not_mem_opener {o : CommentOpener} : 'C' ∉ o.text := by
  cases o <;> decide

theorem readOpener_append_capital (t rest : Text) :
    readOpener (t ++ 'C' :: rest) = ((readOpener t).1, (readOpener t).2 ++ 'C' :: rest) := by
  have opener : ∀ u, CommentOpener.read? (u ++ 'C' :: rest) =
      (CommentOpener.read? u).map fun (o, body) => (o, body ++ 'C' :: rest) := by
    intro u
    unfold CommentOpener.read?
    rw [List.map_findSome?]
    congr 1
    funext o
    rw [Text.after?_append_cons not_mem_opener, Function.comp_apply, Option.map_map, Option.map_map]
    rfl
  have tag : (Text.after? scriptTag (t ++ 'C' :: rest)).getD (t ++ 'C' :: rest) =
      (Text.after? scriptTag t).getD t ++ 'C' :: rest := by
    rw [Text.after?_append_cons (by decide)]
    cases Text.after? scriptTag t <;> rfl
  unfold readOpener
  rw [tag, opener]
  cases CommentOpener.read? ((Text.after? scriptTag t).getD t) with
  | none => rfl
  | some found =>
    obtain ⟨o, body⟩ := found
    simp [Text.trimStart_append_cons (show isBlank 'C' = false by decide)]

/-- No name in the header goes on over the end of a line. -/
def IsUnbroken (h : Header) : Prop := '\n' ∉ h.colorScheme ∧ ∀ name ∈ h.syntaxName, '\n' ∉ name

theorem read?_caret {start : Text} (h : 'C' ∉ start) (tail : Text) : read? (start ++ '^' :: tail) = none := by
  cases hread : read? (start ++ '^' :: tail) with
  | none => rfl
  | some header =>
    obtain ⟨opening, rest, hopening, noCaret⟩ := exists_capital_of_read? hread
    exact absurd hopening.symm (append_cons_ne (by decide) h noCaret)

theorem readQuoted?_quote {name : Text} (h : '"' ∉ name) (rest : Text) :
    readQuoted? (name ++ '"' :: rest) = if name = [] then none else some (name, rest) := by
  split
  · next empty => rw [empty]; rfl
  · next ne => exact readQuoted?_eq_some_iff.2 ⟨⟨ne, h⟩, rfl⟩

theorem readQuoted?_of_not_mem {t : Text} (h : '"' ∉ t) : readQuoted? t = none := by
  rw [Option.eq_none_iff_forall_ne_some]
  rintro ⟨name, rest⟩ hread
  rw [(readQuoted?_eq_some_iff.1 hread).2] at h
  simp at h

def quotedAfter? (opening t : Text) : Option (Text × Text) := (Text.after? opening t).bind readQuoted?

/-- What can be read of a quoted name that starts above the end of a line, whatever the letters below
it: none, one that ends above, or one that goes on below. -/
inductive ReadAbove (s s' : Text) : Option (Text × Text) → Option (Text × Text) → Prop where
  | none : ReadAbove s s' none none
  | above (name rest : Text) :
      ReadAbove s s' (some (name, rest ++ '\n' :: s)) (some (name, rest ++ '\n' :: s'))
  | below {name rest name' rest' : Text} :
      '\n' ∈ name → ReadAbove s s' (some (name, rest)) (some (name', rest'))

theorem readAbove_readQuoted? {s s' : Text} (letters : Text.SameLetters s s') (t : Text) :
    ReadAbove s s' (readQuoted? (t ++ '\n' :: s)) (readQuoted? (t ++ '\n' :: s')) := by
  by_cases here : '"' ∈ t
  · obtain ⟨name, rest, rfl, hname⟩ := List.eq_append_cons_of_mem here
    rw [List.append_assoc, List.append_assoc, List.cons_append, List.cons_append,
      readQuoted?_quote hname, readQuoted?_quote hname]
    split
    · exact .none
    · exact .above name rest
  · by_cases later : '"' ∈ s
    · obtain ⟨name, rest, rfl, hname⟩ := List.eq_append_cons_of_mem later
      obtain ⟨name', quoted, rfl, same, below⟩ := letters.exists_append
      obtain ⟨rest', rfl, -⟩ := below.exists_cons (by decide)
      have hname' : '"' ∉ name' := mt (same.mem_iff (by decide)).2 hname
      have free : '"' ∉ t ++ '\n' :: name := by simp [here, hname]
      have free' : '"' ∉ t ++ '\n' :: name' := by simp [here, hname']
      have read := readQuoted?_quote free rest
      have read' := readQuoted?_quote free' rest'
      rw [if_neg (by simp), List.append_assoc, List.cons_append] at read read'
      rw [read, read']
      exact .below (by simp)
    · have later' : '"' ∉ s' := mt (letters.mem_iff (by decide)).2 later
      rw [readQuoted?_of_not_mem (by simp [here, later]), readQuoted?_of_not_mem (by simp [here, later'])]
      exact .none

theorem readAbove_quotedAfter? {s s' : Text} (letters : Text.SameLetters s s') {opening : Text}
    (h : '\n' ∉ opening) (t : Text) :
    ReadAbove s s' (quotedAfter? opening (t ++ '\n' :: s)) (quotedAfter? opening (t ++ '\n' :: s')) := by
  unfold quotedAfter?
  rw [Text.after?_append_cons h, Text.after?_append_cons h]
  cases Text.after? opening t with
  | none => exact .none
  | some rest => exact readAbove_readQuoted? letters rest

theorem readSyntax_above {s s' : Text} (letters : Text.SameLetters s s') (t : Text)
    (unbroken : ∀ name ∈ (readSyntax (t ++ '\n' :: s)).1, '\n' ∉ name) :
    readSyntax (t ++ '\n' :: s') = readSyntax (t ++ '\n' :: s) := by
  have lineless : '\n' ∉ skipWords ++ [' ', '"'] ∧ '\n' ∉ [' ', '"'] := by decide
  have skipped := readAbove_quotedAfter? letters lineless.1 t
  have named := readAbove_quotedAfter? letters lineless.2 t
  unfold readSyntax at *
  unfold quotedAfter? at skipped named
  generalize (Text.after? (skipWords ++ [' ', '"']) (t ++ '\n' :: s)).bind readQuoted? = a
    at unbroken skipped ⊢
  generalize (Text.after? (skipWords ++ [' ', '"']) (t ++ '\n' :: s')).bind readQuoted? = a'
    at skipped ⊢
  generalize (Text.after? [' ', '"'] (t ++ '\n' :: s)).bind readQuoted? = b at unbroken named ⊢
  generalize (Text.after? [' ', '"'] (t ++ '\n' :: s')).bind readQuoted? = b' at named ⊢
  cases skipped with
  | above name rest => rfl
  | below broken => exact absurd broken (unbroken _ rfl)
  | none =>
    cases named with
    | none => rfl
    | above name rest => rfl
    | below broken => exact absurd broken (unbroken _ rfl)

theorem read?_above {s s' : Text} (letters : Text.SameLetters s s') (start more : Text)
    (unbroken : ∀ header, read? (start ++ 'C' :: (more ++ '\n' :: s)) = some header → header.IsUnbroken) :
    read? (start ++ 'C' :: (more ++ '\n' :: s')) = read? (start ++ 'C' :: (more ++ '\n' :: s)) := by
  have lineless : '\n' ∉ title := by decide
  have titled := readAbove_quotedAfter? letters lineless ((readOpener start).2 ++ 'C' :: more)
  rw [List.append_assoc, List.append_assoc, List.cons_append, List.cons_append] at titled
  unfold read? at *
  simp only [readOpener_append_capital] at *
  unfold quotedAfter? at titled
  generalize (Text.after? title ((readOpener start).2 ++ 'C' :: (more ++ '\n' :: s))).bind readQuoted? = a
    at unbroken titled ⊢
  generalize (Text.after? title ((readOpener start).2 ++ 'C' :: (more ++ '\n' :: s'))).bind readQuoted? = a'
    at titled ⊢
  cases titled with
  | none => rfl
  | below broken => exact absurd broken (unbroken _ rfl).1
  | above name rest =>
    have same := readSyntax_above letters rest (unbroken _ rfl).2
    simp only [same]

end Header

theorem Respelled.read?_eq {content content' : Text} (h : Respelled content content')
    (unbroken : ∀ header, Header.read? content = some header → header.IsUnbroken) :
    Header.read? content' = Header.read? content := by
  rcases exists_differAfter h.lines rfl rfl h.letters with rfl | ⟨above, before, tail, tail', differ⟩
  · rfl
  · obtain ⟨rfl, rfl, ends, noCapital, letters⟩ := differ
    by_cases capital : 'C' ∈ above
    · rcases ends with rfl | ⟨lines, rfl⟩
      · simp at capital
      · have inside : 'C' ∈ lines := by simpa using capital
        obtain ⟨start, more, rfl, -⟩ := List.eq_append_cons_of_mem inside
        have below : Text.SameLetters (before ++ '^' :: tail) (before ++ '^' :: tail') :=
          (Text.SameLetters.refl before).append ((Text.SameLetters.refl ['^']).append letters)
        simp only [List.append_assoc, List.cons_append, List.nil_append] at unbroken ⊢
        exact Header.read?_above below start more unbroken
    · have none : 'C' ∉ above ++ before := by simp [capital, noCapital]
      have without := Header.read?_caret none tail
      have without' := Header.read?_caret none tail'
      rw [List.append_assoc] at without without'
      rw [without, without']

end SchemeCheck
