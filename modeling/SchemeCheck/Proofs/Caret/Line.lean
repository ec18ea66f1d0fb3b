import SchemeCheck.Caret.Position
import SchemeCheck.Proofs.Fixture.Grammar
import SchemeCheck.Proofs.Text.Lines
set_option autoImplicit false

namespace SchemeCheck

namespace Caret

/-- Values that clauses can state: a foreground without blanks and carets, and a font style of words
that read as keywords, the last of which does not end like a closing comment. -/
structure Legible (style : Style) : Prop where
  foreground : ∀ c ∈ style.getD Attribute.foreground.key, ¬ isBlank c ∧ c ≠ '^'
  fontStyle : ∃ words, style.getD Attribute.fontStyle.key = [' '].intercalate words ∧
    (∀ word ∈ words, word ≠ [] ∧ ∀ c ∈ word, ¬ isBlank c ∧ c ≠ '=' ∧ c ≠ '^') ∧
    ∀ word ∈ words.getLast?, ∀ c ∈ word.getLast?, c ∉ ['-', '>', '*', '/']

/-- What clauses state about a style: an empty foreground is not stated. -/
def stated (style : Style) : Expectation where
  foreground :=
    if style.getD Attribute.foreground.key = [] then none
    else some (Text.lower (style.getD Attribute.foreground.key))
  background := none
  fontStyle := some (Text.lower (style.getD Attribute.fontStyle.key))

def closings : List Text := [[], " */".toList, " -->".toList]

def written (o : CommentOpener) (gap count : Nat) (style : Style) (closing : Text) : Text :=
  o.text ++ [' '] ++ (Text.spaces gap ++ (List.replicate count '^' ++ ' ' :: clauses style)) ++ closing

def indent (o : CommentOpener) (gap : Nat) : Text := o.text ++ ' ' :: Text.spaces gap

def lowerClauses (style : Style) : Text :=
  ' ' :: 'f' :: 'g' :: '=' :: (Text.lower (style.getD Attribute.foreground.key) ++
    ' ' :: 'f' :: 's' :: '=' :: Text.lower (style.getD Attribute.fontStyle.key))

theorem isLower_indent (o : CommentOpener) (gap : Nat) : ∀ c ∈ indent o gap, Case.IsLower c := by
  intro c hc
  rcases List.mem_append.1 hc with hc | hc
  · have text : ∀ c ∈ o.text, Case.IsLower c := by
      cases o <;> exact Text.forall_mem_of_all (by decide)
    exact text c hc
  · have blank : c = ' ' := by
      rcases List.mem_cons.1 hc with space | hc
      · exact space
      · exact List.eq_of_mem_replicate hc
    rw [blank]
    decide

theorem lower_closing {closing : Text} (h : closing ∈ closings) (t : Text) :
    Text.lower (t ++ closing) = Text.lower t ++ closing := by
  simp only [closings, List.mem_cons, List.not_mem_nil, or_false] at h
  rcases h with rfl | rfl | rfl
  · simp
  · exact (Text.lower_space t ['*', '/']).trans
      (congrArg (Text.lower t ++ ' ' :: ·) (Text.lower_isLower (Text.forall_mem_of_all (by decide))))
  · exact (Text.lower_space t ['-', '-', '>']).trans
      (congrArg (Text.lower t ++ ' ' :: ·) (Text.lower_isLower (Text.forall_mem_of_all (by decide))))

theorem lower_written {o : CommentOpener} {closing : Text} (gap count : Nat) (style : Style)
    (h : closing ∈ closings) :
    Text.lower (written o gap count style closing) =
      indent o gap ++ (List.replicate count '^' ++ lowerClauses style) ++ closing := by
  have shape : written o gap count style closing =
      (indent o gap ++ (List.replicate count '^' ++ [' ', 'f', 'g'])) ++ '=' ::
        (style.getD Attribute.foreground.key ++ ' ' :: (['f', 's'] ++ '=' ::
          (style.getD Attribute.fontStyle.key ++ closing))) := by
    simp [written, indent, clauses]
  have start : ∀ c ∈ indent o gap ++ (List.replicate count '^' ++ [' ', 'f', 'g']),
      Case.IsLower c := by
    intro c hc
    rcases List.mem_append.1 hc with hc | hc
    · exact isLower_indent o gap c hc
    · rcases List.mem_append.1 hc with hc | hc
      · rw [List.eq_of_mem_replicate hc]
        decide
      · exact Text.forall_mem_of_all (t := [' ', 'f', 'g']) (by decide) c hc
  have word : Text.lower ['f', 's'] = ['f', 's'] :=
    Text.lower_isLower (Text.forall_mem_of_all (by decide))
  rw [shape, Text.lower_equals, Text.lower_isLower start, Text.lower_space, Text.lower_equals, word,
    lower_closing h]
  simp [lowerClauses]

theorem getLast?_lowerClauses {style : Style} (h : Legible style) {c : Char}
    (hc : (lowerClauses style).getLast? = some c) : c ∉ [' ', '-', '>', '*', '/'] := by
  obtain ⟨words, hwords, hword, last⟩ := h.fontStyle
  have shape : (lowerClauses style).getLast? =
      some ((Text.lower (style.getD Attribute.fontStyle.key)).getLast?.getD '=') := by
    rw [lowerClauses]
    simp [List.getLast?_append, List.getLast?_cons]
  rw [shape, Option.some_inj] at hc
  cases hfont : (Text.lower (style.getD Attribute.fontStyle.key)).getLast? with
  | none =>
    rw [hfont] at hc
    subst hc
    decide
  | some d =>
    rw [hfont, Option.getD_some] at hc
    subst hc
    intro stops
    have plain : Case.IsPlain d :=
      Text.forall_mem_of_all (t := [' ', '-', '>', '*', '/']) (by decide) d stops
    rw [Text.getLast?_lower plain, hwords,
      Text.getLast?_intercalate fun word hw => (hword word hw).1] at hfont
    obtain ⟨word, hw, hd⟩ := Option.bind_eq_some_iff.1 hfont
    rcases List.mem_cons.1 stops with space | stops
    · have blank := ((hword word (List.mem_of_getLast? hw)).2 d (List.mem_of_getLast? hd)).1
      subst space
      exact absurd (by decide) blank
    · exact last word hw d hd stops

theorem normalize_written {o : CommentOpener} {gap count : Nat} {style : Style} {closing : Text}
    (h : Legible style) (hc : closing ∈ closings) :
    AssertionLine.normalize (written o gap count style closing) =
      indent o gap ++ (List.replicate count '^' ++ lowerClauses style) := by
  generalize hbody : indent o gap ++ (List.replicate count '^' ++ lowerClauses style) = body
  have last : ∀ c, body.getLast? = some c → c ∉ [' ', '-', '>', '*', '/'] := by
    intro c hlast
    refine getLast?_lowerClauses h ?_
    rw [← hbody] at hlast
    simpa [lowerClauses, List.getLast?_append, List.getLast?_cons] using hlast
  have markup : Text.dropEndWhile [' ', '-', '>'].contains body = body :=
    Text.dropEndWhile_eq_self fun c hlast => by
      have := last c hlast
      simp_all
  have block : Text.dropEndWhile [' ', '*', '/'].contains body = body :=
    Text.dropEndWhile_eq_self fun c hlast => by
      have := last c hlast
      simp_all
  rw [AssertionLine.normalize, lower_written gap count style hc, hbody]
  simp only [closings, List.mem_cons, List.not_mem_nil, or_false] at hc
  -- One of the two steps drops what closes the comment, and the other stops at once.
  rcases hc with rfl | rfl | rfl
  · rw [List.append_nil, markup, block]
  · have slash : ∀ c, (body ++ " */".toList).getLast? = some c → [' ', '-', '>'].contains c = false := by
      intro c hlast
      have : c = '/' := by simpa using hlast.symm
      rw [this]
      decide
    rw [Text.dropEndWhile_eq_self slash, Text.dropEndWhile_append_all (List.all_eq_true.1 rfl), block]
  · rw [Text.dropEndWhile_append_all (List.all_eq_true.1 rfl), markup, block]

theorem opening_indent (o : CommentOpener) (gap : Nat) : AssertionLine.Opening (indent o gap) := by
  refine ⟨[], ' ' :: Text.spaces gap, o, rfl, by simp, fun c hc => ?_⟩
  have : c ∈ List.replicate (gap + 1) ' ' := hc
  rw [List.eq_of_mem_replicate this]
  decide

theorem fields_clauses {value : Text} {words : List Text} (free : ' ' ∉ value)
    (hwords : ∀ word ∈ words, word ≠ [] ∧ ' ' ∉ word) :
    Text.fields (· == ' ') (' ' :: 'f' :: 'g' :: '=' :: (value ++
        ' ' :: 'f' :: 's' :: '=' :: [' '].intercalate words)) =
      ("fg=".toList ++ value) :: ("fs=".toList ++ words.headD []) :: words.tail := by
  have shape : 'f' :: 'g' :: '=' :: (value ++ ' ' :: 'f' :: 's' :: '=' :: [' '].intercalate words) =
      [' '].intercalate (("fg=".toList ++ value) :: ("fs=".toList ++ words.headD []) :: words.tail) := by
    match words with
    | [] => simp [List.intercalate_cons_cons]
    | [word] => simp [List.intercalate_cons_cons]
    | word :: next :: words => simp [List.intercalate_cons_cons]
  rw [Text.fields_sep, shape, Text.fields_intercalate]
  intro piece hpiece
  rcases List.mem_cons.1 hpiece with rfl | hpiece
  · simpa using free
  · rcases List.mem_cons.1 hpiece with rfl | hpiece
    · cases words with
      | nil => simp
      | cons word words => simpa using (hwords word List.mem_cons_self).2
    · exact hwords piece (List.mem_of_mem_tail hpiece)

theorem readAll?_clauses (value : Text) {words : List Text} (h : ∀ word ∈ words, '=' ∉ word) :
    Clause.readAll? (("fg=".toList ++ value) :: ("fs=".toList ++ words.headD []) :: words.tail) =
      some [.foreground value, .fontStyle (words.headD []) words.tail] := by
  have font : Clause.Spelled (.fontStyle (words.headD []) words.tail)
      (("fs=".toList ++ words.headD []) :: words.tail) :=
    .fontStyle _ fun word hw => h word (List.mem_of_mem_tail hw)
  have spelled := Clause.Spells.cons (.foreground value) (.cons font .nil)
  rw [List.append_nil] at spelled
  exact Clause.readAll?_eq_some_iff.2 spelled

theorem expected_ofClauses (text : Text) (carets : Nat) (value : Text) {words : List Text}
    (h : ∀ word ∈ words, word ≠ []) :
    let line := AssertionLine.ofClauses text carets
      [.foreground value, .fontStyle (words.headD []) words.tail]
    (⟨line.foreground, line.background, line.fontStyle⟩ : Expectation) =
      ⟨if value = [] then none else some value, none, some ([' '].intercalate words)⟩ := by
  have color : [Clause.foreground value, .fontStyle (words.headD []) words.tail].findSome?
      Clause.foreground? = if value = [] then none else some value := by
    by_cases empty : value = [] <;> simp [Clause.foreground?, empty]
  have font : [Clause.foreground value, .fontStyle (words.headD []) words.tail].findSome?
      Clause.fontStyle? = some ([' '].intercalate words) := by
    cases words with
    | nil => rfl
    | cons word words =>
      have ne := h word List.mem_cons_self
      simp [List.findSome?_cons, Clause.fontStyle?, ne]
  simp only [AssertionLine.ofClauses, color, font]
  rfl

theorem read?_written (o : CommentOpener) (gap : Nat) {count : Nat} {style : Style} {closing : Text}
    (pos : 0 < count) (h : Legible style) (hc : closing ∈ closings) :
    ∃ parsed, AssertionLine.read? (written o gap count style closing) = some parsed ∧
      parsed.carets = count ∧
      ⟨parsed.foreground, parsed.background, parsed.fontStyle⟩ = stated style ∧
      parsed.minBuild = none := by
  obtain ⟨words, hwords, hword, -⟩ := h.fontStyle
  generalize hv : Text.lower (style.getD Attribute.foreground.key) = value
  have font : Text.lower (style.getD Attribute.fontStyle.key) =
      [' '].intercalate (words.map Text.lower) := by rw [hwords, Text.lower_intercalate]
  have free : ' ' ∉ value := by
    rw [← hv, Text.mem_lower (by decide)]
    exact fun m => (h.foreground _ m).1 (by decide)
  have lowered : ∀ word ∈ words.map Text.lower, word ≠ [] ∧ ' ' ∉ word ∧ '=' ∉ word := by
    intro word hw
    obtain ⟨source, hs, rfl⟩ := List.mem_map.1 hw
    obtain ⟨ne, clean⟩ := hword source hs
    rw [Text.mem_lower (by decide), Text.mem_lower (by decide)]
    exact ⟨Text.lower_ne_nil ne, fun m => (clean _ m).1 (by decide), fun m => (clean _ m).2.1 rfl⟩
  have read : Clause.readAll? (Text.fields (· == ' ') (lowerClauses style)) =
      some [.foreground value, .fontStyle ((words.map Text.lower).headD []) (words.map Text.lower).tail] := by
    rw [lowerClauses, font, hv,
      fields_clauses free fun word hw => ⟨(lowered word hw).1, (lowered word hw).2.1⟩,
      readAll?_clauses value fun word hw => (lowered word hw).2.2]
  have carets : AssertionLine.readCarets? (AssertionLine.normalize (written o gap count style closing)) =
      some (count, lowerClauses style) := by
    rw [normalize_written h hc]
    exact AssertionLine.readCarets?_eq_some_iff.2 ⟨_, opening_indent o gap, rfl, pos,
      (opening_indent o gap).not_mem_caret, by simp [lowerClauses]⟩
  have empty : value = [] ↔ style.getD Attribute.foreground.key = [] := by
    rw [← hv]
    exact ⟨fun nil => Classical.not_not.1 fun ne => Text.lower_ne_nil ne nil, fun nil => by rw [nil]; rfl⟩
  have expected := expected_ofClauses (AssertionLine.normalize (written o gap count style closing))
    count value fun word hw => (lowered word hw).1
  refine ⟨_, AssertionLine.read?_eq_some_ofClauses.2 ⟨_, _, _, carets, .inr rfl, read, rfl⟩, rfl,
    expected.trans ?_, rfl⟩
  simp only [stated, hv, font, empty]

theorem caretRun_written (o : CommentOpener) (gap : Nat) {count : Nat} (pos : 0 < count)
    (style : Style) (closing : Text) :
    CaretRun (written o gap count style closing) (indent o gap) count
      (' ' :: (clauses style ++ closing)) where
  text_eq := by simp [written, indent]
  count_pos := pos
  not_mem_before := (opening_indent o gap).not_mem_caret
  head?_after := by simp

theorem not_mem_clauses {style : Style} (h : Legible style) {c : Char} (hc : isBlank c ∨ c = '^')
    (ne : c ≠ ' ') : c ∉ clauses style := by
  obtain ⟨words, hwords, hword, -⟩ := h.fontStyle
  have signs : ∀ d ∈ "fg=".toList ++ " fs=".toList, d = ' ' ∨ ¬ isBlank d ∧ d ≠ '^' :=
    Text.forall_mem_of_all (by decide)
  have fixed : c ∉ "fg=".toList ++ " fs=".toList := fun m => by
    rcases signs c m with space | ⟨filled, caret⟩
    · exact ne space
    · exact hc.elim filled caret
  have color : c ∉ style.getD Attribute.foreground.key := fun m => by
    obtain ⟨filled, caret⟩ := h.foreground c m
    exact hc.elim filled caret
  have font : c ∉ style.getD Attribute.fontStyle.key := by
    rw [hwords]
    refine Text.not_mem_intercalate ne fun word hw m => ?_
    obtain ⟨filled, -, caret⟩ := (hword word hw).2 c m
    exact hc.elim filled caret
  simp only [List.mem_append, not_or] at fixed
  simp only [clauses, List.mem_append, not_or]
  exact ⟨⟨⟨fixed.1, color⟩, fixed.2⟩, font⟩

theorem isWholeLine_written {o : CommentOpener} {gap count : Nat} {style : Style} {closing : Text}
    (h : Legible style) (hc : closing ∈ closings) :
    Text.IsWholeLine (written o gap count style closing) := by
  have free : ∀ c, isBlank c → c ≠ ' ' → c ≠ '^' → c ∉ written o gap count style closing := by
    intro c blank space caret
    have opening : ∀ d ∈ o.text, ¬ isBlank d := by
      cases o <;> exact Text.forall_mem_of_all (by decide)
    have ending : ∀ d ∈ closing, d = ' ' ∨ ¬ isBlank d := by
      simp only [closings, List.mem_cons, List.not_mem_nil, or_false] at hc
      rcases hc with rfl | rfl | rfl <;> exact Text.forall_mem_of_all (by decide)
    have noOpening : c ∉ o.text := fun m => opening c m blank
    have noEnding : c ∉ closing := fun m => (ending c m).elim space (· blank)
    have body := not_mem_clauses h (.inl blank) space
    simp [written, Text.spaces, noOpening, noEnding, body, space, caret]
  refine ⟨free '\n' (by decide) (by decide) (by decide), ?_, fun last => ?_⟩
  · cases o <;> simp [written, CommentOpener.text]
  · exact free '\r' (by decide) (by decide) (by decide) (List.mem_of_getLast? last)

end Caret
end SchemeCheck
