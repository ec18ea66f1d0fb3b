import SchemeCheck.Proofs.Caret.Row
import SchemeCheck.Proofs.Fixture.Assertion
import SchemeCheck.Proofs.Fixture.FirstLine
import SchemeCheck.Proofs.Fixture.Run
set_option autoImplicit false

/-!
Generated assertions check out. The lines that are written for a row, put below it, state the styles
that the row has: each makes one assertion about the row, together they speak once about every
character that the comment opening leaves, and none of them fails as long as what stands below a row
does not change how it is rendered. A color with a quote can: it may close one that the first line
leaves open, and the fixture then has another syntax.
-/

namespace SchemeCheck

/-- Assertions for every build about `row`, one for each of `columns` and none for the others. -/
structure Assertion.Tiles (row : Nat) (columns : Nat → Prop) (as : List Assertion) : Prop where
  about : ∀ a ∈ as, a.row = row ∧ a.minBuild = none
  disjoint : as.Pairwise fun a b => a.colEnd ≤ b.colBegin
  covers_iff : ∀ column, (∃ a ∈ as, a.colBegin ≤ column ∧ column < a.colEnd) ↔ columns column

namespace Caret
open Assertion

structure Shows (styleOf : Nat → Style) (width row : Nat) (run : StyleRun) (a : Assertion) : Prop where
  row_eq : a.row = row
  colBegin_eq : a.colBegin = run.firstLeft width
  colEnd_eq : a.colEnd = run.start + run.length
  expected_eq : a.expected = stated (styleOf run.start)
  minBuild_eq : a.minBuild = none

theorem stated_congr {style style' : Style} (h : Legible style) (h' : Legible style')
    (same : clauses style = clauses style') : stated style = stated style' := by
  have closing : [] ∈ closings := by decide
  obtain ⟨parsed, read, -, expected, -⟩ := read?_written .hash 0 Nat.one_pos h closing
  obtain ⟨parsed', read', -, expected', -⟩ := read?_written .hash 0 Nat.one_pos h' closing
  -- Lines with the same clauses are the same line, which is read in one way.
  have text : written .hash 0 1 style [] = written .hash 0 1 style' [] := by
    rw [written, written, same]
  rw [text, read', Option.some_inj] at read
  rw [← expected, ← expected', read]

theorem not_misses_stated (style : Style) : ¬ (stated style).Misses style := by
  rintro ⟨k, v, hv, differs⟩
  cases k with
  | foreground =>
    simp only [stated, Expectation.get?] at hv
    split at hv
    · simp at hv
    · exact differs (Option.some.inj hv)
  | background => simp [stated, Expectation.get?] at hv
  | fontStyle => exact differs (Option.some.inj hv)

section
variable {o : CommentOpener} {closing : Text} {styleOf : Nat → Style} {chars : Text} {run : StyleRun}

theorem legible_of_shown {width : Nat} (legible : LegibleRow styleOf chars)
    (hr : run ∈ shownRuns styleOf chars width) {column : Nat} (hc : run.Covers column) :
    Legible (styleOf column) := by
  obtain ⟨c, hchar, filled, -⟩ := clauses_of_shown hr hc
  exact legible column c hchar filled

theorem count_pos_of_shown {width : Nat} (hr : run ∈ shownRuns styleOf chars width) :
    0 < run.start + run.length - run.firstLeft width := by
  obtain ⟨hr, shown⟩ := List.mem_filter.1 hr
  have pos := (tile_runsFrom 0 (rowStyles styleOf chars)).length_pos hr
  have beyond := (of_decide_eq_true shown).1
  simp only [StyleRun.firstLeft]
  omega

theorem read?_shownBy (legible : LegibleRow styleOf chars) (hc : closing ∈ closings)
    (hr : run ∈ shownRuns styleOf chars (o.text.length + 1)) :
    ∃ parsed, AssertionLine.read? (run.shownBy o styleOf closing) = some parsed ∧
      parsed.carets = run.start + run.length - run.firstLeft (o.text.length + 1) ∧
      ⟨parsed.foreground, parsed.background, parsed.fontStyle⟩ = stated (styleOf run.start) ∧
      parsed.minBuild = none :=
  read?_written o _ (count_pos_of_shown hr)
    (legible_of_shown legible hr (covers_start (List.mem_filter.1 hr).1)) hc

theorem isWholeLine_shownBy (legible : LegibleRow styleOf chars) (hc : closing ∈ closings)
    (hr : run ∈ shownRuns styleOf chars (o.text.length + 1)) :
    Text.IsWholeLine (run.shownBy o styleOf closing) :=
  isWholeLine_written (legible_of_shown legible hr (covers_start (List.mem_filter.1 hr).1)) hc

theorem shows_of_statedBy {ls : List Text} {i row : Nat} {a : Assertion}
    (legible : LegibleRow styleOf chars) (hc : closing ∈ closings)
    (hr : run ∈ shownRuns styleOf chars (o.text.length + 1))
    (hline : ls[i]? = some (run.shownBy o styleOf closing)) (subject : IsSubject ls i row)
    (h : StatedBy ls i a) : Shows styleOf (o.text.length + 1) row run a := by
  obtain ⟨line, parsed, before, after, hline', hread, hsubject, hrun, hbegin, hless, hexpected, -,
    hbuild⟩ := h
  rw [hline, Option.some_inj] at hline'
  subst hline'
  obtain ⟨parsed', hread', -, hstated, hnone⟩ := read?_shownBy legible hc hr
  rw [hread', Option.some_inj] at hread
  subst hread
  have pos := count_pos_of_shown hr
  have carets := caretRun_written o (run.firstLeft (o.text.length + 1) - (o.text.length + 1)) pos
    (styleOf run.start) closing
  obtain ⟨hbefore, hcount⟩ := hrun.unique carets
  have width : before.length = run.firstLeft (o.text.length + 1) := by
    rw [hbefore, indent]
    simp only [List.length_append, List.length_cons, Text.spaces, List.length_replicate,
      StyleRun.firstLeft]
    omega
  refine ⟨hsubject.unique subject, by rw [hbegin, width], ?_, by rw [hexpected, hstated],
    by rw [hbuild, hnone]⟩
  rw [hbegin, width] at hcount hless
  omega

theorem forall₂_shows {ls : List Text} {row : Nat} {made : List Assertion}
    (legible : LegibleRow styleOf chars) (hc : closing ∈ closings)
    (stack : Stack ls row
      ((shownRuns styleOf chars (o.text.length + 1)).map (·.shownBy o styleOf closing)))
    (h : List.Forall₂ (StatedBy ls)
      (List.range' (row + 1) (shownRuns styleOf chars (o.text.length + 1)).length) made) :
    List.Forall₂ (Shows styleOf (o.text.length + 1) row)
      (shownRuns styleOf chars (o.text.length + 1)) made := by
  have length := h.length_eq
  rw [List.length_range'] at length
  refine List.forall₂_iff_get.2 ⟨length, fun i hi hi' => ?_⟩
  have stated := h.get (i := i) (by rwa [List.length_range']) hi'
  simp only [List.get_eq_getElem, List.getElem_range', Nat.one_mul] at stated
  have inside : i < ((shownRuns styleOf chars (o.text.length + 1)).map
      (·.shownBy o styleOf closing)).length := by rwa [List.length_map]
  have here := stack.getElem? inside
  rw [List.getElem?_map, List.getElem?_eq_getElem hi, Option.map_some] at here
  have subject := stack.isSubject (i := row + 1 + i) (by omega) (by omega)
  exact shows_of_statedBy legible hc (List.getElem_mem hi) here subject stated

theorem columns_of_shows {width row : Nat} {runs : List StyleRun} {made : List Assertion}
    (h : List.Forall₂ (Shows styleOf width row) runs made) :
    made.map (fun a => (a.colBegin, a.colEnd)) =
      runs.map fun run => (run.firstLeft width, run.start + run.length) := by
  induction h with
  | nil => rfl
  | cons shows _ ih => rw [List.map_cons, List.map_cons, ih, shows.colBegin_eq, shows.colEnd_eq]

theorem tiles_of_shows {width row : Nat} {made : List Assertion}
    (h : List.Forall₂ (Shows styleOf width row) (shownRuns styleOf chars width) made) :
    Tiles row (fun column => width ≤ column ∧ ∃ c, chars[column]? = some c ∧ c ≠ ' ') made := by
  have columns := columns_of_shows h
  refine ⟨fun a ha => ?_, ?_, fun column => ?_⟩
  · obtain ⟨run, -, shows⟩ := List.exists_mem_of_forall₂ h ha
    exact ⟨shows.row_eq, shows.minBuild_eq⟩
  · have apart := (tile_runsFrom 0 (rowStyles styleOf chars)).pairwise.filter fun run => run.Shown width
    have ranges : (made.map fun a => (a.colBegin, a.colEnd)).Pairwise fun p q => p.2 ≤ q.1 := by
      rw [columns, List.pairwise_map]
      refine apart.imp fun {a b} le => ?_
      simp only [StyleRun.firstLeft]
      omega
    exact List.pairwise_map.1 ranges
  · rw [← covers_shown_iff]
    have ranges : (∃ p ∈ made.map fun a => (a.colBegin, a.colEnd), p.1 ≤ column ∧ column < p.2) ↔
        ∃ p ∈ (shownRuns styleOf chars width).map fun run =>
          (run.firstLeft width, run.start + run.length), p.1 ≤ column ∧ column < p.2 := by
      rw [columns]
    simpa using ranges

theorem failingColumns_of_shows {width row : Nat} {a : Assertion} {view : View} {score : Scorer}
    {theme : Theme} (legible : LegibleRow styleOf chars) (hr : run ∈ shownRuns styleOf chars width)
    (h : Shows styleOf width row run a)
    (same : ∀ column < chars.length, theme.styleAt view score row column = styleOf column) :
    a.failingColumns view score theme = [] := by
  refine List.filter_eq_nil_iff.2 fun column hcolumn => ?_
  obtain ⟨low, high⟩ := List.mem_range'_1.1 hcolumn
  rw [h.colBegin_eq] at low high
  rw [h.colEnd_eq] at high
  have covers : run.Covers column := by
    constructor <;> simp only [StyleRun.firstLeft] at low high <;> omega
  have start := covers_start (List.mem_filter.1 hr).1
  obtain ⟨c, hchar, -, hstyle⟩ := clauses_of_shown hr covers
  obtain ⟨d, -, -, hfirst⟩ := clauses_of_shown hr start
  have inside : column < chars.length := (List.getElem?_eq_some_iff.1 hchar).1
  have stated := stated_congr (legible_of_shown legible hr start)
    (legible_of_shown legible hr covers) (hfirst.symm.trans hstyle)
  rw [h.expected_eq, h.row_eq, same column inside, stated]
  simpa using not_misses_stated (styleOf column)

end

end Caret

namespace Host

/-- What stands below a row does not change the styles of the row. -/
def StylesByRow (host : Host) : Prop :=
  ∀ {syntaxFile scheme content content' : Text} {theme : Theme} {view view' : View}
    {row column : Nat},
    host.render syntaxFile scheme theme content = .ok view →
    host.render syntaxFile scheme theme content' = .ok view' →
    Text.throughRow row content' = Text.throughRow row content →
    column < ((Text.lines content)[row]?.getD []).length →
    theme.styleAt view' host.score row column = theme.styleAt view host.score row column

variable {host : Host} {test content content' syntaxFile syntaxFile' chars : Text}
  {header header' : Header} {theme theme' : Theme} {view view' : View} {o : CommentOpener} {row : Nat}

theorem Rendering.same (h : host.Rendering test content header syntaxFile theme view)
    (h' : host.Rendering test content' header syntaxFile' theme' view') :
    syntaxFile' = syntaxFile ∧ theme' = theme := by
  have resolved := h.value_resolveSyntax
  have loaded := h.theme_eq
  rw [h'.value_resolveSyntax, Except.ok.injEq] at resolved
  rw [h'.theme_eq, Except.ok.injEq] at loaded
  exact ⟨resolved, loaded⟩

theorem Rendering.styleAt_eq (h : host.Rendering test content header syntaxFile theme view)
    (stable : host.StylesByRow)
    {inserted : List Text} (inside : Text.InsertedBelow row inserted content content')
    (h' : host.Rendering test content' header syntaxFile' theme' view')
    (hline : (Text.lines content)[row]? = some chars) {column : Nat} (hcolumn : column < chars.length) :
    theme'.styleAt view' host.score row column = theme.styleAt view host.score row column := by
  obtain ⟨rfl, rfl⟩ := h.same h'
  refine stable h.render h'.render inside.through_eq ?_
  rwa [hline, Option.getD_some]

theorem value_generateAssertions (h : host.Rendering test content header syntaxFile theme view)
    (opener : header.opener = some o) (hline : (Text.lines content)[row]? = some chars)
    (legible : Caret.LegibleRow (theme.styleAt view host.score row) chars) :
    ∃ closing ∈ Caret.closings, (host.generateAssertions test content row).value =
      .ok (['\n'].intercalate ((Caret.shownRuns (theme.styleAt view host.score row) chars
        (o.text.length + 1)).map (·.shownBy o (theme.styleAt view host.score row) closing))) := by
  have markers : ∃ closing ∈ Caret.closings,
      Caret.markers (some o.text) = (o.text ++ [' '], closing) := by
    cases o <;> exact ⟨_, by decide, rfl⟩
  obtain ⟨closing, hc, hmarkers⟩ := markers
  refine ⟨closing, hc, ?_⟩
  rw [generateAssertions, Changing.generateAssertions, Changing.value_withFixture_always,
    h.value_withFixture]
  dsimp only
  rw [opener, Option.map_some, hmarkers, hline, Option.getD_some, Caret.rowClauses_new]
  dsimp only
  rw [Caret.assertionText, Caret.assertionLines_eq closing legible]

/-- Assertions that are generated for a row and put below it are about the row, speak once about
each character that the comment opening leaves and that is no space, and do not fail unless a quote in
them makes the header go on over the end of its line. -/
theorem generateAssertions_hold (h : host.Rendering test content header syntaxFile theme view)
    (stable : host.StylesByRow) (oneLine : header.IsOnOneLine content)
    (opener : header.opener = some o) (hline : (Text.lines content)[row]? = some chars)
    (plain : AssertionLine.read? chars = none)
    (legible : Caret.LegibleRow (theme.styleAt view host.score row) chars) :
    ∃ text, (host.generateAssertions test content row).value = .ok text ∧
      (∃ content', Text.InsertedBelow row (Text.lines text) content content') ∧
      ∀ content', Text.InsertedBelow row (Text.lines text) content content' →
        ∃ before made after, Assertion.ofDocument content' = before ++ (made ++ after) ∧
          List.Forall₂ (Assertion.StatedBy (Text.lines content'))
            (List.range' (row + 1) (Text.lines text).length) made ∧
          (∀ a ∈ before ++ after, ∃ i, (i ≤ row ∨ row + (Text.lines text).length < i) ∧
            Assertion.StatedBy (Text.lines content') i a) ∧
          Assertion.Tiles row (fun column => o.text.length + 1 ≤ column ∧
            ∃ c, chars[column]? = some c ∧ c ≠ ' ') made ∧
          ∀ header' syntaxFile' theme' view',
            host.Renders test content' header' syntaxFile' theme' view' →
            header'.IsOnOneLine content' ∨ '"' ∉ text →
              (∀ a ∈ made, a.failingColumns view' host.score theme' = []) ∧
              (host.runFixture test).value.failures =
                ((before ++ after).filter (·.appliesTo host.build)).flatMap
                  (·.failures (host.fileName test) view' host.score theme') := by
  obtain ⟨closing, hc, value⟩ := value_generateAssertions h opener hline legible
  generalize hstyle : theme.styleAt view host.score row = styleOf at legible value
  have whole : ∀ l ∈ (Caret.shownRuns styleOf chars (o.text.length + 1)).map
      (·.shownBy o styleOf closing), Text.IsWholeLine l := by
    intro l hl
    obtain ⟨run, hr, rfl⟩ := List.mem_map.1 hl
    exact Caret.isWholeLine_shownBy legible hc hr
  have inside : row < (Text.lines content).length := (List.getElem?_eq_some_iff.1 hline).1
  refine ⟨_, value, ?_, ?_⟩
  · rw [Text.lines_intercalate whole]
    exact Text.exists_insertedBelow whole inside
  rw [Text.lines_intercalate whole]
  intro content' inserted
  have stack : Assertion.Stack (Text.lines content') row
      ((Caret.shownRuns styleOf chars (o.text.length + 1)).map (·.shownBy o styleOf closing)) := by
    refine .of_insertedBelow inserted hline (by simp [AssertionLine.isAccepted, plain]) fun l hl => ?_
    obtain ⟨run, hr, rfl⟩ := List.mem_map.1 hl
    obtain ⟨parsed, hread, -⟩ := Caret.read?_shownBy (o := o) legible hc hr
    rw [AssertionLine.isAccepted, hread, Option.isSome_some]
  obtain ⟨before, made, after, split, stated, others⟩ := Assertion.exists_stacked stack
  rw [List.length_map] at stated
  have shows := Caret.forall₂_shows legible hc stack stated
  refine ⟨before, made, after, split, by rwa [List.length_map], others, Caret.tiles_of_shows shows, ?_⟩
  intro header' syntaxFile' theme' view' h' kept
  have unquoted (free : '"' ∉ ['\n'].intercalate ((Caret.shownRuns styleOf chars
      (o.text.length + 1)).map (·.shownBy o styleOf closing))) :
      ∀ line ∈ (Caret.shownRuns styleOf chars (o.text.length + 1)).map (·.shownBy o styleOf closing),
        '"' ∉ line := by
    rw [Text.mem_iff_mem_lines (by decide) (by decide), Text.lines_intercalate whole] at free
    exact fun line hline quote => free ⟨line, hline, quote⟩
  have headers := Header.read?_of_insertedBelow h.read oneLine inserted
    (kept.imp (fun onOneLine h'' hread => by cases h'.read.symm.trans hread; exact onOneLine) unquoted)
  cases h'.read.symm.trans headers
  have passes : ∀ a ∈ made, a.failingColumns view' host.score theme' = [] := by
    intro a ha
    obtain ⟨run, hr, shows⟩ := List.exists_mem_of_forall₂ shows ha
    refine Caret.failingColumns_of_shows legible hr shows fun column hcolumn => ?_
    rw [← hstyle]
    exact h.styleAt_eq stable inserted h'.toRendering hline hcolumn
  have silent : (made.filter (·.appliesTo host.build)).flatMap
      (·.failures (host.fileName test) view' host.score theme') = [] := by
    refine List.flatMap_eq_nil_iff.2 fun a ha => ?_
    rw [Assertion.failures, passes a (List.mem_filter.1 ha).1, List.map_nil]
  refine ⟨passes, ?_⟩
  rw [h'.failures_eq, split]
  simp only [List.filter_append, List.flatMap_append, silent, List.nil_append]

end Host

namespace Sample

def plain : Text :=
  "// COLOR SCHEME TEST \"a.hidden-color-scheme\" \"X\"
abc de
".toList

def checked : Text :=
  "// COLOR SCHEME TEST \"a.hidden-color-scheme\" \"X\"
abc de
//  ^^ fg=#FFF fs=
".toList

theorem isOnOneLine_plain : header.IsOnOneLine plain :=
  ⟨⟨by decide, by decide⟩, CommentOpener.slashes.text ++ [' '],
    "a.hidden-color-scheme\" \"X\"\nabc de\n".toList,
    .comment .slashes (.inl rfl) (Text.forall_mem_of_all (by decide)), by decide, by decide +kernel⟩

theorem stylesByRow_memory (loaded : Text) : (memory loaded).toHost.StylesByRow := by
  intro syntaxFile scheme content content' theme view view' row column h h' _ _
  have same : view = (memory loaded).view theme := (Except.ok.inj h).symm
  have same' : view' = (memory loaded).view theme := (Except.ok.inj h').symm
  rw [same, same']

theorem legibleRow_checked (row : Nat) (chars : Text) :
    Caret.LegibleRow ((Theme.modern theme).styleAt ((memory checked).view (.modern theme))
      (memory checked).score row) chars := by
  have legible : Caret.Legible ((Theme.modern theme).resolve
      ((memory checked).view (.modern theme)) (memory checked).score ['s']) :=
    ⟨Text.forall_mem_of_all (by decide +kernel), [], by decide +kernel, by simp, by simp⟩
  exact fun column c _ _ => legible

end Sample

theorem Host.generateAssertions_hold_sample :
    ((Sample.memory Sample.checked).toHost.generateAssertions Sample.fixture Sample.plain 1).value =
        .ok "//  ^^ fg=#FFF fs=".toList ∧
      ((Sample.memory Sample.checked).toHost.runFixture Sample.fixture).value.failures = [] := by
  have written : ((Sample.memory Sample.checked).toHost.generateAssertions Sample.fixture
      Sample.plain 1).value = .ok "//  ^^ fg=#FFF fs=".toList := by decide +kernel
  have all : Assertion.ofDocument Sample.checked =
      [⟨1, 4, 6, ⟨some "#fff".toList, none, some []⟩, "//  ^^ fg=#fff fs=".toList, none⟩] := by
    decide +kernel
  have chars : (Text.lines Sample.plain)[1]? = some "abc de".toList := by decide +kernel
  obtain ⟨text, value, -, hold⟩ := Host.generateAssertions_hold
    (Sample.rendering Sample.checked (by decide +kernel)) (Sample.stylesByRow_memory _)
    Sample.isOnOneLine_plain rfl chars (by decide +kernel) (Sample.legibleRow_checked _ _)
  rw [written, Except.ok.injEq] at value
  subst value
  obtain ⟨before, made, after, split, stated, -, -, holds⟩ :=
    hold Sample.checked ⟨by decide +kernel, by decide +kernel⟩
  obtain ⟨-, failures⟩ := holds _ _ _ _ (Sample.renders (by decide +kernel))
    (.inr (by decide))
  have one : made.length = 1 := stated.length_eq.symm
  rw [all] at split
  have total := congrArg List.length split
  simp only [List.length_append, List.length_singleton, one] at total
  have none : before ++ after = [] := List.length_eq_zero_iff.1 (by
    rw [List.length_append]
    omega)
  rw [failures, none]
  exact ⟨written, rfl⟩

namespace Sample

def opened : Text := "# COLOR SCHEME TEST \"a.hidden-color-scheme\" \"Z[\nabc\n".toList

def closed : Text := opened ++ "# ^ fg=#]\"f fs=\n".toList

def unnamed : Header := ⟨scheme, none, false, some .hash⟩

def quotedFixture : Text := "t.x".toList

def quotedTheme : ModernTheme :=
  ⟨none, Dict.empty.insert "foreground".toList "#]\"f".toList, Dict.empty, []⟩

def quotedMemory : MemoryHost :=
  { memory [] with
    files := (((Dict.empty.insert quotedFixture closed).insert syntaxFile []).insert
      "Za.sublime-syntax".toList []).insert scheme
        "[null, \x7b\"foreground\": \"#]\\\"f\"\x7d]".toList }

/-- A host that shows the colors of one syntax only. -/
def coloring : Host :=
  { quotedMemory.toHost with
    render := fun file _ theme _ => .ok
      (if file = syntaxFile then quotedMemory.view theme
      else { quotedMemory.view theme with
        style := HostStyle.empty
        styleForScope := fun _ => HostStyle.empty }) }

theorem stylesByRow_coloring : coloring.StylesByRow := by
  intro file name content content' theme view view' row column h h' _ _
  rw [Except.ok.inj (h.symm.trans h')]

theorem rendering_coloring : coloring.Rendering quotedFixture opened unnamed syntaxFile
    (.modern quotedTheme) (quotedMemory.view (.modern quotedTheme)) where
  read := by decide +kernel
  found := .here (by decide +kernel) (by simp)
  assign := rfl
  theme_eq := by decide +kernel
  render := rfl

theorem isOnOneLine_unnamed : unnamed.IsOnOneLine opened :=
  ⟨⟨by decide, by decide⟩, CommentOpener.hash.text ++ [' '],
    "a.hidden-color-scheme\" \"Z[\nabc\n".toList,
    .comment .hash (.inl rfl) (Text.forall_mem_of_all (by decide)), by decide, by decide +kernel⟩

theorem legibleRow_coloring (row : Nat) (chars : Text) :
    Caret.LegibleRow ((Theme.modern quotedTheme).styleAt (quotedMemory.view (.modern quotedTheme))
      coloring.score row) chars := by
  have legible : Caret.Legible ((Theme.modern quotedTheme).resolve
      (quotedMemory.view (.modern quotedTheme)) coloring.score ['s']) :=
    ⟨Text.forall_mem_of_all (by decide +kernel), [], by decide +kernel, by simp, by simp⟩
  exact fun column c _ _ => legible

end Sample

/-- A color with a quote closes the one that the first line leaves open: the fixture has another syntax
then, and its row other colors. -/
theorem Host.generateAssertions_quoted :
    Sample.coloring.StylesByRow ∧
      Sample.coloring.Rendering Sample.quotedFixture Sample.opened Sample.unnamed Sample.syntaxFile
        (.modern Sample.quotedTheme) (Sample.quotedMemory.view (.modern Sample.quotedTheme)) ∧
      Sample.unnamed.IsOnOneLine Sample.opened ∧
      (Text.lines Sample.opened)[1]? = some "abc".toList ∧
      AssertionLine.read? "abc".toList = none ∧
      Caret.LegibleRow ((Theme.modern Sample.quotedTheme).styleAt
        (Sample.quotedMemory.view (.modern Sample.quotedTheme)) Sample.coloring.score 1)
        "abc".toList ∧
      (Sample.coloring.generateAssertions Sample.quotedFixture Sample.opened 1).value =
        .ok "# ^ fg=#]\"f fs=".toList ∧
      Text.InsertedBelow 1 (Text.lines "# ^ fg=#]\"f fs=".toList) Sample.opened Sample.closed ∧
      (Sample.coloring.runFixture Sample.quotedFixture).value.status = .failed ∧
      (Sample.coloring.runFixture Sample.quotedFixture).value.failures.map
        (fun f => (f.row, f.column)) = [(2, 3)] :=
  ⟨Sample.stylesByRow_coloring, Sample.rendering_coloring, Sample.isOnOneLine_unnamed,
    by decide +kernel, by decide +kernel, Sample.legibleRow_coloring 1 _, by decide +kernel,
    ⟨by decide +kernel, by decide +kernel⟩, by decide +kernel, by decide +kernel⟩

end SchemeCheck
