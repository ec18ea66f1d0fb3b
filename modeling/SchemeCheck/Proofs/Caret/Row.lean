import Mathlib.Data.List.Basic
import SchemeCheck.Proofs.Caret.Line
import SchemeCheck.Proofs.Caret.Run
import SchemeCheck.Proofs.Theme.Resolver
set_option autoImplicit false

namespace SchemeCheck.Caret

def rowStyles (styleOf : Nat → Style) (chars : Text) : List Text :=
  chars.zipIdx.map fun c => if c.1 = ' ' then [] else clauses (styleOf c.2)

theorem rowClauses_eq {view : View} {score : Scorer} {r : Resolver} (h : r.Faithful view score)
    (row column : Nat) (chars : Text) :
    rowClauses view score row r column chars =
      (chars.zipIdx column).map fun c =>
        if c.1 = ' ' then [] else clauses (r.theme.styleAt view score row c.2) := by
  induction chars generalizing r column with
  | nil => rfl
  | cons c chars ih =>
    rw [rowClauses, List.zipIdx_cons, List.map_cons]
    by_cases space : c = ' '
    · rw [if_pos space, if_pos space, ih h]
    · have tail := ih (h.next_atPoint (view.textPoint row column)) (column + 1)
      rw [Resolver.theme_next_atPoint] at tail
      simp only [space, if_false, h.style_atPoint, tail]

theorem rowClauses_new (view : View) (score : Scorer) (theme : Theme) (row : Nat) (chars : Text) :
    rowClauses view score row (Resolver.new theme) 0 chars =
      rowStyles (theme.styleAt view score row) chars :=
  rowClauses_eq (Resolver.faithful_new theme) row 0 chars

theorem getElem?_rowStyles (styleOf : Nat → Style) (chars : Text) (column : Nat) :
    (rowStyles styleOf chars)[column]? =
      chars[column]?.map fun c => if c = ' ' then [] else clauses (styleOf column) := by
  simp [rowStyles, List.getElem?_zipIdx, Function.comp_def]

def LegibleRow (styleOf : Nat → Style) (chars : Text) : Prop :=
  ∀ column c, chars[column]? = some c → c ≠ ' ' → Legible (styleOf column)

def shownRuns (styleOf : Nat → Style) (chars : Text) (width : Nat) : List StyleRun :=
  (runsFrom 0 (rowStyles styleOf chars)).filter fun run => run.Shown width

section
variable {styleOf : Nat → Style} {chars : Text} {width : Nat} {run : StyleRun}

theorem style_of_covers (hr : run ∈ runsFrom 0 (rowStyles styleOf chars)) {column : Nat}
    (hc : run.Covers column) :
    ∃ c, chars[column]? = some c ∧ run.style = if c = ' ' then [] else clauses (styleOf column) := by
  have tile := tile_runsFrom 0 (rowStyles styleOf chars)
  have style := tile.getElem?_spread hr hc
  rw [spread_runsFrom, Nat.sub_zero, getElem?_rowStyles] at style
  obtain ⟨c, hchar, hstyle⟩ := Option.map_eq_some_iff.1 style
  exact ⟨c, hchar, hstyle.symm⟩

theorem covers_start (hr : run ∈ runsFrom 0 (rowStyles styleOf chars)) : run.Covers run.start := by
  have pos := (tile_runsFrom 0 (rowStyles styleOf chars)).length_pos hr
  exact ⟨Nat.le_refl _, by omega⟩

theorem not_mem_style (legible : LegibleRow styleOf chars)
    (hr : run ∈ runsFrom 0 (rowStyles styleOf chars)) : '^' ∉ run.style := by
  obtain ⟨c, hchar, hstyle⟩ := style_of_covers hr (covers_start hr)
  rw [hstyle]
  by_cases space : c = ' '
  · simp [space]
  · rw [if_neg space]
    exact not_mem_clauses (legible _ c hchar space) (.inr rfl) (by decide)

theorem clauses_of_shown (hr : run ∈ shownRuns styleOf chars width) {column : Nat}
    (hc : run.Covers column) :
    ∃ c, chars[column]? = some c ∧ c ≠ ' ' ∧ run.style = clauses (styleOf column) := by
  obtain ⟨hr, shown⟩ := List.mem_filter.1 hr
  obtain ⟨-, styled⟩ := of_decide_eq_true shown
  obtain ⟨c, hchar, hstyle⟩ := style_of_covers hr hc
  by_cases space : c = ' '
  · rw [hstyle, if_pos space] at styled
    simp at styled
  · rw [if_neg space] at hstyle
    exact ⟨c, hchar, space, hstyle⟩

theorem covers_shown_iff (column : Nat) :
    (∃ run ∈ shownRuns styleOf chars width, run.firstLeft width ≤ column ∧
        column < run.start + run.length) ↔
      width ≤ column ∧ ∃ c, chars[column]? = some c ∧ c ≠ ' ' := by
  constructor
  · rintro ⟨run, hr, low, high⟩
    have covers : run.Covers column := ⟨by simp only [StyleRun.firstLeft] at low; omega, high⟩
    obtain ⟨c, hchar, filled, -⟩ := clauses_of_shown hr covers
    exact ⟨by simp only [StyleRun.firstLeft] at low; omega, c, hchar, filled⟩
  · rintro ⟨low, c, hchar, filled⟩
    have tile := tile_runsFrom 0 (rowStyles styleOf chars)
    have inside : column < chars.length := (List.getElem?_eq_some_iff.1 hchar).1
    obtain ⟨run, hr, covers⟩ := tile.exists_covers (Nat.zero_le column) (by
      rw [spread_runsFrom]
      simpa [rowStyles] using inside)
    obtain ⟨d, hd, hstyle⟩ := style_of_covers hr covers
    rw [hchar, Option.some_inj] at hd
    subst hd
    rw [if_neg filled] at hstyle
    have styled : run.style.any (· != ' ') := by
      rw [hstyle]
      simp [clauses]
    obtain ⟨first, last⟩ := covers
    refine ⟨run, List.mem_filter.2 ⟨hr, decide_eq_true ⟨by omega, styled⟩⟩, ?_, last⟩
    simp only [StyleRun.firstLeft]
    omega

end

def StyleRun.shownBy (o : CommentOpener) (styleOf : Nat → Style) (closing : Text) (run : StyleRun) :
    Text :=
  let width := o.text.length + 1
  written o (run.firstLeft width - width) (run.start + run.length - run.firstLeft width)
    (styleOf run.start) closing

theorem assertionLines_eq {o : CommentOpener} {styleOf : Nat → Style} {chars : Text} (closing : Text)
    (legible : LegibleRow styleOf chars) :
    assertionLines (rowStyles styleOf chars) (o.text ++ [' ']) closing =
      (shownRuns styleOf chars (o.text.length + 1)).map (·.shownBy o styleOf closing) := by
  have width : (o.text ++ [' ']).length = o.text.length + 1 := by simp
  rw [assertionLines_shown _ closing fun run hr => not_mem_style legible hr, width]
  refine List.map_congr_left fun run hr => ?_
  have covers := covers_start (List.mem_filter.1 hr).1
  obtain ⟨c, -, -, hstyle⟩ := clauses_of_shown hr covers
  rw [StyleRun.shownLine, width, hstyle]
  rfl

end SchemeCheck.Caret
