import Mathlib.Data.List.Chain
import SchemeCheck.Proofs.Caret.Run
set_option autoImplicit false

/-!
The columns that assertion lines mark. The runs of a row are its maximal runs of equal styles, each
shown run has one line, and the first carets of the lines stand once below each column that has a
style and is not covered by the comment opening.
-/

namespace SchemeCheck
namespace Caret

structure StyleRun.MaximalIn (styles : List Text) (run : StyleRun) : Prop where
  length_pos : 0 < run.length
  style_eq : ∀ column, run.Covers column → styles[column]? = some run.style
  before_ne : ∀ column, column + 1 = run.start → styles[column]? ≠ some run.style
  after_ne : styles[run.start + run.length]? ≠ some run.style

/-- The columns below which the first carets of a line stand, with the style that follows these. -/
def marked (closing line : Text) : List (Text × Nat) :=
  let rest := line.dropWhile (· != '^')
  let style := (Text.after? [' '] (rest.dropWhile (· == '^'))).bind (Text.before? closing)
  let column := (line.takeWhile (· != '^')).length
  (List.range' column (rest.takeWhile (· == '^')).length).map fun c => (style.getD [], c)

theorem isChain_runsFrom (start : Nat) (styles : List Text) :
    (runsFrom start styles).IsChain fun a b => a.style ≠ b.style := by
  induction styles generalizing start with
  | nil => exact .nil
  | cons style styles ih =>
    have tail := ih (start + 1)
    rw [runsFrom]
    cases hr : runsFrom (start + 1) styles with
    | nil => exact .singleton _
    | cons run runs =>
      rw [hr] at tail
      by_cases same : run.style = style
      · simp only [same, if_true]
        cases runs with
        | nil => exact .singleton _
        | cons next runs =>
          obtain ⟨differs, rest⟩ := List.isChain_cons_cons.1 tail
          exact .cons_cons (same ▸ differs) rest
      · simp only [same, if_false]
        exact .cons_cons (Ne.symm same) tail

namespace Tile

theorem start_eq {start : Nat} {left right : List StyleRun} {a b : StyleRun}
    (h : Tile start (left ++ a :: b :: right)) : b.start = a.start + a.length := by
  induction left generalizing start with
  | nil =>
    obtain ⟨rfl, -, hb, -⟩ := h
    exact hb
  | cons first left ih => exact ih h.2.2

theorem end_eq {start : Nat} {left : List StyleRun} {a : StyleRun} (h : Tile start (left ++ [a])) :
    a.start + a.length = start + (spread (left ++ [a])).length := by
  induction left generalizing start with
  | nil =>
    obtain ⟨rfl, -⟩ := h
    simp [spread]
  | cons first left ih =>
    have tail := ih h.2.2
    simp only [spread, List.cons_append, List.flatMap_cons, List.length_append,
      List.length_replicate] at *
    omega

end Tile

theorem getElem?_of_covers {styles : List Text} {run : StyleRun} (hr : run ∈ runsFrom 0 styles)
    {column : Nat} (hc : run.Covers column) : styles[column]? = some run.style := by
  have style := (tile_runsFrom 0 styles).getElem?_spread hr hc
  rwa [spread_runsFrom, Nat.sub_zero] at style

theorem maximalIn_of_mem {styles : List Text} {run : StyleRun} (hr : run ∈ runsFrom 0 styles) :
    run.MaximalIn styles := by
  have tile := tile_runsFrom 0 styles
  have chain := isChain_runsFrom 0 styles
  refine ⟨tile.length_pos hr, fun column hc => getElem?_of_covers hr hc, fun column next => ?_, ?_⟩
  · obtain ⟨left, right, split⟩ := List.append_of_mem hr
    rcases List.eq_nil_or_concat left with rfl | ⟨left, before, rfl⟩
    · rw [split] at tile
      have first : run.start = 0 := tile.1
      omega
    · have hbefore : before ∈ runsFrom 0 styles := by simp [split]
      have pos := tile.length_pos hbefore
      rw [split, List.concat_eq_append, List.append_assoc] at tile chain
      have adjacent := tile.start_eq
      obtain ⟨-, differs, -⟩ := List.isChain_append_cons_cons.1 chain
      rw [getElem?_of_covers hbefore ⟨by omega, by omega⟩]
      exact fun same => differs (Option.some.inj same)
  · obtain ⟨left, right, split⟩ := List.append_of_mem hr
    cases right with
    | nil =>
      have whole := spread_runsFrom 0 styles
      rw [split] at tile whole
      have last := tile.end_eq
      rw [whole, Nat.zero_add] at last
      simp [last]
    | cons after right =>
      have hafter : after ∈ runsFrom 0 styles := by simp [split]
      have pos := tile.length_pos hafter
      rw [split] at tile chain
      have adjacent := tile.start_eq
      obtain ⟨-, differs, -⟩ := List.isChain_append_cons_cons.1 chain
      rw [getElem?_of_covers hafter ⟨by omega, by omega⟩]
      exact fun same => differs (Option.some.inj same).symm

namespace StyleRun.MaximalIn
variable {styles : List Text} {run run' : StyleRun}

theorem start_le (h : run.MaximalIn styles) (h' : run'.MaximalIn styles) {column : Nat}
    (hc : run.Covers column) (hc' : run'.Covers column) (same : run.style = run'.style) :
    run.start ≤ run'.start := by
  by_contra later
  obtain ⟨k, hk⟩ := Nat.exists_eq_succ_of_ne_zero (Nat.ne_of_gt (Nat.zero_lt_of_lt (not_le.1 later)))
  obtain ⟨low, -⟩ := hc
  obtain ⟨-, high⟩ := hc'
  have inside : run'.Covers k := ⟨by omega, by omega⟩
  exact h.before_ne k hk.symm (same ▸ h'.style_eq k inside)

theorem end_le (h : run.MaximalIn styles) (h' : run'.MaximalIn styles) {column : Nat}
    (hc : run.Covers column) (hc' : run'.Covers column) (same : run.style = run'.style) :
    run'.start + run'.length ≤ run.start + run.length := by
  by_contra later
  obtain ⟨-, high⟩ := hc
  obtain ⟨low, -⟩ := hc'
  have inside : run'.Covers (run.start + run.length) := ⟨by omega, by omega⟩
  exact h.after_ne (same ▸ h'.style_eq _ inside)

theorem unique (h : run.MaximalIn styles) (h' : run'.MaximalIn styles) {column : Nat}
    (hc : run.Covers column) (hc' : run'.Covers column) : run = run' := by
  have style : run.style = run'.style :=
    Option.some.inj ((h.style_eq column hc).symm.trans (h'.style_eq column hc'))
  have start := Nat.le_antisymm (h.start_le h' hc hc' style) (h'.start_le h hc' hc style.symm)
  have ends := Nat.le_antisymm (h.end_le h' hc hc' style) (h'.end_le h hc' hc style.symm)
  have length : run.length = run'.length := by omega
  cases run
  cases run'
  congr

end StyleRun.MaximalIn

theorem mem_runsFrom_iff {styles : List Text} {run : StyleRun} :
    run ∈ runsFrom 0 styles ↔ run.MaximalIn styles := by
  refine ⟨maximalIn_of_mem, fun h => ?_⟩
  -- The run that covers the first column of a maximal run is that run.
  have first : run.Covers run.start := ⟨Nat.le_refl _, Nat.lt_add_of_pos_right h.length_pos⟩
  have inside := (List.getElem?_eq_some_iff.1 (h.style_eq _ first)).1
  obtain ⟨run', hr', hc'⟩ := (tile_runsFrom 0 styles).exists_covers (Nat.zero_le run.start) (by
    rwa [spread_runsFrom, Nat.zero_add])
  rwa [h.unique (maximalIn_of_mem hr') first hc']

/-! ## Marked columns -/

theorem zipIdx_replicate (start count : Nat) (style : Text) :
    (List.replicate count style).zipIdx start =
      (List.range' start count).map fun column => (style, column) := by
  induction count generalizing start with
  | zero => rfl
  | succ count ih => rw [List.replicate_succ, List.zipIdx_cons, ih, List.range'_succ, List.map_cons]

theorem zipIdx_spread {start : Nat} {runs : List StyleRun} (h : Tile start runs) :
    (spread runs).zipIdx start = runs.flatMap fun run =>
      (List.range' run.start run.length).map fun column => (run.style, column) := by
  induction runs generalizing start with
  | nil => rfl
  | cons run runs ih =>
    obtain ⟨rfl, -, rest⟩ := h
    have tail := ih rest
    rw [spread] at tail ⊢
    rw [List.flatMap_cons, List.flatMap_cons, List.zipIdx_append, List.length_replicate, tail,
      zipIdx_replicate]

theorem filter_range' (start count width : Nat) :
    (List.range' start count).filter (width ≤ ·) =
      List.range' (max start width) (start + count - max start width) := by
  induction count generalizing start with
  | zero =>
    have none : start + 0 - max start width = 0 := by omega
    rw [none]
    rfl
  | succ count ih =>
    rw [List.range'_succ, List.filter_cons, ih]
    by_cases here : width ≤ start
    · have first : max start width = start := by omega
      have second : max (start + 1) width = start + 1 := by omega
      have left : start + (count + 1) - start = start + 1 + count - (start + 1) + 1 := by omega
      rw [if_pos (decide_eq_true here), first, second, left, List.range'_succ]
    · have first : max start width = width := by omega
      have second : max (start + 1) width = width := by omega
      have left : start + (count + 1) - width = start + 1 + count - width := by omega
      rw [if_neg (by simpa using here), first, second, left]

section
variable {opening closing : Text} {run : StyleRun} (free : '^' ∉ opening) (pos : 0 < run.length)
  (left : opening.length < run.start + run.length)
include free pos left

theorem caretRun_shownLine (closing : Text) : ∃ before,
    before.length = run.firstLeft opening.length ∧
      CaretRun (run.shownLine opening closing) before
        (run.start + run.length - run.firstLeft opening.length) (' ' :: (run.style ++ closing)) := by
  have first : opening.length ≤ run.firstLeft opening.length := Nat.le_max_right ..
  have last : run.firstLeft opening.length < run.start + run.length := by
    simp only [StyleRun.firstLeft]
    omega
  refine ⟨opening ++ Text.spaces (run.firstLeft opening.length - opening.length), ?_,
    by simp [StyleRun.shownLine], by omega, by simp [Text.spaces, free], by simp⟩
  rw [List.length_append, Text.spaces, List.length_replicate]
  omega

theorem marked_shownLine :
    marked closing (run.shownLine opening closing) =
      (List.range' (run.firstLeft opening.length)
        (run.start + run.length - run.firstLeft opening.length)).map fun column =>
          (run.style, column) := by
  obtain ⟨before, column, carets⟩ := caretRun_shownLine free pos left closing
  have style : (Text.after? [' '] (' ' :: (run.style ++ closing))).bind (Text.before? closing) =
      some run.style := by
    have after : Text.after? [' '] (' ' :: (run.style ++ closing)) = some (run.style ++ closing) := rfl
    rw [after, Option.bind_some, Text.before?_eq_some_iff.2 rfl]
  simp only [marked, carets.span_before, CaretRun.span_caret carets.head?_after, style, column,
    List.length_replicate, Option.getD_some]

theorem mem_marked_of_caret (hclosing : '^' ∉ closing) (hstyle : '^' ∉ run.style) {column : Nat}
    (hc : (run.shownLine opening closing)[column]? = some '^') :
    (run.style, column) ∈ marked closing (run.shownLine opening closing) := by
  obtain ⟨before, first, carets⟩ := caretRun_shownLine free pos left closing
  have inside := carets.column_of_caret (by simp [hclosing, hstyle]) hc
  rw [first] at inside
  rw [marked_shownLine free pos left]
  exact List.mem_map.2 ⟨column, List.mem_range'_1.2 inside, rfl⟩

end

theorem filter_columns (width : Nat) (run : StyleRun) :
    ((List.range' run.start run.length).map fun column => (run.style, column)).filter
        (fun c => width ≤ c.2 ∧ c.1.any (· != ' ')) =
      if run.Shown width then
        (List.range' (run.firstLeft width) (run.start + run.length - run.firstLeft width)).map
          fun column => (run.style, column)
      else [] := by
  have columns : (List.range' run.start run.length).filter (width ≤ ·) =
      List.range' (run.firstLeft width) (run.start + run.length - run.firstLeft width) :=
    filter_range' ..
  rw [List.filter_map, ← columns]
  split
  · next shown =>
    congr 2
    funext column
    simp only [Function.comp_apply, shown.2, and_true]
  · next hidden =>
    rw [List.map_eq_nil_iff, List.filter_eq_nil_iff]
    rintro column hcolumn left
    have inside := List.mem_range'_1.1 hcolumn
    obtain ⟨low, styled⟩ := of_decide_eq_true left
    exact hidden ⟨Nat.lt_of_le_of_lt low inside.2, styled⟩

theorem flatMap_filter {α β : Type} (p : α → Bool) (f : α → List β) (l : List α) :
    (l.filter p).flatMap f = l.flatMap fun a => if p a then f a else [] := by
  induction l with
  | nil => rfl
  | cons a l ih => by_cases h : p a <;> simp [h, ih]

section
variable {styles : List Text} {run : StyleRun}

theorem not_mem_style_of_mem {c : Char} (free : ∀ style ∈ styles, c ∉ style)
    (hr : run ∈ runsFrom 0 styles) : c ∉ run.style := by
  have pos := (tile_runsFrom 0 styles).length_pos hr
  exact free _ (List.mem_of_getElem? (getElem?_of_covers hr ⟨Nat.le_refl _, by omega⟩))

theorem flatMap_marked {opening : Text} (closing : Text) (plain : '^' ∉ opening) :
    (((runsFrom 0 styles).filter (·.Shown opening.length)).map (·.shownLine opening closing)).flatMap
        (marked closing) =
      styles.zipIdx.filter fun c => opening.length ≤ c.2 ∧ c.1.any (· != ' ') := by
  have tile := tile_runsFrom 0 styles
  have columns := zipIdx_spread tile
  rw [spread_runsFrom] at columns
  rw [columns, List.filter_flatMap, List.flatMap_map, flatMap_filter]
  refine List.flatMap_congr fun run hr => ?_
  rw [filter_columns]
  by_cases shown : run.Shown opening.length
  · rw [if_pos (decide_eq_true shown), if_pos shown,
      marked_shownLine plain (tile.length_pos hr) shown.1]
  · rw [if_neg (by simpa using shown), if_neg shown]

theorem not_mem_shownLine {c : Char} {opening closing : Text} (hopening : c ∉ opening)
    (hclosing : c ∉ closing) (hstyle : c ∉ run.style) (space : c ≠ ' ') (caret : c ≠ '^') :
    c ∉ run.shownLine opening closing := by
  simp [StyleRun.shownLine, Text.spaces, hopening, hclosing, hstyle, space, caret]

end

/-- The lines for a row of styles are those of its shown maximal runs, in order. Together their first
carets stand below the columns with a style that the opening leaves, once each and for that style, and
there are no other carets but in the opening and the closing. -/
theorem assertionText_runs {styles : List Text} (opening closing : Text)
    (free : ∀ style ∈ styles, '^' ∉ style) :
    ∃ runs : List StyleRun,
      (∀ run, run ∈ runs ↔ run.MaximalIn styles ∧ run.Shown opening.length) ∧
      (runs.Pairwise fun a b => a.start + a.length ≤ b.start) ∧
      assertionText styles opening closing =
        ['\n'].intercalate (runs.map (·.shownLine opening closing)) ∧
      ('^' ∉ opening → (runs.map (·.shownLine opening closing)).flatMap (marked closing) =
        styles.zipIdx.filter fun c => opening.length ≤ c.2 ∧ c.1.any (· != ' ')) ∧
      ('^' ∉ opening → '^' ∉ closing → ∀ run ∈ runs, ∀ column : Nat,
        (run.shownLine opening closing)[column]? = some '^' →
          (run.style, column) ∈ marked closing (run.shownLine opening closing)) ∧
      ('\n' ∉ opening → '\n' ∉ closing → (∀ style ∈ styles, '\n' ∉ style) →
        Text.fields (· == '\n') (assertionText styles opening closing) =
          runs.map (·.shownLine opening closing)) := by
  have lines := assertionLines_shown opening closing fun run hr => not_mem_style_of_mem free hr
  refine ⟨(runsFrom 0 styles).filter (·.Shown opening.length), fun run => ?_,
    (tile_runsFrom 0 styles).pairwise.filter _, by rw [assertionText, lines],
    flatMap_marked closing, fun hopening hclosing run hr column hc => ?_,
    fun hopening hclosing unbroken => ?_⟩
  · rw [List.mem_filter, mem_runsFrom_iff, decide_eq_true_eq]
  · obtain ⟨hr, shown⟩ := List.mem_filter.1 hr
    exact mem_marked_of_caret hopening ((tile_runsFrom 0 styles).length_pos hr)
      (of_decide_eq_true shown).1 hclosing (not_mem_style_of_mem free hr) hc
  · rw [assertionText, lines]
    refine Text.fields_intercalate fun line hline => ?_
    obtain ⟨run, hr, rfl⟩ := List.mem_map.1 hline
    have whole := not_mem_style_of_mem unbroken (List.mem_filter.1 hr).1
    exact ⟨by simp [StyleRun.shownLine],
      not_mem_shownLine hopening hclosing whole (by decide) (by decide)⟩

end Caret

namespace Sample

def rowOfStyles : List Text := [['x'], ['x'], ['x'], [' '], ['y'], [], ['y']]

end Sample

theorem Caret.assertionText_runs_sample :
    (∀ style ∈ Sample.rowOfStyles, '^' ∉ style) ∧ ∃ runs : List StyleRun,
      ['\n'].intercalate (runs.map (·.shownLine "# ".toList [])) =
        "# ^ x\n#   ^ y\n#     ^ y".toList ∧
      (runs.map (·.shownLine "# ".toList [])).flatMap (marked []) = [(['x'], 2), (['y'], 4), (['y'], 6)] := by
  have free : ∀ style ∈ Sample.rowOfStyles, '^' ∉ style := by decide
  obtain ⟨runs, -, -, text, columns, -⟩ := assertionText_runs "# ".toList [] free
  have written : assertionText Sample.rowOfStyles "# ".toList [] =
      "# ^ x\n#   ^ y\n#     ^ y".toList := by decide +kernel
  exact ⟨free, runs, text ▸ written, (columns (by decide)).trans (by decide +kernel)⟩

end SchemeCheck
