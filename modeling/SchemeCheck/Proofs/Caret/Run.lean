import Mathlib.Data.List.Basic
import SchemeCheck.Caret.Run
import SchemeCheck.Proofs.Fixture.AssertionLine
set_option autoImplicit false

namespace SchemeCheck.Caret

def Tile : (start : Nat) → List StyleRun → Prop
  | _, [] => True
  | start, run :: runs => run.start = start ∧ 0 < run.length ∧ Tile (start + run.length) runs

def spread (runs : List StyleRun) : List Text :=
  runs.flatMap fun run => List.replicate run.length run.style

def StyleRun.Covers (run : StyleRun) (column : Nat) : Prop :=
  run.start ≤ column ∧ column < run.start + run.length

theorem spread_runsFrom (start : Nat) (styles : List Text) :
    spread (runsFrom start styles) = styles := by
  induction styles generalizing start with
  | nil => rfl
  | cons style styles ih =>
    have tail := ih (start + 1)
    rw [runsFrom]
    cases hr : runsFrom (start + 1) styles with
    | nil =>
      rw [hr] at tail
      simp [spread, ← tail]
    | cons run runs =>
      rw [hr] at tail
      by_cases same : run.style = style
      · simp only [same, if_true]
        rw [← tail]
        simp [spread, same, List.replicate_succ]
      · simp only [same, if_false]
        rw [← tail]
        simp [spread]

theorem tile_runsFrom (start : Nat) (styles : List Text) : Tile start (runsFrom start styles) := by
  induction styles generalizing start with
  | nil => trivial
  | cons style styles ih =>
    have tail := ih (start + 1)
    rw [runsFrom]
    cases hr : runsFrom (start + 1) styles with
    | nil => exact ⟨rfl, Nat.one_pos, trivial⟩
    | cons run runs =>
      rw [hr] at tail
      by_cases same : run.style = style
      · obtain ⟨-, -, rest⟩ := tail
        simp only [same, if_true]
        refine ⟨rfl, Nat.succ_pos _, ?_⟩
        have shift : start + (run.length + 1) = start + 1 + run.length := by omega
        rwa [shift]
      · simp only [same, if_false]
        exact ⟨rfl, Nat.one_pos, tail⟩

namespace Tile

theorem length_pos {start : Nat} {runs : List StyleRun} (h : Tile start runs) {run : StyleRun}
    (hr : run ∈ runs) : 0 < run.length := by
  induction runs generalizing start with
  | nil => simp at hr
  | cons first runs ih =>
    rcases List.mem_cons.1 hr with rfl | hr
    · exact h.2.1
    · exact ih h.2.2 hr

theorem le_start {start : Nat} {runs : List StyleRun} (h : Tile start runs) {run : StyleRun}
    (hr : run ∈ runs) : start ≤ run.start := by
  induction runs generalizing start with
  | nil => simp at hr
  | cons first runs ih =>
    obtain ⟨hstart, -, rest⟩ := h
    rcases List.mem_cons.1 hr with rfl | hr
    · omega
    · have := ih rest hr
      omega

theorem pairwise {start : Nat} {runs : List StyleRun} (h : Tile start runs) :
    runs.Pairwise fun a b => a.start + a.length ≤ b.start := by
  induction runs generalizing start with
  | nil => exact List.Pairwise.nil
  | cons first runs ih =>
    obtain ⟨hstart, -, rest⟩ := h
    refine List.pairwise_cons.2 ⟨fun b hb => ?_, ih rest⟩
    have := rest.le_start hb
    omega

theorem getElem?_spread {start : Nat} {runs : List StyleRun} (h : Tile start runs) {run : StyleRun}
    (hr : run ∈ runs) {column : Nat} (hc : run.Covers column) :
    (spread runs)[column - start]? = some run.style := by
  induction runs generalizing start with
  | nil => simp at hr
  | cons first runs ih =>
    obtain ⟨hstart, -, rest⟩ := h
    obtain ⟨low, high⟩ := hc
    rw [spread, List.flatMap_cons]
    rcases List.mem_cons.1 hr with rfl | hr
    · rw [List.getElem?_append_left (by rw [List.length_replicate]; omega),
        List.getElem?_replicate_of_lt (by omega)]
    · have := rest.le_start hr
      have tail := ih rest hr
      rw [List.getElem?_append_right (by rw [List.length_replicate]; omega), List.length_replicate]
      rw [← tail, spread]
      congr 1
      omega

theorem exists_covers {start : Nat} {runs : List StyleRun} (h : Tile start runs) {column : Nat}
    (low : start ≤ column) (high : column < start + (spread runs).length) :
    ∃ run ∈ runs, run.Covers column := by
  induction runs generalizing start with
  | nil => simp [spread] at high; omega
  | cons first runs ih =>
    obtain ⟨hstart, -, rest⟩ := h
    by_cases here : column < start + first.length
    · exact ⟨first, List.mem_cons_self, by omega, by omega⟩
    · have total : (spread (first :: runs)).length = first.length + (spread runs).length := by
        simp [spread]
      obtain ⟨run, hr, hc⟩ := ih rest (by omega) (by omega)
      exact ⟨run, List.mem_cons_of_mem _ hr, hc⟩

end Tile

namespace StyleRun

def firstLeft (run : StyleRun) (width : Nat) : Nat := max run.start width

/-- The run has a style and reaches beyond an opening of this length. -/
def Shown (width : Nat) (run : StyleRun) : Prop :=
  width < run.start + run.length ∧ run.style.any (· != ' ')

instance (width : Nat) (run : StyleRun) : Decidable (run.Shown width) :=
  inferInstanceAs (Decidable (_ ∧ _))

def shownLine (opening closing : Text) (run : StyleRun) : Text :=
  opening ++ (Text.spaces (run.firstLeft opening.length - opening.length) ++
    (List.replicate (run.start + run.length - run.firstLeft opening.length) '^' ++
      ' ' :: run.style)) ++ closing

theorem drop_line (run : StyleRun) (width : Nat) :
    run.line.drop width =
      Text.spaces (run.firstLeft width - width) ++
        (List.replicate (run.start + run.length - run.firstLeft width) '^' ++
          (' ' :: run.style).drop (width - (run.start + run.length))) := by
  have gap : run.start - width = run.firstLeft width - width := by simp only [firstLeft]; omega
  have carets : run.length - (width - run.start) =
      run.start + run.length - run.firstLeft width := by simp only [firstLeft]; omega
  have beyond : width - (run.start + run.length) = width - run.start - run.length := by omega
  simp only [line, Text.spaces, List.append_assoc, List.drop_append, List.drop_replicate,
    List.length_replicate, gap, carets, beyond]

theorem head?_dropWhile_spaces (n k : Nat) (t : Text) :
    ((Text.spaces n ++ (List.replicate (k + 1) '^' ++ t)).dropWhile (· == ' ')).head? = some '^' := by
  rw [Text.spaces, List.dropWhile_append_of_pos fun c hc => by simp [List.eq_of_mem_replicate hc],
    List.replicate_succ]
  simp

theorem any_spaces_carets (n k : Nat) (t : Text) :
    (Text.spaces n ++ (List.replicate k '^' ++ t)).any (fun c => c != ' ' && c != '^') =
      t.any (fun c => c != ' ' && c != '^') := by
  have spaces : (Text.spaces n).any (fun c => c != ' ' && c != '^') = false := by
    simp only [Text.spaces, List.any_eq_false]
    exact fun c hc => by simp [List.eq_of_mem_replicate hc]
  have carets : (List.replicate k '^').any (fun c => c != ' ' && c != '^') = false := by
    simp only [List.any_eq_false]
    exact fun c hc => by simp [List.eq_of_mem_replicate hc]
  rw [List.any_append, List.any_append, spaces, carets, Bool.false_or, Bool.false_or]

theorem any_style {style : Text} (free : '^' ∉ style) :
    (' ' :: style).any (fun c => c != ' ' && c != '^') = style.any (· != ' ') := by
  rw [List.any_cons, bne_self_eq_false, Bool.false_and, Bool.false_or, Bool.eq_iff_iff]
  simp only [List.any_eq_true, Bool.and_eq_true]
  exact exists_congr fun c => and_congr_right fun hc => and_iff_left (Text.bne_of_not_mem free c hc)

theorem comment?_eq {opening closing : Text} {run : StyleRun} (pos : 0 < run.length)
    (free : '^' ∉ run.style) :
    run.comment? opening closing =
      if run.Shown opening.length then some (run.shownLine opening closing) else none := by
  rw [comment?, drop_line]
  by_cases left : opening.length < run.start + run.length
  · obtain ⟨k, hk⟩ : ∃ k, run.start + run.length - run.firstLeft opening.length = k + 1 :=
      Nat.exists_eq_succ_of_ne_zero (by simp only [firstLeft]; omega)
    have whole : opening.length - (run.start + run.length) = 0 := by omega
    rw [whole, hk, List.drop_zero, head?_dropWhile_spaces, any_spaces_carets, any_style free]
    by_cases styled : run.style.any (· != ' ')
    · have shown : run.Shown opening.length := ⟨left, styled⟩
      rw [if_pos ⟨rfl, styled⟩, if_pos shown, shownLine, hk]
    · have hidden : ¬ run.Shown opening.length := fun shown => styled shown.2
      rw [if_neg fun h => styled h.2, if_neg hidden]
  · have hidden : ¬ run.Shown opening.length := fun shown => left shown.1
    have noSpace : run.firstLeft opening.length - opening.length = 0 := by
      simp only [firstLeft]; omega
    have noCaret : run.start + run.length - run.firstLeft opening.length = 0 := by
      simp only [firstLeft]; omega
    rw [noSpace, noCaret, if_neg hidden, if_neg]
    rintro ⟨head, -⟩
    have caret := (List.dropWhile_sublist _).mem (List.mem_of_mem_head? head)
    simp only [Text.spaces, List.replicate_zero, List.nil_append] at caret
    have := List.mem_of_mem_drop caret
    simp [free] at this

end StyleRun

theorem assertionLines_shown {styles : List Text} (opening closing : Text)
    (free : ∀ run ∈ runsFrom 0 styles, '^' ∉ run.style) :
    assertionLines styles opening closing =
      ((runsFrom 0 styles).filter (·.Shown opening.length)).map (·.shownLine opening closing) := by
  rw [assertionLines, ← List.filterMap_eq_map, List.filterMap_filter]
  refine List.filterMap_congr fun run hr => ?_
  rw [StyleRun.comment?_eq ((tile_runsFrom 0 styles).length_pos hr) (free run hr)]
  by_cases shown : run.Shown opening.length
  · rw [if_pos shown, decide_eq_true shown]
    rfl
  · rw [if_neg shown, decide_eq_false shown]
    rfl

end SchemeCheck.Caret
