import Mathlib.Data.List.Forall2
import SchemeCheck.Buffer.Basic
set_option autoImplicit false

namespace SchemeCheck

namespace ScopeStack

def performAll? : ScopeStack → List ScopeOp → Option ScopeStack
  | stack, [] => some stack
  | stack, op :: ops => (stack.perform? op).bind (performAll? · ops)

theorem performAll?_append (stack : ScopeStack) (ops more : List ScopeOp) :
    stack.performAll? (ops ++ more) = (stack.performAll? ops).bind (·.performAll? more) := by
  induction ops generalizing stack with
  | nil => rfl
  | cons op ops ih =>
    rw [List.cons_append, performAll?, performAll?, Option.bind_assoc]
    exact congrArg _ (funext fun next => ih next)

end ScopeStack

namespace LineOps

def Fit (line : Text) (ops : LineOps) : Prop :=
  ops.Pairwise (fun a b => a.1 ≤ b.1) ∧ ∀ a ∈ ops, a.1 ≤ Text.byteLength line

structure FitFrom (column length : Nat) (ops : LineOps) : Prop where
  inside : column ≤ length
  ordered : ops.Pairwise fun a b => a.1 ≤ b.1
  low : ∀ a ∈ ops, column ≤ a.1
  high : ∀ a ∈ ops, a.1 ≤ length

theorem Fit.fitFrom {line : Text} {ops : LineOps} (h : Fit line ops) :
    FitFrom 0 (Text.byteLength line) ops where
  inside := Nat.zero_le _
  ordered := h.1
  low _ _ := Nat.zero_le _
  high := h.2

theorem FitFrom.tail {column length offset : Nat} {op : ScopeOp} {ops : LineOps}
    (h : FitFrom column length ((offset, op) :: ops)) :
    column ≤ offset ∧ FitFrom offset length ops := by
  obtain ⟨later, ordered⟩ := List.pairwise_cons.1 h.ordered
  exact ⟨h.low _ List.mem_cons_self, {
    inside := h.high _ List.mem_cons_self
    ordered
    low := later
    high := fun a ha => h.high a (List.mem_cons_of_mem _ ha) }⟩

/-- The operations of the lines before `row` and of that line up to an offset. -/
def through (row offset : Nat) (lines : List LineOps) : List ScopeOp :=
  ((lines.take row).flatten ++ (lines[row]?.getD []).filter (·.1 ≤ offset)).map (·.2)

end LineOps

namespace ScopeSpan

/-- Spans without gaps from `first` up to `last`, none of them empty. -/
def Tiles : (first last : Nat) → List ScopeSpan → Prop
  | first, last, [] => first = last
  | first, last, span :: spans => span.first = first ∧ first < span.last ∧ Tiles span.last last spans

theorem Tiles.append {a b c : Nat} {spans rest : List ScopeSpan} (h : Tiles a b spans)
    (h' : Tiles b c rest) : Tiles a c (spans ++ rest) := by
  induction spans generalizing a with
  | nil =>
    obtain rfl : a = b := h
    exact h'
  | cons span spans ih =>
    obtain ⟨first, nonempty, tail⟩ := h
    exact ⟨first, nonempty, ih tail⟩

theorem Tiles.le {a b : Nat} {spans : List ScopeSpan} (h : Tiles a b spans) : a ≤ b := by
  induction spans generalizing a with
  | nil => exact Nat.le_of_eq h
  | cons span spans ih =>
    obtain ⟨-, nonempty, tail⟩ := h
    have rest := ih tail
    omega

theorem Tiles.last_le {a b : Nat} {spans : List ScopeSpan} (h : Tiles a b spans) {span : ScopeSpan}
    (hs : span ∈ spans) : span.last ≤ b := by
  induction spans generalizing a with
  | nil => cases hs
  | cons head spans ih =>
    obtain ⟨-, -, tail⟩ := h
    rcases List.mem_cons.1 hs with rfl | hs
    · exact tail.le
    · exact ih tail hs

theorem Tiles.find?_eq_none {a b point : Nat} {spans : List ScopeSpan} (h : Tiles a b spans)
    (past : b ≤ point) : spans.find? (point < ·.last) = none := by
  rw [List.find?_eq_none]
  intro span hs
  have last := h.last_le hs
  simp only [decide_eq_true_eq]
  omega

theorem tiles_single {first last : Nat} (h : first ≤ last) (path : Text) :
    Tiles first last (if first < last then [⟨first, last, path⟩] else []) := by
  split
  · next lt => exact ⟨rfl, lt, rfl⟩
  · next ge => exact Nat.le_antisymm h (Nat.le_of_not_lt ge)

theorem ofLine?_cons {base length column offset : Nat} {stack final : ScopeStack} {op : ScopeOp}
    {ops : LineOps} {spans : List ScopeSpan}
    (h : ofLine? base length column stack ((offset, op) :: ops) = some (spans, final))
    (le : column ≤ offset) :
    ∃ next later, stack.perform? op = some next ∧
      ofLine? base length offset next ops = some (later, final) ∧
      spans = (if base + column < base + offset then [⟨base + column, base + offset, stack.path⟩]
        else []) ++ later := by
  rw [ofLine?, Nat.max_eq_right le] at h
  obtain ⟨next, performed, h⟩ := Option.bind_eq_some_iff.1 h
  obtain ⟨⟨later, last⟩, hlater, h⟩ := Option.bind_eq_some_iff.1 h
  obtain ⟨rfl, rfl⟩ := Prod.mk.inj (Option.some.inj h)
  refine ⟨next, later, performed, hlater, ?_⟩
  by_cases lt : column < offset
  · rw [if_pos lt, if_pos (by omega), List.singleton_append]
  · rw [if_neg lt, if_neg (by omega), List.nil_append]

theorem tiles_ofLine? {base length column : Nat} {stack final : ScopeStack} {ops : LineOps}
    {spans : List ScopeSpan} (h : ofLine? base length column stack ops = some (spans, final))
    (fit : ops.FitFrom column length) :
    Tiles (base + column) (base + length) spans ∧
      stack.performAll? (ops.map (·.2)) = some final := by
  induction ops generalizing column stack spans with
  | nil =>
    obtain ⟨rfl, rfl⟩ := Prod.mk.inj (Option.some.inj h)
    have single := tiles_single (Nat.add_le_add_left fit.inside base) stack.path
    simp only [Nat.add_lt_add_iff_left] at single
    exact ⟨single, rfl⟩
  | cons first ops ih =>
    obtain ⟨offset, op⟩ := first
    obtain ⟨le, tail⟩ := fit.tail
    obtain ⟨next, later, performed, hlater, rfl⟩ := ofLine?_cons h le
    obtain ⟨tiles, performAll⟩ := ih hlater tail
    refine ⟨(tiles_single (Nat.add_le_add_left le base) stack.path).append tiles, ?_⟩
    rw [List.map_cons, ScopeStack.performAll?, performed, Option.bind_some, performAll]

theorem find?_ofLine? {base length column offset : Nat} {stack final : ScopeStack} {ops : LineOps}
    {spans : List ScopeSpan} (h : ofLine? base length column stack ops = some (spans, final))
    (fit : ops.FitFrom column length) (low : column ≤ offset) (high : offset < length) :
    ∃ span reached, spans.find? (base + offset < ·.last) = some span ∧
      stack.performAll? ((ops.filter (·.1 ≤ offset)).map (·.2)) = some reached ∧
      span.path = reached.path := by
  induction ops generalizing column stack spans with
  | nil =>
    obtain ⟨rfl, rfl⟩ := Prod.mk.inj (Option.some.inj h)
    rw [if_pos (by omega)]
    exact ⟨_, stack, List.find?_cons_of_pos (by simpa using high), rfl, rfl⟩
  | cons first ops ih =>
    obtain ⟨place, op⟩ := first
    obtain ⟨le, tail⟩ := fit.tail
    obtain ⟨next, later, performed, hlater, rfl⟩ := ofLine?_cons h le
    by_cases reached : place ≤ offset
    · -- The span before the operation ends too early, and the operation counts.
      obtain ⟨span, last, found, performAll, path⟩ := ih hlater tail reached
      refine ⟨span, last, ?_, ?_, path⟩
      · rw [List.find?_append, (tiles_single (Nat.add_le_add_left le base) stack.path).find?_eq_none
          (by omega), Option.none_or, found]
      · rw [List.filter_cons_of_pos (by simpa using reached), List.map_cons, ScopeStack.performAll?,
          performed, Option.bind_some, performAll]
    · -- The byte is in the span before the operation, and all later operations come after it.
      have none : ((place, op) :: ops).filter (·.1 ≤ offset) = [] := by
        rw [List.filter_eq_nil_iff]
        intro a ha
        have late : place ≤ a.1 := by
          rcases List.mem_cons.1 ha with rfl | ha
          · exact Nat.le_refl _
          · exact tail.low a ha
        simp only [decide_eq_true_eq]
        omega
      rw [if_pos (by omega), none]
      refine ⟨⟨base + column, base + place, stack.path⟩, stack, ?_, rfl, rfl⟩
      rw [List.find?_append, List.find?_cons_of_pos (by simp only [decide_eq_true_eq]; omega),
        Option.some_or]

inductive Parses {σ ε : Type} (parse : σ → Text → Except ε (LineOps × σ)) :
    σ → List Text → List LineOps → Prop where
  | nil (s : σ) : Parses parse s [] []
  | cons {s next : σ} {line : Text} {ops : LineOps} {lines : List Text} {rest : List LineOps} :
      parse s line = .ok (ops, next) → Parses parse next lines rest →
      Parses parse s (line :: lines) (ops :: rest)

theorem Parses.fits {σ ε : Type} {parse : σ → Text → Except ε (LineOps × σ)} {s : σ}
    {lines : List Text} {opsOf : List LineOps} (h : Parses parse s lines opsOf)
    (all : ∀ s line ops next, parse s line = .ok (ops, next) → LineOps.Fit line ops) :
    List.Forall₂ LineOps.Fit lines opsOf := by
  induction h with
  | nil s => exact .nil
  | cons parsed _ ih => exact .cons (all _ _ _ _ parsed) ih

inductive SpansOf : (base : Nat) → ScopeStack → List Text → List LineOps → List ScopeSpan → Prop where
  | nil (base : Nat) (stack : ScopeStack) : SpansOf base stack [] [] []
  | cons {base : Nat} {stack final : ScopeStack} {line : Text} {ops : LineOps} {lines : List Text}
      {opsOf : List LineOps} {spans rest : List ScopeSpan} :
      ofLine? base (Text.byteLength line) 0 stack ops = some (spans, final) →
      SpansOf (base + Text.byteLength line) final lines opsOf rest →
      SpansOf base stack (line :: lines) (ops :: opsOf) (spans ++ rest)

theorem exists_spansOf {σ ε : Type} {parse : σ → Text → Except ε (LineOps × σ)} {s : σ} {base : Nat}
    {stack : ScopeStack} {lines : List Text} {spans : List ScopeSpan}
    (h : ofLines parse s base stack lines = .ok spans) :
    ∃ opsOf, Parses parse s lines opsOf ∧ SpansOf base stack lines opsOf spans := by
  induction lines generalizing s base stack spans with
  | nil =>
    obtain rfl := Except.ok.inj h
    exact ⟨[], .nil s, .nil base stack⟩
  | cons line lines ih =>
    rw [ofLines] at h
    split at h
    · cases h
    · next ops next parsed =>
      split at h
      · cases h
      · next spans' final hline =>
        split at h
        · cases h
        · next rest hrest =>
          obtain rfl := Except.ok.inj h
          obtain ⟨opsOf, parses, spansOf⟩ := ih hrest
          exact ⟨ops :: opsOf, .cons parsed parses, .cons hline spansOf⟩

namespace SpansOf
variable {base : Nat} {stack : ScopeStack} {lines : List Text} {opsOf : List LineOps}
  {spans : List ScopeSpan}

theorem tiles (h : SpansOf base stack lines opsOf spans) (fits : List.Forall₂ LineOps.Fit lines opsOf) :
    Tiles base (base + Text.byteLength lines.flatten) spans := by
  induction h with
  | nil base stack => rfl
  | cons hline _ ih =>
    obtain ⟨fit, fits⟩ := List.forall₂_cons.1 fits
    have first := (tiles_ofLine? hline fit.fitFrom).1
    rw [List.flatten_cons, Text.byteLength_append, ← Nat.add_assoc]
    exact first.append (ih fits)

theorem find? (h : SpansOf base stack lines opsOf spans) (fits : List.Forall₂ LineOps.Fit lines opsOf)
    {row offset : Nat} {line : Text} (hline : lines[row]? = some line)
    (inside : offset < Text.byteLength line) :
    ∃ span reached,
      spans.find? (base + Text.byteLength (lines.take row).flatten + offset < ·.last) = some span ∧
      stack.performAll? (LineOps.through row offset opsOf) = some reached ∧
      span.path = reached.path := by
  induction h generalizing row with
  | nil base stack => simp at hline
  | @cons base stack final first ops lines opsOf spans rest hfirst _ ih =>
    obtain ⟨fit, fits⟩ := List.forall₂_cons.1 fits
    cases row with
    | zero =>
      obtain rfl := Option.some.inj hline
      obtain ⟨span, reached, found, performed, path⟩ :=
        find?_ofLine? hfirst fit.fitFrom (Nat.zero_le _) inside
      refine ⟨span, reached, ?_, ?_, path⟩
      · change (spans ++ rest).find? (base + offset < ·.last) = some span
        rw [List.find?_append, found, Option.some_or]
      · simpa [LineOps.through] using performed
    | succ row =>
      obtain ⟨tiles, performed⟩ := tiles_ofLine? hfirst fit.fitFrom
      obtain ⟨span, reached, found, later, path⟩ := ih fits hline
      refine ⟨span, reached, ?_, ?_, path⟩
      · rw [List.take_succ_cons, List.flatten_cons, Text.byteLength_append, ← Nat.add_assoc,
          List.find?_append, tiles.find?_eq_none (by omega), Option.none_or, found]
      · have split : LineOps.through (row + 1) offset (ops :: opsOf) =
            ops.map (·.2) ++ LineOps.through row offset opsOf := by
          simp [LineOps.through]
        rw [split, ScopeStack.performAll?_append, performed, Option.bind_some, later]

end SpansOf

end ScopeSpan
end SchemeCheck
