import Mathlib.Data.List.Chain
import Mathlib.Data.List.Pairwise
import SchemeCheck.Proofs.List
import SchemeCheck.Proofs.Text.Cut
import SchemeCheck.Selector
set_option autoImplicit false

namespace SchemeCheck.Selector

def separates (c : Char) : Bool := c == ',' || c == '|'

/-- Some alternative is this scope and, but for blanks, nothing else. -/
def Names (selector scope : Text) : Prop :=
  ∃ part ∈ Text.split separates selector, Text.trim part = scope

/-- The same with commas, or the ends of the selector, on both sides of the alternative. -/
def NamesApart (selector scope : Text) : Prop :=
  ∃ before part after, selector = before ++ (part ++ after) ∧ (∀ c ∈ part, separates c = false) ∧
    (∀ c ∈ before.getLast?, c = ',') ∧ (∀ c ∈ after.head?, c = ',') ∧ Text.trim part = scope

theorem NamesApart.names {selector scope : Text} (h : NamesApart selector scope) :
    Names selector scope := by
  obtain ⟨before, part, after, split, free, start, stop, rfl⟩ := h
  have comma : ∀ c, c = ',' → separates c = true := fun c hc => hc ▸ rfl
  exact ⟨part, Text.mem_split_iff.2 ⟨before, after, split, free, fun c hc => comma c (start c hc),
    fun c hc => comma c (stop c hc)⟩, rfl⟩

theorem namesApart_iff {selector scope : Text} (h : '|' ∉ scope) :
    NamesApart selector scope ↔ ∃ part ∈ Text.split (· == ',') selector, Text.trim part = scope := by
  simp only [Text.mem_split_iff, beq_iff_eq, beq_eq_false_iff_ne]
  constructor
  · rintro ⟨before, part, after, split, free, start, stop, same⟩
    refine ⟨part, ⟨before, after, split, fun c hc comma => ?_, start, stop⟩, same⟩
    exact absurd (free c hc) (by simp [separates, comma])
  · rintro ⟨part, ⟨before, after, split, free, start, stop⟩, same⟩
    obtain ⟨indent, gap, hpart, blanks, blanks'⟩ := Text.exists_trim_append part
    have noBar : '|' ∉ part := by
      rw [hpart, List.mem_append, List.mem_append, same]
      rintro (bar | bar | bar)
      · exact absurd (blanks _ bar) (by decide)
      · exact h bar
      · exact absurd (blanks' _ bar) (by decide)
    refine ⟨before, part, after, split, fun c hc => ?_, start, stop, same⟩
    have notBar : c ≠ '|' := fun bar => noBar (bar ▸ hc)
    simp [separates, free c hc, notBar]

structure IsScopeName (scope : Text) : Prop where
  ne_nil : scope ≠ []
  noBlank : ∀ c ∈ scope, isBlank c = false
  notMinus : scope.head? ≠ some '-'
  isValid : Scope.isValid (Scope.ofText scope) = true

theorem splitAround_of_isChain {t : Text} (h : t.IsChain fun a b => a = ' ' → b ≠ '-') :
    Text.splitAround ' ' ['-'] t = [t] := by
  induction t with
  | nil => rw [Text.splitAround]
  | cons c t ih =>
    have rest := ih h.tail
    have none : Text.after? [' ', '-'] (c :: t) = none := by
      cases t with
      | nil => by_cases space : ' ' = c <;> simp [Text.after?, space]
      | cons d t =>
        have apart := (List.isChain_cons_cons.1 h).1
        by_cases space : ' ' = c
        · simp [Text.after?, (apart space.symm).symm]
        · simp [Text.after?, space]
    rw [Text.splitAround]
    split
    · next hrest => simp [none] at hrest
    · rw [rest]

namespace IsScopeName
variable {scope : Text}

theorem splitAround_eq (h : IsScopeName scope) {indent gap : Text} (start : ∀ c ∈ indent, isBlank c)
    (stop : ∀ c ∈ gap, isBlank c) :
    Text.splitAround ' ' ['-'] (indent ++ (scope ++ gap)) = [indent ++ (scope ++ gap)] := by
  obtain ⟨ne, noBlank, notMinus, -⟩ := h
  have blank : ∀ c, isBlank c → c ≠ '-' := fun c hc minus => absurd (minus ▸ hc) (by decide)
  have inScope : ∀ c ∈ scope, c ≠ ' ' := fun c hc space => absurd (noBlank c hc) (by simp [space, isBlank])
  have run : ∀ blanks : Text, (∀ c ∈ blanks, isBlank c) → blanks.IsChain fun a b => a = ' ' → b ≠ '-' := by
    intro blanks all
    refine (List.pairwise_of_forall_mem_list ?_).isChain
    exact fun _ _ b hb _ => blank b (all b hb)
  have word : scope.IsChain fun a b => a = ' ' → b ≠ '-' :=
    (List.pairwise_of_forall_mem_list fun a ha _ _ space => absurd space (inScope a ha)).isChain
  refine splitAround_of_isChain (List.isChain_append.2 ⟨run indent start, List.isChain_append.2
    ⟨word, run gap stop, fun a _ b hb _ => blank b (stop b (List.mem_of_mem_head? hb))⟩, ?_⟩)
  intro a _ b hb _ minus
  rw [List.head?_append_of_ne_nil _ ne] at hb
  exact notMinus (minus ▸ hb)

theorem words_eq (h : IsScopeName scope) {indent gap : Text} (start : ∀ c ∈ indent, isBlank c)
    (stop : ∀ c ∈ gap, isBlank c) : Text.words (indent ++ (scope ++ gap)) = [scope] :=
  Text.fields_single h.ne_nil start h.noBlank stop

theorem path?_eq (h : IsScopeName scope) {indent gap : Text} (start : ∀ c ∈ indent, isBlank c)
    (stop : ∀ c ∈ gap, isBlank c) :
    ScopePath.ofText? (indent ++ (scope ++ gap)) = some [Scope.ofText scope] := by
  have valid : Scope.ofText? scope = some (Scope.ofText scope) := if_pos h.isValid
  rw [ScopePath.ofText?, h.words_eq start stop, List.mapM_cons, valid]
  rfl

theorem alternative?_eq (h : IsScopeName scope) {part : Text} (hpart : Text.trim part = scope) :
    SelectorAlternative.ofText? part = some ⟨[Scope.ofText scope], []⟩ := by
  obtain ⟨indent, gap, split, start, stop⟩ := Text.exists_trim_append part
  rw [hpart] at split
  rw [split, SelectorAlternative.ofText?, h.splitAround_eq start stop]
  dsimp only
  rw [h.path?_eq start stop]
  rfl

theorem path?_self (h : IsScopeName scope) : ScopePath.ofText? scope = some [Scope.ofText scope] := by
  simpa using @path?_eq scope h [] [] (by simp) (by simp)

theorem weight?_pos (h : IsScopeName scope) :
    ∃ weight, SelectorAlternative.weight? ⟨[Scope.ofText scope], []⟩ [Scope.ofText scope] = some weight ∧
      0 < weight := by
  have counted : ∀ atoms ≤ Scope.maxAtoms, 0 < atoms →
      0 < Binary64.roundNat (0 + atoms <<< (3 * 0)) := by decide +kernel
  have atoms : 0 < (Scope.ofText scope).length := List.length_pos_iff.2 (Text.split_ne_nil _ _)
  refine ⟨_, ?_, counted _ (of_decide_eq_true h.isValid) atoms⟩
  simp [SelectorAlternative.weight?, ScopePath.weight?, ScopePath.weightFrom?]

end IsScopeName

theorem weight_le {s : Selector} {a : SelectorAlternative} {path : ScopePath} {weight : Nat} (h : a ∈ s)
    (hw : a.weight? path = some weight) : weight ≤ s.weight path :=
  List.le_foldl_max (.inr (List.mem_filterMap.2 ⟨a, h, hw⟩))

/-- What a selector names it scores, if it is valid. -/
theorem Names.weight_pos {selector scope : Text} (h : Names selector scope) (name : IsScopeName scope)
    (valid : (ofText? selector).isSome) : 0 < weightOfTexts scope selector := by
  obtain ⟨part, hpart, same⟩ := h
  obtain ⟨alternatives, halternatives⟩ := Option.isSome_iff_exists.1 valid
  obtain ⟨weight, hweight, pos⟩ := name.weight?_pos
  rw [weightOfTexts, name.path?_self, halternatives]
  have member := List.mem_of_mapM_eq_some halternatives hpart (name.alternative?_eq same)
  exact pos.trans_le (weight_le member hweight)

end SchemeCheck.Selector
