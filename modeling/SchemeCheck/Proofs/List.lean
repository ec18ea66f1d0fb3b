import Mathlib.Data.List.Forall2
import Mathlib.Data.List.Nodup
set_option autoImplicit false

namespace List
variable {α β : Type} {R : α → β → Prop}

theorem exists_append_of_forall₂ {l₁ l₂ : List α} {l : List β} (h : Forall₂ R (l₁ ++ l₂) l) :
    ∃ l₁' l₂', l = l₁' ++ l₂' ∧ Forall₂ R l₁ l₁' ∧ Forall₂ R l₂ l₂' := by
  have flipped : Forall₂ (flip R) l (l₁ ++ l₂) := .flip h
  exact ⟨_, _, (take_append_drop l₁.length l).symm, .flip (forall₂_take_append l l₁ l₂ flipped),
    .flip (forall₂_drop_append l l₁ l₂ flipped)⟩

theorem exists_mem_of_forall₂ {xs : List α} {ys : List β} (h : Forall₂ R xs ys) {y : β} (hy : y ∈ ys) :
    ∃ x ∈ xs, R x y := by
  induction h with
  | nil => simp at hy
  | @cons x z xs ys related _ ih =>
    rcases mem_cons.1 hy with rfl | hy
    · exact ⟨x, mem_cons_self, related⟩
    · obtain ⟨x', hx, related⟩ := ih hy
      exact ⟨x', mem_cons_of_mem _ hx, related⟩

theorem mem_of_mapM_eq_some {f : α → Option β} {l : List α} {l' : List β} (h : l.mapM f = some l') {a : α}
    {b : β} (ha : a ∈ l) (hb : f a = some b) : b ∈ l' := by
  induction l generalizing l' with
  | nil => simp at ha
  | cons c l ih =>
    rw [mapM_cons] at h
    obtain ⟨d, hd, h⟩ := Option.bind_eq_some_iff.1 h
    obtain ⟨rest, hrest, h⟩ := Option.bind_eq_some_iff.1 h
    obtain rfl : d :: rest = l' := Option.some.inj h
    rcases mem_cons.1 ha with rfl | ha
    · obtain rfl : d = b := Option.some.inj (hd.symm.trans hb)
      exact mem_cons_self
    · exact mem_cons_of_mem _ (ih hrest ha)

theorem le_foldl_max {n start : Nat} {l : List Nat} (h : n ≤ start ∨ n ∈ l) : n ≤ l.foldl max start := by
  induction l generalizing start with
  | nil => simpa using h
  | cons m l ih =>
    rw [foldl_cons]
    rcases h with low | h
    · exact ih (.inl (Nat.le_trans low (Nat.le_max_left _ _)))
    · rcases mem_cons.1 h with rfl | h
      · exact ih (.inl (Nat.le_max_right _ _))
      · exact ih (.inr h)

theorem nodup_map_filterMap {f : α → Option β} {g : β → α} (back : ∀ a b, f a = some b → g b = a)
    {l : List α} (h : l.Nodup) : ((l.filterMap f).map g).Nodup := by
  refine pairwise_map.2 (Pairwise.filterMap f ?_ h)
  intro a a' ne b hb b' hb'
  rwa [back a b hb, back a' b' hb']

end List
