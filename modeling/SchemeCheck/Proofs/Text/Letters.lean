import SchemeCheck.Proofs.Text.Case
import SchemeCheck.Proofs.Text.Cut
set_option autoImplicit false

namespace SchemeCheck

namespace Case

theorem isUpper_iff (c : Char) : c.isUpper = true ↔ 65 ≤ c.toNat ∧ c.toNat ≤ 90 := by
  have bounds : c.isUpper = decide (65 ≤ c.val ∧ c.val ≤ 90) := rfl
  rw [bounds, decide_eq_true_eq, UInt32.le_iff_toNat_le, UInt32.le_iff_toNat_le]
  rfl

theorem isAlpha_iff (c : Char) :
    c.isAlpha = true ↔ 65 ≤ c.toNat ∧ c.toNat ≤ 90 ∨ 97 ≤ c.toNat ∧ c.toNat ≤ 122 := by
  have bounds : c.isAlpha = (c.isUpper || (decide (97 ≤ c.val) && decide (c.val ≤ 122))) := rfl
  rw [bounds, Bool.or_eq_true, isUpper_iff, Bool.and_eq_true, decide_eq_true_eq, decide_eq_true_eq,
    UInt32.le_iff_toNat_le, UInt32.le_iff_toNat_le]
  rfl

theorem toNat_toLower (c : Char) :
    c.toLower.toNat = if c.isUpper then c.toNat + 32 else c.toNat := by
  split
  · next upper =>
    obtain ⟨low, high⟩ := (isUpper_iff c).1 upper
    have bounds : c.val ≥ 'A'.val ∧ c.val ≤ 'Z'.val :=
      ⟨UInt32.le_iff_toNat_le.2 low, UInt32.le_iff_toNat_le.2 high⟩
    have small : c.toNat + 32 < 2 ^ 32 := by omega
    have image : c.toLower = _ := dif_pos bounds
    rw [image]
    exact (UInt32.toNat_add c.val 32).trans (Nat.mod_eq_of_lt small)
  · next other =>
    refine congrArg Char.toNat (dif_neg fun ⟨low, high⟩ => other ((isUpper_iff c).2 ?_))
    exact ⟨UInt32.le_iff_toNat_le.1 low, UInt32.le_iff_toNat_le.1 high⟩

theorem toLower_of_not_isUpper {c : Char} (h : ¬ c.isUpper) : c.toLower = c :=
  Char.toNat_inj.1 (by rw [toNat_toLower, if_neg h])

theorem isAlpha_toLower {c : Char} (h : c.isAlpha) : c.toLower.isAlpha := by
  have bounds := (isAlpha_iff c).1 h
  rw [isAlpha_iff, toNat_toLower]
  split
  · next upper =>
    have bounds := (isUpper_iff c).1 upper
    omega
  · exact bounds

theorem not_isUpper_toLower (c : Char) : ¬ c.toLower.isUpper := by
  by_cases upper : c.isUpper
  · have bounds := (isUpper_iff c).1 upper
    rw [isUpper_iff, toNat_toLower, if_pos upper]
    omega
  · rwa [toLower_of_not_isUpper upper]

theorem toLower_of_letters {β : Type} {f : Char → β} {b : β} (h : ∀ c, c.isAlpha → f c = b)
    (c : Char) : f c.toLower = f c := by
  by_cases letter : c.isAlpha
  · rw [h c letter, h c.toLower (isAlpha_toLower letter)]
  · rw [toLower_of_not_isUpper fun upper => letter ((isAlpha_iff c).2 (.inl ((isUpper_iff c).1 upper)))]

end Case

theorem isBlank_toLower (c : Char) : isBlank c.toLower = isBlank c := by
  refine Case.toLower_of_letters (b := false) (fun c letter => ?_) c
  have bounds := (Case.isAlpha_iff c).1 letter
  simp only [isBlank, Bool.or_eq_false_iff, Bool.and_eq_false_iff, decide_eq_false_iff_not,
    beq_eq_false_iff_ne]
  omega

theorem beq_toLower {a : Char} (ha : ¬ a.isAlpha) (c : Char) : (c.toLower == a) = (c == a) := by
  refine Case.toLower_of_letters (f := fun c => c == a) (b := false) (fun c letter => ?_) c
  simpa using fun same : c = a => ha (same ▸ letter)

namespace Case

theorem isIgnorable_toLower (c : Char) : isIgnorable c.toLower = isIgnorable c := by
  refine toLower_of_letters (b := false) (fun c letter => ?_) c
  have bounds := (isAlpha_iff c).1 letter
  have ascii : c.toNat < 128 := by omega
  rw [isIgnorable, if_pos ascii]
  simp
  omega

theorem isCased_toLower (c : Char) : isCased c.toLower = isCased c := by
  refine toLower_of_letters (b := true) (fun c letter => ?_) c
  have bounds := (isAlpha_iff c).1 letter
  have ascii : c.toNat < 128 := by omega
  rw [isCased, if_pos ascii, letter]

theorem meetsCased_toLower (t : Text) : meetsCased (t.map Char.toLower) = meetsCased t := by
  have ignorable : isIgnorable ∘ Char.toLower = isIgnorable := funext isIgnorable_toLower
  unfold meetsCased
  rw [List.dropWhile_map, ignorable]
  cases t.dropWhile isIgnorable with
  | nil => rfl
  | cons c rest => exact isCased_toLower c

theorem lowerImage_toLower (final : Bool) (c : Char) : lowerImage final c.toLower = lowerImage final c := by
  by_cases letter : c.isUpper
  · have bounds := (isUpper_iff c).1 letter
    have image : ∀ d : Char, d.toNat < 128 → lowerImage final d = [d.toLower] := by
      intro d ascii
      have sigma : d ≠ 'Σ' := fun same => absurd (same ▸ ascii) (by decide)
      have dotted : d ≠ 'İ' := fun same => absurd (same ▸ ascii) (by decide)
      rw [lowerImage, if_neg sigma, if_neg dotted, lowerChar, if_pos ascii]
    have shifted := toNat_toLower c
    rw [if_pos letter] at shifted
    rw [image c (by omega), image c.toLower (by omega), toLower_of_not_isUpper (not_isUpper_toLower c)]
  · rw [toLower_of_not_isUpper letter]

theorem lowerFrom_toLower (seen t : Text) :
    lowerFrom (seen.map Char.toLower) (t.map Char.toLower) = lowerFrom seen t := by
  induction t generalizing seen with
  | nil => rfl
  | cons c t ih =>
    have rest := ih (c :: seen)
    rw [List.map_cons] at rest ⊢
    rw [lowerFrom_cons, lowerFrom_cons, meetsCased_toLower, meetsCased_toLower, lowerImage_toLower, rest]

end Case

namespace Text

def SameLetters (t t' : Text) : Prop := t.map Char.toLower = t'.map Char.toLower

instance (t t' : Text) : Decidable (SameLetters t t') := inferInstanceAs (Decidable (_ = _))

namespace SameLetters
variable {s s' t t' : Text}

theorem refl (t : Text) : SameLetters t t := rfl

theorem lower (h : SameLetters t t') : Text.lower t = Text.lower t' := by
  have here := Case.lowerFrom_toLower [] t
  rw [show t.map Char.toLower = t'.map Char.toLower from h] at here
  exact here.symm.trans (Case.lowerFrom_toLower [] t')

theorem length_eq (h : SameLetters t t') : t.length = t'.length := by
  simpa using congrArg List.length h

theorem append (h : SameLetters s s') (h' : SameLetters t t') : SameLetters (s ++ t) (s' ++ t') := by
  unfold SameLetters at *
  rw [List.map_append, List.map_append, h, h']

theorem append_cancel (h : SameLetters (s ++ t) (s ++ t')) : SameLetters t t' := by
  unfold SameLetters at *
  rw [List.map_append, List.map_append] at h
  exact List.append_cancel_left h

theorem exists_append (h : SameLetters (s ++ t) t') :
    ∃ u u', t' = u ++ u' ∧ SameLetters s u ∧ SameLetters t u' := by
  unfold SameLetters at *
  rw [List.map_append, eq_comm, List.map_eq_append_iff] at h
  obtain ⟨u, u', rfl, hu, hu'⟩ := h
  exact ⟨u, u', rfl, hu.symm, hu'.symm⟩

theorem mem_iff {a : Char} (ha : ¬ a.isAlpha) (h : SameLetters t t') : a ∈ t ↔ a ∈ t' := by
  have image : ∀ u : Text, a ∈ u.map Char.toLower ↔ a ∈ u := by
    intro u
    have same : ∀ c : Char, c.toLower = a ↔ c = a := by
      intro c
      simpa using congrArg (· = true) (beq_toLower ha c)
    simp [same]
  rw [← image t, ← image t', show t.map Char.toLower = t'.map Char.toLower from h]

theorem exists_cons {a : Char} (ha : ¬ a.isAlpha) (h : SameLetters (a :: t) t') :
    ∃ rest, t' = a :: rest ∧ SameLetters t rest := by
  obtain ⟨u, rest, rfl, head, tail⟩ := exists_append (s := [a]) h
  have alone := head.length_eq
  match u with
  | [b] =>
    have inside : a ∈ [b] := (head.mem_iff ha).1 List.mem_cons_self
    exact ⟨rest, by rw [List.mem_singleton.1 inside]; rfl, tail⟩

section
variable {p : Char → Bool} (hp : ∀ c, p c.toLower = p c)
include hp

theorem dropWhile (h : SameLetters t t') : SameLetters (t.dropWhile p) (t'.dropWhile p) := by
  have same : p ∘ Char.toLower = p := funext hp
  unfold SameLetters at *
  have here := congrArg (List.dropWhile p) h
  rwa [List.dropWhile_map, List.dropWhile_map, same] at here

theorem findIdx? (h : SameLetters t t') : t.findIdx? p = t'.findIdx? p := by
  have same : p ∘ Char.toLower = p := funext hp
  have here := congrArg (List.findIdx? p) h
  rwa [List.findIdx?_map, List.findIdx?_map, same] at here

end

theorem reverse (h : SameLetters t t') : SameLetters t.reverse t'.reverse := by
  unfold SameLetters at *
  rw [List.map_reverse, List.map_reverse, h]

theorem trim (h : SameLetters t t') : SameLetters (Text.trim t) (Text.trim t') := by
  have start := h.dropWhile isBlank_toLower
  exact (start.reverse.dropWhile isBlank_toLower).reverse

end SameLetters
end Text
end SchemeCheck
