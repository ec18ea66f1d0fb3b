import SchemeCheck.Text.Case
set_option autoImplicit false

/-!
What lower case keeps. A plain character (ASCII, but no letter) is its own lower case and that of no
other character, so plain characters stand in the lower case of a text where they stand in the text.
Only a capital sigma looks at its neighbours, and a character that is neither cased nor ignorable
hides from it all that is beyond.
-/

namespace SchemeCheck.Case

/-- The lower case of one character; `final` matters to a sigma alone. -/
def lowerImage (final : Bool) (c : Char) : Text :=
  if c = 'Σ' then [if final then 'ς' else 'σ']
  else if c = 'İ' then ['i', '\u0307']
  else [lowerChar c]

theorem lowerFrom_cons (seen : Text) (c : Char) (t : Text) :
    lowerFrom seen (c :: t) =
      lowerImage (meetsCased seen && !meetsCased t) c ++ lowerFrom (c :: seen) t := by
  rw [lowerFrom, lowerImage]
  split
  · rfl
  · split <;> rfl

/-- The lower case of a text between the characters of `seen`, the last of them first, and those
of `beyond`. -/
def lowerBetween (seen beyond : Text) : Text → Text
  | [] => []
  | c :: t =>
    lowerImage (meetsCased seen && !meetsCased (t ++ beyond)) c ++ lowerBetween (c :: seen) beyond t

theorem lowerFrom_append (seen s t : Text) :
    lowerFrom seen (s ++ t) = lowerBetween seen t s ++ lowerFrom (s.reverse ++ seen) t := by
  induction s generalizing seen with
  | nil => rfl
  | cons c s ih => simp [lowerFrom_cons, lowerBetween, ih]

theorem lowerFrom_eq_lowerBetween (seen t : Text) : lowerFrom seen t = lowerBetween seen [] t := by
  have h := lowerFrom_append seen t []
  simpa [lowerFrom] using h

theorem lowerBetween_append (seen beyond s t : Text) :
    lowerBetween seen beyond (s ++ t) =
      lowerBetween seen (t ++ beyond) s ++ lowerBetween (s.reverse ++ seen) beyond t := by
  induction s generalizing seen with
  | nil => rfl
  | cons c s ih => simp [lowerBetween, ih]

/-! ## Plain characters -/

def IsPlain (c : Char) : Prop := 0 < c.toNat ∧ c.toNat < 128 ∧ ¬ c.isAlpha

instance (c : Char) : Decidable (IsPlain c) := inferInstanceAs (Decidable (_ ∧ _ ∧ _))

/-- No character beyond ASCII has an ASCII lower case, apart from the Kelvin sign. -/
def ShiftRange.avoidsAscii (r : ShiftRange) : Bool :=
  128 ≤ (r.first + r.shift).toNat || (r.first = r.last && (r.first + r.shift).toNat = 107)

theorem lowerShifts_avoidAscii : lowerShifts.all ShiftRange.avoidsAscii = true := by decide +kernel

theorem ShiftRange.image?_avoidsAscii {r : ShiftRange} {n m : Nat} (h : r.avoidsAscii)
    (hm : r.image? n = some m) : 128 ≤ m ∨ m = 107 := by
  unfold image? at hm
  split at hm
  · next hn =>
    simp only [Option.some.injEq] at hm
    simp only [avoidsAscii, Bool.or_eq_true, decide_eq_true_eq, Bool.and_eq_true] at h
    omega
  · simp at hm

theorem shifted_lowerShifts {n : Nat} (h : 128 ≤ n) :
    128 ≤ shifted lowerShifts n ∨ shifted lowerShifts n = 107 := by
  unfold shifted
  cases hm : lowerShifts.findSome? (·.image? n) with
  | none => exact .inl h
  | some m =>
    obtain ⟨r, hr, hrm⟩ := List.exists_of_findSome?_eq_some hm
    exact r.image?_avoidsAscii (List.all_eq_true.1 lowerShifts_avoidAscii r hr) hrm

theorem toNat_ofNat_of_pos {n : Nat} (h : 0 < (Char.ofNat n).toNat) : (Char.ofNat n).toNat = n := by
  by_cases hn : n.isValidChar
  · rw [Char.ofNat, dif_pos hn]
    rfl
  · rw [Char.ofNat, dif_neg hn] at h
    exact absurd h (by decide)

theorem toLower_ascii (n : Fin 128) :
    (Char.ofNat n).toLower = Char.ofNat n ∨ (Char.ofNat n).isAlpha ∧ (Char.ofNat n).toLower.isAlpha := by
  revert n
  decide +kernel

theorem toLower_of_ascii {c : Char} (h : c.toNat < 128) :
    c.toLower = c ∨ c.isAlpha ∧ c.toLower.isAlpha := by
  simpa using toLower_ascii ⟨c.toNat, h⟩

theorem lowerChar_plain {a : Char} (ha : IsPlain a) : lowerChar a = a := by
  obtain ⟨-, ascii, letter⟩ := ha
  rw [lowerChar, if_pos ascii]
  exact (toLower_of_ascii ascii).resolve_right fun h => letter h.1

theorem eq_of_lowerChar_plain {a c : Char} (ha : IsPlain a) (h : lowerChar c = a) : c = a := by
  obtain ⟨pos, ascii, letter⟩ := ha
  unfold lowerChar at h
  split at h
  · next hc =>
    rcases toLower_of_ascii hc with same | ⟨-, alpha⟩
    · exact same.symm.trans h
    · exact absurd (h ▸ alpha) letter
  · next hc =>
    subst h
    have value := toNat_ofNat_of_pos pos
    rcases shifted_lowerShifts (Nat.not_lt.1 hc) with far | kelvin
    · omega
    · rw [kelvin] at letter
      exact absurd (by decide) letter

theorem lowerImage_plain {a : Char} (ha : IsPlain a) (final : Bool) : lowerImage final a = [a] := by
  have sigma : a ≠ 'Σ' := fun h => absurd (h ▸ ha) (by decide)
  have dotted : a ≠ 'İ' := fun h => absurd (h ▸ ha) (by decide)
  rw [lowerImage, if_neg sigma, if_neg dotted, lowerChar_plain ha]

theorem eq_of_mem_lowerImage {a c : Char} (ha : IsPlain a) {final : Bool}
    (h : a ∈ lowerImage final c) : c = a := by
  unfold lowerImage at h
  split at h
  · have : a = 'ς' ∨ a = 'σ' := by cases final <;> simp_all
    rcases this with rfl | rfl <;> exact absurd ha (by decide)
  · split at h
    · have : a = 'i' ∨ a = '\u0307' := by simpa using h
      rcases this with rfl | rfl <;> exact absurd ha (by decide)
    · exact eq_of_lowerChar_plain ha (List.mem_singleton.1 h).symm

theorem lowerImage_ne_nil (final : Bool) (c : Char) : lowerImage final c ≠ [] := by
  unfold lowerImage
  split
  · simp
  · split <;> simp

theorem mem_lowerBetween {a : Char} (ha : IsPlain a) {seen beyond t : Text} :
    a ∈ lowerBetween seen beyond t ↔ a ∈ t := by
  induction t generalizing seen with
  | nil => simp [lowerBetween]
  | cons c t ih =>
    rw [lowerBetween, List.mem_append, ih, List.mem_cons]
    constructor
    · rintro (h | h)
      · exact .inl (eq_of_mem_lowerImage ha h).symm
      · exact .inr h
    · rintro (rfl | h)
      · exact .inl (by simp [lowerImage_plain ha])
      · exact .inr h

def IsLower (c : Char) : Prop := ∀ final, lowerImage final c = [c]

instance (c : Char) : Decidable (IsLower c) :=
  decidable_of_iff (lowerImage true c = [c] ∧ lowerImage false c = [c]) (by simp [IsLower, and_comm])

theorem IsPlain.isLower {a : Char} (ha : IsPlain a) : IsLower a := lowerImage_plain ha

theorem lowerBetween_isLower {s : Text} (hs : ∀ a ∈ s, IsLower a) (seen beyond : Text) :
    lowerBetween seen beyond s = s := by
  induction s generalizing seen with
  | nil => rfl
  | cons a s ih =>
    rw [lowerBetween, hs a (by simp), ih fun b hb => hs b (by simp [hb])]
    rfl

theorem lowerBetween_ne_nil {seen beyond t : Text} (ht : t ≠ []) :
    lowerBetween seen beyond t ≠ [] := by
  cases t with
  | nil => exact absurd rfl ht
  | cons c t => simp [lowerBetween, lowerImage_ne_nil]

theorem head?_lowerBetween {a : Char} (ha : IsPlain a) {seen beyond t : Text} :
    (lowerBetween seen beyond t).head? = some a ↔ t.head? = some a := by
  cases t with
  | nil => simp [lowerBetween]
  | cons c t =>
    rw [lowerBetween, List.head?_append, List.head?_cons, Option.some_inj]
    generalize (meetsCased seen && !meetsCased (t ++ beyond)) = final
    cases himage : lowerImage final c with
    | nil => exact absurd himage (lowerImage_ne_nil final c)
    | cons b image =>
      rw [List.head?_cons, Option.some_or, Option.some_inj]
      constructor
      · rintro rfl
        exact eq_of_mem_lowerImage ha (by rw [himage]; exact List.mem_cons_self)
      · rintro rfl
        rw [lowerImage_plain ha] at himage
        simp_all

theorem getLast?_lowerBetween {a : Char} (ha : IsPlain a) {seen beyond t : Text} :
    (lowerBetween seen beyond t).getLast? = some a ↔ t.getLast? = some a := by
  rcases List.eq_nil_or_concat t with rfl | ⟨s, c, rfl⟩
  · simp [lowerBetween]
  · rw [List.concat_eq_append, lowerBetween_append, List.getLast?_append]
    simp only [lowerBetween, List.append_nil, List.getLast?_append, List.getLast?_singleton,
      Option.some_or, Option.some_inj]
    generalize (meetsCased (s.reverse ++ seen) && !meetsCased ([] ++ beyond)) = final
    rcases List.eq_nil_or_concat (lowerImage final c) with himage | ⟨image, b, himage⟩
    · exact absurd himage (lowerImage_ne_nil final c)
    · rw [himage, List.concat_eq_append, List.getLast?_concat, Option.some_or, Option.some_inj]
      constructor
      · rintro rfl
        exact eq_of_mem_lowerImage ha (by rw [himage]; simp)
      · rintro rfl
        rw [lowerImage_plain ha] at himage
        have := congrArg List.getLast? himage
        simpa using this.symm

/-! ## Borders -/

/-- Neither cased nor ignorable: where a sigma looks for its neighbours it looks no further. -/
def IsBorder (c : Char) : Prop := ¬ isIgnorable c ∧ ¬ isCased c

instance (c : Char) : Decidable (IsBorder c) := inferInstanceAs (Decidable (_ ∧ _))

/-- Two texts that a sigma cannot tell apart from any distance. -/
def LooksLike (s t : Text) : Prop := ∀ near : Text, meetsCased (near ++ s) = meetsCased (near ++ t)

theorem LooksLike.refl (s : Text) : LooksLike s s := fun _ => rfl

theorem LooksLike.cons {s t : Text} (h : LooksLike s t) (c : Char) : LooksLike (c :: s) (c :: t) := by
  intro near
  simpa using h (near ++ [c])

theorem looksLike_border {a : Char} (ha : IsBorder a) (s : Text) : LooksLike (a :: s) [] := by
  obtain ⟨ignorable, cased⟩ := ha
  intro near
  induction near with
  | nil => simp [meetsCased, ignorable, cased]
  | cons c near ih =>
    by_cases hc : isIgnorable c
    · simpa [meetsCased, hc] using ih
    · simp [meetsCased, hc]

theorem lowerBetween_congr {seen seen' beyond beyond' : Text} (before : LooksLike seen seen')
    (after : LooksLike beyond beyond') (t : Text) :
    lowerBetween seen beyond t = lowerBetween seen' beyond' t := by
  induction t generalizing seen seen' with
  | nil => rfl
  | cons c t ih =>
    have here := before []
    simp only [List.nil_append] at here
    rw [lowerBetween, lowerBetween, here, after t, ih (before.cons c)]

end SchemeCheck.Case

namespace SchemeCheck.Text
open Case

theorem lower_eq_lowerBetween (t : Text) : lower t = lowerBetween [] [] t :=
  lowerFrom_eq_lowerBetween [] t

theorem lower_isLower {t : Text} (h : ∀ c ∈ t, IsLower c) : lower t = t := by
  rw [lower_eq_lowerBetween, lowerBetween_isLower h]

/-- A border splits a text into two whose lower cases do not depend on each other. -/
theorem lower_border {b : Char} (border : IsBorder b) (same : IsLower b) (s t : Text) :
    lower (s ++ b :: t) = lower s ++ b :: lower t := by
  have left : lowerBetween [] (b :: t) s = lowerBetween [] [] s :=
    lowerBetween_congr (.refl []) (looksLike_border border t) s
  have right : lowerBetween (b :: s.reverse) [] t = lowerBetween [] [] t :=
    lowerBetween_congr (looksLike_border border s.reverse) (.refl []) t
  rw [lower_eq_lowerBetween, lowerBetween_append, List.append_nil, left, List.append_nil,
    lowerBetween, same, right, lower_eq_lowerBetween, lower_eq_lowerBetween, List.singleton_append]

theorem lower_append {t : Text} (h : ∀ c ∈ t.head?, IsBorder c ∧ IsLower c) (s : Text) :
    lower (s ++ t) = lower s ++ lower t := by
  cases t with
  | nil =>
    rw [List.append_nil]
    exact (List.append_nil _).symm
  | cons c t =>
    obtain ⟨border, same⟩ := h c rfl
    have alone : lower (c :: t) = c :: lower t := lower_border border same [] t
    rw [lower_border border same, alone]

theorem lower_ne_nil {t : Text} (h : t ≠ []) : lower t ≠ [] := by
  rw [lower_eq_lowerBetween]
  exact lowerBetween_ne_nil h

theorem mem_lower {a : Char} (ha : IsPlain a) {t : Text} : a ∈ lower t ↔ a ∈ t := by
  rw [lower_eq_lowerBetween, mem_lowerBetween ha]

theorem getLast?_lower {a : Char} (ha : IsPlain a) {t : Text} :
    (lower t).getLast? = some a ↔ t.getLast? = some a := by
  rw [lower_eq_lowerBetween, getLast?_lowerBetween ha]

theorem lower_space (s t : Text) : lower (s ++ ' ' :: t) = lower s ++ ' ' :: lower t :=
  lower_border (by decide) (by decide) s t

theorem lower_equals (s t : Text) : lower (s ++ '=' :: t) = lower s ++ '=' :: lower t :=
  lower_border (by decide) (by decide) s t

theorem lower_intercalate (words : List Text) :
    lower ([' '].intercalate words) = [' '].intercalate (words.map lower) := by
  induction words with
  | nil => rfl
  | cons word words ih =>
    cases words with
    | nil => simp
    | cons next words =>
      rw [List.intercalate_cons_cons, List.append_assoc, List.singleton_append, lower_space, ih]
      simp [List.intercalate_cons_cons]

end SchemeCheck.Text
