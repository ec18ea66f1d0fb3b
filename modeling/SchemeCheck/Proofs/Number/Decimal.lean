import Mathlib.Data.List.Induction
import SchemeCheck.Number.Decimal
set_option autoImplicit false

namespace SchemeCheck.Decimal

theorem toNat_of_isDigit {c : Char} (h : c.isDigit = true) : 48 ≤ c.toNat ∧ c.toNat ≤ 57 := by
  simp only [Char.isDigit, Bool.and_eq_true, decide_eq_true_eq, ge_iff_le, UInt32.le_iff_toNat_le] at h
  exact h

inductive Denotes : Text → Nat → Prop where
  | digit {c : Char} (h : c.isDigit) : Denotes [c] (digitValue c)
  | snoc {digits : Text} {n : Nat} {c : Char} (more : Denotes digits n) (h : c.isDigit) :
      Denotes (digits ++ [c]) (10 * n + digitValue c)

theorem Denotes.isDigit {digits : Text} {n : Nat} (h : Denotes digits n) :
    ∀ c ∈ digits, c.isDigit := by
  induction h with
  | digit h => simpa using h
  | snoc _ h ih =>
    intro c hc
    rcases List.mem_append.1 hc with hc | hc
    · exact ih c hc
    · simpa [List.mem_singleton.1 hc] using h

theorem value_snoc (digits : Text) (c : Char) :
    value (digits ++ [c]) = 10 * value digits + digitValue c := by
  simp [value, valueFrom]

theorem Denotes.value_eq {digits : Text} {n : Nat} (h : Denotes digits n) : value digits = n := by
  induction h with
  | digit => simp [value, valueFrom]
  | snoc _ _ ih => rw [value_snoc, ih]

theorem Denotes.ne_nil {digits : Text} {n : Nat} (h : Denotes digits n) : digits ≠ [] := by
  cases h <;> simp

theorem denotes_value {digits : Text} (ne : digits ≠ []) (h : ∀ c ∈ digits, c.isDigit) :
    Denotes digits (value digits) := by
  induction digits using List.reverseRecOn with
  | nil => exact absurd rfl ne
  | append_singleton digits c ih =>
    have last : c.isDigit := h c (by simp)
    rw [value_snoc]
    rcases eq_or_ne digits [] with rfl | more
    · simpa [value, valueFrom] using Denotes.digit last
    · exact .snoc (ih more fun a ha => h a (by simp [ha])) last

theorem read?_eq_some_iff {t : Text} {n : Nat} : read? t = some n ↔ Denotes t n := by
  unfold read?
  constructor
  · intro h
    split at h
    · next digits =>
      cases h
      exact denotes_value digits.1 (List.all_eq_true.1 digits.2)
    · simp at h
  · intro h
    rw [if_pos ⟨h.ne_nil, List.all_eq_true.2 h.isDigit⟩, h.value_eq]

theorem Denotes.dropPlus_eq {digits : Text} {n : Nat} (h : Denotes digits n) :
    dropPlus digits = digits := by
  unfold dropPlus
  split
  · exact absurd (h.isDigit '+' List.mem_cons_self) (by decide)
  · rfl

theorem readUpTo?_eq_some_iff {limit n : Nat} {t : Text} :
    readUpTo? limit t = some n ↔
      ∃ sign digits, (sign = [] ∨ sign = ['+']) ∧ t = sign ++ digits ∧ Denotes digits n ∧
        n ≤ limit := by
  simp only [readUpTo?, Option.filter_eq_some_iff, read?_eq_some_iff, decide_eq_true_eq]
  constructor
  · rintro ⟨number, small⟩
    unfold dropPlus at number
    split at number
    · next digits => exact ⟨['+'], digits, .inr rfl, rfl, number, small⟩
    · exact ⟨[], t, .inl rfl, rfl, number, small⟩
  · rintro ⟨sign, digits, rfl | rfl, rfl, number, small⟩
    · exact ⟨by simpa [number.dropPlus_eq] using number, small⟩
    · exact ⟨number, small⟩

theorem digitValue_digitChar {n : Nat} (h : n < 10) :
    n.digitChar.isDigit = true ∧ digitValue n.digitChar = n := by
  revert n
  decide

theorem denotes_ofNat (n : Nat) : Denotes (Text.ofNat n) n := by
  induction n using Nat.strongRecOn with
  | ind n ih =>
    obtain ⟨isDigit, value⟩ := digitValue_digitChar (Nat.mod_lt n (by decide : 0 < 10))
    rw [Text.ofNat, Nat.toDigits_eq_if (by decide)]
    split
    · next small =>
      rw [Nat.mod_eq_of_lt small] at isDigit value
      have digit := Denotes.digit isDigit
      rwa [value] at digit
    · next large =>
      have more := ih (n / 10) (by omega)
      have digits := more.snoc isDigit
      rwa [value, Nat.div_add_mod] at digits

end SchemeCheck.Decimal
