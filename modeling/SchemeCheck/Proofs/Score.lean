import Mathlib.Algebra.Order.Monoid.Unbundled.WithTop
import Mathlib.Data.Int.ConditionallyCompleteOrder
import Mathlib.Order.ConditionallyCompleteLattice.Basic
import SchemeCheck.Score
set_option autoImplicit false

/-!
The numbers that scores stand for. A binary64 number is a sign, an exponent and a fraction; every
finite one is a whole multiple of the least positive one. A score is a match where its number is
above zero, and numbers above zero are in the order of their bits.
-/

namespace SchemeCheck.Score

def fractions : Nat := 0x10000000000000

def unsigned (s : Score) : Nat := s.bits.toNat % 0x8000000000000000

def isNegative (s : Score) : Bool := 0x8000000000000000 ≤ s.bits.toNat

/-- The size of a finite number with these bits, in units of the least positive one. -/
def size (n : Nat) : Nat :=
  if n / fractions = 0 then n % fractions
  else (fractions + n % fractions) <<< (n / fractions - 1)

/-- The number of a score in these units; a NaN has none, and the exponents end with infinity. -/
def number? (s : Score) : Option (WithBot (WithTop Int)) :=
  if s.unsigned / fractions = 0x7FF then
    if s.unsigned % fractions = 0 then some (if s.isNegative then ⊥ else ⊤) else none
  else
    let finite : Int := if s.isNegative then -(size s.unsigned) else size s.unsigned
    some ((finite : WithTop Int) : WithBot (WithTop Int))

theorem size_lt_succ (n : Nat) : size n < size (n + 1) := by
  -- After the last fraction of an exponent comes the first of the next, whose unit is twice as large
  -- except after the subnormal numbers.
  by_cases last : n % fractions + 1 = fractions
  · have exponent : (n + 1) / fractions = n / fractions + 1 := by
      simp only [fractions] at *
      omega
    have fraction : (n + 1) % fractions = 0 := by
      simp only [fractions] at *
      omega
    simp only [size, exponent, fraction, Nat.shiftLeft_eq, Nat.add_sub_cancel]
    rw [if_neg (Nat.succ_ne_zero _)]
    split
    · next first =>
      rw [first]
      omega
    · next later =>
      obtain ⟨e, he⟩ := Nat.exists_eq_succ_of_ne_zero later
      have pos := Nat.two_pow_pos e
      have full : n % fractions = fractions - 1 := by omega
      rw [he, Nat.succ_sub_one, Nat.pow_succ, full]
      simp only [fractions]
      omega
  · have exponent : (n + 1) / fractions = n / fractions := by
      simp only [fractions] at *
      omega
    have fraction : (n + 1) % fractions = n % fractions + 1 := by
      simp only [fractions] at *
      omega
    simp only [size, exponent, fraction, Nat.shiftLeft_eq]
    split
    · exact Nat.lt_succ_self _
    · exact Nat.mul_lt_mul_of_pos_right (by omega) (Nat.two_pow_pos _)

theorem size_strictMono : StrictMono size := strictMono_nat_of_lt_succ size_lt_succ

def infinity : Nat := 0x7FF0000000000000

def numberOfBits (n : Nat) : WithBot (WithTop Int) :=
  if n = infinity then ⊤ else (((size n : Int) : WithTop Int) : WithBot (WithTop Int))

theorem numberOfBits_strictMonoOn : StrictMonoOn numberOfBits {n | n ≤ infinity} := by
  intro a ha b hb less
  have below : a ≠ infinity := Nat.ne_of_lt (Nat.lt_of_lt_of_le less hb)
  rw [numberOfBits, if_neg below, numberOfBits]
  split
  · exact WithBot.coe_lt_coe.2 (WithTop.coe_lt_top _)
  · exact WithBot.coe_lt_coe.2 (WithTop.coe_lt_coe.2 (Int.ofNat_lt.2 (size_strictMono less)))

theorem number?_of_le_infinity {s : Score} (h : s.bits.toNat ≤ infinity) :
    s.number? = some (numberOfBits s.bits.toNat) := by
  have unsigned_eq : s.unsigned = s.bits.toNat := by
    simp only [unsigned, infinity] at *
    omega
  have positive : s.isNegative = false := by
    simp only [isNegative, infinity, decide_eq_false_iff_not] at *
    omega
  rw [number?, unsigned_eq, positive, numberOfBits]
  by_cases top : s.bits.toNat = infinity
  · rw [top]
    simp [infinity, fractions]
  · have exponent : s.bits.toNat / fractions ≠ 0x7FF := by
      simp only [fractions, infinity] at *
      omega
    simp [exponent, top]

theorem isMatch_iff_bits (s : Score) :
    s.isMatch = true ↔ 0 < s.bits.toNat ∧ s.bits.toNat ≤ infinity := by
  simp [isMatch, infinity, UInt64.lt_iff_toNat_lt, UInt64.le_iff_toNat_le]

theorem not_pos_of_isNegative {s : Score} {n : WithBot (WithTop Int)} (sign : s.isNegative = true)
    (h : s.number? = some n) : ¬ 0 < n := by
  unfold number? at h
  rw [sign] at h
  split at h
  · split at h
    · cases h
      exact not_lt_bot
    · contradiction
  · cases h
    have low : (-(size s.unsigned) : Int) ≤ 0 := by omega
    exact not_lt.2 (WithBot.coe_le_coe.2 (WithTop.coe_le_coe.2 low))

theorem number?_eq_none {s : Score} (sign : s.isNegative = false) (beyond : infinity < s.bits.toNat) :
    s.number? = none := by
  simp only [isNegative, decide_eq_false_iff_not] at sign
  have exponent : s.unsigned / fractions = 0x7FF := by
    simp only [unsigned, fractions, infinity] at *
    omega
  have fraction : s.unsigned % fractions ≠ 0 := by
    simp only [unsigned, fractions, infinity] at *
    omega
  rw [number?, if_pos exponent, if_neg fraction]

theorem le_infinity_of_pos {s : Score} {n : WithBot (WithTop Int)} (h : s.number? = some n)
    (pos : 0 < n) : s.bits.toNat ≤ infinity := by
  by_contra beyond
  cases sign : s.isNegative with
  | true => exact not_pos_of_isNegative sign h pos
  | false =>
    rw [number?_eq_none sign (Nat.lt_of_not_le beyond)] at h
    contradiction

/-- A score is a match where it is a number above zero. -/
theorem isMatch_iff (s : Score) : s.isMatch = true ↔ ∃ n, s.number? = some n ∧ 0 < n := by
  have zero : numberOfBits 0 = 0 := rfl
  rw [isMatch_iff_bits]
  constructor
  · rintro ⟨pos, le⟩
    refine ⟨_, number?_of_le_infinity le, ?_⟩
    rw [← zero]
    exact numberOfBits_strictMonoOn (Nat.zero_le _) le pos
  · rintro ⟨n, hn, pos⟩
    have le := le_infinity_of_pos hn pos
    rw [number?_of_le_infinity le, Option.some_inj] at hn
    refine ⟨Nat.pos_iff_ne_zero.2 fun none => ?_, le⟩
    rw [none, zero] at hn
    exact absurd hn (ne_of_lt pos)

/-- The matches are in the order of their numbers. -/
theorem bits_le_iff {a b : Score} {m n : WithBot (WithTop Int)} (ha : a.isMatch = true)
    (hb : b.isMatch = true) (hm : a.number? = some m) (hn : b.number? = some n) :
    a.bits ≤ b.bits ↔ m ≤ n := by
  have la := (a.isMatch_iff_bits.1 ha).2
  have lb := (b.isMatch_iff_bits.1 hb).2
  rw [number?_of_le_infinity la, Option.some_inj] at hm
  rw [number?_of_le_infinity lb, Option.some_inj] at hn
  rw [← hm, ← hn, numberOfBits_strictMonoOn.le_iff_le la lb, UInt64.le_iff_toNat_le]

end SchemeCheck.Score
