import SchemeCheck.Text.Basic
set_option autoImplicit false

namespace SchemeCheck

/-- The integer nearest to `num / den`; a half goes to the even neighbour. -/
def roundDiv (num den : Nat) : Nat :=
  let q := num / den
  let r := 2 * (num % den)
  if r < den then q else if den < r then q + 1 else q + q % 2

/-- The fraction `num / den`, with `den` not zero. -/
structure Fraction where
  num : Nat
  den : Nat

namespace Fraction

def add (a b : Fraction) : Fraction := ⟨a.num * b.den + b.num * a.den, a.den * b.den⟩

def scale (n : Nat) (a : Fraction) : Fraction := ⟨n * a.num, a.den⟩

/-- The nearest fraction with 53 significant bits. The shift brings the quotient between
`2 ^ 52` and `2 ^ 53`. -/
def toBinary64 (a : Fraction) : Fraction :=
  if a.num = 0 then ⟨0, 1⟩
  else
    let up := 53 + a.den.log2
    let wide := ((a.num <<< up) / a.den).log2 - 52
    if wide ≤ up then ⟨roundDiv (a.num <<< (up - wide)) a.den, 1 <<< (up - wide)⟩
    else ⟨roundDiv a.num (a.den <<< (wide - up)) <<< (wide - up), 1⟩

def toFixed (places : Nat) (a : Fraction) : Text :=
  let n := roundDiv (a.num * Nat.pow 10 places) a.den
  let digits := Text.ofNat n
  let filled := List.replicate (places + 1 - digits.length) '0' ++ digits
  filled.take (filled.length - places) ++ '.' :: filled.drop (filled.length - places)

end Fraction

namespace Binary64

def roundNat (n : Nat) : Nat :=
  let f := Fraction.toBinary64 ⟨n, 1⟩
  f.num / f.den

def overflow : Nat := 1 <<< 1024

/-- The bits of a whole number that has 53 significant bits; infinity from `overflow` on. -/
def bitsOfNat (n : Nat) : UInt64 :=
  if n = 0 then 0
  else if overflow ≤ n then 0x7FF0000000000000
  else
    let e := n.log2
    let mantissa := (n <<< 52) >>> e - 1 <<< 52
    UInt64.ofNat ((e + 1023) <<< 52 + mantissa)

/-- The nearest multiple of `10 ^ drop` next to `n` that reads back as `n`, if one does. -/
def onGrid? (n drop : Nat) : Option Nat :=
  let unit := Nat.pow 10 drop
  let low := n / unit * unit
  let high := low + unit
  let lowFits := roundNat low == n
  let highFits := roundNat high == n
  if lowFits && highFits then some (if n - low ≤ high - n then low else high)
  else if lowFits then some low
  else if highFits then some high
  else none

/-- The whole number with the fewest significant digits that rounds to `n`, the nearest of them. -/
def shortestNat (n : Nat) : Nat :=
  let digits := (Text.ofNat n).length
  ((List.range digits).reverse.findSome? (onGrid? n)).getD n

theorem roundNat_of_onGrid? {n drop m : Nat} (h : onGrid? n drop = some m) : roundNat m = n := by
  simp only [onGrid?] at h
  split at h
  · next both =>
    obtain ⟨low, high⟩ := Bool.and_eq_true_iff.1 both
    split at h
    · exact Option.some.inj h ▸ eq_of_beq low
    · exact Option.some.inj h ▸ eq_of_beq high
  · split at h
    · next low => exact Option.some.inj h ▸ eq_of_beq low
    · split at h
      · next high => exact Option.some.inj h ▸ eq_of_beq high
      · contradiction

/-- The shortest decimal of a number reads back as the number. -/
theorem roundNat_shortestNat {n : Nat} (h : roundNat n = n) : roundNat (shortestNat n) = n := by
  rw [shortestNat]
  cases found : (List.range (Text.ofNat n).length).reverse.findSome? (onGrid? n) with
  | none => exact h
  | some m =>
    obtain ⟨drop, -, hm⟩ := List.exists_of_findSome?_eq_some found
    exact roundNat_of_onGrid? hm

end Binary64

end SchemeCheck
