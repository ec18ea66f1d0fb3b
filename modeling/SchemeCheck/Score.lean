import SchemeCheck.Number.Binary64
set_option autoImplicit false

namespace SchemeCheck

structure Score where
  bits : UInt64
  deriving DecidableEq

namespace Score

def zero : Score := ⟨0⟩

def ofNat (n : Nat) : Score := ⟨Binary64.bitsOfNat (Binary64.roundNat n)⟩

/-- The bits of the positive numbers end with infinity; above them are the NaNs and, with the sign
bit set, the negative numbers. -/
def isMatch (s : Score) : Bool := 0 < s.bits && s.bits ≤ 0x7FF0000000000000

/-- Positive numbers are in the order of their bit patterns. -/
def atMost (a b : Score) : Bool := a.bits ≤ b.bits

end Score

abbrev Scorer := Text → Text → Score

end SchemeCheck
