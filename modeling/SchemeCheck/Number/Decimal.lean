import SchemeCheck.Text.Basic
set_option autoImplicit false

namespace SchemeCheck.Decimal

def digitValue (c : Char) : Nat := c.toNat - '0'.toNat

def valueFrom (acc : Nat) (digits : Text) : Nat :=
  digits.foldl (fun n c => 10 * n + digitValue c) acc

def value (digits : Text) : Nat := valueFrom 0 digits

def read? (t : Text) : Option Nat := if t ≠ [] ∧ t.all Char.isDigit then some (value t) else none

def dropPlus : Text → Text
  | '+' :: t => t
  | t => t

def readUpTo? (limit : Nat) (t : Text) : Option Nat :=
  (read? (dropPlus t)).filter (· ≤ limit)

def maxUnsigned32 : Nat := 0xFFFFFFFF

def maxUnsigned64 : Nat := 0xFFFFFFFFFFFFFFFF

def fitsSigned64 (n : Int) : Bool := -0x8000000000000000 ≤ n && n < 0x8000000000000000

def hexValue? (c : Char) : Option Nat :=
  if c.isDigit then some (digitValue c)
  else if 'a' ≤ c ∧ c ≤ 'f' then some (c.toNat - 'a'.toNat + 10)
  else if 'A' ≤ c ∧ c ≤ 'F' then some (c.toNat - 'A'.toNat + 10)
  else none

def readBase? (base : Nat) (t : Text) : Option Nat :=
  if t = [] then none
  else t.foldlM (fun n c => (hexValue? c).bind fun d => if d < base then some (base * n + d) else none) 0

end SchemeCheck.Decimal
