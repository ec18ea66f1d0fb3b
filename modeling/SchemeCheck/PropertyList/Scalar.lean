import SchemeCheck.Number.Decimal
import SchemeCheck.Text.Basic
set_option autoImplicit false

/-!
The written forms of the scalars of a property list that are not strings. Of them only whole numbers
keep their value; for the others it counts whether they are well formed.
-/

namespace SchemeCheck.PropertyList

/-- A whole number of 64 bits with or without a sign, or an unsigned one with a hexadecimal mark;
a negative one is `some none`. -/
def readInteger? (t : Text) : Option (Option Nat) :=
  match Text.after? "0x".toList t with
  | some digits => ((Decimal.readBase? 16 digits).filter (· ≤ Decimal.maxUnsigned64)).map some
  | none =>
    match t with
    | '-' :: digits =>
      ((Decimal.read? digits).filter (· ≤ 0x8000000000000000)).map fun n => if n = 0 then some 0 else none
    | t => (Decimal.readUpTo? Decimal.maxUnsigned64 t).map some

def dropSign : Text → Text
  | '+' :: t | '-' :: t => t
  | t => t

def isReal (t : Text) : Bool :=
  let t := dropSign t
  if ["inf".toList, "infinity".toList, "nan".toList].contains (t.map Char.toLower) then true
  else
    let whole := t.takeWhile Char.isDigit
    let rest := t.dropWhile Char.isDigit
    let (fraction, rest) :=
      match rest with
      | '.' :: rest => (rest.takeWhile Char.isDigit, rest.dropWhile Char.isDigit)
      | rest => ([], rest)
    let exponentFits :=
      match rest with
      | 'e' :: rest | 'E' :: rest => (Decimal.read? (dropSign rest)).isSome
      | rest => rest.isEmpty
    !(whole ++ fraction).isEmpty && exponentFits

def isBase64Digit (c : Char) : Bool := c.isAlpha || c.isDigit || c == '+' || c == '/'

/-- How many of the six bits of a last digit lie outside of the bytes. -/
def base64Value (c : Char) : Nat :=
  if c.isUpper then c.toNat - 'A'.toNat
  else if c.isLower then c.toNat - 'a'.toNat + 26
  else if c.isDigit then c.toNat - '0'.toNat + 52
  else if c == '+' then 62 else 63

def isAsciiSpace (c : Char) : Bool :=
  c == ' ' || c == '\t' || c == '\n' || c == '\x0c' || c == '\r'

/-- Base64 with its padding; the bits behind the last byte are zero. -/
def isData (t : Text) : Bool :=
  let t := t.filter (!isAsciiSpace ·)
  let digits := t.takeWhile isBase64Digit
  let padding := t.dropWhile isBase64Digit
  let last := (digits.getLast?.map base64Value).getD 0
  t.length % 4 = 0 &&
    (padding == [] || (padding == ['='] && last % 4 = 0) || (padding == ['=', '='] && last % 16 = 0))

def daysInMonth (year month : Nat) : Nat :=
  if month = 2 then
    if year % 4 = 0 ∧ (year % 100 ≠ 0 ∨ year % 400 = 0) then 29 else 28
  else if [4, 6, 9, 11].contains month then 30 else 31

def takeNumber? (count : Nat) (t : Text) : Option (Nat × Text) :=
  if count ≤ t.length then (Decimal.read? (t.take count)).map (·, t.drop count) else none

def takeChar? (c : Char) : Text → Option Text
  | a :: t => if a.toLower = c.toLower then some t else none
  | [] => none

def isOffset : Text → Bool
  | [c] => c == 'Z' || c == 'z'
  | sign :: t =>
    (sign == '+' || sign == '-') &&
      (match (do
          let (hours, t) ← takeNumber? 2 t
          let (minutes, t) ← takeNumber? 2 (← takeChar? ':' t)
          some (hours, minutes, t) : Option (Nat × Nat × Text)) with
        | some (hours, minutes, rest) => hours ≤ 23 && minutes ≤ 59 && rest.isEmpty
        | none => false)
  | [] => false

def isDate (t : Text) : Bool :=
  match (do
      let (year, t) ← takeNumber? 4 t
      let (month, t) ← takeNumber? 2 (← takeChar? '-' t)
      let (day, t) ← takeNumber? 2 (← takeChar? '-' t)
      let (hour, t) ← takeNumber? 2 (← takeChar? 'T' t)
      let (minute, t) ← takeNumber? 2 (← takeChar? ':' t)
      let (second, t) ← takeNumber? 2 (← takeChar? ':' t)
      some (year, month, day, hour, minute, second, t) :
        Option (Nat × Nat × Nat × Nat × Nat × Nat × Text)) with
  | none => false
  | some (year, month, day, hour, minute, second, rest) =>
    let offset? :=
      match rest with
      | '.' :: rest =>
        if (rest.takeWhile Char.isDigit).isEmpty then none else some (rest.dropWhile Char.isDigit)
      | rest => some rest
    1 ≤ month && month ≤ 12 && 1 ≤ day && day ≤ daysInMonth year month && hour ≤ 23 &&
      minute ≤ 59 && second ≤ 59 && offset?.any isOffset

end SchemeCheck.PropertyList
