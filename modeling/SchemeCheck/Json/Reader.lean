import SchemeCheck.Json.Value
import SchemeCheck.Number.Binary64
import SchemeCheck.Number.Decimal
set_option autoImplicit false

/-!
Reading JSON without comments and without trailing commas. Readers return a value and the rest of the
text; every value takes at least one character, so the length of the text bounds the recursion.
-/

namespace SchemeCheck.Json

def isSpace (c : Char) : Bool := c == ' ' || c == '\t' || c == '\n' || c == '\r'

def skipSpace (t : Text) : Text := t.dropWhile isSpace

def readUnit? : Text → Option (Nat × Text)
  | a :: b :: c :: d :: t => (Decimal.readBase? 16 [a, b, c, d]).map (·, t)
  | _ => none

def escapes : List (Char × Char) :=
  [('"', '"'), ('\\', '\\'), ('/', '/'), ('b', '\x08'), ('f', '\x0c'), ('n', '\n'), ('r', '\r'),
    ('t', '\t')]

/-- A character of a string in its written form; absent for half of a surrogate pair. -/
def readEscape? : Text → Option (Option Char × Text)
  | 'u' :: t =>
    match readUnit? t with
    | none => none
    | some (high, rest) =>
      if high < 0xD800 ∨ 0xDFFF < high then some (some (Char.ofNat high), rest)
      else if 0xDBFF < high then some (none, rest)
      else
        match (Text.after? ['\\', 'u'] rest).bind readUnit? with
        | some (low, rest') =>
          if 0xDC00 ≤ low ∧ low ≤ 0xDFFF then
            some (some (Char.ofNat (0x10000 + (high - 0xD800) * 0x400 + (low - 0xDC00))), rest')
          else some (none, rest)
        | none => some (none, rest)
  | c :: t => (escapes.lookup c).map fun e => (some e, t)
  | [] => none

def readString? : (fuel : Nat) → Text → Option (Option Text × Text)
  | 0, _ => none
  | _, [] => none
  | _, '"' :: t => some (some [], t)
  | fuel + 1, '\\' :: t =>
    match readEscape? t with
    | none => none
    | some (c, rest) =>
      (readString? fuel rest).map fun (s, rest) => (c.bind fun c => s.map (c :: ·), rest)
  | fuel + 1, c :: t =>
    if c.toNat < 0x20 then none
    else (readString? fuel t).map fun (s, rest) => (s.map (c :: ·), rest)

def readDigits? (t : Text) : Option (Text × Text) :=
  let digits := t.takeWhile Char.isDigit
  if digits = [] then none else some (digits, t.dropWhile Char.isDigit)

/-- Digits taken after `significand` while 64 bits hold the number, and how many are left out. -/
def takeDigits : (significand : Nat) → Text → Nat × Nat
  | n, [] => (n, 0)
  | n, c :: t =>
    let next := 10 * n + Decimal.digitValue c
    if next ≤ Decimal.maxUnsigned64 then takeDigits next t else (n, t.length + 1)

def isInRange (whole fraction : Text) (exponent : Int) : Bool :=
  let (n, leftOut) := takeDigits 0 whole
  let (m, unused) := takeDigits n fraction
  let power := exponent + leftOut - (fraction.length - unused : Nat)
  if m = 0 ∨ power < 0 then true
  else if 308 < power then false
  else
    Binary64.roundNat (Binary64.roundNat m * Binary64.roundNat (Nat.pow 10 power.toNat)) < Binary64.overflow

def readExponent? : Text → Option (Int × Text)
  | 'e' :: t | 'E' :: t =>
    match t with
    | '-' :: t => (readDigits? t).map fun (d, rest) => (-(Decimal.value d : Int), rest)
    | t => (readDigits? (Decimal.dropPlus t)).map fun (d, rest) => (Decimal.value d, rest)
  | t => some (0, t)

def readMagnitude? (t : Text) : Option (Json × Text) :=
  match readDigits? t with
  | none => none
  | some (whole, rest) =>
    if whole.head? = some '0' ∧ whole.length ≠ 1 then none
    else
      let fraction? :=
        match rest with
        | '.' :: rest => readDigits? rest
        | rest => some ([], rest)
      fraction?.bind fun (fraction, rest) =>
        (readExponent? rest).map fun (exponent, rest) =>
          (number (isInRange whole fraction exponent), rest)

mutual

def readValue? : (fuel : Nat) → Text → Option (Json × Text)
  | 0, _ => none
  | fuel + 1, t =>
    match t with
    | 'n' :: 'u' :: 'l' :: 'l' :: t => some (null, t)
    | 't' :: 'r' :: 'u' :: 'e' :: t => some (bool true, t)
    | 'f' :: 'a' :: 'l' :: 's' :: 'e' :: t => some (bool false, t)
    | '"' :: t => (readString? (t.length + 1) t).map fun (s, rest) => (string s, rest)
    | '-' :: t => readMagnitude? t
    | '[' :: t =>
      match skipSpace t with
      | ']' :: rest => some (array [], rest)
      | rest => (readItems? fuel rest).map fun (items, rest) => (array items, rest)
    | '{' :: t =>
      match skipSpace t with
      | '}' :: rest => some (object [], rest)
      | rest => (readMembers? fuel rest).map fun (members, rest) => (object members, rest)
    | t => readMagnitude? t

def readItems? : (fuel : Nat) → Text → Option (List Json × Text)
  | 0, _ => none
  | fuel + 1, t =>
    match readValue? fuel t with
    | none => none
    | some (item, rest) =>
      match skipSpace rest with
      | ']' :: rest => some ([item], rest)
      | ',' :: rest =>
        (readItems? fuel (skipSpace rest)).map fun (items, rest) => (item :: items, rest)
      | _ => none

def readMembers? : (fuel : Nat) → Text → Option (List (Option Text × Json) × Text)
  | 0, _ => none
  | fuel + 1, t =>
    match t with
    | '"' :: t =>
      match readString? (t.length + 1) t with
      | none => none
      | some (key, rest) =>
        match skipSpace rest with
        | ':' :: rest =>
          match readValue? fuel (skipSpace rest) with
          | none => none
          | some (item, rest) =>
            match skipSpace rest with
            | '}' :: rest => some ([(key, item)], rest)
            | ',' :: rest =>
              (readMembers? fuel (skipSpace rest)).map fun (members, rest) =>
                ((key, item) :: members, rest)
            | _ => none
        | _ => none
    | _ => none

end

def read? (t : Text) : Option Json :=
  match readValue? (t.length + 1) (skipSpace t) with
  | some (j, rest) => if skipSpace rest = [] then some j else none
  | none => none

end SchemeCheck.Json
