import SchemeCheck.Number.Decimal
set_option autoImplicit false

namespace SchemeCheck

inductive YamlScalar where
  | null
  | bool (b : Bool)
  | integer (n : Int)
  | real (t : Text)
  | string (t : Text)
  deriving DecidableEq

inductive Yaml where
  | scalar (s : YamlScalar)
  | sequence (items : List Yaml)
  | mapping (entries : List (YamlScalar × Yaml))

namespace YamlScalar

def readDecimal? (t : Text) : Option Int :=
  match t with
  | '-' :: t => (Decimal.read? t).map fun n => -(n : Int)
  | t => (Decimal.read? (Decimal.dropPlus t)).map Int.ofNat

def readInteger? (t : Text) : Option Int :=
  (match t with
    | '0' :: 'x' :: digits => (Decimal.readBase? 16 digits).map Int.ofNat
    | '0' :: 'o' :: digits => (Decimal.readBase? 8 digits).map Int.ofNat
    | t => readDecimal? t).filter Decimal.fitsSigned64

def dropSign : Text → Text
  | '-' :: t => t
  | t => Decimal.dropPlus t

def isDigits (t : Text) : Bool := t.all Char.isDigit

/-- Digits after an optional sign, behind an exponent mark; nothing is an exponent, too. -/
def isExponent : Text → Bool
  | [] => true
  | c :: t => (c == 'e' || c == 'E') && dropSign t != [] && isDigits (dropSign t)

def isDecimalFraction (t : Text) : Bool :=
  let whole := t.takeWhile Char.isDigit
  match t.dropWhile Char.isDigit with
  | '.' :: rest =>
    (whole != [] || rest.head?.any Char.isDigit) && isExponent (rest.dropWhile Char.isDigit)
  | rest => whole != [] && isExponent rest

def realNames : List Text := ["inf", "infinity", "nan", ".inf", ".nan"].map String.toList

def isReal (t : Text) : Bool :=
  isDecimalFraction (dropSign t) || realNames.contains ((dropSign t).map Char.toLower)

def ofPlain (t : Text) : YamlScalar :=
  if t = [] ∨ t = ['~'] ∨ t = "null".toList then null
  else if t = "true".toList then bool true
  else if t = "false".toList then bool false
  else
    match readInteger? t with
    | some n => integer n
    | none => if isReal t then real t else string t

end YamlScalar

namespace Yaml

def null : Yaml := scalar .null

def string? : Yaml → Option Text
  | scalar (.string t) => some t
  | _ => none

def items? : Yaml → Option (List Yaml)
  | sequence items => some items
  | _ => none

def entries? : Yaml → Option (List (YamlScalar × Yaml))
  | mapping entries => some entries
  | _ => none

def addEntry (entries : List (YamlScalar × Yaml)) (key : YamlScalar) (value : Yaml) :
    List (YamlScalar × Yaml) :=
  entries.filter (fun e => e.1 ≠ key) ++ [(key, value)]

def lookup (entries : List (YamlScalar × Yaml)) (key : String) : Option Yaml :=
  List.lookup (.string key.toList) entries

end Yaml
end SchemeCheck
