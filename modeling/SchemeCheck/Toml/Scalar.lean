import SchemeCheck.Number.Binary64
import SchemeCheck.Number.Decimal
import SchemeCheck.Toml.Value
set_option autoImplicit false

namespace SchemeCheck.Toml

def isPlain (c : Char) : Bool := c == '\t' || (0x20 ≤ c.toNat && c.toNat != 0x7F)

def afterBreak? : Text → Option Text
  | '\n' :: t => some t
  | '\r' :: '\n' :: t => some t
  | _ => none

def escapes : List (Char × Char) :=
  [('b', '\x08'), ('t', '\t'), ('n', '\n'), ('f', '\x0c'), ('r', '\r'), ('"', '"'), ('\\', '\\')]

def readCode? (width : Nat) (t : Text) : Option (Char × Text) :=
  if t.length < width then none
  else
    (Decimal.readBase? 16 (t.take width)).bind fun n =>
      if (Char.ofNat n).toNat = n then some (Char.ofNat n, t.drop width) else none

def readEscape? : Text → Option (Char × Text)
  | 'u' :: t => readCode? 4 t
  | 'U' :: t => readCode? 8 t
  | c :: t => (escapes.lookup c).map (·, t)
  | [] => none

/-- A string on one line after its opening quote; only between double quotes are there escapes. -/
def readLine? (quote : Char) : (fuel : Nat) → Text → Option (Text × Text)
  | 0, _ => none
  | _, [] => none
  | fuel + 1, c :: t =>
    if c = quote then some ([], t)
    else if c = '\\' ∧ quote = '"' then
      (readEscape? t).bind fun (d, rest) =>
        (readLine? quote fuel rest).map fun (s, rest) => (d :: s, rest)
    else if isPlain c then (readLine? quote fuel t).map fun (s, rest) => (c :: s, rest)
    else none

def skipJoined (t : Text) : Text :=
  t.dropWhile fun c => c == ' ' || c == '\t' || c == '\n' || c == '\r'

def endsLine (t : Text) : Bool :=
  (afterBreak? (t.dropWhile fun c => c == ' ' || c == '\t')).isSome

/-- A string of several lines after its opening quotes. Of up to five quotes in a row the last three
close it, and a backslash at the end of a line joins what follows. -/
def readLines? (quote : Char) : (fuel : Nat) → Text → Option (Text × Text)
  | 0, _ => none
  | _, [] => none
  | fuel + 1, c :: t =>
    if c = quote then
      let run := (t.takeWhile (· == quote)).length + 1
      if run < 3 then (readLines? quote fuel t).map fun (s, rest) => (c :: s, rest)
      else if run ≤ 5 then some (List.replicate (run - 3) quote, t.drop (run - 1))
      else none
    else if c = '\\' ∧ quote = '"' then
      if endsLine t then readLines? quote fuel (skipJoined t)
      else
        (readEscape? t).bind fun (d, rest) =>
          (readLines? quote fuel rest).map fun (s, rest) => (d :: s, rest)
    else
      match afterBreak? (c :: t) with
      | some rest => (readLines? quote fuel rest).map fun (s, rest) => ('\n' :: s, rest)
      | none =>
        if isPlain c then (readLines? quote fuel t).map fun (s, rest) => (c :: s, rest) else none

/-- A string of one line or, after three quotes, of several; a break right after those does not count. -/
def readString? (t : Text) : Option (Text × Text) :=
  match t with
  | [] => none
  | quote :: rest =>
    if quote = '"' ∨ quote = '\x27' then
      match Text.after? [quote, quote] rest with
      | some lines => readLines? quote (t.length + 1) ((afterBreak? lines).getD lines)
      | none => readLine? quote (t.length + 1) rest
    else none

/-- The digits without the underscores, each of which must stand between two digits. -/
def joinDigits? (t : Text) : Option Text :=
  if (Text.split (· == '_') t).all (!·.isEmpty) then some (t.filter (· != '_')) else none

def dropSign : Text → Text
  | '-' :: t => t
  | t => Decimal.dropPlus t

def isNegative (t : Text) : Bool := t.head? == some '-'

def readDigits? (t : Text) : Option Text :=
  (joinDigits? t).filter fun d => d.all Char.isDigit && (d.length == 1 || d.head? != some '0')

def readInteger? (t : Text) : Option Int :=
  let inBase (base : Nat) (digits : Text) : Option Int :=
    ((joinDigits? digits).bind (Decimal.readBase? base)).map Int.ofNat
  (match t with
    | '0' :: 'x' :: digits => inBase 16 digits
    | '0' :: 'o' :: digits => inBase 8 digits
    | '0' :: 'b' :: digits => inBase 2 digits
    | t =>
      (readDigits? (dropSign t)).map fun d =>
        if isNegative t then -(Decimal.value d : Int) else Decimal.value d).filter Decimal.fitsSigned64

def overflows (digits : Text) (power : Int) : Bool :=
  let n := Decimal.value digits
  if n = 0 ∨ (digits.length : Int) + power ≤ 308 then false
  else if (digits.length : Int) + power > 400 + (digits.length : Int) then true
  else
    let f := Fraction.toBinary64 ⟨n * Nat.pow 10 power.toNat, Nat.pow 10 (-power).toNat⟩
    Binary64.overflow * f.den ≤ f.num

def readExponent? : Text → Option Int
  | [] => some 0
  | c :: t =>
    if c = 'e' ∨ c = 'E' then
      ((joinDigits? (dropSign t)).bind Decimal.read?).map fun n => if isNegative t then -(n : Int) else n
    else none

def realNames : List Text := ["inf".toList, "nan".toList]

/-- Whether a word is a number with a point or an exponent. Only positive ones can be too large. -/
def isReal (t : Text) : Bool :=
  let isMark (c : Char) : Bool := c == 'e' || c == 'E'
  let exponent := (dropSign t).dropWhile (!isMark ·)
  realNames.contains (dropSign t) ||
    match Text.split (· == '.') ((dropSign t).takeWhile (!isMark ·)), readExponent? exponent with
    | [whole], some power =>
      !exponent.isEmpty && (readDigits? whole).any fun d => isNegative t || !overflows d power
    | [whole, fraction], some power =>
      match readDigits? whole, (joinDigits? fraction).filter (·.all Char.isDigit) with
      | some d, some f => isNegative t || !overflows (d ++ f) (power - f.length)
      | _, _ => false
    | _, _ => false

def isNumber (width low high : Nat) (t : Text) : Bool :=
  t.length == width && (Decimal.read? t).any fun n => low ≤ n && n ≤ high

def isLeapYear (year : Nat) : Bool := (year % 4 == 0 && year % 100 != 0) || year % 400 == 0

def daysOf (year month : Nat) : Nat :=
  if month = 2 then if isLeapYear year then 29 else 28
  else if [4, 6, 9, 11].contains month then 30
  else 31

def isDate (t : Text) : Bool :=
  match Text.split (· == '-') t with
  | [year, month, day] =>
    isNumber 4 0 9999 year && isNumber 2 1 12 month &&
      isNumber 2 1 (daysOf (Decimal.value year) (Decimal.value month)) day
  | _ => false

def isTime (t : Text) : Bool :=
  match Text.split (· == ':') t with
  | [hour, minute, second] =>
    let fraction := second.drop 2
    isNumber 2 0 23 hour && isNumber 2 0 59 minute && isNumber 2 0 60 (second.take 2) &&
      (fraction.isEmpty || (fraction.head? == some '.' && (Decimal.read? (fraction.drop 1)).isSome))
  | _ => false

def isOffset (t : Text) : Bool :=
  t.isEmpty || t == ['Z'] || t == ['z'] ||
    ((t.head? == some '+' || isNegative t) &&
      match Text.split (· == ':') (t.drop 1) with
      | [hour, minute] => isNumber 2 0 23 hour && isNumber 2 0 59 minute
      | _ => false)

def isOffsetTime (t : Text) : Bool :=
  let isClock (c : Char) : Bool := c.isDigit || c == ':' || c == '.'
  isTime (t.takeWhile isClock) && isOffset (t.dropWhile isClock)

def isMoment (t : Text) : Bool :=
  isTime t || isDate t ||
    (isDate (t.take 10) && ['T', 't', ' '].contains ((t.drop 10).headD '-') &&
      isOffsetTime (t.drop 11))

def ofWord? (t : Text) : Option Toml :=
  if t = "true".toList then some (bool true)
  else if t = "false".toList then some (bool false)
  else
    match readInteger? t with
    | some n => some (integer n)
    | none => if isReal t then some (real t) else if isMoment t then some (time t) else none

def isWordChar (c : Char) : Bool := c.isAlpha || c.isDigit || ['_', '+', '-', '.', ':'].contains c

/-- A word; a date may be followed by a space and a time. -/
def readWord? (t : Text) : Option (Toml × Text) :=
  let word := t.takeWhile isWordChar
  let rest := t.dropWhile isWordChar
  let whole :=
    match rest with
    | ' ' :: c :: more =>
      if isDate word ∧ c.isDigit then
        (word ++ ' ' :: (c :: more).takeWhile isWordChar, (c :: more).dropWhile isWordChar)
      else (word, rest)
    | _ => (word, rest)
  (ofWord? whole.1).map (·, whole.2)

end SchemeCheck.Toml
