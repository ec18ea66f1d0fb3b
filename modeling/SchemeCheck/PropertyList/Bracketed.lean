import SchemeCheck.PropertyList.Scalar
import SchemeCheck.PropertyList.Value
set_option autoImplicit false

/-!
Property lists in their older form with brackets and braces. Separators carry no meaning: any closing
bracket ends the innermost collection, and commas, semicolons and equals signs are skipped like
white space.
-/

namespace SchemeCheck.PropertyList.Bracketed

def endsWord (c : Char) : Bool :=
  c == ' ' || c == ')' || c == '\r' || c == '\t' || c == ';' || c == ','

def wordValue (word : Text) : PropertyList :=
  match readInteger? word with
  | some (some n) => .unsigned n
  | some none => .other
  | none => .string word

def escapes : List (Char × Char) :=
  [('a', '\x07'), ('b', '\x08'), ('f', '\x0c'), ('n', '\n'), ('r', '\r'), ('t', '\t'), ('v', '\x0b')]

def readCode? (base width : Nat) (t : Text) : Option (Nat × Text) :=
  if t.length < width then none
  else (Decimal.readBase? base (t.take width)).map (·, t.drop width)

/-- The character of a code of sixteen bits, or of two that make a surrogate pair. -/
def readUnits? (t : Text) : Option (Char × Text) :=
  match readCode? 16 4 t with
  | none => none
  | some (high, rest) =>
    if high < 0xD800 ∨ 0xDFFF < high then some (Char.ofNat high, rest)
    else
      match (Text.after? ['\\', 'U'] rest).bind (readCode? 16 4) with
      | none => none
      | some (low, rest) =>
        if high < 0xDC00 ∧ 0xDC00 ≤ low ∧ low ≤ 0xDFFF then
          some (Char.ofNat (0x10000 + (high - 0xD800) * 0x400 + (low - 0xDC00)), rest)
        else none

def readEscape? : Text → Option (Char × Text)
  | [] => none
  | c :: t =>
    if c = 'U' then readUnits? t
    else if '0' ≤ c ∧ c ≤ '7' then (readCode? 8 3 (c :: t)).map fun (n, rest) => (Char.ofNat n, rest)
    else some ((escapes.lookup c).getD c, t)

def readQuoted? (quote : Char) : (fuel : Nat) → Text → Option (Text × Text)
  | 0, _ => none
  | _, [] => none
  | fuel + 1, c :: t =>
    if c = quote then some ([], t)
    else if c = '\\' then
      (readEscape? t).bind fun (d, rest) =>
        (readQuoted? quote fuel rest).map fun (s, rest) => (d :: s, rest)
    else (readQuoted? quote fuel t).map fun (s, rest) => (c :: s, rest)

def afterComment? : Text → Option Text
  | [] => none
  | '*' :: '/' :: t => some t
  | _ :: t => afterComment? t

/-- The events of a text; each step takes a character, so its length bounds their number. -/
def events? : (fuel : Nat) → Text → Option (List Event)
  | _, [] => some []
  | 0, _ => none
  | fuel + 1, c :: t =>
    if c = '(' then (events? fuel t).map (.openArray :: ·)
    else if c = '{' then (events? fuel t).map (.openDictionary :: ·)
    else if c = ')' ∨ c = '}' then (events? fuel t).map (.close :: ·)
    else if [',', ';', '=', ' ', '\r', '\t', '\n'].contains c then events? fuel t
    else if c = '"' ∨ c = '\x27' then
      match readQuoted? c t.length t with
      | none => none
      | some (s, rest) => (events? fuel rest).map (.scalar (.string s) :: ·)
    else if c = '/' ∧ t.head? = some '/' then events? fuel (t.dropWhile (· != '\n'))
    else if c = '/' ∧ t.head? = some '*' then
      match afterComment? (t.drop 1) with
      | none => none
      | some rest => events? fuel rest
    else
      (events? fuel (t.dropWhile (!endsWord ·))).map
        (.scalar (wordValue (c :: t.takeWhile (!endsWord ·))) :: ·)

def read? (t : Text) : Option PropertyList := (events? t.length t).bind ofEvents?

end SchemeCheck.PropertyList.Bracketed
