import SchemeCheck.Number.Decimal
import SchemeCheck.Regex.Basic
set_option autoImplicit false

namespace SchemeCheck.Regex

def controls : List (Char × Char) :=
  [('n', '\n'), ('t', '\t'), ('r', '\r'), ('f', '\x0c'), ('v', '\x0b'), ('a', '\x07'), ('e', '\x1b')]

/-- Escapes that stand for a class; the upper-case letters negate it. -/
def classes : List (Char × CharSet) :=
  [('d', .digit), ('w', .word), ('s', .blank), ('h', .hexDigit), ('D', .complement .digit),
    ('W', .complement .word), ('S', .complement .blank), ('H', .complement .hexDigit)]

def ofCode? (digits : Text) : Option CharSet :=
  (Decimal.readBase? 16 digits).bind fun n =>
    if (Char.ofNat n).toNat = n then some (.only (Char.ofNat n)) else none

def readCode? (width : Nat) (t : Text) : Option (CharSet × Text) :=
  match t with
  | '{' :: t =>
    match t.dropWhile (· != '}') with
    | [] => none
    | _ :: rest => (ofCode? (t.takeWhile (· != '}'))).map (·, rest)
  | t => if t.length < width then none else (ofCode? (t.take width)).map (·, t.drop width)

/-- The set that an escape without its backslash stands for. Letters and digits have meanings of
their own or none; all other characters stand for themselves. -/
def readEscape? : Text → Option (CharSet × Text)
  | [] => none
  | c :: t =>
    match classes.lookup c, controls.lookup c with
    | some set, _ => some (set, t)
    | _, some d => some (.only d, t)
    | _, _ =>
      if c = 'x' then readCode? 2 t
      else if c = 'u' then readCode? 4 t
      else if c.isAlpha || c.isDigit then none
      else some (.only c, t)

def readMember? : Text → Option (CharSet × Text)
  | '\\' :: t => readEscape? t
  | '[' :: _ => none
  | c :: t => some (.only c, t)
  | [] => none

def rangeBetween? : CharSet → CharSet → Option CharSet
  | .range a a', .range b b' => if a = a' ∧ b = b' ∧ a ≤ b then some (.range a b) else none
  | _, _ => none

def readRange? (t : Text) : Option (CharSet × Text) :=
  match readMember? t with
  | none => none
  | some (low, rest) =>
    match rest with
    | '-' :: c :: rest' =>
      if c = ']' ∨ c = '-' then some (low, rest)
      else
        match readMember? (c :: rest') with
        | none => none
        | some (high, rest'') => (rangeBetween? low high).map (·, rest'')
    | _ => some (low, rest)

def readMembers? : (fuel : Nat) → CharSet → Text → Option (CharSet × Text)
  | 0, _, _ => none
  | _, set, ']' :: t => some (set, t)
  | fuel + 1, set, t => (readRange? t).bind fun (member, rest) => readMembers? fuel (set.union member) rest

/-- A bracket that comes first stands for itself. -/
def readPositive? : Text → Option (CharSet × Text)
  | ']' :: t => readMembers? (t.length + 1) (.only ']') t
  | t => readMembers? (t.length + 1) .none t

def readClass? : Text → Option (CharSet × Text)
  | '^' :: t => (readPositive? t).map fun (set, rest) => (set.complement, rest)
  | t => readPositive? t

def anchors : List (Char × Anchor) :=
  [('b', .wordEdge), ('B', .noWordEdge), ('<', .wordStart), ('>', .wordEnd), ('A', .lineStart)]

def readEscapedAtom? : Text → Option (Regex × Text)
  | [] => none
  | c :: t =>
    match anchors.lookup c with
    | some a => some (anchor a, t)
    | none => (readEscape? (c :: t)).map fun (set, rest) => (char set, rest)

def readAtom? : Text → Option (Regex × Text)
  | '.' :: t => some (anyChar, t)
  | '^' :: t => some (anchor .lineStart, t)
  | '$' :: t => some (anchor .lineEnd, t)
  | '[' :: t => (readClass? t).map fun (set, rest) => (char set, rest)
  | '\\' :: t => readEscapedAtom? t
  | c :: t => if ['*', '+', '?'].contains c then none else some (char (.only c), t)
  | [] => none

def leadingNumber? (t : Text) : Option Nat := Decimal.read? (t.takeWhile Char.isDigit)

def readBounds? (t : Text) : Option ((Nat × Option Nat) × Text) :=
  match leadingNumber? t, t.dropWhile Char.isDigit with
  | some n, '}' :: rest => some ((n, some n), rest)
  | least, ',' :: rest =>
    match rest.dropWhile Char.isDigit with
    | '}' :: rest' => some ((least.getD 0, leadingNumber? rest), rest')
    | _ => none
  | _, _ => none

/-- The bounds of a repetition, if one follows. Braces that hold no bounds stand for themselves. -/
def readRepetition? : Text → Option ((Nat × Option Nat) × Text)
  | '*' :: t => some ((0, none), t)
  | '+' :: t => some ((1, none), t)
  | '?' :: t => some ((0, some 1), t)
  | '{' :: t => readBounds? t
  | _ => none

/-- Only what can take characters may be repeated. -/
def isRepeatable : Regex → Bool
  | empty => false
  | anchor _ => false
  | _ => true

def withRepetition? (r : Regex) (t : Text) : Option (Regex × Text) :=
  match readRepetition? t with
  | none => some (r, t)
  | some ((least, most), rest) =>
    if isRepeatable r ∧ most.all (least ≤ ·) then
      match rest with
      | '?' :: rest => some (times least most false r, rest)
      | rest => some (times least most true r, rest)
    else none

/-- The alternatives up to a closing parenthesis or the end, when `done` has been read of the first
and `index` is the number of the next group; with the number that is next after them. -/
def readAlternatives? : (fuel : Nat) → (done : Regex) → (index : Nat) → Text →
    Option (Regex × Nat × Text)
  | 0, _, _, _ => none
  | _ + 1, done, index, [] => some (done, index, [])
  | fuel + 1, done, index, c :: t =>
    if c = ')' then some (done, index, c :: t)
    else if c = '|' then
      (readAlternatives? fuel empty index t).map fun (other, index, rest) => (alt done other, index, rest)
    else if c = '(' then
      let inner? :=
        match Text.after? ['?', ':'] t with
        | some t => readAlternatives? fuel empty index t
        | none =>
          if t.head? = some '?' then none
          else
            (readAlternatives? fuel empty (index + 1) t).map fun (inner, next, rest) =>
              (group index inner, next, rest)
      match inner? with
      | some (inner, next, ')' :: rest) =>
        (withRepetition? inner rest).bind fun (piece, rest) =>
          readAlternatives? fuel (seq done piece) next rest
      | _ => none
    else
      (readAtom? (c :: t)).bind fun (atom, rest) =>
        (withRepetition? atom rest).bind fun (piece, rest) =>
          readAlternatives? fuel (seq done piece) index rest

def read? (t : Text) : Option (Regex × Nat) :=
  match readAlternatives? (t.length + 1) empty 1 t with
  | some (r, next, []) => some (r, next - 1)
  | _ => none

end SchemeCheck.Regex
