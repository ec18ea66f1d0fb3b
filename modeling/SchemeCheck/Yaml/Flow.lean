import SchemeCheck.Yaml.Value
set_option autoImplicit false

namespace SchemeCheck.Yaml

def isSpace (c : Char) : Bool := c == ' ' || c == '\t'

def dropSpace (t : Text) : Text := t.dropWhile isSpace

/-- A line break and the blank lines after it, folded: one break is a space, and of more the first
is left out. -/
def foldBreaks : (breaks : Nat) → Text → Text × Text
  | breaks, '\n' :: t => foldBreaks (breaks + 1) t
  | breaks, ' ' :: t => foldBreaks breaks t
  | breaks, '\t' :: t => foldBreaks breaks t
  | breaks, t => (if breaks = 1 then [' '] else List.replicate (breaks - 1) '\n', t)

def readBreak? (t : Text) : Option (Text × Text) :=
  match dropSpace t with
  | '\n' :: rest => some (foldBreaks 1 rest)
  | _ => none

/-- A scalar after its opening single quote; a quote inside is written twice. -/
def readSingleQuoted? : (fuel : Nat) → Text → Option (Text × Text)
  | 0, _ => none
  | _, [] => none
  | fuel + 1, '\x27' :: '\x27' :: t =>
    (readSingleQuoted? fuel t).map fun (s, rest) => ('\x27' :: s, rest)
  | _, '\x27' :: t => some ([], t)
  | fuel + 1, c :: t =>
    match readBreak? (c :: t) with
    | some (folded, rest) =>
      (readSingleQuoted? fuel rest).map fun (s, rest) => (folded ++ s, rest)
    | none => (readSingleQuoted? fuel t).map fun (s, rest) => (c :: s, rest)

def escapes : List (Char × Char) :=
  [('0', '\x00'), ('a', '\x07'), ('b', '\x08'), ('t', '\t'), ('\t', '\t'), ('n', '\n'), ('v', '\x0b'),
    ('f', '\x0c'), ('r', '\r'), ('e', '\x1b'), (' ', ' '), ('"', '"'), ('/', '/'), ('\\', '\\'),
    ('N', '\u0085'), ('_', '\u00a0'), ('L', '\u2028'), ('P', '\u2029')]

def codeEscapes : List (Char × Nat) := [('x', 2), ('u', 4), ('U', 8)]

def readEscape? : Text → Option (Char × Text)
  | [] => none
  | c :: t =>
    match escapes.lookup c, codeEscapes.lookup c with
    | some d, _ => some (d, t)
    | none, some width =>
      if t.length < width then none
      else
        (Decimal.readBase? 16 (t.take width)).bind fun n =>
          if (Char.ofNat n).toNat = n then some (Char.ofNat n, t.drop width) else none
    | none, none => none

/-- A scalar after its opening double quote. A backslash before a line break joins the lines. -/
def readDoubleQuoted? : (fuel : Nat) → Text → Option (Text × Text)
  | 0, _ => none
  | _, [] => none
  | _, '"' :: t => some ([], t)
  | fuel + 1, '\\' :: '\n' :: t => readDoubleQuoted? fuel (dropSpace t)
  | fuel + 1, '\\' :: t =>
    (readEscape? t).bind fun (c, rest) =>
      (readDoubleQuoted? fuel rest).map fun (s, rest) => (c :: s, rest)
  | fuel + 1, c :: t =>
    match readBreak? (c :: t) with
    | some (folded, rest) =>
      (readDoubleQuoted? fuel rest).map fun (s, rest) => (folded ++ s, rest)
    | none => (readDoubleQuoted? fuel t).map fun (s, rest) => (c :: s, rest)

def readQuoted? : Text → Option (Text × Text)
  | '\x27' :: t => readSingleQuoted? (t.length + 1) t
  | '"' :: t => readDoubleQuoted? (t.length + 1) t
  | _ => none

def isFlowIndicator (c : Char) : Bool := [',', '[', ']', '{', '}'].contains c

def isIndicator (c : Char) : Bool :=
  isFlowIndicator c || ['#', '&', '*', '!', '|', '>', '\x27', '"', '%', '@', '\x60'].contains c

def atGap (t : Text) : Bool := t.head?.all fun c => isSpace c || c == '\n'

def opensPlain : Text → Bool
  | [] => false
  | c :: t =>
    if c == '-' || c == '?' || c == ':' then !atGap t
    else !(isIndicator c || isSpace c || c == '\n')

/-- The characters of a plain scalar on one line, and what follows them: a colon before a gap, a
comment, or the end. In flow style indicators end it as well, and a colon before one. -/
def takePlain (flow : Bool) : Text → Text × Text
  | [] => ([], [])
  | c :: t =>
    if c == '\n' || (flow && isFlowIndicator c) || (isSpace c && (dropSpace t).head? == some '#') ||
        (c == ':' && (atGap t || (flow && t.head?.any isFlowIndicator))) then
      ([], c :: t)
    else
      let (s, rest) := takePlain flow t
      (c :: s, rest)

def trimSpaceEnd (t : Text) : Text := Text.dropEndWhile isSpace t

/-- Drops spaces, line breaks and comments; `gap` tells whether a comment may start. -/
def skipFiller : (gap : Bool) → Text → Text
  | _, [] => []
  | gap, c :: t =>
    if isSpace c || c == '\n' then skipFiller true t
    else if gap && c == '#' then skipComment t
    else c :: t
where
  skipComment : Text → Text
    | [] => []
    | '\n' :: t => skipFiller true t
    | _ :: t => skipComment t

def readFlowScalar? (t : Text) : Option (YamlScalar × Text) :=
  match readQuoted? t with
  | some (s, rest) => some (.string s, rest)
  | none =>
    if opensPlain t then
      let (s, rest) := takePlain true t
      some (.ofPlain (trimSpaceEnd s), rest)
    else none

mutual

def readFlow? : (fuel : Nat) → Text → Option (Yaml × Text)
  | 0, _ => none
  | fuel + 1, t =>
    match t with
    | '[' :: t => (readItems? fuel (skipFiller true t)).map fun (items, rest) => (sequence items, rest)
    | '{' :: t => readEntries? fuel [] (skipFiller true t)
    | t => (readFlowScalar? t).map fun (s, rest) => (scalar s, rest)

def readItems? : (fuel : Nat) → Text → Option (List Yaml × Text)
  | 0, _ => none
  | _, ']' :: t => some ([], t)
  | fuel + 1, t =>
    (readFlow? fuel t).bind fun (item, rest) =>
      match skipFiller false rest with
      | ']' :: rest => some ([item], rest)
      | ',' :: rest =>
        (readItems? fuel (skipFiller true rest)).map fun (items, rest) => (item :: items, rest)
      | _ => none

def readEntries? : (fuel : Nat) → List (YamlScalar × Yaml) → Text → Option (Yaml × Text)
  | 0, _, _ => none
  | _, entries, '}' :: t => some (mapping entries, t)
  | fuel + 1, entries, t =>
    (readFlowScalar? t).bind fun (key, rest) =>
      let value? :=
        match skipFiller false rest with
        | ':' :: rest =>
          match skipFiller true rest with
          | ',' :: rest => some (null, ',' :: rest)
          | '}' :: rest => some (null, '}' :: rest)
          | rest => readFlow? fuel rest
        | rest => some (null, rest)
      value?.bind fun (value, rest) =>
        match skipFiller false rest with
        | '}' :: rest => some (mapping (addEntry entries key value), rest)
        | ',' :: rest => readEntries? fuel (addEntry entries key value) (skipFiller true rest)
        | _ => none

end

end SchemeCheck.Yaml
