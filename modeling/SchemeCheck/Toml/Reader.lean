import SchemeCheck.Toml.Scalar
set_option autoImplicit false

namespace SchemeCheck.Toml

def skipBlank (t : Text) : Text := t.dropWhile fun c => c == ' ' || c == '\t'

/-- How deep arrays and inline tables may nest, and how many parts a key may have. -/
def maxDepth : Nat := 79

def afterComment? (t : Text) : Option Text :=
  match t.dropWhile isPlain with
  | [] => some []
  | rest => (afterBreak? rest).map fun _ => rest

def skipFiller? : (fuel : Nat) → Text → Option Text
  | 0, t => some t
  | fuel + 1, t =>
    match skipBlank t with
    | '#' :: rest => (afterComment? rest).bind (skipFiller? fuel)
    | rest =>
      match afterBreak? rest with
      | some rest => skipFiller? fuel rest
      | none => some rest

def endLine? (t : Text) : Option Text :=
  let rest? :=
    match skipBlank t with
    | '#' :: rest => afterComment? rest
    | rest => some rest
  rest?.bind fun rest => if rest = [] then some [] else afterBreak? rest

def isKeyChar (c : Char) : Bool := c.isAlpha || c.isDigit || c == '_' || c == '-'

def readPart? (t : Text) : Option (Text × Text) :=
  match t with
  | '"' :: rest => readLine? '"' (t.length + 1) rest
  | '\x27' :: rest => readLine? '\x27' (t.length + 1) rest
  | t =>
    let word := t.takeWhile isKeyChar
    if word = [] then none else some (word, t.dropWhile isKeyChar)

def readParts? : (parts : Nat) → Text → Option (List Text × Text)
  | 0, _ => none
  | parts + 1, t =>
    (readPart? (skipBlank t)).bind fun (part, rest) =>
      match skipBlank rest with
      | '.' :: rest => (readParts? parts rest).map fun (more, rest) => (part :: more, rest)
      | rest => some ([part], rest)

def readKey? (t : Text) : Option (List Text × Text) := readParts? maxDepth t

def readPair? (value? : Text → Option (Toml × Text)) (t : Text) :
    Option ((List Text × Toml) × Text) :=
  (readKey? t).bind fun (key, rest) =>
    match rest with
    | '=' :: rest => (value? (skipBlank rest)).map fun (value, rest) => ((key, value), rest)
    | _ => none

def putKey? (key : List Text) (value : Toml) (entries : TomlEntries) : Option TomlEntries :=
  key.getLast?.bind fun last => put? key.dropLast last value entries

/-- Items up to the closing bracket; one comma may follow the last. -/
def readItems? (value? : Text → Option (Toml × Text)) : (fuel : Nat) → Text →
    Option (List Toml × Text)
  | 0, _ => none
  | fuel + 1, t =>
    (skipFiller? t.length t).bind fun rest =>
      match rest with
      | ']' :: rest => some ([], rest)
      | rest =>
        (value? rest).bind fun (item, rest) =>
          (skipFiller? rest.length rest).bind fun rest =>
            match rest with
            | ']' :: rest => some ([item], rest)
            | ',' :: rest =>
              (readItems? value? fuel rest).map fun (items, rest) => (item :: items, rest)
            | _ => none

def readEntries? (value? : Text → Option (Toml × Text)) : (fuel : Nat) → TomlEntries → Text →
    Option (TomlEntries × Text)
  | 0, _, _ => none
  | fuel + 1, entries, t =>
    (readPair? value? t).bind fun ((key, value), rest) =>
      (putKey? key value entries).bind fun entries =>
        match skipBlank rest with
        | '}' :: rest => some (entries, rest)
        | ',' :: rest => readEntries? value? fuel entries rest
        | _ => none

def readValue? : (depth : Nat) → Text → Option (Toml × Text)
  | depth, t =>
    match t with
    | '[' :: rest =>
      match depth with
      | 0 => none
      | depth + 1 =>
        (readItems? (readValue? depth) (rest.length + 1) rest).map fun (items, rest) =>
          (array items, rest)
    | '{' :: rest =>
      match depth with
      | 0 => none
      | depth + 1 =>
        match skipBlank rest with
        | '}' :: rest => some (inline [], rest)
        | rest =>
          (readEntries? (readValue? depth) (rest.length + 1) [] rest).map fun (entries, rest) =>
            (inline entries, rest)
    | '"' :: _ => (readString? t).map fun (s, rest) => (string s, rest)
    | '\x27' :: _ => (readString? t).map fun (s, rest) => (string s, rest)
    | t => readWord? t

/-- A header between brackets: what it opens, and the closing brackets. -/
def readHeader? (t : Text) : Option ((List Text × (Option Toml → Option Toml)) × Text) :=
  match t with
  | '[' :: '[' :: rest =>
    (readKey? rest).bind fun (key, rest) =>
      (Text.after? [']', ']'] rest).map fun rest => ((key, openNext?), rest)
  | '[' :: rest =>
    (readKey? rest).bind fun (key, rest) =>
      (Text.after? [']'] rest).map fun rest => ((key, openTable?), rest)
  | _ => none

/-- The entries with those of a document from the start of a line on, where the last header had the
path `header`. -/
def readLinesInto? : (fuel : Nat) → (header : List Text) → TomlEntries → Text → Option TomlEntries
  | 0, _, _, _ => none
  | fuel + 1, header, entries, t =>
    (skipFiller? t.length t).bind fun t =>
      if t = [] then some entries
      else if t.head? = some '[' then
        (readHeader? t).bind fun ((path, opening), rest) =>
          (endLine? rest).bind fun rest =>
            (alter? opening path entries).bind fun entries => readLinesInto? fuel path entries rest
      else
        (readPair? (readValue? maxDepth) t).bind fun ((key, value), rest) =>
          (endLine? rest).bind fun rest =>
            let next? :=
              if header = [] then putKey? key value entries
              else
                key.getLast?.bind fun last =>
                  alter? (putInto? key.dropLast last value) header entries
            next?.bind fun entries => readLinesInto? fuel header entries rest

def dropMark : Text → Text
  | '\ufeff' :: t => t
  | t => t

def read? (t : Text) : Option TomlEntries := readLinesInto? (t.length + 1) [] [] (dropMark t)

end SchemeCheck.Toml
