import SchemeCheck.PropertyList.Scalar
import SchemeCheck.PropertyList.Value
import SchemeCheck.Text.Blank
set_option autoImplicit false

namespace SchemeCheck.PropertyList.Markup

inductive Token where
  | openTag (name : Text)
  | closeTag (name : Text)
  | text (t : Text)
  /-- A reference: the character it stands for, or none for an unknown name. -/
  | reference (c : Option Char)
  | skipped

def isSpace (c : Char) : Bool := c == ' ' || c == '\t' || c == '\n' || c == '\r'

def cutAt? (ending : Text) : Text → Option (Text × Text)
  | [] => none
  | c :: t =>
    match Text.after? ending (c :: t) with
    | some rest => some ([], rest)
    | none => (cutAt? ending t).map fun (body, rest) => (c :: body, rest)

/-- The inside of a tag up to its closing bracket, which does not stand between quotes. -/
def cutTag? : (quote : Option Char) → Text → Option (Text × Text)
  | _, [] => none
  | none, c :: t =>
    if c = '>' then some ([], t)
    else
      (cutTag? (if c = '"' ∨ c = '\x27' then some c else none) t).map fun (body, rest) =>
        (c :: body, rest)
  | some q, c :: t =>
    (cutTag? (if c = q then none else some q) t).map fun (body, rest) => (c :: body, rest)

def afterDeclaration? : (depth : Nat) → Text → Option Text
  | _, [] => none
  | depth, '<' :: t => afterDeclaration? (depth + 1) t
  | 0, '>' :: t => some t
  | depth + 1, '>' :: t => afterDeclaration? depth t
  | depth, _ :: t => afterDeclaration? depth t

def namedCharacters : List (Text × Char) :=
  [("lt".toList, '<'), ("gt".toList, '>'), ("amp".toList, '&'), ("apos".toList, '\x27'),
    ("quot".toList, '"')]

/-- The character of a number, which is neither zero nor a surrogate. -/
def character? (n : Nat) : Option Char :=
  if n ≠ 0 ∧ n.isValidChar then some (Char.ofNat n) else none

def reference? : Text → Option Token
  | '#' :: 'x' :: digits =>
    ((Decimal.readBase? 16 digits).bind character?).map fun c => .reference (some c)
  | '#' :: digits => ((Decimal.read? digits).bind character?).map fun c => .reference (some c)
  | name => some (.reference (namedCharacters.lookup name))

def tagTokens (inside : Text) : List Token :=
  let nameOf (t : Text) := t.takeWhile (!isSpace ·)
  match Text.before? ['/'] inside with
  | some body => [.openTag (nameOf body), .closeTag (nameOf body)]
  | none => [.openTag (nameOf inside)]

def next? (t : Text) : Option (List Token × Text) :=
  match t with
  | [] => none
  | '<' :: '!' :: '-' :: '-' :: t => (cutAt? "-->".toList t).map fun (_, rest) => ([.skipped], rest)
  | '<' :: '!' :: '[' :: t =>
    (Text.after? "CDATA[".toList t).bind fun t =>
      (cutAt? "]]>".toList t).map fun (_, rest) => ([.skipped], rest)
  | '<' :: '!' :: t =>
    if (t.take 7).map Char.toUpper = "DOCTYPE".toList then
      (afterDeclaration? 0 (t.drop 7)).map fun rest => ([.skipped], rest)
    else none
  | '<' :: '?' :: t => (cutAt? "?>".toList t).map fun (_, rest) => ([.skipped], rest)
  | '<' :: '/' :: t =>
    (cutAt? ['>'] t).map fun (name, rest) => ([.closeTag (Text.dropEndWhile isSpace name)], rest)
  | '<' :: t => (cutTag? none t).map fun (inside, rest) => (tagTokens inside, rest)
  | '&' :: t =>
    match t.dropWhile (fun c => c != ';' && c != '&' && c != '<') with
    | ';' :: rest =>
      (reference? (t.takeWhile (fun c => c != ';' && c != '&' && c != '<'))).map fun token =>
        ([token], rest)
    | _ => none
  | t =>
    let isText (c : Char) := c != '<' && c != '&'
    some ([.text (t.takeWhile isText)], t.dropWhile isText)

/-- All tokens; each takes a character, so the length of the text bounds their number. -/
def tokens? : (fuel : Nat) → Text → Option (List Token)
  | _, [] => some []
  | 0, _ => none
  | fuel + 1, t =>
    match next? t with
    | none => none
    | some (first, rest) => (tokens? fuel rest).map (first ++ ·)

/-- Whether every closing tag names the tag opened last; tags may stay open at the end. -/
def closesInOrder : (opened : List Text) → List Token → Bool
  | _, [] => true
  | opened, .openTag name :: ts => closesInOrder (name :: opened) ts
  | name :: opened, .closeTag name' :: ts => name = name' && closesInOrder opened ts
  | [], .closeTag _ :: _ => false
  | opened, _ :: ts => closesInOrder opened ts

def localName (name : Text) : Text := Text.afterLast (· == ':') name

def content? : List Token → Option (Text × List Token)
  | [] => none
  | .openTag _ :: _ => none
  | .closeTag _ :: ts => some ([], ts)
  | .text t :: ts => (content? ts).map fun (s, rest) => (t ++ s, rest)
  | .reference c :: ts => (content? ts).map fun (s, rest) => (c.toList ++ s, rest)
  | .skipped :: ts => content? ts

def scalar? (name content : Text) : Option PropertyList :=
  if name = "key".toList ∨ name = "string".toList then some (.string content)
  else if name = "integer".toList then
    (readInteger? content).map fun
      | some n => .unsigned n
      | none => .other
  else if name = "real".toList then if isReal content then some .other else none
  else if name = "date".toList then if isDate content then some .other else none
  else if name = "data".toList then if isData content then some .other else none
  else none

def events? : (fuel : Nat) → List Token → Option (List Event)
  | _, [] => some []
  | 0, _ => none
  | fuel + 1, t :: ts =>
    match t with
    | .skipped | .reference _ => events? fuel ts
    | .text s => if s.all isBlank then events? fuel ts else none
    | .closeTag name =>
      if localName name = "array".toList ∨ localName name = "dict".toList then
        (events? fuel ts).map (.close :: ·)
      else events? fuel ts
    | .openTag name =>
      let name := localName name
      if name = "plist".toList then events? fuel ts
      else if name = "array".toList then (events? fuel ts).map (.openArray :: ·)
      else if name = "dict".toList then (events? fuel ts).map (.openDictionary :: ·)
      else if name = "true".toList ∨ name = "false".toList then
        (events? fuel ts).map (.scalar .other :: ·)
      else
        match content? ts with
        | none => none
        | some (content, rest) =>
          match scalar? name content with
          | none => none
          | some v => (events? fuel rest).map (.scalar v :: ·)

def read? (t : Text) : Option PropertyList :=
  (tokens? t.length t).bind fun ts =>
    if closesInOrder [] ts then (events? ts.length ts).bind ofEvents? else none

end SchemeCheck.PropertyList.Markup
