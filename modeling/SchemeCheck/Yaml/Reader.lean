import SchemeCheck.Yaml.Flow
set_option autoImplicit false

/-!
Reading YAML documents in block style: mappings and sequences by indentation, with flow style for the
values. Anchors, tags, block scalars and keys that are collections are not part of it. What follows the
first document is not looked at.
-/

namespace SchemeCheck.Yaml

def indent (line : Text) : Nat := (line.takeWhile (· == ' ')).length

def isFiller (t : Text) : Bool := (dropSpace t).head?.all (· == '#')

def skipFillerLines (lines : List Text) : List Text := lines.dropWhile isFiller

def afterDash? (content : Text) : Option Text :=
  match content with
  | '-' :: t => if atGap t then some t else none
  | _ => none

def readKey? (content : Text) : Option (YamlScalar × Text) :=
  let key? :=
    match readQuoted? content with
    | some (s, rest) => some (YamlScalar.string s, dropSpace rest)
    | none =>
      if opensPlain content then
        let (s, rest) := takePlain false content
        some (YamlScalar.ofPlain (trimSpaceEnd s), rest)
      else none
  key?.bind fun (key, rest) =>
    match rest with
    | ':' :: t => if atGap t then some (key, t) else none
    | _ => none

def foldPlain (least : Nat) (s : Text) : List Text → Option (Text × List Text)
  | [] => some (s, [])
  | line :: lines =>
    if isFiller line ∨ indent line < least then some (s, line :: lines)
    else
      let (more, rest) := takePlain false (dropSpace line)
      if isFiller rest then foldPlain least (s ++ ' ' :: trimSpaceEnd more) lines else none

def readPlain? (least : Nat) (content : Text) (lines : List Text) : Option (Yaml × List Text) :=
  if opensPlain content then
    let (s, rest) := takePlain false content
    if rest = [] then
      (foldPlain least (trimSpaceEnd s) lines).map fun (s, lines) => (scalar (.ofPlain s), lines)
    else if isFiller rest then some (scalar (.ofPlain (trimSpaceEnd s)), lines)
    else none
  else none

def readInline? (least : Nat) (content : Text) (lines : List Text) : Option (Yaml × List Text) :=
  if content.head?.any ['[', '{', '"', '\x27'].contains then
    let t := ['\n'].intercalate (content :: lines)
    (readFlow? (t.length + 1) t).bind fun (value, rest) =>
      if isFiller (rest.takeWhile (· != '\n')) then
        some (value, (Text.split (· == '\n') rest).drop 1)
      else none
  else readPlain? least content lines

mutual

/-- The value that lines indented by at least `least` hold. The first of them may be the rest of a
line, filled up with spaces. -/
def readNode? : (fuel : Nat) → (least : Nat) → List Text → Option (Yaml × List Text)
  | 0, _, _ => none
  | fuel + 1, least, lines =>
    match skipFillerLines lines with
    | [] => some (null, [])
    | line :: rest =>
      if indent line < least then some (null, line :: rest)
      else
        let content := line.drop (indent line)
        match afterDash? content, readKey? content with
        | some _, _ =>
          (readSequence? fuel (indent line) (line :: rest)).map fun (items, lines) =>
            (sequence items, lines)
        | none, some _ => readMapping? fuel (indent line) [] (line :: rest)
        | none, none => readInline? least content rest

def readSequence? : (fuel : Nat) → (column : Nat) → List Text → Option (List Yaml × List Text)
  | 0, _, _ => none
  | fuel + 1, column, lines =>
    match skipFillerLines lines with
    | [] => some ([], [])
    | line :: rest =>
      if indent line < column then some ([], line :: rest)
      else if column < indent line then none
      else
        match afterDash? (line.drop column) with
        | none => some ([], line :: rest)
        | some after =>
          (readNode? fuel (column + 1) ((Text.spaces (column + 1) ++ after) :: rest)).bind
            fun (item, lines) =>
              (readSequence? fuel column lines).map fun (items, lines) => (item :: items, lines)

def readMapping? : (fuel : Nat) → (column : Nat) → List (YamlScalar × Yaml) → List Text →
    Option (Yaml × List Text)
  | 0, _, _, _ => none
  | fuel + 1, column, entries, lines =>
    match skipFillerLines lines with
    | [] => some (mapping entries, [])
    | line :: rest =>
      if indent line < column then some (mapping entries, line :: rest)
      else if column < indent line then none
      else
        match readKey? (line.drop column) with
        | none => none
        | some (key, after) =>
          let value? :=
            if isFiller after then
              match skipFillerLines rest with
              | [] => some (null, [])
              | next :: _ =>
                if indent next = column ∧ (afterDash? (next.drop column)).isSome then
                  (readSequence? fuel column rest).map fun (items, lines) => (sequence items, lines)
                else readNode? fuel (column + 1) rest
            else readInline? (column + 1) (dropSpace after) rest
          value?.bind fun (value, lines) =>
            readMapping? fuel column (addEntry entries key value) lines

end

def startMark : Text := "---".toList

def endMark : Text := "...".toList

def afterMark? (mark line : Text) : Option Text :=
  (Text.after? mark line).filter atGap

/-- The lines of the first document. Directives need a start mark after them. -/
def documentLines? (lines : List Text) : Option (List Text) :=
  let isDirective (line : Text) : Bool := line.head? == some '%'
  let isMark (line : Text) : Bool :=
    (afterMark? startMark line).isSome || (afterMark? endMark line).isSome
  match skipFillerLines lines with
  | [] => none
  | line :: rest =>
    let opened := (line :: rest).dropWhile fun l => isDirective l || isFiller l
    match opened.head?.bind (afterMark? startMark) with
    | some after => some (((Text.spaces 3 ++ after) :: opened.drop 1).takeWhile (!isMark ·))
    | none => if isDirective line then none else some ((line :: rest).takeWhile (!isMark ·))

def read? (t : Text) : Option Yaml :=
  (documentLines? (Text.lines t)).bind fun lines =>
    match readNode? (2 * t.length + 4) 0 lines with
    | some (value, rest) => if skipFillerLines rest = [] then some value else none
    | none => none

end SchemeCheck.Yaml
