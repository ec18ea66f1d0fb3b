import SchemeCheck.Fixture.Comment
import SchemeCheck.Text.Blank
import SchemeCheck.Text.Case
import SchemeCheck.Resource.Name
import SchemeCheck.Path
set_option autoImplicit false

namespace SchemeCheck

structure Header where
  colorScheme : Text
  syntaxName : Option Text
  skipIfMissing : Bool
  opener : Option CommentOpener
  deriving DecidableEq

namespace Header

def scriptTag : Text := "<?php ".toList

def title : Text := "COLOR SCHEME TEST \"".toList

def skipWords : Text := " SKIP IF NOT".toList

def readQuoted? (t : Text) : Option (Text × Text) :=
  match t.takeWhile (· != '"'), t.dropWhile (· != '"') with
  | c :: name, _ :: rest => some (c :: name, rest)
  | _, _ => none

def readOpener (t : Text) : Option CommentOpener × Text :=
  match CommentOpener.read? ((Text.after? scriptTag t).getD t) with
  | some (o, rest) => (some o, Text.trimStart rest)
  | none => (none, t)

def readSyntax (t : Text) : Option Text × Bool :=
  match (Text.after? (skipWords ++ [' ', '"']) t).bind readQuoted? with
  | some (name, _) => (some name, true)
  | none =>
    match (Text.after? [' ', '"'] t).bind readQuoted? with
    | some (name, _) => (some name, false)
    | none => (none, false)

/-- The header at the start of a document; what follows it is not looked at. -/
def read? (content : Text) : Option Header :=
  let (opener, rest) := readOpener content
  match (Text.after? title rest).bind readQuoted? with
  | none => none
  | some (colorScheme, rest) =>
    let (syntaxName, skipIfMissing) := readSyntax rest
    some { colorScheme, syntaxName, skipIfMissing, opener }

def render (h : Header) : Text :=
  (match h.opener with
    | some o => o.text ++ [' ']
    | none => []) ++
  title ++ h.colorScheme ++ ['"'] ++
  (match h.syntaxName with
    | some name => (if h.skipIfMissing then skipWords else []) ++ [' ', '"'] ++ name ++ ['"']
    | none => [])

def schemePath (h : Header) : Text := Resource.normalizeScheme h.colorScheme

/-- The syntax to render `fixture` with: the named one, or the file's extension in upper case. -/
def syntaxFor (h : Header) (fixture : Text) : Text :=
  h.syntaxName.getD (Text.upper ((Path.extension? fixture).getD []))

end Header
end SchemeCheck
