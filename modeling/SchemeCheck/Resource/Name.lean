import SchemeCheck.Text.Basic
set_option autoImplicit false

namespace SchemeCheck.Resource

def packagesRoot : Text := "Packages/".toList

def rooted (name : Text) : Text :=
  if Text.startsWith packagesRoot name then name else packagesRoot ++ name

def baseName (resource : Text) : Text := Text.afterLast (· == '/') resource

def package? (resource : Text) : Option Text :=
  match Text.after? packagesRoot resource with
  | none => none
  | some rest =>
    let package := rest.takeWhile (· != '/')
    if package = [] then none else some package

def modernSuffixes : List Text := [".sublime-color-scheme".toList, ".hidden-color-scheme".toList]

/-- Modern color schemes are JSON documents, all others property lists. -/
def isModern (scheme : Text) : Bool := modernSuffixes.any fun s => Text.endsWith s scheme

/-- A modern scheme named without a directory is left to a search; every other name is rooted. -/
def normalizeScheme (scheme : Text) : Text :=
  if isModern scheme ∧ !scheme.contains '/' then scheme else rooted scheme

def fixtureStem : Text := "color_scheme_test".toList

def isAsciiAlphanumeric (c : Char) : Bool := c.isAlpha || c.isDigit

/-- A fixture is named by the stem, anything without a line feed, a dot and a letter or digit or
more of them up to the end. -/
def isFixtureName (path : Text) : Bool :=
  match Text.after? fixtureStem (Text.afterLast (fun c => c == '/' || c == '\\') path) with
  | none => false
  | some rest =>
    let extension := Text.afterLast (· == '.') rest
    rest.contains '.' && !extension.isEmpty && extension.all isAsciiAlphanumeric &&
      !rest.contains '\n'

def syntaxSuffixes : List Text :=
  [".sublime-syntax".toList, ".tmLanguage".toList, ".hidden-tmLanguage".toList]

/-- A syntax that no package holds is named like a file in a package of its own. -/
def ofSyntax (name : Text) : Text :=
  packagesRoot ++ name ++ '/' :: name ++ ".sublime-syntax".toList

end SchemeCheck.Resource
