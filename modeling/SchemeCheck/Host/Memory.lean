import SchemeCheck.Glob
import SchemeCheck.Host.Basic
set_option autoImplicit false

namespace SchemeCheck

structure PlacedScope where
  row : Nat
  colBegin : Nat
  colEnd : Nat
  scope : Text
  deriving DecidableEq

structure MemoryHost where
  files : Dict Text
  build : Nat
  platform : Text
  root : Text
  placed : List PlacedScope
  defaultScope : Text
  score : Scorer
  unsupported : List Text
  renderError : Option Text

namespace MemoryHost

/-- More than the columns of a row; a point is a row and a column in one number. -/
def columns : Nat := 100000

def find (m : MemoryHost) (pattern : Text) : List Text :=
  m.files.keys.filter fun path => Glob.isMatch pattern (Resource.baseName path)

def load (m : MemoryHost) (path : Text) : Except ResourceError Text :=
  match m.files.get? path with
  | some content => .ok content
  | none => .error (.notFound path)

def fileName (m : MemoryHost) (resource : Text) : Text :=
  m.root ++ '/' :: (Text.after? Resource.packagesRoot resource).getD resource

def scopeAt (m : MemoryHost) (row column : Nat) : Text :=
  match m.placed.find? fun p => p.row = row ∧ p.colBegin ≤ column ∧ column < p.colEnd with
  | some p => p.scope
  | none => m.defaultScope

def view (m : MemoryHost) (theme : Theme) : View where
  textPoint row column := row * columns + column
  scopeName point := m.scopeAt (point / columns) (point % columns)
  style := theme.viewStyle
  styleForScope path := theme.scopeStyle m.score path

def toHost (m : MemoryHost) : Host where
  find := m.find
  load := m.load
  fileName := m.fileName
  canonical path := path
  isFile _ := false
  score := m.score
  build := m.build
  platform := m.platform
  assign file := if m.unsupported.contains file then .error (.unsupportedSyntax file) else .ok ()
  render _ _ theme _ :=
    match m.renderError with
    | some reason => .error (.render reason)
    | none => .ok (m.view theme)

end MemoryHost
end SchemeCheck
