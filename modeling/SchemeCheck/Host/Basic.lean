import SchemeCheck.Error
import SchemeCheck.Host.Trace
import SchemeCheck.Theme.HostStyle
set_option autoImplicit false

namespace SchemeCheck

/-- A rendered buffer. Points are positions of the host's own. -/
structure View where
  textPoint : (row column : Nat) → Nat
  scopeName : (point : Nat) → Text
  style : HostStyle
  styleForScope : (path : Text) → HostStyle

structure Host where
  /-- The resources whose base name matches a pattern, in ascending order. -/
  find : (pattern : Text) → List Text
  load : (path : Text) → Except ResourceError Text
  fileName : (resource : Text) → Text
  /-- The real path of what exists; other paths stay as they are. -/
  canonical : (path : Text) → Text
  isFile : (path : Text) → Bool
  score : Scorer
  build : Nat
  platform : Text
  assign : (syntaxFile : Text) → Except FixtureError Unit
  render : (syntaxFile schemeName : Text) → Theme → (content : Text) → Except FixtureError View

namespace Host

def findResources (host : Host) (pattern : Text) : Traced (List Text) := do
  Traced.call (.find pattern)
  pure (host.find pattern)

def loadResource (host : Host) (path : Text) : Traced (Except ResourceError Text) := do
  Traced.call (.load path)
  pure (host.load path)

end Host
end SchemeCheck
