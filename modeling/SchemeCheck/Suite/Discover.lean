import SchemeCheck.Host.Basic
import SchemeCheck.Path
import SchemeCheck.Resource.Name
set_option autoImplicit false

namespace SchemeCheck

/-- Fixtures of one package; `file` is set where only that file is tested. -/
structure Suite where
  package : Text
  tests : List Text
  file : Option Text
  deriving DecidableEq

namespace Suite

def pattern : Text := Resource.fixtureStem ++ ['*']

/-- The package of a fixture, if `target` equals the package's directory or lies below it. -/
def packageOfTarget? (host : Host) (target resource : Text) : Option Text :=
  if Resource.isFixtureName resource then
    (Resource.package? resource).filter fun package =>
      Path.isWithin (host.canonical (host.fileName (Resource.packagesRoot ++ package))) target
  else none

def isAskedFor (host : Host) (file : Option Text) (resource : Text) : Bool :=
  file.all fun file =>
    Path.components (host.canonical (host.fileName resource)) = Path.components file

/-- The suite that some found resources give. The package is that of the last which qualifies. -/
def ofFound? (host : Host) (target : Text) (file : Option Text) (found : List Text) :
    Option Suite :=
  let qualified :=
    found.filterMap fun r => (packageOfTarget? host target r).map fun package => (r, package)
  let tests := (qualified.map (·.1)).filter (isAskedFor host file)
  if tests = [] then none
  else qualified.getLast?.map fun last => { package := last.2, tests, file }

def discover (host : Host) (path : Text) : Traced (Option Suite) := do
  let target := host.canonical path
  let file := if host.isFile target then some target else none
  pure (ofFound? host target file (← host.findResources pattern))

end Suite
end SchemeCheck
