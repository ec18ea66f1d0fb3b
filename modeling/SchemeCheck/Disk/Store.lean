import SchemeCheck.Disk.Basic
import SchemeCheck.Error
import SchemeCheck.Glob
import SchemeCheck.Resource.Name
set_option autoImplicit false

namespace SchemeCheck

structure Store where
  disk : Disk
  folder : Text
  packages : Text

namespace Store

/-- The path of the file a resource names; empty parts of the name do not count. -/
def filePath (s : Store) (resource : Text) : Text :=
  (Text.fields (· == '/') ((Text.after? Resource.packagesRoot resource).getD resource)).foldl
    Path.join s.packages

/-- The resource that a path names, unless it leads out of the packages folder. Paths are compared by
the locations they lead to, and those that lead nowhere as they are. -/
def resourceOf? (s : Store) (path : Text) : Option Text :=
  let root := s.disk.canonical s.folder s.packages
  (Path.relativeTo? root (s.disk.canonical s.folder path)).bind fun below =>
    let names := below.filterMap Path.Component.name?
    if names = [] then none else some (Resource.packagesRoot ++ ['/'].intercalate names)

/-- Every file below the packages folder, as a resource, in ascending order. A disk has no links and
keeps its locations in order, so a resource is what is left of a location, and there is nothing to walk
or to sort; a search over the paths of a walk comes to the same (`find_eq_of_walk`). -/
def resources (s : Store) : List Text :=
  match s.disk.locate s.folder s.packages with
  | .error _ => []
  | .ok root =>
    (s.disk.files.keys.filterMap (Text.after? (root ++ ['/']))).map (Resource.packagesRoot ++ ·)

def find (s : Store) (pattern : Text) : List Text :=
  s.resources.filter fun resource => Glob.isMatch pattern (Resource.baseName resource)

def load (s : Store) (resource : Text) : Except ResourceError Text :=
  if Text.startsWith Resource.packagesRoot resource then
    match s.disk.read s.folder (s.filePath resource) with
    | .ok t => .ok t
    | .error .missing => .error (.notFound resource)
    | .error fault => .error (.unreadable resource fault.reason)
  else .error (.notFound resource)

end Store
end SchemeCheck
