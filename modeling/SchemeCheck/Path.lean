import SchemeCheck.Text.Basic
set_option autoImplicit false

namespace SchemeCheck.Path

inductive Component where
  | root
  | current
  | parent
  | name (n : Text)
  deriving DecidableEq

/-- A piece between slashes; a single dot counts only where it opens a relative path. -/
def component? (first : Bool) (piece : Text) : Option Component :=
  if piece = [] then none
  else if piece = ['.'] then if first then some .current else none
  else if piece = ['.', '.'] then some .parent
  else some (.name piece)

def components (path : Text) : List Component :=
  match Text.split (· == '/') path with
  | [] => []
  | first :: rest =>
    if rest ≠ [] ∧ first = [] then .root :: rest.filterMap (component? false)
    else (component? true first).toList ++ rest.filterMap (component? false)

def Component.name? : Component → Option Text
  | .name n => some n
  | _ => none

/-- The last component, unless the path ends at a root or a parent. -/
def fileName? (path : Text) : Option Text := (components path).getLast?.bind Component.name?

/-- What follows the last dot of the file name; a dot that opens the name does not count. -/
def extension? (path : Text) : Option Text :=
  (fileName? path).bind fun file =>
    let extension := Text.afterLast (· == '.') file
    if file.length ≤ extension.length + 1 then none else some extension

/-- A path below `dir`; an absolute one replaces it. -/
def join (dir path : Text) : Text :=
  if path.head? = some '/' then path
  else if dir = [] then path
  else if dir.getLast? = some '/' then dir ++ path
  else dir ++ '/' :: path

def relativeTo? (outer path : Text) : Option (List Component) :=
  (components outer).isPrefixOf? (components path)

def isWithin (outer path : Text) : Bool := (relativeTo? outer path).isSome

end SchemeCheck.Path
