import SchemeCheck.Disk.Basic
set_option autoImplicit false

namespace SchemeCheck
namespace Disk

/-- Where a path leads that a file can be written to: to a file, or to nothing in a folder. -/
def locateForWriting (d : Disk) (folder path : Text) : Except DiskFault Text :=
  match d.locate folder path with
  | .ok location => if d.isFile location then .ok location else .error .isFolder
  | .error .missing =>
    let pieces := Text.split (· == '/') path
    let name := pieces.getLastD []
    match pieces.dropLast.foldlM d.step (if path.head? = some '/' then [] else folder) with
    | .ok location =>
      if name = [] ∨ !d.isFolder location then .error .missing else .ok (child location name)
    | .error fault => .error fault
  | .error fault => .error fault

def write (d : Disk) (folder path text : Text) : Except DiskFault Disk :=
  (d.locateForWriting folder path).map fun location => d.addFile location (.text text)

/-- The disk with a folder, and all that it lies in, where nothing on the way is a file. -/
def createFolders (d : Disk) (folder path : Text) : Except DiskFault Disk :=
  let base := if path.head? = some '/' then [] else folder
  let location := (Text.fields (· == '/') path).foldl child base
  if (ancestry location).any d.isFile then .error .notFolder else .ok (d.addFolder location)

end Disk
end SchemeCheck
