import SchemeCheck.Dict
import SchemeCheck.Path
set_option autoImplicit false

/-!
The files and folders of a disk without links. A location is an absolute path without a slash at its
end, and the root is the empty one; paths lead to locations from a working folder.
-/

namespace SchemeCheck

inductive FileContent where
  | text (t : Text)
  | notText
  deriving DecidableEq

structure Disk where
  files : Dict FileContent
  folders : TextSet

inductive DiskFault where
  | missing
  | notFolder
  | isFolder
  | notText
  | badName
  deriving DecidableEq

def DiskFault.reason : DiskFault → Text
  | missing => "no such file or folder".toList
  | notFolder => "not a folder".toList
  | isFolder => "is a folder".toList
  | notText => "not a text".toList
  | badName => "not a name".toList

namespace Disk

def empty : Disk := ⟨Dict.empty, Dict.empty⟩

def child (folder name : Text) : Text := folder ++ '/' :: name

/-- The folder a location lies in; the root lies in itself. -/
def parent (location : Text) : Text := ((location.reverse.dropWhile (· != '/')).drop 1).reverse

def isFile (d : Disk) (location : Text) : Bool := d.files.contains location

def isFolder (d : Disk) (location : Text) : Bool := location.isEmpty || d.folders.contains location

def isPresent (d : Disk) (location : Text) : Bool := d.isFile location || d.isFolder location

def maxNameBytes : Nat := 255

def step (d : Disk) (location piece : Text) : Except DiskFault Text :=
  if !d.isFolder location then .error .notFolder
  else if piece = [] ∨ piece = ['.'] then .ok location
  else if piece = ['.', '.'] then .ok (parent location)
  else if maxNameBytes < Text.byteLength piece then .error .badName
  else if d.isPresent (child location piece) then .ok (child location piece)
  else .error .missing

def locate (d : Disk) (folder path : Text) : Except DiskFault Text :=
  if path = [] then .error .missing
  else if path.contains '\x00' then .error .badName
  else (Text.split (· == '/') path).foldlM d.step (if path.head? = some '/' then [] else folder)

def pathOf (location : Text) : Text := if location = [] then ['/'] else location

/-- The path of the location; a path that leads nowhere stays as it is. -/
def canonical (d : Disk) (folder path : Text) : Text :=
  match d.locate folder path with
  | .ok location => pathOf location
  | .error _ => path

def read (d : Disk) (folder path : Text) : Except DiskFault Text := do
  let location ← d.locate folder path
  match d.files.get? location with
  | some (.text t) => .ok t
  | some .notText => .error .notText
  | none => .error .isFolder

def hasFile (d : Disk) (folder path : Text) : Bool :=
  match d.locate folder path with
  | .ok location => d.isFile location
  | .error _ => false

def hasFolder (d : Disk) (folder path : Text) : Bool :=
  match d.locate folder path with
  | .ok location => d.isFolder location
  | .error _ => false

def reaches (d : Disk) (folder path : Text) : Bool := (d.locate folder path).isOk

def ancestry (location : Text) : List Text :=
  ((Text.split (· == '/') location).drop 1).foldl
    (fun folders name => child (folders.headD []) name :: folders) []

def addFolder (d : Disk) (location : Text) : Disk :=
  { d with folders := d.folders.insertAll (ancestry location) }

def addFile (d : Disk) (location : Text) (content : FileContent) : Disk :=
  { d.addFolder (parent location) with files := d.files.insert location content }

end Disk
end SchemeCheck
