import SourceUpgrade.Folder
import SourceUpgrade.Text.Blank

namespace SourceUpgrade

/-!
# Disks

What a run can reach of a file system: all that lies below its root, and the folder that the run
works in. A path is followed name by name, from the root if it begins with a slash and from the
working folder otherwise. Files hold texts, none is kept from being read or written, and there are
no links.
-/

/-- The root of a file system, the folder that a run works in, and further folders that are there
even if no file lies below. -/
structure Disk extends Folder where
  here : Location := []
  folders : List Location := []
deriving Repr, DecidableEq

namespace Disk

/-- A disk without files, worked on from its root. -/
def empty : Disk := { toFolder := .empty }

/-- A folder is the root of a disk that is worked on from there. -/
instance : Coe Folder Disk := ⟨fun folder => { toFolder := folder }⟩

/-- The disk with a text in the file at a place. -/
def put (disk : Disk) (place : Location) (text : String) : Disk :=
  { disk with toFolder := disk.toFolder.put place text }

/-- Whether there is a folder at a place: one on the way to a folder that is there, or on the way to
a file. -/
def hasFolder (disk : Disk) (place : Location) : Bool :=
  (disk.here :: disk.folders).any place.isPrefixOf ||
    disk.files.any fun file => place.isPrefixOf file.1 && place.length < file.1.length

/-! ## Paths -/

/-- The most bytes that a name may have. -/
def nameLimit : Nat := 255

/-- The most bytes that a path may have. -/
def pathLimit : Nat := 4095

/-- The names in a path, in order; before a slash at its beginning there is an empty one. -/
def steps (path : String) : List String :=
  (Text.splitAt '/' path.toList).map String.ofList

/-- Whether a text is a path at all. -/
def isPath (path : String) : Bool :=
  !path.isEmpty && !path.toList.contains '\x00' && path.utf8ByteSize ≤ pathLimit &&
    (steps path).all fun name => name.utf8ByteSize ≤ nameLimit

/-- Whether a name stands for the folder in which it is found. -/
def isSelfName (name : String) : Bool :=
  name == "" || name == "."

/-- Follow names from a place; all but the last have to lead to folders, and it names a file. Above
the root there is the root. -/
def follow (disk : Disk) : Location → List String → Option Location
  | _, [] => none
  | place, [name] => if isSelfName name || name == ".." then none else some (place ++ [name])
  | place, name :: rest =>
      if isSelfName name then disk.follow place rest
      else if name == ".." then disk.follow place.dropLast rest
      else if disk.hasFolder (place ++ [name]) then disk.follow (place ++ [name]) rest
      else none

/-- From where a path is followed. -/
def start (disk : Disk) (path : String) : Location :=
  if Text.beginsWith path "/" then [] else disk.here

/-- The place to which a path leads. -/
def place? (disk : Disk) (path : String) : Option Location :=
  if isPath path then disk.follow (disk.start path) (steps path) else none

/-- Read the file to which a path leads. -/
def read? (disk : Disk) (path : String) : Option String :=
  (disk.place? path).bind disk.textAt?

/-- The place that is written to at the end of a path: where it leads, unless there is a folder. -/
def target? (disk : Disk) (path : String) : Option Location :=
  (disk.place? path).filter fun place => !disk.hasFolder place

/-- Write a text to a path; there is no disk if it cannot be written. -/
def write? (disk : Disk) (path text : String) : Option Disk :=
  (disk.target? path).map fun place => disk.put place text

end Disk

end SourceUpgrade
