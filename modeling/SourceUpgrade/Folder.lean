namespace SourceUpgrade

/-!
# Folders

Files with texts, each at a place below one folder.
-/

/-- A way from a folder to something in it: the names on the way, its own last. -/
abbrev Location : Type := List String

/-- A folder with the texts of its files. -/
structure Folder where
  files : List (Location × String)
deriving Repr, DecidableEq

namespace Folder

/-- A folder without files. -/
def empty : Folder := ⟨[]⟩

/-- The text of the file at a place. -/
def textAt? (folder : Folder) (place : Location) : Option String :=
  folder.files.lookup place

/-- Set the text at a place in a list of files; a new file comes last. -/
def putIn (place : Location) (text : String) : List (Location × String) → List (Location × String)
  | [] => [(place, text)]
  | (other, held) :: rest =>
      if other = place then (other, text) :: rest else (other, held) :: putIn place text rest

/-- The folder with a text in the file at a place. -/
def put (folder : Folder) (place : Location) (text : String) : Folder :=
  ⟨putIn place text folder.files⟩

end Folder

end SourceUpgrade
