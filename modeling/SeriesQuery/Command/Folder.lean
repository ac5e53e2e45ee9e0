import SeriesQuery.Files
import SeriesQuery.Text.Split
import SeriesQuery.Text.Utf8

set_option autoImplicit false

/-!
# Folders

A folder holds files by their paths; the folders inside it are those that the paths go through. A
path is followed name by name from the folder. Nothing is known of what lies outside. A path has at
most 4095 bytes and a name at most 255; a longer name is refused where it would be looked up.
-/

namespace SeriesQuery.Command

open SeriesQuery.Text

/-- The names that a path goes through. An empty name and a dot stay where they are. -/
abbrev Steps := List (List Char)

inductive Spot where
  /-- A folder inside, by the names that lead to it, the last one first. -/
  | folder (names : Steps)
  | file (text : String)
  | outside

/-- The files of a folder, each by the names that lead to it, the last one first. -/
structure Folder where
  files : List (Steps × String)

namespace Folder

/-- The number of bytes that a path may have. -/
def longestPath : Nat := 4095

/-- The number of bytes that a name may have. -/
def longestName : Nat := 255

def ofFiles (files : List (String × String)) : Folder where
  files := files.map fun (path, text) =>
    (((pieces '/' path.toList).filter fun name => name ≠ [] ∧ name ≠ ['.']).reverse, text)

def hasFolder (folder : Folder) (names : Steps) : Bool :=
  folder.files.any fun (file, _) => names.length < file.length && names.isSuffixOf file

/-- Why a name that is not there is not found. -/
def absence (name : List Char) : ReadFault :=
  if longestName < (Utf8.encode name).length then .nameTooLong else .notFound

def step (folder : Folder) (spot : Spot) (name : List Char) : Except ReadFault Spot :=
  let stays : Bool := name = [] ∨ name = ['.']
  match spot with
  | .file _ => .error .notDirectory
  | .outside => if stays ∨ name = ['.', '.'] then .ok .outside else .error (absence name)
  | .folder names =>
    if stays then .ok spot
    else if name = ['.', '.'] then
      match names with
      | [] => .ok .outside
      | _ :: outer => .ok (.folder outer)
    else
      match folder.files.lookup (name :: names) with
      | some text => .ok (.file text)
      | none =>
        if folder.hasFolder (name :: names) then .ok (.folder (name :: names))
        else .error (absence name)

/-- The file at a path. A path that starts with a slash leads outside. -/
def read (folder : Folder) : Files := fun path =>
  if path = "" then .error .notFound
  else if longestPath < (Utf8.encode path.toList).length then .error .nameTooLong
  else
    let start : Spot := if path.toList.head? = some '/' then .outside else .folder []
    match (pieces '/' path.toList).foldlM folder.step start with
    | .error fault => .error fault
    | .ok (.file text) => .ok text
    | .ok _ => .error .isDirectory

end Folder

end SeriesQuery.Command
