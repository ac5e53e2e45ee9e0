set_option autoImplicit false

/-!
# Files

What is known of files is what reading them gives: a text, or why there is none.
-/

namespace SeriesQuery

inductive ReadFault where
  | notFound
  | isDirectory
  | notDirectory
  /-- The path, or a name in it, is too long. -/
  | nameTooLong
  | other (words : String)
  deriving DecidableEq, Repr

def ReadFault.message : ReadFault → String
  | .notFound => "No such file or directory (os error 2)"
  | .isDirectory => "Is a directory (os error 21)"
  | .notDirectory => "Not a directory (os error 20)"
  | .nameTooLong => "File name too long (os error 36)"
  | .other words => words

/-- The text of the file at a path. -/
abbrev Files := String → Except ReadFault String

def Files.isThere (files : Files) (path : String) : Bool :=
  match files path with
  | .error .notFound | .error .notDirectory | .error .nameTooLong => false
  | _ => true

end SeriesQuery
