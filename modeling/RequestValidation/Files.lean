import RequestValidation.Members
/-!
# Files

What is found at a path: nothing, a directory, a text, or something that cannot be read. A
`FileTree` holds texts by their paths below one directory, from which paths are followed part by
part; a path that leads out of it finds nothing.
-/
namespace RequestValidation

inductive FileState where
  | missing
  | directory
  | unreadable (reason : String)
  | text (content : String)
deriving DecidableEq, Repr

/-- What is found at each path. -/
abbrev Files := String → FileState

namespace FilePath

/-- The parts between the slashes. -/
def parts (path : String) : List String := path.splitOn "/"

/-- Parts that lead nowhere else. -/
def isIdle (part : String) : Bool := part = "" || part = "."

/-- The last part of a path, unless it leads to the directory above. -/
def fileName? (path : String) : Option String :=
  ((parts path).filter (!isIdle ·)).getLast?.filter (· ≠ "..")

/-- What stands behind the last point of a name, if anything stands before it. -/
def extensionOf? (name : String) : Option String :=
  match (name.splitOn ".").reverse with
  | last :: first :: more => if first.isEmpty && more.isEmpty then none else some last
  | _ => none

/-- What stands behind the last point of the file name, if anything stands before it. -/
def extension? (path : String) : Option String := (fileName? path).bind extensionOf?

/-- Does the name say that the file holds YAML? Any other holds JSON. -/
def isYaml (path : String) : Bool :=
  extension? path = some "yaml" || extension? path = some "yml"

end FilePath

/-- Texts by their paths. -/
structure FileTree where
  texts : Members String

namespace FileTree

/-- What is found at a place, given by the parts that lead there. -/
def stateAt (t : FileTree) (place : List String) : FileState :=
  match t.texts.find? fun p => FilePath.parts p.1 = place with
  | some p => .text p.2
  | none =>
    if place.isEmpty || t.texts.any fun p => place.isPrefixOf (FilePath.parts p.1) then .directory
    else .missing

/-- Follows parts from a place; each of them must start at a directory. -/
def follow (t : FileTree) : List String → List String → FileState
  | place, [] => t.stateAt place
  | place, part :: rest =>
    if t.stateAt place ≠ .directory then .missing
    else if FilePath.isIdle part then t.follow place rest
    else if part = ".." then if place.isEmpty then .missing else t.follow place.dropLast rest
    else t.follow (place ++ [part]) rest

/-- What is found at a path. -/
def state (t : FileTree) : Files := fun path =>
  if path.isEmpty || path.startsWith "/" then .missing else t.follow [] (FilePath.parts path)

end FileTree

end RequestValidation
