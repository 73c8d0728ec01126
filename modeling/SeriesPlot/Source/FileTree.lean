import SeriesPlot.Source
import SeriesPlot.Text.Split

/-!
# `SeriesPlot.Source.FileTree`: files and the paths to them

Files and directories have their places in a tree. A place is the list of the
names that lead to it from the root, and a path leads from a place, the root or
the working directory, to another, part by part. Every part but the last has to
lead to a directory, also where the next part only leads back.
-/

set_option autoImplicit false

namespace SeriesPlot

/-- What stands at a place. -/
inductive FileTree.Entry where
  | file (content : List UInt8)
  | directory
deriving DecidableEq, Inhabited

/-- Files and directories. -/
structure FileTree where
  /-- The place where relative paths start. -/
  working : List String
  /-- The entries by their places, the newest first; of two at one place the
  newer counts. -/
  entries : List (List String × FileTree.Entry) := []

namespace FileTree

/-- The number of bytes that the name of an entry may have. -/
def longestName : Nat := 255

/-- The number of bytes that a path may have. -/
def longestPath : Nat := 4095

/-- What stands at a place. The working directory and all that stands above it or
above an entry are directories. -/
def entry? (t : FileTree) (place : List String) : Option Entry :=
  match t.entries.find? (·.1 == place) with
  | some (_, entry) => some entry
  | none =>
    if place == t.working.take place.length || t.entries.any (place.isPrefixOf ·.1)
    then some .directory else none

/-- The place to which one part of a path leads from a place. -/
def follow (place : List String) (part : String) : List String :=
  if part = "" ∨ part = "." then place
  else if part = ".." then place.dropLast
  else place ++ [part]

/-- The parts of a path. -/
def parts (path : String) : List String :=
  (Text.splitOn '/' path.toList).map String.ofList

/-- The place where a path starts. -/
def origin (t : FileTree) (path : String) : List String :=
  if path.toList.head? = some '/' then [] else t.working

/-- The tree with an entry where a path leads. -/
def put (t : FileTree) (path : String) (entry : Entry) : FileTree :=
  { t with entries := ((parts path).foldl follow (t.origin path), entry) :: t.entries }

/-- Follows one part of a path from a place, which has to be a directory. -/
def enter (t : FileTree) (place : List String) (part : String) :
    Except FileError (List String) :=
  match t.entry? place with
  | none => .error .notFound
  | some (.file _) => .error .notDirectory
  | some .directory =>
    if longestName < part.utf8ByteSize then .error .nameTooLong else .ok (follow place part)

/-- The content of the file to which a path leads. -/
def read (t : FileTree) (path : String) : Except FileError (List UInt8) := do
  if '\x00' ∈ path.toList then throw .invalidName
  if path = "" then throw .notFound
  if longestPath < path.utf8ByteSize then throw .nameTooLong
  match t.entry? (← (parts path).foldlM t.enter (t.origin path)) with
  | some (.file content) => return content
  | some .directory => throw .isDirectory
  | none => throw .notFound

end FileTree

end SeriesPlot
