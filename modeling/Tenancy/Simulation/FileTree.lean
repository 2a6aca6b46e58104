import Tenancy.Error
import Tenancy.Text.Utf8

/-! # A tree of files in memory

Paths are walked from the top of the tree, one name at a time, the way a file system does: every
name but the last has to stand for a directory, `.` stays where it is, `..` goes one up, and a path
that ends in `/` is one that ends in `/.`.  Above the top there are directories too, in which nothing
is known; a path that begins with `/` starts in one of them. -/

namespace Tenancy.Simulation

/-- What stands at a place. -/
inductive Node where
  | file (content : Bytes)
  | directory

/-- A name of a path. -/
abbrev PathName := List Char

/-- The places that a path can lead to. -/
inductive Place where
  /-- Reached from the top by these names. -/
  | within (names : List PathName)
  /-- Above the top. -/
  | outside
  deriving DecidableEq

namespace Place

/-- The place one up. -/
def parent : Place → Place
  | outside => outside
  | within [] => outside
  | within names@(_ :: _) => within names.dropLast

/-- The place that a name stands for in a directory; nothing is known outside of the tree. -/
def child (name : PathName) : Place → Option Place
  | outside => none
  | within names => some (within (names ++ [name]))

end Place

/-- The most bytes that a name has. -/
def maxNameSize : Nat := 255

/-- A path is shorter than this, in bytes. -/
def pathSizeLimit : Nat := 4096

/-- The names of a path; empty ones do not count. -/
def pathNames (path : String) : List PathName :=
  let cs := path.toList
  (cs.splitOn '/').filter (· ≠ []) ++ if cs.getLast? = some '/' then [['.']] else []

/-- Where the walk of a path begins. -/
def startOf (path : String) : Place :=
  if path.toList.head? = some '/' then .outside else .within []

/-- What was put under a top directory, by place. -/
abbrev FileTree := List (List PathName × Node)

namespace FileTree

/-- What stands at a place. -/
def at? (tree : FileTree) : Place → Option Node
  | .outside => some .directory
  | .within [] => some .directory
  | .within names@(_ :: _) => tree.lookup names

/-- Goes from a place to what a name stands for there. -/
def enter (tree : FileTree) (place : Place) (name : PathName) : Except FileError Place :=
  match tree.at? place with
  | none => .error .notFound
  | some (.file _) => .error .notADirectory
  | some .directory =>
    if name = ['.'] then .ok place
    else if name = ['.', '.'] then .ok place.parent
    else if (String.ofList name).utf8ByteSize > maxNameSize then .error .nameTooLong
    else match place.child name with
      | some inner => .ok inner
      | none => .error .notFound

/-- Reads the file under a path. -/
def read (tree : FileTree) (path : String) : Except FileError Bytes := do
  if path.toList.contains (Char.ofNat 0) then throw .nulInName
  if path.utf8ByteSize ≥ pathSizeLimit then throw .nameTooLong
  match tree.at? (← (pathNames path).foldlM tree.enter (startOf path)) with
  | some (.file content) => return content
  | some .directory => throw .isDirectory
  | none => throw .notFound

/-- Puts something at a place, with the directories that it needs. -/
def put (tree : FileTree) (node : Node) (names : List PathName) : FileTree :=
  match names with
  | [] => tree
  | _ :: _ =>
    let above := ((List.range names.length).map names.take).filter fun dir =>
      dir ≠ [] && (tree.lookup dir).isNone
    (names, node) :: above.map (·, .directory) ++ tree.filter (·.1 != names)

/-- Goes from a place to what a name stands for there, and makes the directory that is missing. -/
def enterMaking (state : FileTree × Place) (name : PathName) : FileTree × Place :=
  let (tree, place) := state
  let tree := match place, tree.at? place with
    | .within names, none => tree.put .directory names
    | _, _ => tree
  (tree, (tree.enter place name).toOption.getD .outside)

/-- Puts something under a path, unless that is a directory; the directories on the way are
    made. -/
def write (tree : FileTree) (path : String) (node : Node) : FileTree :=
  let (tree, place) := (pathNames path).foldl enterMaking (tree, startOf path)
  match place, tree.at? place with
  | .outside, _ => tree
  | .within _, some .directory => tree
  | .within names, _ => tree.put node names

/-- The tree with these entries. -/
def ofList (entries : List (String × Node)) : FileTree :=
  entries.foldl (fun tree entry => tree.write entry.1 entry.2) []

/-- Removes the file under a path; directories stay. -/
def delete (tree : FileTree) (path : String) : FileTree :=
  match (pathNames path).foldlM tree.enter (startOf path) with
  | .ok (.within names) =>
    match tree.lookup names with
    | some (.file _) => tree.filter (·.1 != names)
    | _ => tree
  | _ => tree

end FileTree

end Tenancy.Simulation
