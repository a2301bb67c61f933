import EmbeddingLatency.Files.Basic
import EmbeddingLatency.Text.Blank
import Std.Data.HashMap

/-!
# A tree of files in memory

A tree says of each place what stands there. A place is the list of the names that lead to it from
the root. A path is walked name by name, from the root or from the working directory: `.` stays
where it is and `..` goes up.

Putting something at a place changes that place and no other (`at?_put_self`, `at?_put_of_ne`).
-/

set_option autoImplicit false

namespace EmbeddingLatency

/-- What can stand at a place. -/
inductive FileNode where
  | file (content : String)
  | directory
  deriving DecidableEq, Repr

/-- A place: the names from the root to it. -/
abbrev Place := List String

/-- What stands at each place, and the place where relative paths begin. -/
structure FileTree where
  nodes : Std.HashMap Place FileNode
  workingDirectory : Place

namespace FileTree

/-- What stands at a place. -/
def at? (t : FileTree) (place : Place) : Option FileNode := t.nodes[place]?

/-- The tree whose root is an empty directory, in which one works. -/
def empty : FileTree := ⟨(∅ : Std.HashMap Place FileNode).insert [] .directory, []⟩

/-- The tree with something else at one place. -/
def put (t : FileTree) (place : Place) (node : FileNode) : FileTree :=
  { t with nodes := t.nodes.insert place node }

@[simp] theorem at?_put_self (t : FileTree) (place : Place) (node : FileNode) :
    (t.put place node).at? place = some node := by simp [put, at?]

theorem at?_put_of_ne (t : FileTree) {place p : Place} (node : FileNode) (h : p ≠ place) :
    (t.put place node).at? p = t.at? p := by
  simp [put, at?, Std.HashMap.getElem?_insert, h.symm]

@[simp] theorem workingDirectory_put (t : FileTree) (place : Place) (node : FileNode) :
    (t.put place node).workingDirectory = t.workingDirectory := rfl

/-- The names of a path. -/
def names (path : String) : List String :=
  ((Text.splitBy (· = '/') path.toList).filter (· ≠ [])).map String.ofList

/-- The longest name in bytes. -/
def maxNameBytes : Nat := 255

/-- The longest path in bytes. -/
def maxPathBytes : Nat := 4095

/-- Why a path is refused whatever stands in the tree. -/
def refusal? (path : String) : Option FileFault :=
  if path.toList.any (· = '\x00') then some .nullCharacter
  else if maxPathBytes < path.utf8ByteSize then some .nameTooLong
  else none

/-- The place where a path begins. -/
def start (t : FileTree) (path : String) : Place :=
  if path.startsWith "/" then [] else t.workingDirectory

/-- What is said of a file that stands where a directory is wanted, with some names behind it. As
    the last name it is taken. Behind a new directory it is taken as well, because there the
    directories are created one by one, unless nothing but dots for the file itself follows. In all
    other cases the walk ends at something that is no directory. -/
def fileInTheWay (created : Bool) (rest : List String) : FileFault :=
  if rest = [] then .exists
  else if created && !rest.all (· = ".") then .exists
  else .notDirectory

/-- Follows names from a place and creates the directories that are not there; `created` says
    whether one has been created on the way. A directory whose name has nothing but dots for itself
    behind it is not created. -/
def makeFrom (t : FileTree) (created : Bool) (place : Place) :
    List String → Except FileFault Place × FileTree
  | [] => (.ok place, t)
  | name :: rest =>
    if name = "." then t.makeFrom created place rest
    else if name = ".." then t.makeFrom created place.dropLast rest
    else if maxNameBytes < name.utf8ByteSize then (.error .nameTooLong, t)
    else
      match t.at? (place ++ [name]) with
      | some .directory => t.makeFrom created (place ++ [name]) rest
      | some (.file _) => (.error (fileInTheWay created rest), t)
      | none =>
        if rest ≠ [] ∧ rest.all (· = ".") then (.error .missing, t)
        else (t.put (place ++ [name]) .directory).makeFrom true (place ++ [name]) rest

/-- Creates a directory and those above it. -/
def createDirectories (path : String) (t : FileTree) : Except FileFault Unit × FileTree :=
  match refusal? path with
  | some f => (.error f, t)
  | none =>
    let (place, t) := t.makeFrom false (t.start path) (names path)
    (place.map fun _ => (), t)

/-- The place that names lead to, if all directories on the way exist. -/
def follow (t : FileTree) (place : Place) : List String → Except FileFault Place
  | [] => .ok place
  | name :: rest =>
    if name = "." then t.follow place rest
    else if name = ".." then t.follow place.dropLast rest
    else if maxNameBytes < name.utf8ByteSize then .error .nameTooLong
    else
      match rest, t.at? (place ++ [name]) with
      | [], _ => .ok (place ++ [name])
      | _, some .directory => t.follow (place ++ [name]) rest
      | _, some (.file _) => .error .notDirectory
      | _, none => .error .missing

/-- The place that a path leads to. A path that ends in a slash leads to a directory or nowhere, and
    the empty path leads nowhere. -/
def resolve (t : FileTree) (path : String) : Except FileFault Place :=
  match refusal? path with
  | some f => .error f
  | none =>
    if path = "" then .error .missing
    else t.follow (t.start path) (names path ++ if path.endsWith "/" then ["."] else [])

/-- Writes a file. -/
def write (path content : String) (t : FileTree) : Except FileFault Unit × FileTree :=
  match t.resolve path with
  | .error f => (.error f, t)
  | .ok place =>
    match t.at? place with
    | some .directory => (.error .isDirectory, t)
    | _ => (.ok (), t.put place (.file content))

/-- The content of a file. -/
def read? (t : FileTree) (path : String) : Except FileFault String :=
  match t.resolve path with
  | .error f => .error f
  | .ok place =>
    match t.at? place with
    | none => .error .missing
    | some .directory => .error .isDirectory
    | some (.file content) => .ok content

/-- The names in a directory, in alphabetical order. -/
def namesIn (t : FileTree) (place : Place) : List String :=
  ((t.nodes.keys.filter fun p => p.dropLast = place).filterMap List.getLast?).mergeSort (· ≤ ·)

/-- What a directory holds. -/
def list? (t : FileTree) (path : String) : Except FileFault (List String) :=
  match t.resolve path with
  | .error f => .error f
  | .ok place =>
    match t.at? place with
    | none => .error .missing
    | some (.file _) => .error .notDirectory
    | some .directory => .ok (t.namesIn place)

/-- A tree as a file system. -/
def store : FileStore (StateM FileTree) where
  createDirectories path := fun t => createDirectories path t
  write path content := fun t => write path content t

end FileTree

end EmbeddingLatency
