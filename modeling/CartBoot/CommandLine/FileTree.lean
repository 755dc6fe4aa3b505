import CartBoot.CommandLine.Path
import CartBoot.Word

/-!
# File trees

A file tree is a directory as a program sees it from inside, and a workspace is a file tree with a
working directory. A path is followed name by name, and every name but the last has to lead to a
directory; two dots lead back to the directory above.
-/

namespace CartBoot.CommandLine

/-- Why the system refuses to work on a file. -/
inductive FileFailure where
  | missing
  | present
  | notADirectory
  | isDirectory
  | nameTooLong
  /-- Any other reason, with its number and in the words of the system. -/
  | other (number : Nat) (text : String)
  deriving DecidableEq, Repr

namespace FileFailure

def message : FileFailure → String
  | missing => "No such file or directory"
  | present => "File exists"
  | notADirectory => "Not a directory"
  | isDirectory => "Is a directory"
  | nameTooLong => "File name too long"
  | other _ text => text

/-- The number of a failure. -/
def code : FileFailure → Nat
  | missing => 2
  | present => 17
  | notADirectory => 20
  | isDirectory => 21
  | nameTooLong => 36
  | other number _ => number

end FileFailure

/-- A file or a directory with what is in it. -/
inductive FileTree where
  | file (bytes : Bytes)
  /-- A file that takes whatever is written and stays empty. -/
  | nullDevice
  /-- A file that the system refuses to open. -/
  | locked (failure : FileFailure)
  | directory (entries : List (String × FileTree))

namespace FileTree

def empty : FileTree := directory []

/-- What reading gives. -/
def contents : FileTree → Except FileFailure Bytes
  | file bytes => .ok bytes
  | nullDevice => .ok []
  | locked failure => .error failure
  | directory _ => .error .isDirectory

/-- The entry of a given name. -/
def child? (name : String) : List (String × FileTree) → Option FileTree
  | [] => none
  | (other, tree) :: rest => if other = name then some tree else child? name rest

/-- The tree at a place, which is given by the names that lead to it. -/
def get? (tree : FileTree) : List String → Option FileTree
  | [] => some tree
  | name :: rest =>
    match tree with
    | directory entries =>
      match child? name entries with
      | some child => get? child rest
      | none => none
    | _ => none

/-- Puts a tree at a place, with directories on the way. -/
def insert (tree : FileTree) : List String → FileTree → FileTree
  | [], node => node
  | name :: rest, node =>
    match tree with
    | directory entries =>
      directory ((name, insert ((child? name entries).getD empty) rest node) ::
        entries.filter fun e => e.1 != name)
    | _ => directory [(name, insert empty rest node)]

/-- The most bytes of a name. -/
def maxName : Nat := 255

/-- Looks a name up in the directory at a place. -/
def lookUp (tree : FileTree) (place : List String) (name : String) :
    Except FileFailure (Option FileTree) :=
  match tree.get? place with
  | none => .error .missing
  | some (directory entries) =>
    if name = ".." then .ok (tree.get? place.dropLast)
    else if maxName < name.utf8ByteSize then .error .nameTooLong
    else .ok (child? name entries)
  | some _ => .error .notADirectory

/-- The place that names lead to from another place. -/
def follow (tree : FileTree) (place : List String) :
    List String → Except FileFailure (List String)
  | [] => .ok place
  | name :: rest => do
    match ← tree.lookUp place name with
    | none => throw .missing
    | some _ => tree.follow (if name = ".." then place.dropLast else place ++ [name]) rest

end FileTree

/-- A file tree with a working directory. -/
structure Workspace where
  root : FileTree
  /-- The place where relative paths start. -/
  here : List String

namespace Workspace

/-- The most bytes of a path. -/
def maxPath : Nat := 4095

/-- The place that the first names of a path lead to. A path that is too long as a whole is not
followed at all. -/
def walk (w : Workspace) (path : Path) (names : List String) :
    Except FileFailure (List String) :=
  if maxPath < path.text.utf8ByteSize then .error .nameTooLong
  else w.root.follow (if path.isAbsolute then [] else w.here) names

/-- The place that a path leads to. -/
def locate (w : Workspace) (path : Path) : Except FileFailure (List String) :=
  w.walk path path.names

/-- The tree that a path leads to. -/
def find (w : Workspace) (path : Path) : Except FileFailure FileTree := do
  match w.root.get? (← w.locate path) with
  | some tree => return tree
  | none => throw .missing

/-- Reads the file at a path. -/
def read (w : Workspace) (path : Path) : Except FileFailure Bytes := do
  (← w.find path).contents

def isDirectory (w : Workspace) (path : Path) : Bool :=
  match w.find path with
  | .ok (.directory _) => true
  | _ => false

/-- The place of a new entry: the place of its directory and its name, with what is there now. -/
def entry (w : Workspace) (path : Path) :
    Except FileFailure (List String × Option FileTree) := do
  let place ← w.walk path path.names.dropLast
  let now ← w.root.lookUp place path.name
  return (place ++ [path.name], now)

/-- Makes one directory in a directory that is there. -/
def makeDirectory (w : Workspace) (path : Path) : Except FileFailure Workspace :=
  if path.names.isEmpty then .error .present
  else do
    match ← w.entry path with
    | (_, some _) => throw .present
    | (place, none) => return { w with root := w.root.insert place .empty }

/-- A failure to make a directory does not matter if there is one. -/
def settle (w : Workspace) (path : Path) :
    Except FileFailure Workspace → Except (FileFailure × Path) Workspace
  | .ok made => .ok made
  | .error failure => if w.isDirectory path then .ok w else .error (failure, path)

/-- Makes the directory that names, the last one first, lead to, and those on the way. A failure
comes with the path that it is about. -/
def makeNames (w : Workspace) (root : String) :
    List String → Except (FileFailure × Path) Workspace
  | [] => .ok w
  | name :: above =>
    let path : Path := { root, names := (name :: above).reverse }
    match w.makeDirectory path with
    | .error .missing => do
      let ready ← w.makeNames root above
      ready.settle path (ready.makeDirectory path)
    | made => w.settle path made

/-- Makes a directory and those on the way to it. -/
def makeDirectories (w : Workspace) (path : Path) : Except (FileFailure × Path) Workspace :=
  w.makeNames path.root path.names.reverse

/-- Takes back the last name before every two dots. -/
def collapse (place : List String) : List String → List String
  | [] => place
  | name :: rest => collapse (if name = ".." then place.dropLast else place ++ [name]) rest

/-- The path from the root, without two dots. -/
def absolute (w : Workspace) (path : Path) : Path :=
  { root := if path.isAbsolute then path.root else "/"
    names := collapse (if path.isAbsolute then [] else w.here) path.names }

/-- Opens a file to write at its end, and makes it if there is none. -/
def openFile (w : Workspace) (path : Path) : Except FileFailure Workspace :=
  if path.names.isEmpty then .error .isDirectory
  else do
    match ← w.entry path with
    | (_, some (.directory _)) => throw .isDirectory
    | (_, some (.locked failure)) => throw failure
    | (_, some _) => return w
    | (place, none) => return { w with root := w.root.insert place (.file []) }

/-- Writes at the end of the file that a path leads to, if it leads to one. -/
def append (w : Workspace) (path : Path) (more : Bytes) : Workspace :=
  match w.locate path with
  | .ok place =>
    match w.root.get? place with
    | some (.file bytes) => { w with root := w.root.insert place (.file (bytes ++ more)) }
    | _ => w
  | .error _ => w

/-- Puts a tree at a path in a directory that is there, in place of what was there before. -/
def put (w : Workspace) (path : Path) (tree : FileTree) : Except FileFailure Workspace := do
  let (place, _) ← w.entry path
  return { w with root := w.root.insert place tree }

/-- Puts a tree at a path, for which directories are made, if this can be done. -/
def supply (w : Workspace) (path : Path) (tree : FileTree) : Workspace :=
  let ready := (w.makeDirectories path.parent).toOption.getD w
  (ready.put path tree).toOption.getD ready

/-- Whether reading the file at a path gives what a tree holds. -/
def shows (w : Workspace) (path : Path) (tree : FileTree) : Bool :=
  match w.read path, tree.contents with
  | .ok bytes, .ok others => bytes = others
  | .error failure, .error other => failure = other
  | _, _ => false

/-- Puts a tree at a path, unless reading there gives what the tree holds already. -/
def enter (w : Workspace) (path : Path) (tree : FileTree) : Workspace :=
  if w.shows path tree then w else w.supply path tree

end Workspace

end CartBoot.CommandLine
