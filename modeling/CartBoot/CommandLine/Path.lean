/-!
# Paths

A path is a mark of the root, if it has one, and a list of names. Empty names and single dots drop
out; two dots stay, since what they mean depends on the files.
-/

namespace CartBoot.CommandLine

/-- A path in its plain form. -/
structure Path where
  /-- Empty for a path that starts from the working directory. -/
  root : String
  names : List String
  deriving DecidableEq, Repr

namespace Path

/-- The mark of the root in front of a path. Exactly two slashes are kept as they are. -/
def rootMark : List Char → String
  | '/' :: '/' :: '/' :: _ => "/"
  | '/' :: '/' :: _ => "//"
  | '/' :: _ => "/"
  | _ => ""

/-- Reads a path. -/
def ofString (text : String) : Path :=
  { root := rootMark text.toList
    names := ((text.toList.splitOn '/').map String.ofList).filter fun name =>
      name != "" && name != "." }

/-- The text of a path. -/
def text (p : Path) : String :=
  if p.root.isEmpty && p.names.isEmpty then "." else p.root ++ "/".intercalate p.names

def isAbsolute (p : Path) : Bool := !p.root.isEmpty

/-- The last name. -/
def name (p : Path) : String := p.names.getLastD ""

/-- The path without its last name. -/
def parent (p : Path) : Path := { p with names := p.names.dropLast }

/-- The paths of the directories on the way to a path and the path itself, from the root on. -/
def steps (p : Path) : List Path :=
  (List.range p.names.length).map fun n => { p with names := p.names.take (n + 1) }

/-- Whether a name holds the null character, which no file name does. -/
def hasNull (p : Path) : Bool :=
  p.names.any fun name => name.toList.contains (Char.ofNat 0)

end Path

end CartBoot.CommandLine
