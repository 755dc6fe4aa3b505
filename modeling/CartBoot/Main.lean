import CartBoot.CommandLine.Run
import CartBoot.Stub.Session
import Std.Time

/-!
# The program

Enters what the system has at the paths of a command line in a workspace, runs the command line
there, and adds what the run has written to the log file of the system.
-/

open CartBoot CartBoot.CommandLine

/-- Why the system could not open a file. Its code may come with either sign. -/
def openFailure : IO.Error → FileFailure
  | .noFileOrDirectory _ _ _ => .missing
  | .alreadyExists _ _ _ => .present
  | .permissionDenied _ _ _ => .other 13 "Permission denied"
  | .inappropriateType file code details =>
    if code = 21 || code = 0 - 21 then .isDirectory
    else if code = 20 || code = 0 - 20 then .notADirectory
    else .other 5 (toString (IO.Error.inappropriateType file code details))
  | e => .other 5 e.toString

/-- What the system has at a path. -/
def treeAt (path : Path) : IO FileTree := do
  try return .file (← IO.FS.readBinFile path.text).toList
  catch e =>
    match openFailure e with
    | .isDirectory => return .empty
    | failure => return .locked failure

/-- A workspace with what the system has at the paths of a request. -/
def workspaceOf (request : Request) : IO Workspace := do
  let here := (Path.ofString (← IO.currentDir).toString).names
  let empty : Workspace := { root := FileTree.empty.insert here .empty, here }
  let paths := (request.paths empty).filter fun path => !path.hasNull
  paths.foldlM (fun w path => return w.enter path (← treeAt path)) empty

/-- Adds to the log file of a request, if there is one, what a run has added to it. -/
def keepLog (request : Request) (before after : Workspace) : IO (Option Breakdown) := do
  let some path := request.logPath? | return none
  let file := before.absolute path
  let old := (before.read file).toOption.getD []
  let new := (after.read file).toOption.getD []
  try
    IO.FS.createDirAll path.parent.text
    let handle ← IO.FS.Handle.mk file.text .append
    handle.write (ByteArray.mk (new.drop old.length).toArray)
    return none
  catch e => return some (.logFile (openFailure e) file.text)

/-- Reports a breakdown. -/
def breakDown (breakdown : Breakdown) : IO UInt32 := do
  (← IO.getStderr).putStrLn breakdown.message
  return 1

/-- A host with UTF-8 as its output and room for texts of 16 GiB. -/
def ordinaryHost : Host := { out := .utf8, room := 0x400000000 }

def main (arguments : List String) : IO UInt32 := do
  let request := Request.ofArguments arguments
  let time := (← Std.Time.PlainDateTime.now).format "uuuu-MM-dd HH:mm:ss"
  let before ← workspaceOf request
  match run ordinaryHost before time arguments with
  | .error breakdown => breakDown breakdown
  | .ok (outcome, after) =>
    if let some breakdown ← keepLog request before after then return ← breakDown breakdown
    (← IO.getStdout).putStr outcome.out.escaped
    (← IO.getStderr).putStr (outcome.err ++ shownRows request outcome.log)
    return outcome.status.toUInt32
