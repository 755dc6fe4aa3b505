import CartBoot.CommandLine.Batch
import CartBoot.Log.Row

/-!
# Runs

A run answers a command line in a workspace. Its log file, if it has one, is opened before the
first image is read, so an image that is the log file holds the lines that were written so far. The
console shows the events from a level on.
-/

namespace CartBoot.CommandLine

/-- The lowest level of events that are shown: warnings, unless more or less is asked for. -/
def shownLevel (verbosity : Int) (quiet : Bool) : Level :=
  if quiet then .error
  else if verbosity ≤ 0 then .warning
  else if verbosity = 1 then .info
  else .debug

/-- The path of the log file of a request, if there is to be one. -/
def Request.logPath? : Request → Option Path
  | .scan o => o.logPath?
  | _ => none

/-- The paths that a request opens. The log file comes first, after the directories on the way to
it. -/
def Request.paths (w : Workspace) : Request → List Path
  | .scan o =>
    (o.logPath?.toList.flatMap fun path => path.steps ++ [w.absolute path]) ++
      o.images.map .ofString
  | _ => []

/-- Opens a log file, whose directories are made first. -/
def openLog (w : Workspace) (path : Path) : Except Breakdown Workspace :=
  if path.parent.hasNull then .error .nullInPath
  else match w.makeDirectories path.parent with
    | .error (failure, at_) => .error (.logFile failure at_.text)
    | .ok ready =>
      if path.hasNull then .error .nullInPath
      else (ready.openFile (ready.absolute path)).mapError fun failure =>
        .logFile failure (ready.absolute path).text

/-- Writes events to the log file of a request, if there is one. -/
def record (w : Workspace) (time : String) (request : Request) (log : List Event) : Workspace :=
  match request.logPath? with
  | some path => w.append (w.absolute path) (logText time log).toUTF8.toList
  | none => w

/-- The event that a log file is open. -/
def openingLog (request : Request) : List Event :=
  request.logPath?.toList.map fun path => .logFile path.text

/-- The workspace in which a request is answered: its log file is open and has its first line. -/
def prepare (w : Workspace) (time : String) (request : Request) : Except Breakdown Workspace :=
  match request.logPath? with
  | some path => do return record (← openLog w path) time request (openingLog request)
  | none => .ok w

/-- The events among some that the console shows. -/
def shown (request : Request) (log : List Event) : List Event :=
  match request with
  | .scan o => atLevel (shownLevel o.verbose o.quiet) log
  | _ => []

/-- The rows of the events among some that the console shows. -/
def shownRows (request : Request) (log : List Event) : String :=
  match request with
  | .scan o => String.join ((shown request log).map (·.rows (1 < o.verbose)))
  | _ => ""

/-- Runs a command line on a host in a workspace at a time. The result is the outcome, which begins
with the row of the opened log file if it is shown, and the workspace that the run leaves behind. -/
def run (host : Host) (w : Workspace) (time : String) (arguments : List String) :
    Except Breakdown (Outcome × Workspace) := do
  let request := Request.ofArguments arguments
  let ready ← prepare w time request
  let files : Files := fun past image => (record ready time request past).read (.ofString image)
  let outcome ← respond host files request
  return ({ outcome with err := shownRows request (openingLog request) ++ outcome.err },
    record ready time request outcome.log)

end CartBoot.CommandLine
