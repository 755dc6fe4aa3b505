import CartBoot.CommandLine.Request
import CartBoot.CommandLine.Stream
import CartBoot.CommandLine.Usage

/-!
# Batches

A batch scans its images one after the other. An image that cannot be scanned costs one line of
complaint and the status, and the batch goes on unless it is to fail fast. A report that cannot be
written ends the run. `Batch.run` is a function of the host and of what reading each file gives,
which may depend on the events so far: a file among the images may be the log file.
-/

namespace CartBoot.CommandLine

/-- What reading the file at a path gives once some events have happened. -/
abbrev Files := List Event → String → Except FileFailure Bytes

/-- What a run leaves behind. -/
structure Outcome where
  status : Nat
  out : Text := []
  err : String := ""
  log : List Event := []
  deriving DecidableEq, Repr

namespace Options

def scanOptions (o : Options) : ScanOptions :=
  { stopRule := o.stopRule, direction := o.direction, minEvidence := o.minEvidence }

def reportConfig (o : Options) : ReportConfig :=
  { width := o.width, abi := o.abi, verbosity := o.verbose, terse := o.terse
    listing := o.listing, fullHeader := o.header }

/-- The path of the log file, if there is to be one. -/
def logPath? (o : Options) : Option Path :=
  (o.logFile.filter fun text => text != "").map .ofString

/-- The first choice that was left blank. -/
def blankChoice? (o : Options) : Option Breakdown :=
  if o.isBlank .abi then some (.blankChoice "Abi")
  else if o.isBlank .stopRule then some (.blankChoice "StopRule")
  else if o.isBlank .direction then some (.blankChoice "Direction")
  else none

end Options

/-- What one image adds to a batch. -/
structure Entry where
  failed : Bool
  out : Text := []
  err : String := ""
  log : List Event := []
  deriving DecidableEq, Repr

namespace Entry

/-- The entry of an image that cannot be scanned. -/
def complaint (image stage message : String) (log : List Event) : Entry :=
  { failed := true, err := image ++ ": " ++ stage ++ ": " ++ message ++ "\n", log }

section Scan

variable (host : Host)

/-- The report on a profile. The width is needed for the first line of a listing. -/
def report (o : Options) (p : Profile) : Except Breakdown Text :=
  if o.isBlank .width && o.listing && !p.analysis.trace.isEmpty then .error .blankWidth
  else (p.report host.room o.reportConfig).mapError .fault

/-- What is to be printed about a profile: its terse record or its report. -/
def body (o : Options) (p : Profile) : Except Breakdown Text :=
  if o.terse then .ok p.terse else report host o p

/-- The output for a profile. Reports after the first argument are set off by an empty line. -/
def output (o : Options) (index : Nat) (p : Profile) : Except Breakdown Text := do
  let written ← host.out.write (← body host o p)
  return (if o.terse || index = 0 then [] else ("\n" : Text)) ++ written ++ ("\n" : Text)

/-- Scans an image whose bytes were read. -/
def ofBytes (o : Options) (index : Nat) (image : String) (raw : Bytes) :
    Except Breakdown Entry :=
  let name := (Path.ofString image).name
  let log := Profile.log o.scanOptions name raw
  match Profile.ofImage o.scanOptions name raw with
  | .ok p =>
    if o.isBlank .minEvidence then .error .blankEvidence
    else do return { failed := false, out := ← output host o index p, log }
  | .error fault =>
    match fault.stage with
    | some stage => .ok (complaint image stage fault.message log)
    | none => .error (.fault fault)

/-- Scans the image at a path after some events. -/
def ofImage (files : Files) (o : Options) (index : Nat) (past : List Event) (image : String) :
    Except Breakdown Entry :=
  if (Path.ofString image).hasNull then .error .nullInPath
  else match files past image with
    | .error failure => .ok (complaint image "read" failure.message [])
    | .ok raw => ofBytes host o index image raw

end Scan

end Entry

namespace Batch

variable (host : Host)

/-- Scans images after some events, until one fails, or all of them. -/
def entries (files : Files) (o : Options) (index : Nat) (past : List Event) :
    List String → Except Breakdown (List (String × Entry))
  | [] => .ok []
  | image :: rest => do
    let entry ← Entry.ofImage host files o index past image
    if entry.failed && o.failFast then return [(image, entry)]
    else return (image, entry) :: (← entries files o (index + 1) (past ++ entry.log) rest)

/-- The events of an entry within its batch. -/
def entryLog (o : Options) (image : String) (entry : Entry) : List Event :=
  entry.log ++ if entry.failed && o.failFast then [.batchStopped image] else []

/-- The events at the end of a batch. -/
def closingLog (failed total : Nat) : List Event :=
  if failed = 0 then [] else [.batchFailures failed total]

/-- The line above the records of a batch, if there are to be records. -/
def heading (o : Options) : Text :=
  if o.terse then Profile.terseHeading ++ "\n" else ""

/-- Runs a batch. -/
def run (files : Files) (o : Options) : Except Breakdown Outcome := do
  let top ← host.out.write (heading o)
  let done ← entries host files o 0 [] o.images
  let failed := (done.filter (·.2.failed)).length
  return {
    status := if failed = 0 then 0 else 1
    out := top ++ (done.map (·.2.out)).flatten
    err := String.join (done.map (·.2.err))
    log := done.flatMap (fun e => entryLog o e.1 e.2) ++ closingLog failed o.images.length }

end Batch

/-- Answers a request. -/
def respond (host : Host) (files : Files) : Request → Except Breakdown Outcome
  | .help => do return { status := 0, out := ← host.out.write helpText }
  | .version => do return { status := 0, out := ← host.out.write versionText }
  | .misused misuse =>
    .ok { status := 2, err := usageText ++ "bootscan: error: " ++ misuse.message ++ "\n" }
  | .scan o =>
    match o.blankChoice? with
    | some breakdown => .error breakdown
    | none => Batch.run host files o

end CartBoot.CommandLine
