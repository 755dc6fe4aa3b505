import CartBoot.ByteOrder
import CartBoot.Stub.Analysis
import CartBoot.Toolchain.Scan

/-!
# Log records

What a scan remarks on its way. An event has a level, a source and a wording; the log of an
operation is the list of its events in order.
-/

namespace CartBoot

/-- Severities in ascending order. -/
inductive Level where
  | debug
  | info
  | warning
  | error
  deriving DecidableEq, Repr

namespace Level

/-- The rank of a level. -/
def rank : Level → Nat
  | debug => 10
  | info => 20
  | warning => 30
  | error => 40

def name : Level → String
  | debug => "DEBUG"
  | info => "INFO"
  | warning => "WARNING"
  | error => "ERROR"

def all : List Level := [debug, info, warning, error]

end Level

/-- The parts of the program that write log records. -/
inductive Source where
  | package
  | entrypoint
  | ipl3
  | classifier
  | cli
  deriving DecidableEq, Repr

def Source.name : Source → String
  | package => "n64_bootscan"
  | entrypoint => "n64_bootscan.entrypoint"
  | ipl3 => "n64_bootscan.ipl3"
  | classifier => "n64_bootscan.classifier"
  | cli => "n64_bootscan.cli"

/-- The place in the program that an event comes from, as log lines and the console name it. -/
structure Site where
  file : String
  routine : String
  line : Nat
  deriving DecidableEq, Repr

/-- Remarkable moments of a scan. -/
inductive Event where
  /-- The byte order of an image is known. -/
  | ordered (file : String) (order : ByteOrder)
  | ipl3Checksum (checksum : Int)
  | ipl3Identified (name : String)
  /-- The entrypoint of an image is known. -/
  | located (file name : String) (entrypoint headerEntrypoint : Int)
  /-- An instruction would complete a constant for the second time. -/
  | alreadyPatched (register : Register) (instruction : Instruction)
  /-- A walk meets a word that is no instruction. -/
  | stopping (step : Step)
  | secondNop (romOffset : Int)
  | registersAtStop (registers : RegisterFile)
  | guessingSize (register : Register)
  | walked (address words : Int) (reason : StopReason)
  /-- The BSS size of an image is a guess. -/
  | sizeGuessed (file : String) (register : Register)
  | scanned (direction : Direction) (result : Classification)
  /-- A batch ends early. -/
  | batchStopped (file : String)
  | batchFailures (failed total : Nat)
  | logFile (path : String)
  deriving DecidableEq, Repr

namespace Event

def level : Event → Level
  | ordered _ _ | ipl3Checksum _ | ipl3Identified _ | alreadyPatched _ _ | secondNop _
  | registersAtStop _ | walked _ _ _ | scanned _ _ | logFile _ => .debug
  | located _ _ _ _ | guessingSize _ | batchFailures _ _ => .info
  | stopping _ | sizeGuessed _ _ => .warning
  | batchStopped _ => .error

def source : Event → Source
  | ordered _ _ | located _ _ _ _ | sizeGuessed _ _ | logFile _ => .package
  | ipl3Checksum _ | ipl3Identified _ => .ipl3
  | alreadyPatched _ _ | stopping _ | secondNop _ | registersAtStop _ | guessingSize _
  | walked _ _ _ => .entrypoint
  | scanned _ _ => .classifier
  | batchStopped _ | batchFailures _ _ => .cli

/-- The place that an event comes from. A refused patch is told apart by its instruction. -/
def site : Event → Site
  | ordered _ _ => ⟨"__init__.py", "analyze_rom", 86⟩
  | located _ _ _ _ => ⟨"__init__.py", "analyze_rom", 94⟩
  | sizeGuessed _ _ => ⟨"__init__.py", "analyze_rom", 100⟩
  | ipl3Checksum _ => ⟨"ipl3.py", "identify", 106⟩
  | ipl3Identified _ => ⟨"ipl3.py", "identify", 108⟩
  | alreadyPatched _ i => ⟨"entrypoint.py", "track", if i.kind = .addiu then 144 else 151⟩
  | secondNop _ => ⟨"entrypoint.py", "run", 196⟩
  | stopping _ => ⟨"entrypoint.py", "run", 205⟩
  | registersAtStop _ => ⟨"entrypoint.py", "run", 223⟩
  | guessingSize _ => ⟨"entrypoint.py", "_size_register", 249⟩
  | walked _ _ _ => ⟨"entrypoint.py", "analyze_entrypoint", 285⟩
  | scanned _ _ => ⟨"classifier.py", "classify", 132⟩
  | batchStopped _ => ⟨"bootscan.py", "main", 118⟩
  | batchFailures _ _ => ⟨"bootscan.py", "main", 122⟩
  | logFile _ => ⟨"logsetup.py", "setup_logging", 64⟩

open Text.Numeral in
/-- The wording of an event. -/
def message : Event → String
  | ordered file order => file ++ ": " ++ order.description
  | ipl3Checksum checksum => "IPL3 checksum 0x" ++ hex 8 checksum
  | ipl3Identified name => "IPL3 identified as CIC " ++ name
  | located file name entrypoint headerEntrypoint =>
    file ++ ": CIC " ++ name ++ ", entrypoint 0x" ++ hex 8 entrypoint ++ " (header says 0x" ++
      hex 8 headerEntrypoint ++ ")"
  | alreadyPatched register instruction =>
    register.name .o32 ++ " already patched, ignoring " ++ instruction.plainText
  | stopping step =>
    "Stopping at 0x" ++ hex 8 step.ramAddress ++ " (ROM 0x" ++ hex 6 step.romOffset ++ "): " ++
      step.instruction.plainText
  | secondNop romOffset => "Second nop at ROM 0x" ++ hex 6 romOffset ++ ", stopping"
  | registersAtStop registers => "Registers at stop: " ++ registers.display .o32
  | guessingSize register =>
    "No BSS size register observed, guessing " ++ register.name .o32
  | walked address words reason =>
    "Entrypoint 0x" ++ hex 8 address ++ ": " ++ decimal words ++ " words, stopped on " ++
      reason.text
  | sizeGuessed file register =>
    file ++ ": BSS size is a fallback guess from " ++ register.name .o32 ++
      ", needs manual review"
  | scanned direction result =>
    direction.name ++ " scan over " ++ decimal result.words ++ " words: " ++
      decimal result.branches ++ " branches, " ++ decimal result.jumps ++ " jumps -> " ++
      result.verdict.name
  | batchStopped file => "Stopping after " ++ file ++ " (--fail-fast)"
  | batchFailures failed total =>
    decimal failed ++ " of " ++ decimal total ++ " ROM(s) failed"
  | logFile path => "Log file: " ++ path

end Event

/-- The events of at least a level. -/
def atLevel (level : Level) (log : List Event) : List Event :=
  log.filter fun event => level.rank ≤ event.level.rank

end CartBoot
