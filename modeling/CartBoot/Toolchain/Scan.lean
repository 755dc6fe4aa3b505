import CartBoot.Instruction
import CartBoot.Toolchain

/-!
# Counting branches and jumps in function bodies

A function ends with `jr ra` and its delay slot. The reverse scan meets the end of a function first
and counts from there back to the next word that is no instruction. The forward scan counts from
the first instruction after a boundary to the function's end; the start of the code is a boundary,
and so is the delay slot of a return. After a word that is no instruction it waits for the next
boundary.
-/

namespace CartBoot

/-- Scan orders. -/
inductive Direction where
  | reverse
  | forward
  deriving DecidableEq, Repr

namespace Direction

def all : List Direction := [reverse, forward]

def name : Direction → String
  | reverse => "reverse"
  | forward => "forward"

end Direction

/-- Numbers of branches and jumps. -/
structure Tally where
  branches : Nat := 0
  jumps : Nat := 0
  deriving DecidableEq, Repr

namespace Tally

/-- Counts one instruction. -/
def count (tally : Tally) (i : Instruction) : Tally :=
  if i.isBranch then { tally with branches := tally.branches + 1 }
  else if i.isJump then { tally with jumps := tally.jumps + 1 }
  else tally

def total (tally : Tally) : Nat := tally.branches + tally.jumps

end Tally

/-- What a reverse scan knows: whether a function's end lies behind the words read so far. -/
structure ReverseScan where
  inFunction : Bool := false
  tally : Tally := {}
  deriving DecidableEq, Repr

namespace ReverseScan

/-- Reads the instruction before those already read. -/
def step (i : Instruction) (scan : ReverseScan) : ReverseScan :=
  if i.isError then { scan with inFunction := false }
  else if i.isReturn then { scan with inFunction := true }
  else if scan.inFunction then { scan with tally := scan.tally.count i }
  else scan

/-- Reads a piece of code from its end. -/
def run (code : List Instruction) : ReverseScan :=
  code.foldr step {}

end ReverseScan

/-- Where a forward scan stands. -/
inductive ScanPhase where
  /-- After a word that is no instruction. -/
  | suspended
  /-- At a boundary, before the first instruction of a function. -/
  | armed
  /-- Inside a function. -/
  | body
  /-- In the delay slot of a return, which counts if the function had a body. -/
  | slot (counted : Bool)
  deriving DecidableEq, Repr

/-- What a forward scan knows. -/
structure ForwardScan where
  phase : ScanPhase := .armed
  tally : Tally := {}
  deriving DecidableEq, Repr

namespace ForwardScan

/-- Reads the next instruction. -/
def step (scan : ForwardScan) (i : Instruction) : ForwardScan :=
  if i.isError then { scan with phase := .suspended }
  else match scan.phase with
    | .slot counted =>
      { phase := .armed, tally := if counted then scan.tally.count i else scan.tally }
    | phase =>
      if i.isReturn then { scan with phase := .slot (phase = .body) }
      else match phase with
        | .body => { scan with tally := scan.tally.count i }
        | .armed => if i = .nop then scan else { phase := .body, tally := scan.tally.count i }
        | _ => scan

/-- Reads a piece of code from its start. -/
def run (code : List Instruction) : ForwardScan :=
  code.foldl step {}

end ForwardScan

/-- The branches and jumps that a scan counts. -/
def Direction.tally (direction : Direction) (code : List Instruction) : Tally :=
  match direction with
  | .reverse => (ReverseScan.run code).tally
  | .forward => (ForwardScan.run code).tally

/-- The outcome of a scan. -/
structure Classification where
  branches : Int
  jumps : Int
  verdict : Toolchain
  /-- The number of words scanned. -/
  words : Int := 0
  deriving DecidableEq, Repr

namespace Classification

def total (c : Classification) : Int := c.branches + c.jumps

/-- Scans a piece of code and draws a verdict. -/
def ofCode (direction : Direction) (minEvidence : Int) (code : List Instruction) :
    Classification :=
  let tally := direction.tally code
  { branches := tally.branches
    jumps := tally.jumps
    verdict := Toolchain.verdict tally.branches tally.jumps minEvidence
    words := code.length }

end Classification

end CartBoot
