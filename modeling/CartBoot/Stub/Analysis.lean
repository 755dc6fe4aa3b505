import CartBoot.Layout
import CartBoot.Stub.Tracker
import CartBoot.Toolchain

/-!
# What a boot stub tells

The result of a walk: the addresses and sizes that the stub sets up, the registers that hold them,
and how the walk went. An analysis can also be written down by hand, with any numbers.
-/

namespace CartBoot

/-- What follows the first jump of a stub. -/
inductive DelaySlot where
  /-- No jump was seen, or nothing after it. -/
  | none
  | nop
  | filled
  deriving DecidableEq, Repr

namespace DelaySlot

def all : List DelaySlot := [none, nop, filled]

def name : DelaySlot → String
  | none => "none"
  | nop => "nop"
  | filled => "filled"

/-- The compiler that a delay slot speaks for: IDO fills it, GCC leaves it empty. -/
def hint : DelaySlot → Option Toolchain
  | none => Option.none
  | nop => some .gcc
  | filled => some .ido

end DelaySlot

/-- Why a walk stopped. -/
inductive StopReason where
  | secondNop
  | unknownWord
  | invalidWord
  | delaySlot
  | endOfWindow
  /-- A reason written down by hand. -/
  | noted (text : String)
  deriving DecidableEq, Repr

def StopReason.text : StopReason → String
  | secondNop => "second nop"
  | unknownWord => "unknown instruction"
  | invalidWord => "invalid instruction"
  | delaySlot => "delay slot of final jump"
  | endOfWindow => "end of window"
  | noted text => text

/-- One word of a walk. -/
structure Step where
  /-- The address in memory; the first one is kept as it was given. -/
  ramAddress : Int
  romOffset : Int
  word : Word
  /-- Whether the word before it transfers control. -/
  inDelaySlot : Bool := false
  deriving DecidableEq, Repr

def Step.instruction (step : Step) : Instruction := .decode step.word

/-- Everything read back from a boot stub. -/
structure Analysis where
  jumpAddress : Int
  bssStart : Int
  bssSize : Int
  initialSp : Int
  jumpRegister : Register := .zero
  pointerRegister : Register := .zero
  sizeRegister : Register := .zero
  /-- Provenances of the registers above and of the stack pointer; the last entry of a register
  counts. -/
  provenances : List (Register × Provenance) := []
  bssSign : Int := 0
  sizeGuessed : Bool := false
  delaySlot : DelaySlot := .none
  stopReason : StopReason := .noted ""
  /-- The number of words walked. -/
  words : Int := 0
  trace : List Step := []
  deriving DecidableEq, Repr

namespace Analysis

/-- The end of the BSS segment. -/
def bssEnd (a : Analysis) : Int :=
  (a.bssStart + a.bssSize) % 0x100000000

/-- The provenance of a register. -/
def provenance (a : Analysis) (r : Register) : Provenance :=
  ((a.provenances.reverse.find? fun entry => entry.1 = r).map (·.2)).getD .none

/-- Reads the result out of a tracker. If the additions of the loop are negative on balance, the
clearing runs downwards and the pointer starts at the end of the segment. -/
def ofTracker (rule : StopRule) (t : Tracker) : Analysis :=
  let size := t.sizeRegister rule
  let pointer := t.registers.value t.pointerRegister
  let length := t.registers.value size.1
  { jumpAddress := (t.registers.value t.jumpRegister).toNat
    bssStart := (if t.sign < 0 then pointer - length else pointer).toNat
    bssSize := length.toNat
    initialSp := (t.registers.value .sp).toNat
    jumpRegister := t.jumpRegister
    pointerRegister := t.pointerRegister
    sizeRegister := size.1
    provenances := [t.jumpRegister, t.pointerRegister, size.1, .sp].map fun r =>
      (r, t.registers.provenance r)
    bssSign := t.sign
    sizeGuessed := size.2 }

end Analysis

/-- Bytes of code and data between the entrypoint and the BSS segment, as far as IPL3 copies them
and the image holds them, in whole words. -/
def segmentLength (bssStart entrypoint available : Int) : Int :=
  if bssStart ≤ entrypoint then 0
  else
    let length := max 0 (min (min (bssStart - entrypoint) Layout.loadSize) available)
    length - length % 4

end CartBoot
