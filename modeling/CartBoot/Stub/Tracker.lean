import CartBoot.Instruction
import CartBoot.Register.File

/-!
# Tracking the constants of a boot stub

A boot stub builds a few constants, clears the BSS segment in a loop and jumps to the game. The
tracker follows the constants through the register file and notes which registers take part in the
loop and in the jump. The loop is not iterated: its additions only vote on the direction of the
clearing.
-/

namespace CartBoot

/-- When the walk over a stub stops. -/
inductive StopRule where
  /-- At the second of two zero words. -/
  | doubleNop
  /-- After the delay slot of the first jump. The low half of a constant is completed only once. -/
  | delaySlot
  deriving DecidableEq, Repr

namespace StopRule

def all : List StopRule := [doubleNop, delaySlot]

def name : StopRule → String
  | doubleNop => "double-nop"
  | delaySlot => "delay-slot"

end StopRule

/-- What is known after a number of instructions. -/
structure Tracker where
  registers : RegisterFile := .blank
  /-- The register of the last jump through a register. -/
  jumpRegister : Register := .zero
  /-- The base of the last store. -/
  pointerRegister : Register := .zero
  /-- The register that the last conditional branch on inequality compares first. -/
  branchRegister : Option Register := none
  /-- Destinations of the trapping additions, the last one first. -/
  addiTargets : List Register := []
  /-- Trapping additions of non-negative numbers less those of negative numbers. -/
  sign : Int := 0
  deriving DecidableEq, Repr

namespace Tracker

/-- The register whose complete constant makes the walk ignore the instruction, if there is one. -/
def patched? (rule : StopRule) (t : Tracker) : Instruction → Option Register
  | .addiu _ rt _ | .ori _ rt _ =>
    if rule = .delaySlot ∧ (t.registers.value rt).immediate ≠ 0 then some rt else none
  | _ => none

/-- The effect of an instruction that is not ignored. -/
def apply (t : Tracker) : Instruction → Tracker
  | .lui rt imm =>
    { t with registers := t.registers.write rt (imm.setWidth 32 <<< 16) .none }
  | .addiu rs rt imm =>
    { t with
      registers := t.registers.write rt (t.registers.value rs + imm.signExtend 32) .addiu }
  | .ori rs rt imm =>
    { t with
      registers := t.registers.write rt (t.registers.value rs ||| imm.setWidth 32) .ori }
  | .addi _ rt imm =>
    { t with
      sign := t.sign + if imm.msb then -1 else 1
      addiTargets := rt :: t.addiTargets }
  | .sw rs _ _ => { t with pointerRegister := rs }
  | .bne rs _ _ | .bnez rs _ => { t with branchRegister := some rs }
  | .jr rs => { t with jumpRegister := rs }
  | _ => t

/-- Follows one instruction. -/
def track (rule : StopRule) (t : Tracker) (i : Instruction) : Tracker :=
  match t.patched? rule i with
  | some _ => t
  | none => t.apply i

/-- Follows a piece of code from a blank state. -/
def run (rule : StopRule) (code : List Instruction) : Tracker :=
  code.foldl (track rule) {}

/-- The register taken for the BSS size, and whether it is a guess. Under the delay-slot rule the
last addition that does not move the pointer tells it, then the last branch; failing both, the
first register that holds anything and has no other part in the stub. -/
def sizeRegister (rule : StopRule) (t : Tracker) : Register × Bool :=
  match rule with
  | .doubleNop => (t.branchRegister.getD .zero, false)
  | .delaySlot =>
    match t.addiTargets.find? (· != t.pointerRegister), t.branchRegister with
    | some r, _ => (r, false)
    | none, some r => (r, false)
    | none, none =>
      (t.registers.firstNonzero [.zero, t.jumpRegister, .sp, t.pointerRegister], true)

end Tracker

end CartBoot
