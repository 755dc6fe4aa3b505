import CartBoot.Fault

/-!
# General-purpose registers

The 32 integer registers and their names. The three calling conventions agree on every name but
those of registers 8 to 15: `o32` counts eight temporaries there, the newer conventions four more
arguments and four temporaries.
-/

namespace CartBoot

/-- Calling conventions, which fix the register names. -/
inductive Abi where
  | o32
  | n32
  | n64
  deriving DecidableEq, Repr

namespace Abi

def all : List Abi := [o32, n32, n64]

def name : Abi → String
  | o32 => "o32"
  | n32 => "n32"
  | n64 => "n64"

end Abi

/-- A general-purpose register, given by its number. -/
abbrev Register := Fin 32

namespace Register

/-- The register that always reads as zero. -/
def zero : Register := 0

/-- The stack pointer. -/
def sp : Register := 29

/-- The return address. -/
def ra : Register := 31

/-- All registers in the order of their numbers. -/
def all : List Register := List.finRange 32

/-- The register with a given number. -/
def ofNumber (number : Int) : Except Fault Register :=
  if h : 0 ≤ number ∧ number < 32 then .ok ⟨number.toNat, by omega⟩
  else .error (.registerOutOfRange number)

/-- Names under `o32`. -/
def oldNames : Vector String 32 :=
  #v["zero", "at", "v0", "v1", "a0", "a1", "a2", "a3",
    "t0", "t1", "t2", "t3", "t4", "t5", "t6", "t7",
    "s0", "s1", "s2", "s3", "s4", "s5", "s6", "s7",
    "t8", "t9", "k0", "k1", "gp", "sp", "fp", "ra"]

/-- Names under `n32` and `n64`. -/
def newNames : Vector String 32 :=
  #v["zero", "at", "v0", "v1", "a0", "a1", "a2", "a3",
    "a4", "a5", "a6", "a7", "t0", "t1", "t2", "t3",
    "s0", "s1", "s2", "s3", "s4", "s5", "s6", "s7",
    "t8", "t9", "k0", "k1", "gp", "sp", "fp", "ra"]

/-- The name of a register under a calling convention. -/
def name (abi : Abi) (r : Register) : String :=
  match abi with
  | .o32 => oldNames.get r
  | .n32 | .n64 => newNames.get r

/-- Whether a call may change the register under `o32`. -/
def callerSaved (r : Register) : Bool :=
  1 ≤ r.val && r.val ≤ 15 || r.val = 24 || r.val = 25 || r.val = 29 || r.val = 30

end Register

/-- The operation that last completed the low half of a register. -/
inductive Provenance where
  | none
  | addiu
  | ori
  deriving DecidableEq, Repr

namespace Provenance

def all : List Provenance := [none, addiu, ori]

def name : Provenance → String
  | none => "none"
  | addiu => "addiu"
  | ori => "ori"

/-- The mark of a provenance in a report, empty when there is none. -/
def tag : Provenance → String
  | none => ""
  | addiu => "addiu"
  | ori => "ori"

end Provenance

end CartBoot
