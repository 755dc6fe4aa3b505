/-!
# Toolchains

The two compilers used for cartridges leave different traces in their code. A verdict weighs
branches against jumps once there are enough of both together.
-/

namespace CartBoot

/-- Verdicts on the compiler of a piece of code. -/
inductive Toolchain where
  | ido
  | gcc
  | insufficient
  deriving DecidableEq, Repr

namespace Toolchain

def all : List Toolchain := [ido, gcc, insufficient]

def name : Toolchain → String
  | ido => "IDO"
  | gcc => "GCC"
  | insufficient => "insufficient evidence"

/-- Branches and jumps that a verdict needs unless told otherwise. -/
def defaultEvidence : Int := 8

/-- The verdict for a number of branches and a number of jumps. -/
def verdict (branches jumps minEvidence : Int) : Toolchain :=
  if branches + jumps < minEvidence then insufficient
  else if jumps < branches then ido
  else gcc

end Toolchain

end CartBoot
