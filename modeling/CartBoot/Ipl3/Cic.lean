import CartBoot.Fault
import CartBoot.Ipl3.Checksum

/-!
# Lockout chips

Every build of IPL3 belongs to a lockout chip (CIC), known under one number for NTSC consoles and
one for PAL consoles, and loads the game to a place of its own. The checksum of the boot loader
tells the builds apart.
-/

namespace CartBoot

/-- A known build of the boot loader. -/
structure Cic where
  checksum : Int
  ntsc : String
  pal : String
  /-- What is taken off the entrypoint in the header, or the load address itself. -/
  offset : Int
  deriving DecidableEq, Repr

namespace Cic

/-- The mark of a missing region. -/
def absent : String := "-"

/-- The numbers of the chip. -/
def name (cic : Cic) : String :=
  if cic.ntsc = absent then cic.pal
  else if cic.pal = absent then cic.ntsc
  else cic.ntsc ++ " / " ++ cic.pal

/-- Whether the build loads to a fixed address, which then has bit 31 set. -/
def isAbsolute (cic : Cic) : Bool :=
  cic.offset / 0x80000000 % 2 = 1

/-- The entrypoint that the build uses, given the one in the header. -/
def correct (cic : Cic) (headerEntrypoint : Int) : Int :=
  if cic.isAbsolute then cic.offset else (headerEntrypoint - cic.offset) % 0x100000000

/-- Builds under the checksums they are found by. A later entry replaces an earlier one of the same
checksum. -/
abbrev Table := List (Int × Cic)

/-- A table that finds every build by its own checksum. -/
def Table.ofBuilds (builds : List Cic) : Table :=
  builds.map fun cic => (cic.checksum, cic)

/-- The builds of licensed cartridges. -/
def licensed : List Cic :=
  [⟨0xD1F2D592, "6102", "7101", 0x000000⟩,
    ⟨0x27DF61E2, "6103", "7103", 0x100000⟩,
    ⟨0x229F516C, "6105", "7105", 0x000000⟩,
    ⟨0xA0DD69F7, "6106", "7106", 0x200000⟩,
    ⟨0x0013579C, "6101", absent, 0x000000⟩,
    ⟨0xDAB442CD, absent, "7102", 0x80000480⟩]

/-- The table of licensed cartridges. -/
def Table.licensed : Table := .ofBuilds Cic.licensed

/-- The build under a checksum. -/
def Table.find? (table : Table) (checksum : Int) : Option Cic :=
  (table.reverse.find? fun entry => entry.1 = checksum).map (·.2)

/-- The build under a checksum, which has to be known. -/
def Table.lookup (table : Table) (checksum : Int) : Except Fault Cic :=
  match table.find? checksum with
  | some cic => .ok cic
  | none => .error (.unknownIpl3 checksum)

end Cic

namespace Ipl3

/-- The checksum of the boot loader in a canonical image. -/
def imageChecksum (image : Bytes) : Word :=
  checksum ((image.take Layout.bootOffset).drop Layout.headerSize)

/-- The build of the boot loader in a canonical image. -/
def identify (table : Cic.Table) (image : Bytes) : Except Fault Cic :=
  if image.length < Layout.bootOffset then .error (.truncated .ipl3 image.length)
  else table.lookup (imageChecksum image).toNat

end Ipl3

end CartBoot
