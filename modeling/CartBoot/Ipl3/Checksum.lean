import CartBoot.Word

/-!
# The checksum of the boot loader

A 32-bit cyclic redundancy check: the bytes are read most significant bit first, the register
starts at zero, and its complement is the checksum. A whole byte is taken in at once with a table
that holds the effect of its eight bits.
-/

namespace CartBoot.Ipl3

/-- The generator polynomial without its leading term. -/
def polynomial : Word := 0x04C11DB7

/-- One step of the division: the register moves up by one bit, and the generator is subtracted if a
bit falls out. -/
def shiftBit (crc : Word) : Word :=
  if crc.msb then (crc <<< 1) ^^^ polynomial else crc <<< 1

/-- So many steps of the division. -/
def shiftBits : Nat → Word → Word
  | 0, crc => crc
  | n + 1, crc => shiftBits n (shiftBit crc)

/-- The effect of a byte that leaves the top of the register. -/
def byteEffect (b : BitVec 8) : Word :=
  shiftBits 8 (b.setWidth 32 <<< 24)

/-- The effects of all bytes. -/
def table : Vector Word 256 :=
  Vector.ofFn fun i => byteEffect (BitVec.ofFin i)

/-- Takes one byte into the register. -/
def takeByte (crc : Word) (b : UInt8) : Word :=
  (crc <<< 8) ^^^ table[(crc.extractLsb' 24 8 ^^^ b.toBitVec).toFin]

/-- The register after a run of bytes. -/
def remainder (bytes : Bytes) : Word :=
  bytes.foldl takeByte 0

/-- The checksum of a run of bytes. -/
def checksum (bytes : Bytes) : Word :=
  remainder bytes ^^^ 0xFFFFFFFF

theorem takeByte_eq (crc : Word) (b : UInt8) :
    takeByte crc b = (crc <<< 8) ^^^ byteEffect (crc.extractLsb' 24 8 ^^^ b.toBitVec) := by
  simp only [takeByte, table, Fin.getElem_fin, Vector.getElem_ofFn]

end CartBoot.Ipl3
