import CartBoot.Layout
import CartBoot.Text.Numeral
import CartBoot.Word

/-!
# Faults

What can stop a scan. A fault of an image names the stage that met it, and a batch goes on with the
next image; a fault without a stage is a misuse of an operation and ends the batch.
-/

namespace CartBoot

/-- The parts of an image that are read at a fixed size. -/
inductive Region where
  | image
  | header
  | ipl3
  deriving DecidableEq, Repr

namespace Region

/-- Bytes that the image must hold for the region to be read. -/
def needed : Region → Nat
  | image => Layout.imageSize
  | header => Layout.headerSize
  | ipl3 => Layout.bootOffset

def label : Region → String
  | image => "ROM"
  | header => "header"
  | ipl3 => "IPL3 region"

def stage : Region → String
  | image => "read"
  | header => "header"
  | ipl3 => "ipl3"

end Region

/-- Causes of failure. -/
inductive Fault where
  /-- The first bytes are the magic of no byte order. -/
  | unknownMagic (head : Bytes)
  /-- A region runs past the end of the image. -/
  | truncated (region : Region) (available : Nat)
  /-- The boot loader's checksum is not in the table. -/
  | unknownIpl3 (checksum : Int)
  /-- The length is not a whole number of byte groups. -/
  | raggedLength (length group : Nat)
  /-- A word was read from fewer than four bytes. -/
  | shortWord (length : Nat)
  /-- The value does not fit in 32 bits. -/
  | notAWord (value : Int)
  /-- The number names no register. -/
  | registerOutOfRange (number : Int)
  /-- A statement has no value for the offset of its layout. -/
  | missingOffset
  /-- A statement has no value for an unsigned number of its layout. -/
  | missingNumber
  /-- A mnemonic column of negative width. -/
  | negativeWidth
  /-- A mnemonic column too wide to count. -/
  | excessiveWidth
  /-- A mnemonic column too wide to write. -/
  | outOfMemory
  deriving DecidableEq, Repr

namespace Fault

open Text.Numeral in
/-- The wording of a fault. -/
def message : Fault → String
  | unknownMagic head =>
    "Unrecognised header magic " ++ if head.isEmpty then "(empty)" else spacedBytes head
  | truncated region available =>
    region.label ++ " needs 0x" ++ hex 0 region.needed ++ " bytes, only 0x" ++ hex 0 available ++
      " available"
  | unknownIpl3 checksum => "Unrecognised IPL3 checksum 0x" ++ hex 8 checksum
  | raggedLength length group =>
    "length " ++ decimal length ++ " is not a multiple of " ++ decimal group
  | shortWord length => "need 4 bytes, got " ++ decimal length
  | notAWord value => "not a 32-bit word: " ++ signedHexLower value
  | registerOutOfRange number => "register field out of range: " ++ decimal number
  | missingOffset => "unsupported operand type(s) for &=: 'NoneType' and 'int'"
  | missingNumber => "unsupported format string passed to NoneType.__format__"
  | negativeWidth => "Sign not allowed in string format specifier"
  | excessiveWidth => "Too many decimal digits in format string"
  | outOfMemory => ""

/-- The stage that an image's fault belongs to; misuse has none. -/
def stage : Fault → Option String
  | unknownMagic _ => some "endian"
  | truncated region _ => some region.stage
  | unknownIpl3 _ => some "ipl3"
  | _ => none

end Fault

end CartBoot
