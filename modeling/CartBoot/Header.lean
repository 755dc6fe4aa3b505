import CartBoot.Fault

/-!
# The image header

Thirteen fields fill the first 0x40 bytes of a canonical image, without gaps. `Header.parse` reads
them and `Header.encode` writes them back.
-/

namespace CartBoot

/-- The fields of a header in the order of their offsets. -/
structure Header where
  /-- The bus settings at 0x00, whose bytes tell the byte order. -/
  busSettings : Bytes
  clockRate : Word
  /-- The entrypoint before its correction for the boot loader. -/
  entrypoint : Word
  /-- The library revision; its low byte is a letter. -/
  revision : Word
  checksum1 : Word
  checksum2 : Word
  /-- The unused bytes at 0x18. -/
  reserved18 : Bytes
  /-- The image name in Shift-JIS. -/
  rawName : Bytes
  /-- The unused bytes at 0x34. -/
  reserved34 : Bytes
  rawMediaFormat : Word
  rawCartridgeId : Bytes
  rawCountryCode : UInt8
  version : UInt8
  deriving DecidableEq, Repr

namespace Header

/-- The bytes of a field. -/
def field (image : Bytes) (offset size : Nat) : Bytes :=
  (image.drop offset).take size

/-- A field of one word. -/
def wordField (image : Bytes) (offset : Nat) : Word :=
  Bytes.toWord (image.drop offset)

/-- A field of one byte. -/
def byteField (image : Bytes) (offset : Nat) : UInt8 :=
  (image.drop offset).headD 0

/-- Reads the header of a canonical image. -/
def parse (image : Bytes) : Except Fault Header :=
  if image.length < Layout.headerSize then .error (.truncated .header image.length)
  else .ok {
    busSettings := field image 0x00 4
    clockRate := wordField image 0x04
    entrypoint := wordField image 0x08
    revision := wordField image 0x0C
    checksum1 := wordField image 0x10
    checksum2 := wordField image 0x14
    reserved18 := field image 0x18 8
    rawName := field image 0x20 20
    reserved34 := field image 0x34 4
    rawMediaFormat := wordField image 0x38
    rawCartridgeId := field image 0x3C 2
    rawCountryCode := byteField image 0x3E
    version := byteField image 0x3F }

/-- Writes the fields in order. -/
def encode (h : Header) : Bytes :=
  h.busSettings ++ h.clockRate.toBytes ++ h.entrypoint.toBytes ++ h.revision.toBytes ++
    h.checksum1.toBytes ++ h.checksum2.toBytes ++ h.reserved18 ++ h.rawName ++ h.reserved34 ++
    h.rawMediaFormat.toBytes ++ h.rawCartridgeId ++ [h.rawCountryCode, h.version]

/-- Whether the fields that hold bytes have the sizes of the format. -/
structure WellFormed (h : Header) : Prop where
  busSettings : h.busSettings.length = 4
  reserved18 : h.reserved18.length = 8
  rawName : h.rawName.length = 20
  reserved34 : h.reserved34.length = 4
  rawCartridgeId : h.rawCartridgeId.length = 2

theorem WellFormed.length_encode {h : Header} (sizes : h.WellFormed) :
    h.encode.length = Layout.headerSize := by
  simp [encode, sizes.busSettings, sizes.reserved18, sizes.rawName, sizes.reserved34,
    sizes.rawCartridgeId, Layout.headerSize]

end Header

end CartBoot
