import CartBoot.Header
import CartBoot.Ipl3.Cic
import CartBoot.Stub.Log

/-!
# The boot profile of an image

From the raw bytes of an image to everything that its boot sequence tells: byte order, header, boot
loader, entrypoint, boot stub and compiler. `Profile.ofImage` finds it or says what is in the way,
and `Profile.log` gives the events of that search.
-/

namespace CartBoot

/-- How images are analysed. -/
structure ScanOptions where
  stopRule : StopRule := .delaySlot
  direction : Direction := .reverse
  minEvidence : Int := Toolchain.defaultEvidence
  cics : Cic.Table := .licensed
  deriving DecidableEq, Repr

/-- Everything recovered from one image. -/
structure Profile where
  filename : String
  /-- The size of the raw image. -/
  size : Int
  order : ByteOrder
  header : Header
  cic : Cic
  /-- The entrypoint after its correction. -/
  entrypoint : Int
  segmentLength : Int
  analysis : Analysis
  classification : Classification
  deriving DecidableEq, Repr

namespace Profile

/-- The byte order of a raw image of sufficient size. -/
def checkedOrder (raw : Bytes) : Except Fault ByteOrder := do
  let order ← ByteOrder.detect raw
  if raw.length < Layout.imageSize then throw (.truncated .image raw.length)
  return order

/-- The whole words of a raw image in canonical order. -/
def canonical (order : ByteOrder) (raw : Bytes) : Except Fault Bytes :=
  order.normalize (raw.take (raw.length - raw.length % 4))

/-- The code that IPL3 copies to the entrypoint. -/
def bootCode (image : Bytes) : Bytes :=
  image.drop Layout.bootOffset

/-- The instructions of the boot segment. -/
def segment (image : Bytes) (length : Int) : List Instruction :=
  (ByteOrder.big.words ((bootCode image).take length.toNat)).map .decode

/-- Analyses a raw image. -/
def ofImage (options : ScanOptions) (filename : String) (raw : Bytes) :
    Except Fault Profile := do
  let order ← checkedOrder raw
  let image ← canonical order raw
  let header ← Header.parse image
  let cic ← Ipl3.identify options.cics image
  let entrypoint := cic.correct header.entrypoint.toNat
  let analysis := Walk.analyzeWindow options.stopRule .big entrypoint (bootCode image)
  let segmentLength := CartBoot.segmentLength analysis.bssStart entrypoint (bootCode image).length
  return {
    filename, size := raw.length, order, header, cic, entrypoint, segmentLength, analysis
    classification :=
      .ofCode options.direction options.minEvidence (segment image segmentLength) }

/-- The events of identifying the boot loader of a canonical image. -/
def ipl3Log (table : Cic.Table) (image : Bytes) : List Event :=
  if image.length < Layout.bootOffset then []
  else
    .ipl3Checksum (Ipl3.imageChecksum image).toNat ::
      ((table.find? (Ipl3.imageChecksum image).toNat).map fun cic =>
        .ipl3Identified cic.name).toList

/-- The events of a profile's boot code. -/
def bootLog (options : ScanOptions) (p : Profile) (code : Bytes) : List Event :=
  [.located p.filename p.cic.name p.entrypoint p.header.entrypoint.toNat] ++
    Walk.windowLog options.stopRule .big p.entrypoint code ++
    (if p.analysis.sizeGuessed then [.sizeGuessed p.filename p.analysis.sizeRegister] else []) ++
    [.scanned options.direction p.classification]

/-- The events of `ofImage`. -/
def log (options : ScanOptions) (filename : String) (raw : Bytes) : List Event :=
  match checkedOrder raw with
  | .error _ => []
  | .ok order =>
    .ordered filename order ::
      match canonical order raw with
      | .error _ => []
      | .ok image =>
        ipl3Log options.cics image ++
          match ofImage options filename raw with
          | .error _ => []
          | .ok p => bootLog options p (bootCode image)

end Profile

end CartBoot
