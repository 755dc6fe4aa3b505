/-!
# Layout of a cartridge image

The header comes first, the boot loader IPL3 fills the space up to `bootOffset`, and the code that
IPL3 copies to memory starts there.
-/

namespace CartBoot.Layout

/-- Bytes of the header. -/
def headerSize : Nat := 0x40

/-- Offset of the code that IPL3 copies to the entrypoint, and the end of IPL3 itself. -/
def bootOffset : Nat := 0x1000

/-- Bytes of boot code handed to the stub walk. -/
def windowSize : Nat := 0x1000

/-- The smallest image that holds a whole window. -/
def imageSize : Nat := bootOffset + windowSize

/-- Bytes that IPL3 copies to the entrypoint. -/
def loadSize : Nat := 0x100000

end CartBoot.Layout
