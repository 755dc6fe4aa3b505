import CartBoot.ByteOrder

/-!
# Rearranging a buffer where it stands

A lane of a buffer holds the bytes at one position of its groups. A buffer comes into canonical
order by assignments between its lanes; a lane that is overwritten before it is read is kept aside.
A buffer without whole groups is refused before anything is assigned.
-/

namespace CartBoot

namespace Bytes

/-- Every `stride`-th byte, the first one behind `skip` bytes. -/
def lane (stride : Nat) : Nat → Bytes → Bytes
  | _, [] => []
  | 0, b :: rest => b :: lane stride (stride - 1) rest
  | skip + 1, _ :: rest => lane stride skip rest

/-- Writes the bytes of a source over a lane. -/
def setLane (buffer : Bytes) (stride start : Nat) (source : Bytes) : Bytes :=
  buffer.mapIdx fun i b => if i % stride = start then source.getD (i / stride) b else b

/-- Copies one lane over another one. -/
def copyLane (buffer : Bytes) (stride target source : Nat) : Bytes :=
  buffer.setLane stride target (buffer.lane stride source)

end Bytes

namespace ByteOrder

/-- Permutes each whole group of bytes by assignments between the lanes of a buffer. -/
def arrangeLanes : ByteOrder → Bytes → Bytes
  | big, buffer => buffer
  | little, buffer =>
    let first := buffer.lane 4 0
    let second := buffer.lane 4 1
    let buffer := buffer.copyLane 4 0 3
    let buffer := buffer.copyLane 4 1 2
    let buffer := buffer.setLane 4 2 second
    buffer.setLane 4 3 first
  | swapped, buffer =>
    let even := buffer.lane 2 0
    let buffer := buffer.copyLane 2 0 1
    buffer.setLane 2 1 even

/-- Rearranges a buffer of whole groups into canonical order where it stands. -/
def normalizeInPlace (order : ByteOrder) : EStateM Fault Bytes Unit := do
  let buffer ← get
  if buffer.length % order.group ≠ 0 then throw (.raggedLength buffer.length order.group)
  modify order.arrangeLanes

end ByteOrder

end CartBoot
