import CartBoot.Text.CodePoint
import CartBoot.Text.KanjiGrid

/-!
# Shift-JIS text

Single bytes below 0x80 are ASCII and those from 0xA1 to 0xDF half-width kana; a lead byte and a
trail byte together name a cell of the JIS X 0208 grid. A byte that starts no character is
replaced, and reading goes on with the next byte.
-/

namespace CartBoot.Text.ShiftJis

/-- Whether a byte opens a pair. -/
def isLead (b : UInt8) : Bool :=
  0x81 ≤ b && b ≤ 0x9F || 0xE0 ≤ b && b ≤ 0xFC

/-- Whether a byte closes a pair. -/
def isTrail (b : UInt8) : Bool :=
  0x40 ≤ b && b ≤ 0x7E || 0x80 ≤ b && b ≤ 0xFC

/-- The character of a pair. Each lead byte stands for two rows of the grid. -/
def pair? (lead trail : UInt8) : Option Char :=
  if isLead lead && isTrail trail then
    let leadIndex := lead.toNat - if lead < 0xE0 then 0x81 else 0xC1
    let trailIndex := trail.toNat - if trail < 0x80 then 0x40 else 0x41
    KanjiGrid.cell? (2 * leadIndex + trailIndex / 94 + 1) (trailIndex % 94 + 1)
  else none

/-- The character of a byte that opens no pair. -/
def single (b : UInt8) : Char :=
  if b < 0x80 then Char.ofNat b.toNat
  else if 0xA1 ≤ b && b ≤ 0xDF then Char.ofNat (0xFF61 + (b.toNat - 0xA1))
  else replacement

/-- The characters of a run of bytes. -/
def decode : List UInt8 → List Char
  | [] => []
  | [b] => [single b]
  | b :: next :: rest =>
    match pair? b next with
    | some c => c :: decode rest
    | none => single b :: decode (next :: rest)

end CartBoot.Text.ShiftJis
