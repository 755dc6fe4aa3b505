import CartBoot.Instruction.Kind
import CartBoot.Register

/-!
# Assembly statements

A statement is a kind with whatever operands it was given: a register or a number may be missing,
and a number may be any integer. A missing register is written as nothing. A statement that lacks a
number of its layout is not written at all: `Statement.complete` refuses it, and the functions
behind that check count the number as zero.
-/

namespace CartBoot

open Text.Numeral

/-- An instruction as it is written down. -/
structure Statement where
  kind : Kind
  rs : Option Register := none
  rt : Option Register := none
  imm : Option Int := none
  target : Option Int := none
  opcode : Option Int := none
  word : Option Int := none
  deriving DecidableEq, Repr

/-- The value of the low 16 bits as a signed number. -/
def signed16 (n : Int) : Int := n.bmod 0x10000

theorem signed16_toNat (offset : BitVec 16) : signed16 offset.toNat = offset.toInt :=
  (BitVec.toInt_eq_toNat_bmod offset).symm

/-- Sets the bits of `mask` in an integer, taken as two's complement of unlimited length. -/
def setBits (mask : Nat) : Int → Int
  | .ofNat n => .ofNat (mask ||| n)
  | .negSucc n => .negSucc (n - (n &&& mask))

/-- The checked width of a mnemonic column, given the most characters that a text has room for. A
width beyond what can be counted is refused before its sign is looked at. -/
def columnWidth (room : Nat) (width : Int) : Except Fault Nat :=
  if width.natAbs ≥ 0x8000000000000000 then .error .excessiveWidth
  else if width < 0 then .error .negativeWidth
  else if room < width.toNat then .error .outOfMemory
  else .ok width.toNat

namespace Statement

/-- The fault of a statement that lacks a number of its layout. -/
def missing? (s : Statement) : Option Fault :=
  match s.kind.layout with
  | .none | .r => none
  | .target => if s.target.isNone then some .missingNumber else none
  | .rru | .ru => if s.imm.isNone then some .missingNumber else none
  | .rri | .rrb | .rb | .b | .mem => if s.imm.isNone then some .missingOffset else none
  | .error => if s.opcode.isNone || s.word.isNone then some .missingNumber else none

/-- The statement itself, if it has every number of its layout. -/
def complete (s : Statement) : Except Fault Statement :=
  match s.missing? with
  | some fault => .error fault
  | none => .ok s

/-- A register operand in text. -/
def registerText (abi : Abi) (operand : Option Register) : String :=
  operand.elim "" (·.name abi)

/-- The immediate as a signed offset in text. -/
def offsetText (s : Statement) : String :=
  signedHex (signed16 (s.imm.getD 0))

/-- The immediate as an unsigned number in text. -/
def immediateText (s : Statement) : String :=
  "0x" ++ hex 0 (s.imm.getD 0)

/-- The operands in text. -/
def operandText (s : Statement) (abi : Abi) : String :=
  let rs := registerText abi s.rs
  let rt := registerText abi s.rt
  match s.kind.layout with
  | .none => ""
  | .target => "0x" ++ hex 0 (s.target.getD 0)
  | .r => rs
  | .rri => rt ++ ", " ++ rs ++ ", " ++ s.offsetText
  | .rru => rt ++ ", " ++ rs ++ ", " ++ s.immediateText
  | .ru => rt ++ ", " ++ s.immediateText
  | .rrb => rs ++ ", " ++ rt ++ ", " ++ s.offsetText
  | .rb => rs ++ ", " ++ s.offsetText
  | .b => s.offsetText
  | .mem => rt ++ ", " ++ s.offsetText ++ "(" ++ rs ++ ")"
  | .error =>
    "(op: 0b" ++ binary 6 (s.opcode.getD 0) ++ ", word: " ++ hex 8 (s.word.getD 0) ++ ")"

/-- The mnemonic, padded to a column, and the operands; a statement without operands is its mnemonic
alone. -/
def text (s : Statement) (column : Nat) (abi : Abi) : String :=
  let operands := s.operandText abi
  if operands.isEmpty then s.kind.name
  else
    s.kind.name ++ String.ofList (List.replicate (column - s.kind.name.length) ' ') ++ " " ++
      operands

/-- The characters of a statement before the blanks at its end are taken off. -/
def paddedLength (s : Statement) (column : Nat) (abi : Abi) : Nat :=
  max s.kind.name.length column + 1 + (s.operandText abi).length

/-- The characters of the text of a statement, which are counted without writing it. -/
def textLength (s : Statement) (column : Nat) (abi : Abi) : Nat :=
  if (s.operandText abi).isEmpty then s.kind.name.length else s.paddedLength column abi

theorem length_text (s : Statement) (column : Nat) (abi : Abi) :
    (s.text column abi).length = s.textLength column abi := by
  simp only [text, textLength, paddedLength]
  split
  next => rfl
  next =>
    simp only [String.length_append, String.length_ofList, List.length_replicate]
    have hblank : " ".length = 1 := rfl
    omega

/-- The text of a statement. The width of its column is checked first, then its numbers, then
whether there is room for it. -/
def format (s : Statement) (room : Nat) (width : Int) (abi : Abi) : Except Fault String := do
  let column ← columnWidth room width
  let s ← s.complete
  if s.paddedLength column abi ≤ room then return s.text column abi else throw .outOfMemory

/-- The column of a statement in messages. -/
def defaultColumn : Nat := 10

/-- The text of a statement in messages. -/
def plainText (s : Statement) : String :=
  s.text defaultColumn .o32

/-- Where control goes from the address `pc`: a branch is relative to the next instruction, a jump
stays in that instruction's 256 MiB region, and the jump through a register has no fixed target. -/
def branchTarget (s : Statement) (pc : Int) : Option Int :=
  match s.kind with
  | .beq | .bne | .b | .beqz | .bnez => some ((pc + 4 + 4 * signed16 (s.imm.getD 0)) % 0x100000000)
  | .j | .jal =>
    some (setBits (((pc + 4) / 0x10000000 % 16).toNat * 0x10000000) (s.target.getD 0))
  | _ => none

end Statement

end CartBoot
