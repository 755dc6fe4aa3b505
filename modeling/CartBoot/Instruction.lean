import CartBoot.Instruction.Statement

/-!
# Instructions of a boot stub

An instruction owns exactly the operands of its kind. `Instruction.decode` reads a word as an
instruction and `Instruction.encode` writes it back. Comparisons with the zero register and the
all-zero word are read as the pseudo-instructions that assemblers print for them; any other word
outside the supported set is kept whole in an error form.
-/

namespace CartBoot

namespace Word

/-- Bits 26 to 31. -/
def opcode (w : Word) : Nat := w.toNat / 0x4000000

/-- Bits 21 to 25. -/
def rs (w : Word) : Register := ⟨w.toNat / 0x200000 % 32, Nat.mod_lt _ (by decide)⟩

/-- Bits 16 to 20. -/
def rt (w : Word) : Register := ⟨w.toNat / 0x10000 % 32, Nat.mod_lt _ (by decide)⟩

/-- Bits 11 to 15. -/
def rd (w : Word) : Register := ⟨w.toNat / 0x800 % 32, Nat.mod_lt _ (by decide)⟩

/-- Bits 6 to 10. -/
def shift (w : Word) : Nat := w.toNat / 0x40 % 32

/-- Bits 0 to 5. -/
def function (w : Word) : Nat := w.toNat % 64

/-- Bits 0 to 15. -/
def immediate (w : Word) : BitVec 16 := BitVec.ofNat 16 w.toNat

/-- Bits 0 to 25, the word address of a jump within its region. -/
def index (w : Word) : BitVec 26 := BitVec.ofNat 26 w.toNat

/-- The word with a given value, which has to fit. -/
def ofInt (value : Int) : Except Fault Word :=
  if 0 ≤ value ∧ value < 0x100000000 then .ok (BitVec.ofNat 32 value.toNat)
  else .error (.notAWord value)

end Word

/-- A decoded word. In register pairs the source or base comes first. -/
inductive Instruction where
  | j (index : BitVec 26)
  | jal (index : BitVec 26)
  | jr (rs : Register)
  | lui (rt : Register) (imm : BitVec 16)
  | addi (rs rt : Register) (imm : BitVec 16)
  | addiu (rs rt : Register) (imm : BitVec 16)
  | ori (rs rt : Register) (imm : BitVec 16)
  | sw (rs rt : Register) (offset : BitVec 16)
  | beq (rs rt : Register) (offset : BitVec 16)
  | bne (rs rt : Register) (offset : BitVec 16)
  | beqz (rs : Register) (offset : BitVec 16)
  | bnez (rs : Register) (offset : BitVec 16)
  | b (offset : BitVec 16)
  | nop
  /-- A word outside the supported set. -/
  | unknown (word : Word)
  /-- A supported operation with a nonzero field that has to be zero. -/
  | invalid (word : Word)
  deriving DecidableEq, Repr

namespace Instruction

def kind : Instruction → Kind
  | j _ => .j
  | jal _ => .jal
  | jr _ => .jr
  | lui _ _ => .lui
  | addi _ _ _ => .addi
  | addiu _ _ _ => .addiu
  | ori _ _ _ => .ori
  | sw _ _ _ => .sw
  | beq _ _ _ => .beq
  | bne _ _ _ => .bne
  | beqz _ _ => .beqz
  | bnez _ _ => .bnez
  | b _ => .b
  | nop => .nop
  | unknown _ => .unknown
  | invalid _ => .invalid

def isBranch (i : Instruction) : Bool := i.kind.isBranch

def isJump (i : Instruction) : Bool := i.kind.isJump

def hasDelaySlot (i : Instruction) : Bool := i.kind.hasDelaySlot

def isError (i : Instruction) : Bool := i.kind.isError

/-- Whether the instruction returns from a function. -/
def isReturn (i : Instruction) : Bool := i = .jr .ra

/-- Reads a word whose opcode is zero and which is not zero itself. -/
def decodeSpecial (w : Word) : Instruction :=
  if w.function = 0b001000 then
    if w.rt = .zero ∧ w.rd = .zero ∧ w.shift = 0 then .jr w.rs else .invalid w
  else .unknown w

/-- Reads a word as an instruction. -/
def decode (w : Word) : Instruction :=
  if w = 0 then .nop
  else match w.opcode with
    | 0b000000 => decodeSpecial w
    | 0b000010 => .j w.index
    | 0b000011 => .jal w.index
    | 0b000100 =>
      if w.rt = .zero then
        if w.rs = .zero then .b w.immediate else .beqz w.rs w.immediate
      else .beq w.rs w.rt w.immediate
    | 0b000101 =>
      if w.rt = .zero then .bnez w.rs w.immediate else .bne w.rs w.rt w.immediate
    | 0b001000 => .addi w.rs w.rt w.immediate
    | 0b001001 => .addiu w.rs w.rt w.immediate
    | 0b001101 => .ori w.rs w.rt w.immediate
    | 0b001111 => if w.rs = .zero then .lui w.rt w.immediate else .invalid w
    | 0b101011 => .sw w.rs w.rt w.immediate
    | _ => .unknown w

/-- A word with an opcode, two registers and an immediate. -/
def immediateWord (opcode : Nat) (rs rt : Register) (imm : BitVec 16) : Word :=
  BitVec.ofNat 32 (opcode * 0x4000000 + rs.val * 0x200000 + rt.val * 0x10000 + imm.toNat)

/-- A word with an opcode and a jump index. -/
def jumpWord (opcode : Nat) (index : BitVec 26) : Word :=
  BitVec.ofNat 32 (opcode * 0x4000000 + index.toNat)

/-- The word of an instruction. -/
def encode : Instruction → Word
  | j index => jumpWord 0b000010 index
  | jal index => jumpWord 0b000011 index
  | jr rs => BitVec.ofNat 32 (rs.val * 0x200000 + 0b001000)
  | lui rt imm => immediateWord 0b001111 .zero rt imm
  | addi rs rt imm => immediateWord 0b001000 rs rt imm
  | addiu rs rt imm => immediateWord 0b001001 rs rt imm
  | ori rs rt imm => immediateWord 0b001101 rs rt imm
  | sw rs rt offset => immediateWord 0b101011 rs rt offset
  | beq rs rt offset => immediateWord 0b000100 rs rt offset
  | bne rs rt offset => immediateWord 0b000101 rs rt offset
  | beqz rs offset => immediateWord 0b000100 rs .zero offset
  | bnez rs offset => immediateWord 0b000101 rs .zero offset
  | b offset => immediateWord 0b000100 .zero .zero offset
  | nop => 0
  | unknown word => word
  | invalid word => word

/-- The instruction as it is written down. -/
def statement : Instruction → Statement
  | j index => { kind := .j, target := some (4 * index.toNat) }
  | jal index => { kind := .jal, target := some (4 * index.toNat) }
  | jr rs => { kind := .jr, rs := some rs }
  | lui rt imm => { kind := .lui, rt := some rt, imm := some imm.toNat }
  | addi rs rt imm => { kind := .addi, rs := some rs, rt := some rt, imm := some imm.toNat }
  | addiu rs rt imm => { kind := .addiu, rs := some rs, rt := some rt, imm := some imm.toNat }
  | ori rs rt imm => { kind := .ori, rs := some rs, rt := some rt, imm := some imm.toNat }
  | sw rs rt offset => { kind := .sw, rs := some rs, rt := some rt, imm := some offset.toNat }
  | beq rs rt offset => { kind := .beq, rs := some rs, rt := some rt, imm := some offset.toNat }
  | bne rs rt offset => { kind := .bne, rs := some rs, rt := some rt, imm := some offset.toNat }
  | beqz rs offset => { kind := .beqz, rs := some rs, imm := some offset.toNat }
  | bnez rs offset => { kind := .bnez, rs := some rs, imm := some offset.toNat }
  | b offset => { kind := .b, imm := some offset.toNat }
  | nop => { kind := .nop }
  | unknown word => { kind := .unknown, opcode := some word.opcode, word := some word.toNat }
  | invalid word => { kind := .invalid, opcode := some word.opcode, word := some word.toNat }

/-- The text of an instruction, its mnemonic padded to a column. -/
def text (i : Instruction) (column : Nat) (abi : Abi) : String :=
  i.statement.text column abi

/-- The text of an instruction in messages. -/
def plainText (i : Instruction) : String :=
  i.statement.plainText

/-- Where control goes from the address `pc`, unless the instruction leaves that open. -/
def branchTarget (i : Instruction) (pc : Int) : Option Int :=
  i.statement.branchTarget pc

@[simp]
theorem kind_statement (i : Instruction) : i.statement.kind = i.kind := by
  cases i <;> rfl

@[simp]
theorem complete_statement (i : Instruction) : i.statement.complete = .ok i.statement := by
  cases i <;> rfl

/-- Only the width of the column and the room can keep an instruction from being written. -/
theorem format_statement (i : Instruction) (room : Nat) (width : Int) (abi : Abi) :
    i.statement.format room width abi = (columnWidth room width).bind fun column =>
      if i.statement.paddedLength column abi ≤ room then .ok (i.text column abi)
      else .error .outOfMemory := by
  simp only [Statement.format, complete_statement, text]
  rfl

@[simp]
theorem decode_zero : decode 0 = .nop := rfl

/-- The all-zero word is the only one read as `nop`. -/
theorem decode_eq_nop_iff (w : Word) : decode w = .nop ↔ w = 0 := by
  constructor
  · intro h
    by_cases zero : w = 0
    · exact zero
    · simp only [decode, zero, if_false, decodeSpecial] at h
      split at h <;> try split at h
      all_goals try split at h
      all_goals simp at h
  · rintro rfl
    rfl

end Instruction

end CartBoot
