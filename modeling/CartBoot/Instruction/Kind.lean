/-!
# Kinds of instructions

A kind has a mnemonic, says whether it transfers control, and fixes how its operands are laid out in
text. The last two kinds stand for words that are no supported instruction.
-/

namespace CartBoot

/-- Arrangements of operands in text. -/
inductive OperandLayout where
  | none
  /-- A jump's destination. -/
  | target
  /-- One register. -/
  | r
  /-- Two registers and a signed immediate. -/
  | rri
  /-- Two registers and an unsigned immediate. -/
  | rru
  /-- A register and an unsigned immediate. -/
  | ru
  /-- Two registers and a branch offset. -/
  | rrb
  /-- A register and a branch offset. -/
  | rb
  /-- A branch offset. -/
  | b
  /-- A register and an offset from a base register. -/
  | mem
  /-- The opcode and the whole word. -/
  | error
  deriving DecidableEq, Repr

def OperandLayout.name : OperandLayout → String
  | none => "none"
  | target => "target"
  | r => "r"
  | rri => "rri"
  | rru => "rru"
  | ru => "ru"
  | rrb => "rrb"
  | rb => "rb"
  | b => "b"
  | mem => "mem"
  | error => "error"

/-- The supported instructions and the two error forms. -/
inductive Kind where
  | j
  | jal
  | beq
  | bne
  | addi
  | addiu
  | ori
  | lui
  | sw
  | jr
  | b
  | beqz
  | bnez
  | nop
  | unknown
  | invalid
  deriving DecidableEq, Repr

namespace Kind

def all : List Kind :=
  [j, jal, beq, bne, addi, addiu, ori, lui, sw, jr, b, beqz, bnez, nop, unknown, invalid]

/-- The mnemonic. -/
def name : Kind → String
  | j => "j"
  | jal => "jal"
  | beq => "beq"
  | bne => "bne"
  | addi => "addi"
  | addiu => "addiu"
  | ori => "ori"
  | lui => "lui"
  | sw => "sw"
  | jr => "jr"
  | b => "b"
  | beqz => "beqz"
  | bnez => "bnez"
  | nop => "nop"
  | unknown => "unknown"
  | invalid => "invalid"

/-- Whether the instruction transfers control relative to its own address. -/
def isBranch : Kind → Bool
  | beq | bne | b | beqz | bnez => true
  | _ => false

/-- Whether the instruction transfers control to an absolute address. -/
def isJump : Kind → Bool
  | j | jal | jr => true
  | _ => false

/-- Whether the next instruction still runs before control is transferred. -/
def hasDelaySlot (kind : Kind) : Bool :=
  kind.isBranch || kind.isJump

/-- Whether the word is no supported instruction. -/
def isError : Kind → Bool
  | unknown | invalid => true
  | _ => false

def layout : Kind → OperandLayout
  | j | jal => .target
  | beq | bne => .rrb
  | addi | addiu => .rri
  | ori => .rru
  | lui => .ru
  | sw => .mem
  | jr => .r
  | b => .b
  | beqz | bnez => .rb
  | nop => .none
  | unknown | invalid => .error

end Kind

end CartBoot
