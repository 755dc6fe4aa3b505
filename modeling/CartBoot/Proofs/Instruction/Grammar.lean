import CartBoot.Proofs.Instruction.Encoding

/-!
# The grammar of words

`Instruction.ReadFrom` says of each instruction which words are read as it. These words are fixed by
their fields, so that reading loses nothing: writing the fields of a statement where they belong
gives the word back, and every statement of the grammar is read from the word it is written as.
-/

namespace CartBoot

/-! ## Words without a supported reading -/

namespace Word

/-- A field that has to be zero is not: the fields beside the source of a jump through a register,
or the source of a load of an upper half. -/
def Malformed (w : Word) : Prop :=
  w.opcode = 0b000000 ∧ w.function = 0b001000 ∧ (w.rt ≠ .zero ∨ w.rd ≠ .zero ∨ w.shift ≠ 0) ∨
    w.opcode = 0b001111 ∧ w.rs ≠ .zero

/-- The opcodes that stand for an operation, the one of register operations among them. -/
def opcodes : List Nat :=
  [0b000000, 0b000010, 0b000011, 0b000100, 0b000101, 0b001000, 0b001001, 0b001101, 0b001111,
    0b101011]

/-- The operation is not supported. The all-zero word is the only register operation beside the jump
that is. -/
def Foreign (w : Word) : Prop :=
  w ≠ 0 ∧ w.opcode = 0b000000 ∧ w.function ≠ 0b001000 ∨ w.opcode ∉ opcodes

end Word

/-! ## Readings -/

namespace Instruction

/-- The fields of a word fit an instruction. -/
def ReadFrom (w : Word) : Instruction → Prop
  | j index => w.opcode = 0b000010 ∧ index = w.index
  | jal index => w.opcode = 0b000011 ∧ index = w.index
  | jr rs => w.opcode = 0b000000 ∧ w.function = 0b001000 ∧ w.rt = .zero ∧ w.rd = .zero ∧
      w.shift = 0 ∧ rs = w.rs
  | lui rt imm => w.opcode = 0b001111 ∧ w.rs = .zero ∧ rt = w.rt ∧ imm = w.immediate
  | addi rs rt imm => w.opcode = 0b001000 ∧ rs = w.rs ∧ rt = w.rt ∧ imm = w.immediate
  | addiu rs rt imm => w.opcode = 0b001001 ∧ rs = w.rs ∧ rt = w.rt ∧ imm = w.immediate
  | ori rs rt imm => w.opcode = 0b001101 ∧ rs = w.rs ∧ rt = w.rt ∧ imm = w.immediate
  | sw rs rt offset => w.opcode = 0b101011 ∧ rs = w.rs ∧ rt = w.rt ∧ offset = w.immediate
  | beq rs rt offset => w.opcode = 0b000100 ∧ w.rt ≠ .zero ∧ rs = w.rs ∧ rt = w.rt ∧
      offset = w.immediate
  | bne rs rt offset => w.opcode = 0b000101 ∧ w.rt ≠ .zero ∧ rs = w.rs ∧ rt = w.rt ∧
      offset = w.immediate
  | beqz rs offset => w.opcode = 0b000100 ∧ w.rt = .zero ∧ w.rs ≠ .zero ∧ rs = w.rs ∧
      offset = w.immediate
  | bnez rs offset => w.opcode = 0b000101 ∧ w.rt = .zero ∧ rs = w.rs ∧ offset = w.immediate
  | b offset => w.opcode = 0b000100 ∧ w.rt = .zero ∧ w.rs = .zero ∧ offset = w.immediate
  | nop => w = 0
  | unknown word => word = w ∧ w.Foreign
  | invalid word => word = w ∧ w.Malformed

theorem readFrom_decodeSpecial {w : Word} (nonzero : w ≠ 0) (register : w.opcode = 0b000000) :
    (decodeSpecial w).ReadFrom w := by
  unfold decodeSpecial
  split
  next hfunction =>
    split
    next hfields => exact ⟨register, hfunction, hfields.1, hfields.2.1, hfields.2.2, rfl⟩
    next hfields =>
      rw [Classical.not_and_iff_not_or_not, Classical.not_and_iff_not_or_not] at hfields
      exact ⟨rfl, Or.inl ⟨register, hfunction, hfields⟩⟩
  next hfunction => exact ⟨rfl, Or.inl ⟨nonzero, register, hfunction⟩⟩

/-- A word has the fields of the instruction it is read as. -/
theorem readFrom_decode (w : Word) : (decode w).ReadFrom w := by
  by_cases zero : w = 0
  · rw [zero]
    rfl
  · rw [decode, if_neg zero]
    split
    next hopcode => exact readFrom_decodeSpecial zero hopcode
    next hopcode => exact ⟨hopcode, rfl⟩
    next hopcode => exact ⟨hopcode, rfl⟩
    next hopcode =>
      split
      next hrt =>
        split
        next hrs => exact ⟨hopcode, hrt, hrs, rfl⟩
        next hrs => exact ⟨hopcode, hrt, hrs, rfl, rfl⟩
      next hrt => exact ⟨hopcode, hrt, rfl, rfl, rfl⟩
    next hopcode =>
      split
      next hrt => exact ⟨hopcode, hrt, rfl, rfl⟩
      next hrt => exact ⟨hopcode, hrt, rfl, rfl, rfl⟩
    next hopcode => exact ⟨hopcode, rfl, rfl, rfl⟩
    next hopcode => exact ⟨hopcode, rfl, rfl, rfl⟩
    next hopcode => exact ⟨hopcode, rfl, rfl, rfl⟩
    next hopcode =>
      split
      next hrs => exact ⟨hopcode, hrs, rfl, rfl⟩
      next hrs => exact ⟨rfl, Or.inr ⟨hopcode, hrs⟩⟩
    next hopcode => exact ⟨hopcode, rfl, rfl, rfl⟩
    next => exact ⟨rfl, Or.inr (by simp_all [Word.opcodes])⟩

/-! ## Writing the fields back -/

theorem immediateWord_of_fields {w : Word} {op : Nat} {rs rt : Register} (hop : w.opcode = op)
    (hrs : w.rs = rs) (hrt : w.rt = rt) : immediateWord op rs rt w.immediate = w := by
  subst hop hrs hrt
  have hw := w.isLt
  apply BitVec.eq_of_toNat_eq
  rw [immediateWord, BitVec.toNat_ofNat, Word.immediate, BitVec.toNat_ofNat]
  simp only [Word.opcode, Word.rs, Word.rt]
  omega

theorem jumpWord_of_fields {w : Word} {op : Nat} (hop : w.opcode = op) :
    jumpWord op w.index = w := by
  subst hop
  have hw := w.isLt
  apply BitVec.eq_of_toNat_eq
  rw [jumpWord, BitVec.toNat_ofNat, Word.index, BitVec.toNat_ofNat]
  simp only [Word.opcode]
  omega

theorem encode_jr_of_fields {w : Word} (register : w.opcode = 0b000000)
    (jump : w.function = 0b001000) (hrt : w.rt = .zero) (hrd : w.rd = .zero)
    (hshift : w.shift = 0) : (jr w.rs).encode = w := by
  have hw := w.isLt
  have hrt' : w.toNat / 0x10000 % 32 = 0 := congrArg Fin.val hrt
  have hrd' : w.toNat / 0x800 % 32 = 0 := congrArg Fin.val hrd
  apply BitVec.eq_of_toNat_eq
  rw [toNat_encode_jr]
  simp only [Word.opcode, Word.function, Word.shift, Word.rs] at *
  omega

/-- An instruction is written as the word it is read from. -/
theorem encode_of_readFrom {w : Word} {i : Instruction} (reading : i.ReadFrom w) :
    i.encode = w := by
  cases i with
  | j index | jal index =>
      obtain ⟨hopcode, rfl⟩ := reading
      exact jumpWord_of_fields hopcode
  | jr rs =>
      obtain ⟨hopcode, hfunction, hrt, hrd, hshift, rfl⟩ := reading
      exact encode_jr_of_fields hopcode hfunction hrt hrd hshift
  | lui rt imm =>
      obtain ⟨hopcode, hrs, rfl, rfl⟩ := reading
      exact immediateWord_of_fields hopcode hrs rfl
  | addi rs rt imm | addiu rs rt imm | ori rs rt imm | sw rs rt offset =>
      obtain ⟨hopcode, rfl, rfl, rfl⟩ := reading
      exact immediateWord_of_fields hopcode rfl rfl
  | beq rs rt offset | bne rs rt offset =>
      obtain ⟨hopcode, -, rfl, rfl, rfl⟩ := reading
      exact immediateWord_of_fields hopcode rfl rfl
  | beqz rs offset =>
      obtain ⟨hopcode, hrt, -, rfl, rfl⟩ := reading
      exact immediateWord_of_fields hopcode rfl hrt
  | bnez rs offset =>
      obtain ⟨hopcode, hrt, rfl, rfl⟩ := reading
      exact immediateWord_of_fields hopcode rfl hrt
  | b offset =>
      obtain ⟨hopcode, hrt, hrs, rfl⟩ := reading
      exact immediateWord_of_fields hopcode hrs hrt
  | nop => exact reading.symm
  | unknown word => exact reading.1
  | invalid word => exact reading.1

/-- No word loses a bit when it is read. -/
theorem encode_decode (w : Word) : (decode w).encode = w :=
  encode_of_readFrom (readFrom_decode w)

/-! ## The error forms -/

theorem supported_of_readFrom {w : Word} {i : Instruction} (reading : i.ReadFrom w)
    (regular : i.isError = false) : i.Supported := by
  cases i with
  | beq rs rt offset | bne rs rt offset =>
      obtain ⟨-, hrt, -, rfl, -⟩ := reading
      exact hrt
  | beqz rs offset =>
      obtain ⟨-, -, hrs, rfl, -⟩ := reading
      exact hrs
  | unknown word | invalid word => cases regular
  | _ => trivial

theorem decode_of_foreign {w : Word} (foreign : w.Foreign) : decode w = .unknown w := by
  obtain ⟨nonzero, hopcode, hfunction⟩ | hopcode := foreign
  · rw [decode, if_neg nonzero, hopcode]
    exact if_neg hfunction
  · have nonzero : w ≠ 0 := by
      apply ne_zero_of_opcode
      intro hzero
      rw [hzero] at hopcode
      exact hopcode List.mem_cons_self
    simp only [Word.opcodes, List.mem_cons, not_or] at hopcode
    rw [decode, if_neg nonzero]
    split <;> simp_all only [not_true_eq_false, false_and, and_false]

theorem decode_of_malformed {w : Word} (malformed : w.Malformed) : decode w = .invalid w := by
  obtain ⟨hopcode, hfunction, hfields⟩ | ⟨hopcode, hrs⟩ := malformed
  · have nonzero : w ≠ 0 := by
      rintro rfl
      cases hfunction
    have hopen : ¬ (w.rt = .zero ∧ w.rd = .zero ∧ w.shift = 0) := by
      rintro ⟨hrt, hrd, hshift⟩
      simp [hrt, hrd, hshift] at hfields
    rw [decode, if_neg nonzero, hopcode]
    simp only [decodeSpecial, if_pos hfunction, if_neg hopen]
  · have nonzero : w ≠ 0 := by
      apply ne_zero_of_opcode
      simp [hopcode]
    rw [decode, if_neg nonzero, hopcode]
    exact if_neg hrs

theorem kind_decode_eq_unknown_iff (w : Word) : (decode w).kind = .unknown ↔ w.Foreign := by
  constructor
  · intro hkind
    have hreading := readFrom_decode w
    cases hdecode : decode w with
    | unknown word =>
        rw [hdecode] at hreading
        exact hreading.2
    | _ => simp [hdecode, kind] at hkind
  · intro foreign
    rw [decode_of_foreign foreign]
    rfl

theorem kind_decode_eq_invalid_iff (w : Word) : (decode w).kind = .invalid ↔ w.Malformed := by
  constructor
  · intro hkind
    have hreading := readFrom_decode w
    cases hdecode : decode w with
    | invalid word =>
        rw [hdecode] at hreading
        exact hreading.2
    | _ => simp [hdecode, kind] at hkind
  · intro malformed
    rw [decode_of_malformed malformed]
    rfl

end Instruction

/-! ## Statements and their layout -/

/-- Bits 26 to 31 of the words of a kind. -/
def Kind.opcode : Kind → Nat
  | j => 0b000010
  | jal => 0b000011
  | beq | beqz | b => 0b000100
  | bne | bnez => 0b000101
  | addi => 0b001000
  | addiu => 0b001001
  | ori => 0b001101
  | lui => 0b001111
  | sw => 0b101011
  | jr | nop | unknown | invalid => 0b000000

/-- Bits 0 to 5 of the words of a kind whose operands leave them open. -/
def Kind.function : Kind → Nat
  | jr => 0b001000
  | _ => 0b000000

namespace Statement

/-- The word with the operands of a statement in their fields: the source register in bits 21 to 25,
the destination in bits 16 to 20, the immediate in bits 0 to 15, a quarter of the target in bits 0
to 25. A missing operand is zero, and an error form is written as the word it carries. -/
def encode (s : Statement) : Word :=
  if s.kind.isError then BitVec.ofInt 32 (s.word.getD 0)
  else BitVec.ofNat 32 (s.kind.opcode * 0x4000000 + (s.rs.getD .zero).val * 0x200000 +
    (s.rt.getD .zero).val * 0x10000 + (s.imm.getD 0).toNat + (s.target.getD 0).toNat / 4 +
    s.kind.function)

/-- The statements that have a word of their own, with the operands of their kind and no others. -/
inductive Supported : Statement → Prop
  | jump (kind : Kind) (kinds : kind ∈ [Kind.j, .jal]) (target : Nat) (aligned : 4 ∣ target)
      (small : target < 0x10000000) : Supported { kind, target := some target }
  | jr (rs : Register) : Supported { kind := .jr, rs := some rs }
  | lui (rt : Register) (imm : Nat) (small : imm < 0x10000) :
      Supported { kind := .lui, rt := some rt, imm := some imm }
  | registers (kind : Kind) (kinds : kind ∈ [Kind.addi, .addiu, .ori, .sw]) (rs rt : Register)
      (imm : Nat) (small : imm < 0x10000) :
      Supported { kind, rs := some rs, rt := some rt, imm := some imm }
  | comparison (kind : Kind) (kinds : kind ∈ [Kind.beq, .bne]) (rs rt : Register)
      (other : rt ≠ .zero) (imm : Nat) (small : imm < 0x10000) :
      Supported { kind, rs := some rs, rt := some rt, imm := some imm }
  | beqz (rs : Register) (nonzero : rs ≠ .zero) (imm : Nat) (small : imm < 0x10000) :
      Supported { kind := .beqz, rs := some rs, imm := some imm }
  | bnez (rs : Register) (imm : Nat) (small : imm < 0x10000) :
      Supported { kind := .bnez, rs := some rs, imm := some imm }
  | b (imm : Nat) (small : imm < 0x10000) : Supported { kind := .b, imm := some imm }
  | nop : Supported { kind := .nop }

/-- The error form of a word. -/
def carrying (kind : Kind) (w : Word) : Statement :=
  { kind, opcode := some w.opcode, word := some w.toNat }

end Statement

namespace Instruction

/-- Both layouts of an instruction's word agree. -/
theorem encode_statement (i : Instruction) : i.statement.encode = i.encode := by
  cases i with
  | unknown word | invalid word =>
      change BitVec.ofInt 32 (word.toNat : Int) = word
      rw [BitVec.ofInt_natCast, BitVec.ofNat_toNat, BitVec.setWidth_eq]
  | _ =>
      apply congrArg (BitVec.ofNat 32)
      simp only [statement, Kind.opcode, Kind.function, Option.getD_some, Option.getD_none,
        Register.zero, Fin.val_zero]
      omega

theorem supported_statement {i : Instruction} (supported : i.Supported) :
    i.statement.Supported := by
  cases i with
  | j index =>
      have hindex := index.isLt
      exact .jump .j (by simp) (4 * index.toNat) ⟨_, rfl⟩ (by omega)
  | jal index =>
      have hindex := index.isLt
      exact .jump .jal (by simp) (4 * index.toNat) ⟨_, rfl⟩ (by omega)
  | jr rs => exact .jr rs
  | lui rt imm => exact .lui rt _ imm.isLt
  | addi rs rt imm => exact .registers .addi (by simp) rs rt _ imm.isLt
  | addiu rs rt imm => exact .registers .addiu (by simp) rs rt _ imm.isLt
  | ori rs rt imm => exact .registers .ori (by simp) rs rt _ imm.isLt
  | sw rs rt offset => exact .registers .sw (by simp) rs rt _ offset.isLt
  | beq rs rt offset => exact .comparison .beq (by simp) rs rt supported _ offset.isLt
  | bne rs rt offset => exact .comparison .bne (by simp) rs rt supported _ offset.isLt
  | beqz rs offset => exact .beqz rs supported _ offset.isLt
  | bnez rs offset => exact .bnez rs _ offset.isLt
  | b offset => exact .b _ offset.isLt
  | nop => exact .nop
  | unknown word | invalid word => exact supported.elim

/-- Every supported statement is that of an instruction. -/
theorem exists_of_supported {s : Statement} (supported : s.Supported) :
    ∃ i : Instruction, i.Supported ∧ i.statement = s := by
  cases supported with
  | jump kind kinds target aligned small =>
      obtain ⟨index, rfl⟩ := aligned
      have hindex : index < 2 ^ 26 := by omega
      obtain rfl | rfl : kind = .j ∨ kind = .jal := by simpa using kinds
      · exact ⟨.j (BitVec.ofNatLT index hindex), trivial, rfl⟩
      · exact ⟨.jal (BitVec.ofNatLT index hindex), trivial, rfl⟩
  | jr rs => exact ⟨.jr rs, trivial, rfl⟩
  | lui rt imm small => exact ⟨.lui rt (BitVec.ofNatLT imm small), trivial, rfl⟩
  | registers kind kinds rs rt imm small =>
      obtain rfl | rfl | rfl | rfl : kind = .addi ∨ kind = .addiu ∨ kind = .ori ∨ kind = .sw := by
        simpa using kinds
      · exact ⟨.addi rs rt (BitVec.ofNatLT imm small), trivial, rfl⟩
      · exact ⟨.addiu rs rt (BitVec.ofNatLT imm small), trivial, rfl⟩
      · exact ⟨.ori rs rt (BitVec.ofNatLT imm small), trivial, rfl⟩
      · exact ⟨.sw rs rt (BitVec.ofNatLT imm small), trivial, rfl⟩
  | comparison kind kinds rs rt other imm small =>
      obtain rfl | rfl : kind = .beq ∨ kind = .bne := by simpa using kinds
      · exact ⟨.beq rs rt (BitVec.ofNatLT imm small), other, rfl⟩
      · exact ⟨.bne rs rt (BitVec.ofNatLT imm small), other, rfl⟩
  | beqz rs nonzero imm small => exact ⟨.beqz rs (BitVec.ofNatLT imm small), nonzero, rfl⟩
  | bnez rs imm small => exact ⟨.bnez rs (BitVec.ofNatLT imm small), trivial, rfl⟩
  | b imm small => exact ⟨.b (BitVec.ofNatLT imm small), trivial, rfl⟩
  | nop => exact ⟨.nop, trivial, rfl⟩

/-- A supported statement is read from the word it is written as. -/
theorem statement_decode_encode {s : Statement} (supported : s.Supported) :
    (decode s.encode).statement = s := by
  obtain ⟨i, hi, rfl⟩ := exists_of_supported supported
  rw [encode_statement, decode_encode hi]

theorem isError_kind_of_supported {s : Statement} (supported : s.Supported) :
    s.kind.isError = false := by
  obtain ⟨i, hi, rfl⟩ := exists_of_supported supported
  rw [kind_statement]
  cases i with
  | unknown word | invalid word => exact hi.elim
  | _ => rfl

theorem grammar_decode (w : Word) : (decode w).statement.Supported ∨
    (decode w).statement = .carrying .unknown w ∨ (decode w).statement = .carrying .invalid w := by
  have hreading := readFrom_decode w
  cases herror : (decode w).isError with
  | false => exact Or.inl (supported_statement (supported_of_readFrom hreading herror))
  | true =>
      right
      revert hreading herror
      cases decode w with
      | unknown word =>
          rintro ⟨rfl, -⟩ -
          exact Or.inl rfl
      | invalid word =>
          rintro ⟨rfl, -⟩ -
          exact Or.inr rfl
      | _ =>
          intro _ herror
          cases herror

/-- The foreign words are those left over by the statements and the malformed words. -/
theorem foreign_iff (w : Word) :
    w.Foreign ↔ ¬ w.Malformed ∧ ∀ s : Statement, s.Supported → s.encode ≠ w := by
  constructor
  · intro foreign
    have hdecode := decode_of_foreign foreign
    constructor
    · intro malformed
      rw [decode_of_malformed malformed] at hdecode
      cases hdecode
    · rintro s supported rfl
      have hkind := isError_kind_of_supported supported
      rw [← statement_decode_encode supported, hdecode] at hkind
      cases hkind
  · rintro ⟨wellFormed, outside⟩
    obtain supported | hunknown | hinvalid := grammar_decode w
    · refine absurd ?_ (outside _ supported)
      rw [encode_statement, encode_decode]
    · apply (kind_decode_eq_unknown_iff w).mp
      rw [← kind_statement, hunknown]
      rfl
    · refine absurd ((kind_decode_eq_invalid_iff w).mp ?_) wellFormed
      rw [← kind_statement, hinvalid]
      rfl

end Instruction

/-- What a word is read as. -/
structure Word.Reads (w : Word) (s : Statement) : Prop where
  grammar : s.Supported ∨ s = .carrying .unknown w ∨ s = .carrying .invalid w
  encode : s.encode = w
  invalid : s.kind = .invalid ↔ w.Malformed
  unknown : s.kind = .unknown ↔ w.Foreign
  outside : s.kind = .unknown ↔
    ¬ w.Malformed ∧ ∀ other : Statement, other.Supported → other.encode ≠ w

namespace Instruction

/-- Every word is read as one statement of the grammar, whose fields give the word back, and every
supported statement is read from its own word. -/
theorem decode_lossless :
    (∀ w : Word, w.Reads (decode w).statement) ∧
    ∀ s : Statement, s.Supported → (decode s.encode).statement = s := by
  constructor
  · intro w
    constructor
    case grammar => exact grammar_decode w
    case encode => rw [encode_statement, encode_decode]
    case invalid => rw [kind_statement, kind_decode_eq_invalid_iff]
    case unknown => rw [kind_statement, kind_decode_eq_unknown_iff]
    case outside => rw [kind_statement, kind_decode_eq_unknown_iff, foreign_iff]
  · intro s supported
    exact statement_decode_encode supported

end Instruction

end CartBoot
