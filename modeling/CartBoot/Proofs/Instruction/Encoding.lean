import CartBoot.Instruction

/-!
# Instructions and their words

Each field of an encoded word is read back by the function for its bits, so that decoding the word
of a supported instruction gives the instruction back.
-/

namespace CartBoot

/-! ## Fields of an encoded word -/

namespace Instruction

variable (rs rt : Register) (imm : BitVec 16) (index : BitVec 26) {op : Nat}

theorem toNat_immediateWord (small : op < 64) :
    (immediateWord op rs rt imm).toNat =
      op * 0x4000000 + rs.val * 0x200000 + rt.val * 0x10000 + imm.toNat := by
  have hrs := rs.isLt
  have hrt := rt.isLt
  have himm := imm.isLt
  rw [immediateWord, BitVec.toNat_ofNat]
  apply Nat.mod_eq_of_lt
  omega

theorem toNat_jumpWord (small : op < 64) :
    (jumpWord op index).toNat = op * 0x4000000 + index.toNat := by
  have hindex := index.isLt
  rw [jumpWord, BitVec.toNat_ofNat]
  apply Nat.mod_eq_of_lt
  omega

theorem opcode_immediateWord (small : op < 64) : (immediateWord op rs rt imm).opcode = op := by
  have hrs := rs.isLt
  have hrt := rt.isLt
  have himm := imm.isLt
  rw [Word.opcode, toNat_immediateWord rs rt imm small]
  omega

theorem opcode_jumpWord (small : op < 64) : (jumpWord op index).opcode = op := by
  have hindex := index.isLt
  rw [Word.opcode, toNat_jumpWord index small]
  omega

theorem rs_immediateWord (small : op < 64) : (immediateWord op rs rt imm).rs = rs := by
  have hrs := rs.isLt
  have hrt := rt.isLt
  have himm := imm.isLt
  apply Fin.ext
  simp only [Word.rs, toNat_immediateWord rs rt imm small]
  omega

theorem rt_immediateWord (small : op < 64) : (immediateWord op rs rt imm).rt = rt := by
  have hrt := rt.isLt
  have himm := imm.isLt
  apply Fin.ext
  simp only [Word.rt, toNat_immediateWord rs rt imm small]
  omega

theorem immediate_immediateWord (small : op < 64) :
    (immediateWord op rs rt imm).immediate = imm := by
  have himm := imm.isLt
  apply BitVec.eq_of_toNat_eq
  simp only [Word.immediate, toNat_immediateWord rs rt imm small, BitVec.toNat_ofNat]
  omega

theorem index_jumpWord (small : op < 64) : (jumpWord op index).index = index := by
  have hindex := index.isLt
  apply BitVec.eq_of_toNat_eq
  simp only [Word.index, toNat_jumpWord index small, BitVec.toNat_ofNat]
  omega

theorem ne_zero_of_opcode {w : Word} (h : w.opcode ≠ 0) : w ≠ 0 := by
  rintro rfl
  exact h rfl

theorem immediateWord_ne_zero (small : op < 64) (nonzero : op ≠ 0) :
    immediateWord op rs rt imm ≠ 0 := by
  apply ne_zero_of_opcode
  rwa [opcode_immediateWord rs rt imm small]

theorem jumpWord_ne_zero (small : op < 64) (nonzero : op ≠ 0) : jumpWord op index ≠ 0 := by
  apply ne_zero_of_opcode
  rwa [opcode_jumpWord index small]

theorem toNat_encode_jr : (jr rs).encode.toNat = rs.val * 0x200000 + 0b001000 := by
  have hrs := rs.isLt
  rw [encode, BitVec.toNat_ofNat]
  apply Nat.mod_eq_of_lt
  omega

theorem encode_jr_ne_zero : (jr rs).encode ≠ 0 := by
  intro h
  have hzero := congrArg BitVec.toNat h
  rw [toNat_encode_jr] at hzero
  simp at hzero

theorem decodeSpecial_encode_jr : decodeSpecial (jr rs).encode = jr rs := by
  have hw := toNat_encode_jr rs
  have hrs := rs.isLt
  have hfunction : (jr rs).encode.function = 0b001000 := by
    rw [Word.function, hw]
    omega
  have hfields : (jr rs).encode.rt = .zero ∧ (jr rs).encode.rd = .zero ∧
      (jr rs).encode.shift = 0 := by
    refine ⟨Fin.ext ?_, Fin.ext ?_, ?_⟩ <;>
      simp only [Word.rt, Word.rd, Word.shift, hw, Register.zero, Fin.val_zero] <;>
      omega
  have hsource : (jr rs).encode.rs = rs := by
    apply Fin.ext
    simp only [Word.rs, hw]
    omega
  rw [decodeSpecial, if_pos hfunction, if_pos hfields, hsource]

/-! ## Decoding an encoded word -/

/-- Instructions with a word of their own. The word of a comparison with the zero register belongs
to the pseudo-instruction that stands for it, and an error form has no word of its own. -/
def Supported : Instruction → Prop
  | beq _ rt _ | bne _ rt _ => rt ≠ .zero
  | beqz rs _ => rs ≠ .zero
  | unknown _ | invalid _ => False
  | _ => True

theorem decode_encode_jr : decode (jr rs).encode = jr rs := by
  have hopcode : (jr rs).encode.opcode = 0 := by
    have hrs := rs.isLt
    rw [Word.opcode, toNat_encode_jr]
    omega
  rw [decode, if_neg (encode_jr_ne_zero rs), hopcode]
  simp only [decodeSpecial_encode_jr]

theorem decode_encode {i : Instruction} (supported : i.Supported) : decode i.encode = i := by
  cases i
  case jr rs => exact decode_encode_jr rs
  case nop => rfl
  case unknown => exact supported.elim
  case invalid => exact supported.elim
  case beq rs rt offset =>
    have hrt : rt ≠ .zero := supported
    simp (disch := decide) only [encode, decode, immediateWord_ne_zero, opcode_immediateWord,
      rs_immediateWord, rt_immediateWord, immediate_immediateWord, if_false, if_neg hrt]
  case bne rs rt offset =>
    have hrt : rt ≠ .zero := supported
    simp (disch := decide) only [encode, decode, immediateWord_ne_zero, opcode_immediateWord,
      rs_immediateWord, rt_immediateWord, immediate_immediateWord, if_false, if_neg hrt]
  case beqz rs offset =>
    have hrs : rs ≠ .zero := supported
    simp (disch := decide) only [encode, decode, immediateWord_ne_zero, opcode_immediateWord,
      rs_immediateWord, rt_immediateWord, immediate_immediateWord, if_false, if_true, if_neg hrs]
  all_goals
    simp (disch := decide) only [encode, decode, immediateWord_ne_zero, jumpWord_ne_zero,
      opcode_immediateWord, opcode_jumpWord, rs_immediateWord, rt_immediateWord,
      immediate_immediateWord, index_jumpWord, if_false, if_true]

theorem encode_eq_zero_iff {i : Instruction} (supported : i.Supported) :
    i.encode = 0 ↔ i = .nop := by
  constructor
  · intro h
    have hdecode := decode_encode supported
    rw [h, decode_zero] at hdecode
    exact hdecode.symm
  · rintro rfl
    rfl

/-- Decoding the words of supported code gives the code back. -/
theorem map_decode_map_encode {code : List Instruction} (supported : ∀ i ∈ code, i.Supported) :
    (code.map encode).map decode = code := by
  induction code with
  | nil => rfl
  | cons i rest ih =>
      rw [List.map_cons, List.map_cons, decode_encode (supported i List.mem_cons_self),
        ih fun j hj => supported j (List.mem_cons_of_mem _ hj)]

end Instruction

end CartBoot
