import CartBoot.Proofs.Instruction.Grammar
import CartBoot.Proofs.Text.Tokens

/-!
# Words read back from text

The tokens of a line are a mnemonic and its operands, at any width of the column between them. Names
and numerals are told apart, so that a line is the text of one instruction and of one word.
-/

namespace CartBoot

open Text Text.Numeral

/-! ## Names and numbers -/

namespace Kind

theorem mem_all (kind : Kind) : kind ∈ all := by
  cases kind <;> decide

theorem name_injective : Function.Injective name := by
  have apart : ∀ kind ∈ all, ∀ other ∈ all, kind.name = other.name → kind = other := by decide
  exact fun kind other => apart kind (mem_all kind) other (mem_all other)

theorem tokens_name (kind : Kind) : tokens kind.name = [kind.name] := by
  cases kind <;> decide

end Kind

namespace Register

theorem name_injective (abi : Abi) : Function.Injective (name abi) := by
  have apart : ∀ r s : Register, name abi r = name abi s → r = s := by
    cases abi <;> decide +kernel
  exact fun r s => apart r s

theorem tokens_name (abi : Abi) (r : Register) : tokens (name abi r) = [name abi r] := by
  revert r
  cases abi <;> decide +kernel

end Register

theorem offset_inj {imm imm' : BitVec 16} :
    signedHex (signed16 imm.toNat) = signedHex (signed16 imm'.toNat) ↔ imm = imm' := by
  rw [signed16_toNat, signed16_toNat, signedHex_injective.eq_iff, BitVec.toInt_inj]

theorem hex_toNat_inj {width size : Nat} {x y : BitVec size} :
    hex width x.toNat = hex width y.toNat ↔ x = y := by
  rw [hex_inj, Int.ofNat_inj, BitVec.toNat_inj]

theorem target_inj {index index' : BitVec 26} :
    hex 0 (4 * index.toNat) = hex 0 (4 * index'.toNat) ↔ index = index' := by
  rw [hex_inj, Int.mul_eq_mul_left_iff (by decide), Int.ofNat_inj, BitVec.toNat_inj]

/-! ## Tokens of a statement -/

namespace Statement

/-- The token of a register operand, if there is one. -/
def registerTokens (abi : Abi) (operand : Option Register) : List String :=
  operand.toList.map (·.name abi)

/-- The tokens of the operands. -/
def operandTokens (s : Statement) (abi : Abi) : List String :=
  let rs := registerTokens abi s.rs
  let rt := registerTokens abi s.rt
  match s.kind.layout with
  | .none => []
  | .target => ["0x" ++ hex 0 (s.target.getD 0)]
  | .r => rs
  | .rri => rt ++ rs ++ [s.offsetText]
  | .rru => rt ++ rs ++ [s.immediateText]
  | .ru => rt ++ [s.immediateText]
  | .rrb => rs ++ rt ++ [s.offsetText]
  | .rb => rs ++ [s.offsetText]
  | .b => [s.offsetText]
  | .mem => rt ++ [s.offsetText] ++ rs
  | .error => ["op:", "0b" ++ binary 6 (s.opcode.getD 0), "word:", hex 8 (s.word.getD 0)]

theorem tokens_registerText (abi : Abi) (operand : Option Register) :
    tokens (registerText abi operand) = registerTokens abi operand := by
  cases operand with
  | none => exact tokens_empty
  | some r => exact Register.tokens_name abi r

theorem tokens_offsetText (s : Statement) : tokens s.offsetText = [s.offsetText] :=
  tokens_signedHex _

theorem tokens_hexLiteral (n : Int) : tokens ("0x" ++ hex 0 n) = ["0x" ++ hex 0 n] :=
  tokens_append_padded (by decide) (by decide) (by decide) 0 n

theorem tokens_errorText (opcode word : Int) :
    tokens ("(op: 0b" ++ binary 6 opcode ++ ", word: " ++ hex 8 word ++ ")") =
      ["op:", "0b" ++ binary 6 opcode, "word:", hex 8 word] := by
  have hline : "(op: 0b" ++ binary 6 opcode ++ ", word: " ++ hex 8 word ++ ")" =
      "(op:" ++ " " ++ ("0b" ++ binary 6 opcode) ++ ", " ++ "word:" ++ " " ++ hex 8 word ++
        ")" := by
    simp [← String.toList_inj]
  have hopcode : tokens ("0b" ++ binary 6 opcode) = ["0b" ++ binary 6 opcode] :=
    tokens_append_padded (by decide) (by decide) (by decide) 6 opcode
  have hlabels : tokens "(op:" = ["op:"] ∧ tokens "word:" = ["word:"] := by decide
  simp (disch := decide) only [hline, tokens_append_gap_append, tokens_append_gap, hopcode,
    tokens_hex, hlabels, List.cons_append, List.nil_append]

theorem tokens_operandText (s : Statement) (abi : Abi) :
    tokens (s.operandText abi) = s.operandTokens abi := by
  simp only [operandText, operandTokens]
  cases s.kind.layout with
  | none => exact tokens_empty
  | target => exact tokens_hexLiteral _
  | error => exact tokens_errorText _ _
  | _ =>
      simp (disch := decide) only [tokens_append_gap_append, tokens_append_gap,
        tokens_registerText, tokens_offsetText, immediateText, tokens_hexLiteral]

/-- The tokens of a statement do not depend on the column of its operands. -/
theorem tokens_text (s : Statement) (column : Nat) (abi : Abi) :
    tokens (s.text column abi) = s.kind.name :: s.operandTokens abi := by
  have hpadding : IsGap (String.ofList (List.replicate (column - s.kind.name.length) ' ')) := by
    intro c hc
    rw [String.toList_ofList] at hc
    rw [List.eq_of_mem_replicate hc]
    decide
  simp only [text]
  split
  next hempty =>
    rw [← tokens_operandText, String.isEmpty_iff.mp hempty, tokens_empty]
    exact Kind.tokens_name s.kind
  next =>
    rw [tokens_append_gap_append (by decide) (by decide), tokens_append_gap hpadding,
      Kind.tokens_name, tokens_operandText]
    rfl

end Statement

/-! ## The instruction and the word of a text -/

namespace Instruction

theorem eq_of_operandTokens_eq {abi : Abi} {i j : Instruction} (hkind : i.kind = j.kind)
    (h : i.statement.operandTokens abi = j.statement.operandTokens abi) : i = j := by
  have hname : ∀ r s, Register.name abi r = Register.name abi s ↔ r = s :=
    fun _ _ => (Register.name_injective abi).eq_iff
  -- Only pairs of one kind are left, and their operands stand in the same order.
  cases i <;> cases j <;> simp only [kind, reduceCtorEq] at hkind
  all_goals
    simp only [statement, Statement.operandTokens, Statement.registerTokens, Kind.layout,
      Statement.offsetText, Statement.immediateText, Option.toList_some, Option.getD_some,
      List.map_cons, List.map_nil, List.cons_append, List.nil_append, List.cons.injEq, and_true,
      true_and, String.append_right_inj, hname, offset_inj, hex_toNat_inj, target_inj] at h
  case nop.nop => rfl
  case j.j | jal.jal | jr.jr | b.b => rw [h]
  case lui.lui | beqz.beqz | bnez.bnez => rw [h.1, h.2]
  case addi.addi | addiu.addiu | ori.ori | sw.sw | beq.beq | bne.bne => rw [h.1, h.2.1, h.2.2]
  case unknown.unknown | invalid.invalid => rw [h.2]

/-- A text is that of one instruction. -/
theorem eq_of_text_eq {abi : Abi} {i j : Instruction} {column column' : Nat}
    (h : i.text column abi = j.text column' abi) : i = j := by
  have htokens := congrArg tokens h
  rw [text, text, Statement.tokens_text, Statement.tokens_text, List.cons.injEq] at htokens
  obtain ⟨hname, hoperands⟩ := htokens
  rw [kind_statement, kind_statement] at hname
  exact eq_of_operandTokens_eq (Kind.name_injective hname) hoperands

theorem exists_column_of_format {abi : Abi} {i : Instruction} {room : Nat} {width : Int}
    {line : String} (h : i.statement.format room width abi = .ok line) :
    ∃ column, i.text column abi = line := by
  rw [format_statement] at h
  cases hcolumn : columnWidth room width with
  | error fault =>
      rw [hcolumn] at h
      cases h
  | ok column =>
      rw [hcolumn, Except.bind] at h
      split at h
      · exact ⟨column, Except.ok.inj h⟩
      · cases h

theorem decode_injective : Function.Injective decode := by
  intro u v h
  rw [← encode_decode u, h, encode_decode]

/-- Under one calling convention, words that are written alike are the same word, whatever the
columns of the two lines. It does not matter whether the widths of the columns are checked, nor how
much room there is for the lines. -/
theorem decode_text_unambiguous (abi : Abi) (u v : Word) :
    (∀ column column' : Nat, (decode u).text column abi = (decode v).text column' abi → u = v) ∧
    ∀ (room room' : Nat) (width width' : Int) (line : String),
      (decode u).statement.format room width abi = .ok line →
      (decode v).statement.format room' width' abi = .ok line → u = v := by
  have total : ∀ column column' : Nat,
      (decode u).text column abi = (decode v).text column' abi → u = v :=
    fun column column' h => decode_injective (eq_of_text_eq h)
  refine ⟨total, ?_⟩
  intro room room' width width' line hu hv
  obtain ⟨column, hcolumn⟩ := exists_column_of_format hu
  obtain ⟨column', hcolumn'⟩ := exists_column_of_format hv
  exact total column column' (hcolumn.trans hcolumn'.symm)

/-- The mnemonic of a return is as wide as the wider of two columns. -/
theorem decode_text_unambiguous_return :
    ((decode 0x03E00008).text 0 .n32 = (decode (jr .ra).encode).text 2 .n32 ∧
      (0x03E00008 : Word) = (jr .ra).encode) ∧
    (decode 0x03E00008).statement.format 5 1 .n32 = .ok "jr ra" ∧
    (decode (jr .ra).encode).statement.format 80 2 .n32 = .ok "jr ra" ∧
    (0x03E00008 : Word) = (jr .ra).encode := by
  have same : (decode 0x03E00008).text 0 .n32 = (decode (jr .ra).encode).text 2 .n32 := by
    decide
  have narrow : (decode 0x03E00008).statement.format 5 1 .n32 = .ok "jr ra" := by
    decide
  have wide : (decode (jr .ra).encode).statement.format 80 2 .n32 = .ok "jr ra" := by
    decide
  obtain ⟨total, checked⟩ := decode_text_unambiguous .n32 0x03E00008 (jr .ra).encode
  exact ⟨⟨same, total 0 2 same⟩, narrow, wide, checked 5 80 1 2 "jr ra" narrow wide⟩

end Instruction

end CartBoot
