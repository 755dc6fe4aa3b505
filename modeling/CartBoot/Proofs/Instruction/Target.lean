import CartBoot.Proofs.Instruction.Grammar
import Mathlib.Data.Int.ModEq

/-!
# Where branches and jumps go

A branch goes a signed number of words away from the next instruction, around either end of the
address space. A jump goes to a word of the 256 MiB region that holds the next instruction. What is
within reach of a branch is reached by exactly one of its offsets, and each word of a region by
exactly one jump of a kind.
-/

namespace CartBoot

namespace Word

/-- The word with another offset in its bits 0 to 15. -/
def withOffset (w : Word) (offset : BitVec 16) : Word := w.extractLsb' 16 16 ++ offset

variable (w : Word) (offset : BitVec 16)

theorem toNat_withOffset :
    (w.withOffset offset).toNat = w.toNat / 0x10000 * 0x10000 + offset.toNat := by
  have hw := w.isLt
  have hoffset := offset.isLt
  have hor := Nat.two_pow_add_eq_or_of_lt hoffset (w.toNat / 2 ^ 16)
  rw [withOffset, BitVec.toNat_append, BitVec.extractLsb'_toNat, Nat.shiftRight_eq_div_pow,
    Nat.mod_eq_of_lt (by omega), Nat.shiftLeft_eq, Nat.mul_comm, ← hor]

theorem opcode_withOffset : (w.withOffset offset).opcode = w.opcode := by
  have hoffset := offset.isLt
  simp only [opcode, toNat_withOffset]
  omega

theorem rs_withOffset : (w.withOffset offset).rs = w.rs := by
  have hoffset := offset.isLt
  apply Fin.ext
  simp only [rs, toNat_withOffset]
  omega

theorem rt_withOffset : (w.withOffset offset).rt = w.rt := by
  have hoffset := offset.isLt
  apply Fin.ext
  simp only [rt, toNat_withOffset]
  omega

theorem immediate_withOffset : (w.withOffset offset).immediate = offset := by
  have hoffset := offset.isLt
  apply BitVec.eq_of_toNat_eq
  simp only [immediate, toNat_withOffset, BitVec.toNat_ofNat]
  omega

theorem withOffset_immediate : w.withOffset w.immediate = w := by
  apply BitVec.eq_of_toNat_eq
  simp only [toNat_withOffset, immediate, BitVec.toNat_ofNat]
  omega

end Word

/-- The addresses of a 32-bit machine. -/
def IsAddress (t : Int) : Prop := 0 ≤ t ∧ t < 0x100000000

/-- The address is so many words away from the instruction behind the one at `pc`. -/
def WordsAway (pc d t : Int) : Prop := t - (pc + 4) ≡ 4 * d [ZMOD 0x100000000]

/-- The address has the top four bits of that of the instruction behind the one at `pc`. -/
def InRegion (pc t : Int) : Prop := t / 0x10000000 = (pc + 4) % 0x100000000 / 0x10000000

instance (t : Int) : Decidable (IsAddress t) := inferInstanceAs (Decidable (_ ∧ _))

instance (pc d t : Int) : Decidable (WordsAway pc d t) :=
  inferInstanceAs (Decidable (_ ≡ _ [ZMOD _]))

instance (pc t : Int) : Decidable (InRegion pc t) := inferInstanceAs (Decidable (_ = _))

namespace Instruction

/-- Where a word sends control from the address `pc`. -/
structure Targets (w : Word) (pc : Int) : Prop where
  absent : (decode w).branchTarget pc = none ↔
    (decode w).isBranch = false ∧ (decode w).kind ≠ .j ∧ (decode w).kind ≠ .jal
  address : ∀ t, (decode w).branchTarget pc = some t → IsAddress t
  branch : (decode w).isBranch → ∃ t, (decode w).branchTarget pc = some t ∧
    WordsAway pc w.immediate.toInt t
  /-- Another offset makes the same branch go elsewhere. -/
  offset : (decode w).isBranch → ∀ offset, (decode (w.withOffset offset)).statement =
    { (decode w).statement with imm := some offset.toNat }
  reach : (decode w).isBranch → ∀ t, IsAddress t →
    ((∃ d, -2 ^ 15 ≤ d ∧ d ≤ 2 ^ 15 - 1 ∧ WordsAway pc d t) ↔
      ∃! offset, (decode (w.withOffset offset)).branchTarget pc = some t)
  moved : (decode w).isBranch → ∀ t k, (decode w).branchTarget pc = some t →
    (decode w).branchTarget (pc + 4 * k) = some ((t + 4 * k) % 0x100000000)
  jump : (decode w).kind = .j ∨ (decode w).kind = .jal →
    ∃ t, (decode w).branchTarget pc = some t ∧ 4 ∣ t ∧ InRegion pc t ∧
      (decode w).statement.target = some (t % 0x10000000)

/-! ## Branches -/

/-- A branch goes as many words from the next instruction as its offset says. -/
theorem branchTarget_of_offset {i : Instruction} (branch : i.isBranch) {offset : BitVec 16}
    (here : i.statement.imm = some (offset.toNat : Int)) (pc : Int) :
    i.branchTarget pc = some ((pc + 4 + 4 * offset.toInt) % 0x100000000) := by
  rw [branchTarget, Statement.branchTarget, here, Option.getD_some, signed16_toNat]
  cases i <;> first | rfl | cases branch

variable {w : Word}

theorem opcode_of_isBranch (branch : (decode w).isBranch) :
    w.opcode = 0b000100 ∨ w.opcode = 0b000101 := by
  have hreading := readFrom_decode w
  cases hi : decode w with
  | beq rs rt offset | beqz rs offset | b offset =>
    rw [hi] at hreading
    exact .inl hreading.1
  | bne rs rt offset | bnez rs offset =>
    rw [hi] at hreading
    exact .inr hreading.1
  | _ =>
    rw [hi] at branch
    cases branch

/-- The registers of a branch are compared whatever its offset is. -/
theorem statement_decode_withOffset (branch : (decode w).isBranch) (offset : BitVec 16) :
    (decode (w.withOffset offset)).statement =
      { (decode w).statement with imm := some offset.toNat } := by
  have hopcode := opcode_of_isBranch branch
  have hnonzero : w.opcode ≠ 0 := by
    intro h
    simp [h] at hopcode
  rw [decode, decode, if_neg (ne_zero_of_opcode hnonzero),
    if_neg (ne_zero_of_opcode (by rwa [Word.opcode_withOffset])), Word.opcode_withOffset,
    Word.rs_withOffset, Word.rt_withOffset, Word.immediate_withOffset]
  -- The operation and the registers alone decide how the word of a branch is read.
  obtain hopcode | hopcode := hopcode
  · rw [hopcode]
    by_cases hrt : w.rt = .zero
    · by_cases hrs : w.rs = .zero <;> simp only [hrt, hrs, if_true, if_false, statement]
    · simp only [hrt, if_false, statement]
  · rw [hopcode]
    by_cases hrt : w.rt = .zero <;> simp only [hrt, if_true, if_false, statement]

theorem branchTarget_withOffset (branch : (decode w).isBranch) (offset : BitVec 16) (pc : Int) :
    (decode (w.withOffset offset)).branchTarget pc =
      some ((pc + 4 + 4 * offset.toInt) % 0x100000000) := by
  have hstatement := statement_decode_withOffset branch offset
  apply branchTarget_of_offset
  · have hkind := congrArg Statement.kind hstatement
    rw [kind_statement, kind_statement] at hkind
    rwa [isBranch, hkind]
  · rw [hstatement]

theorem branchTarget_decode (branch : (decode w).isBranch) (pc : Int) :
    (decode w).branchTarget pc = some ((pc + 4 + 4 * w.immediate.toInt) % 0x100000000) := by
  have htarget := branchTarget_withOffset branch w.immediate pc
  rwa [Word.withOffset_immediate] at htarget

/-- An address is so many words away exactly if it is the one found by counting on modulo 2^32. -/
theorem wordsAway_iff {pc d t : Int} (address : IsAddress t) :
    WordsAway pc d t ↔ (pc + 4 + 4 * d) % 0x100000000 = t := by
  obtain ⟨hlow, hhigh⟩ := address
  rw [WordsAway, Int.ModEq]
  omega

theorem isAddress_emod (n : Int) : IsAddress (n % 0x100000000) :=
  ⟨Int.emod_nonneg n (by decide), Int.emod_lt_of_pos n (by decide)⟩

/-- Two offsets lead apart: their distance is far less than the address space. -/
theorem offset_eq_of_wordsAway {pc t : Int} {offset other : BitVec 16} (address : IsAddress t)
    (one : WordsAway pc offset.toInt t) (two : WordsAway pc other.toInt t) : offset = other := by
  rw [wordsAway_iff address] at one two
  have hoffset := offset.toInt_lt
  have hoffset' := offset.le_toInt
  have hother := other.toInt_lt
  have hother' := other.le_toInt
  apply BitVec.toInt_inj.mp
  omega

theorem toInt_ofInt_of_small {d : Int} (low : -2 ^ 15 ≤ d) (high : d ≤ 2 ^ 15 - 1) :
    (BitVec.ofInt 16 d).toInt = d := by
  rw [BitVec.toInt_ofInt]
  apply Int.bmod_eq_of_le <;> omega

/-- The addresses in reach of a branch are those that one of its offsets leads to. -/
theorem reach_iff_existsUnique (branch : (decode w).isBranch) {pc t : Int}
    (address : IsAddress t) :
    (∃ d, -2 ^ 15 ≤ d ∧ d ≤ 2 ^ 15 - 1 ∧ WordsAway pc d t) ↔
      ∃! offset, (decode (w.withOffset offset)).branchTarget pc = some t := by
  have htarget : ∀ offset, (decode (w.withOffset offset)).branchTarget pc = some t ↔
      WordsAway pc offset.toInt t := fun offset => by
    rw [branchTarget_withOffset branch, Option.some.injEq, wordsAway_iff address]
  simp only [htarget]
  constructor
  · rintro ⟨d, low, high, away⟩
    rw [← toInt_ofInt_of_small low high] at away
    exact ⟨_, away, fun other two => offset_eq_of_wordsAway address two away⟩
  · rintro ⟨offset, away, -⟩
    exact ⟨offset.toInt, offset.le_toInt, Int.le_sub_one_of_lt offset.toInt_lt, away⟩

/-! ## Jumps -/

/-- The operation of a jump to a fixed address. -/
def jumpOpcode : Kind → Nat
  | .jal => 0b000011
  | _ => 0b000010

theorem setBits_of_lt (region : Nat) {n : Nat} (small : n < 2 ^ 28) :
    setBits (region * 0x10000000) n = region * 0x10000000 + n := by
  have hor := Nat.two_pow_add_eq_or_of_lt small region
  rw [Nat.mul_comm] at hor
  exact congrArg Int.ofNat hor.symm

/-- The address of the word with an index in the region of the next instruction. -/
def regionWord (pc : Int) (index : BitVec 26) : Int :=
  (pc + 4) / 0x10000000 % 16 * 0x10000000 + 4 * index.toNat

theorem branchTarget_of_target {i : Instruction} (jump : i.kind = .j ∨ i.kind = .jal)
    {index : BitVec 26} (here : i.statement.target = some (4 * index.toNat : Int)) (pc : Int) :
    i.branchTarget pc = some (regionWord pc index) := by
  have hindex := index.isLt
  have hbits := setBits_of_lt ((pc + 4) / 0x10000000 % 16).toNat
    (show 4 * index.toNat < 2 ^ 28 by omega)
  push_cast at hbits
  rw [Int.toNat_of_nonneg (by omega)] at hbits
  rw [branchTarget, Statement.branchTarget, here, kind_statement, Option.getD_some, hbits]
  obtain hkind | hkind := jump <;> rw [hkind] <;> rfl

/-- A word that is read as a jump has the operation of the jump and its index. -/
theorem fields_of_jump (jump : (decode w).kind = .j ∨ (decode w).kind = .jal) :
    (decode w).statement.target = some (4 * w.index.toNat : Int) ∧
      jumpWord (jumpOpcode (decode w).kind) w.index = w := by
  have hreading := readFrom_decode w
  cases hi : decode w with
  | j index | jal index =>
    rw [hi] at hreading
    obtain ⟨hopcode, rfl⟩ := hreading
    exact ⟨rfl, jumpWord_of_fields hopcode⟩
  | _ =>
    rw [hi] at jump
    simp [kind] at jump

theorem kind_decode_jumpWord {kind : Kind} (jump : kind = .j ∨ kind = .jal) (index : BitVec 26) :
    (decode (jumpWord (jumpOpcode kind) index)).kind = kind := by
  obtain rfl | rfl := jump
  · exact congrArg Instruction.kind (decode_encode (i := .j index) trivial)
  · exact congrArg Instruction.kind (decode_encode (i := .jal index) trivial)

theorem regionWord_injective (pc : Int) : Function.Injective (regionWord pc) := by
  intro index other same
  apply BitVec.eq_of_toNat_eq
  simp only [regionWord] at same
  omega

/-- Each word of a region has an index. -/
theorem exists_regionWord_eq {pc t : Int} (aligned : 4 ∣ t) (region : InRegion pc t) :
    ∃ index, regionWord pc index = t := by
  refine ⟨BitVec.ofNat 26 (t % 0x10000000 / 4).toNat, ?_⟩
  rw [InRegion] at region
  rw [regionWord, BitVec.toNat_ofNat]
  omega

/-- Each word of the region of the next instruction is reached by one jump of a kind. -/
theorem existsUnique_jump {kind : Kind} (jump : kind = .j ∨ kind = .jal) {pc t : Int}
    (aligned : 4 ∣ t) (region : InRegion pc t) :
    ∃! w, (decode w).kind = kind ∧ (decode w).branchTarget pc = some t := by
  obtain ⟨index, rfl⟩ := exists_regionWord_eq aligned region
  have hkind := kind_decode_jumpWord jump index
  have hindex : (jumpWord (jumpOpcode kind) index).index = index :=
    index_jumpWord index (by obtain rfl | rfl := jump <;> decide)
  refine ⟨jumpWord (jumpOpcode kind) index, ⟨hkind, ?_⟩, ?_⟩
  · have hfields := fields_of_jump (hkind.symm ▸ jump)
    rw [hindex] at hfields
    exact branchTarget_of_target (hkind.symm ▸ jump) hfields.1 pc
  · rintro w ⟨rfl, htarget⟩
    obtain ⟨htext, hword⟩ := fields_of_jump jump
    rw [branchTarget_of_target jump htext, Option.some.injEq] at htarget
    rw [← regionWord_injective pc htarget, hword]

/-! ## All words -/

theorem branchTarget_eq_none_iff (i : Instruction) (pc : Int) :
    i.branchTarget pc = none ↔ i.isBranch = false ∧ i.kind ≠ .j ∧ i.kind ≠ .jal := by
  cases i <;> simp [branchTarget, Statement.branchTarget, statement, isBranch, kind, Kind.isBranch]

/-- A target is that of a branch or that of a jump. -/
theorem isAddress_of_branchTarget {pc t : Int} (target : (decode w).branchTarget pc = some t) :
    IsAddress t := by
  by_cases branch : (decode w).isBranch
  · rw [branchTarget_decode branch, Option.some.injEq] at target
    exact target ▸ isAddress_emod _
  · have hjump : (decode w).kind = .j ∨ (decode w).kind = .jal := by
      by_contra other
      have hnone := (branchTarget_eq_none_iff (decode w) pc).mpr
        ⟨Bool.eq_false_iff.mpr branch, not_or.mp other⟩
      rw [hnone] at target
      cases target
    rw [branchTarget_of_target hjump (fields_of_jump hjump).1, Option.some.injEq] at target
    have hindex := w.index.isLt
    rw [IsAddress, ← target, regionWord]
    omega

/-- Every word sends control where its kind and its operand say, from any address. Each word of a
region is reached by one word of a kind of jump. -/
theorem decode_targets :
    (∀ (w : Word) (pc : Int), Targets w pc) ∧
    ∀ (kind : Kind) (pc t : Int), kind = .j ∨ kind = .jal → 4 ∣ t → InRegion pc t →
      ∃! w, (decode w).kind = kind ∧ (decode w).branchTarget pc = some t := by
  refine ⟨fun w pc => ?_, fun kind pc t jump aligned region =>
    existsUnique_jump jump aligned region⟩
  constructor
  case absent => exact branchTarget_eq_none_iff _ pc
  case address => exact fun t => isAddress_of_branchTarget
  case branch =>
    intro branch
    exact ⟨_, branchTarget_decode branch pc, (wordsAway_iff (isAddress_emod _)).mpr rfl⟩
  case offset => exact statement_decode_withOffset
  case reach => exact fun branch t address => reach_iff_existsUnique branch address
  case moved =>
    intro branch t k target
    rw [branchTarget_decode branch, Option.some.injEq] at target ⊢
    omega
  case jump =>
    intro jump
    obtain ⟨htext, -⟩ := fields_of_jump jump
    have hindex := w.index.isLt
    refine ⟨_, branchTarget_of_target jump htext pc, ?_, ?_, ?_⟩
    · rw [regionWord]
      omega
    · rw [InRegion, regionWord]
      omega
    · rw [htext, regionWord]
      congr 1
      omega

/-- The law where the next instruction lies in another region, and where the longest branch forward
goes around the end of the address space. -/
theorem decode_targets_around :
    (InRegion 0x8FFFFFFC 0x90000400 ∧
      ∃! w, (decode w).kind = .jal ∧ (decode w).branchTarget 0x8FFFFFFC = some 0x90000400) ∧
    (WordsAway 0xFFFFFFF8 0x7FFF 0x1FFF8 ∧ (decode 0x15200000).isBranch ∧
      ∃! offset, (decode (Word.withOffset 0x15200000 offset)).branchTarget 0xFFFFFFF8 =
        some 0x1FFF8) := by
  have hregion : InRegion 0x8FFFFFFC 0x90000400 := by decide
  have haway : WordsAway 0xFFFFFFF8 0x7FFF 0x1FFF8 := by decide
  have hbranch : (decode 0x15200000).isBranch := by decide
  have htargets := decode_targets.1 0x15200000 0xFFFFFFF8
  refine ⟨⟨hregion, ?_⟩, haway, hbranch, ?_⟩
  · exact decode_targets.2 .jal 0x8FFFFFFC 0x90000400 (.inr rfl) (by decide) hregion
  · exact (htargets.reach hbranch 0x1FFF8 (by decide)).mp ⟨0x7FFF, by decide, by decide, haway⟩

end Instruction

end CartBoot
