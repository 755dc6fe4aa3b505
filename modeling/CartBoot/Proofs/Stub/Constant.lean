import CartBoot.Proofs.Tracker.Frame

/-!
# Building a constant from two halves

A constant is loaded by `lui` and one patch of the low half. The patch `addiu` adds a signed half,
so the upper half has to carry for it; the patch `ori` does not. Either way the register ends with
the constant and the name of the patch.
-/

namespace CartBoot

/-- How the low half of a constant is patched in. -/
inductive Completion where
  | addiu
  | ori
  deriving DecidableEq

namespace Completion

/-- The operand of `lui`. Half of its unit is added first if the patch is signed. -/
def upper : Completion → Word → BitVec 16
  | addiu, a => ((a + 0x8000) >>> 16).setWidth 16
  | ori, a => (a >>> 16).setWidth 16

def top (c : Completion) (r : Register) (a : Word) : Instruction := .lui r (c.upper a)

def patch : Completion → Register → Word → Instruction
  | addiu, r, a => .addiu r r a.immediate
  | ori, r, a => .ori r r a.immediate

/-- The instructions that load a constant into a register. -/
def load (c : Completion) (r : Register) (a : Word) : List Instruction := [c.top r a, c.patch r a]

def provenance : Completion → Provenance
  | addiu => .addiu
  | ori => .ori

/-! ## Arithmetic of the halves -/

theorem toNat_shifted (half : BitVec 16) :
    (half.setWidth 32 <<< 16).toNat = half.toNat * 0x10000 := by
  have hhalf := half.isLt
  rw [BitVec.toNat_shiftLeft, BitVec.toNat_setWidth, Nat.shiftLeft_eq]
  omega

/-- The low half is empty before the patch. -/
theorem immediate_shifted (half : BitVec 16) :
    Word.immediate (half.setWidth 32 <<< 16) = 0 := by
  apply BitVec.eq_of_toNat_eq
  rw [Word.immediate, toNat_shifted, BitVec.toNat_ofNat]
  exact Nat.mul_mod_left half.toNat 0x10000

theorem toNat_immediate (a : Word) : a.immediate.toNat = a.toNat % 0x10000 := by
  rw [Word.immediate, BitVec.toNat_ofNat]

theorem toNat_upper_addiu (a : Word) :
    (addiu.upper a).toNat = (a.toNat + 0x8000) / 0x10000 % 0x10000 := by
  have ha := a.isLt
  have hhalf : (0x8000 : Word).toNat = 0x8000 := rfl
  simp only [upper, BitVec.toNat_setWidth, BitVec.toNat_ushiftRight, BitVec.toNat_add, hhalf,
    Nat.shiftRight_eq_div_pow]
  omega

theorem toNat_upper_ori (a : Word) : (ori.upper a).toNat = a.toNat / 0x10000 := by
  have ha := a.isLt
  simp only [upper, BitVec.toNat_setWidth, BitVec.toNat_ushiftRight, Nat.shiftRight_eq_div_pow]
  omega

theorem toNat_signExtend_immediate (a : Word) :
    (a.immediate.signExtend 32).toNat =
      a.toNat % 0x10000 + if 0x8000 ≤ a.toNat % 0x10000 then 0xFFFF0000 else 0 := by
  rw [BitVec.toNat_signExtend, BitVec.msb_eq_decide, BitVec.toNat_setWidth, toNat_immediate]
  simp only [decide_eq_true_eq]
  split <;> omega

/-- The carry into the upper half undoes the borrow of a negative patch. -/
theorem shifted_add_immediate (a : Word) :
    (addiu.upper a).setWidth 32 <<< 16 + a.immediate.signExtend 32 = a := by
  have ha := a.isLt
  apply BitVec.eq_of_toNat_eq
  rw [BitVec.toNat_add, toNat_shifted, toNat_upper_addiu, toNat_signExtend_immediate]
  split <;> omega

theorem shifted_or_immediate (a : Word) :
    (ori.upper a).setWidth 32 <<< 16 ||| a.immediate.setWidth 32 = a := by
  have ha := a.isLt
  have hlow : a.toNat % 0x10000 < 2 ^ 16 := Nat.mod_lt _ (by decide)
  apply BitVec.eq_of_toNat_eq
  calc ((ori.upper a).setWidth 32 <<< 16 ||| a.immediate.setWidth 32).toNat
      = 2 ^ 16 * (a.toNat / 0x10000) ||| a.toNat % 0x10000 := by
        rw [BitVec.toNat_or, toNat_shifted, toNat_upper_ori, BitVec.toNat_setWidth,
          toNat_immediate]
        congr 1 <;> omega
    _ = 2 ^ 16 * (a.toNat / 0x10000) + a.toNat % 0x10000 :=
        (Nat.two_pow_add_eq_or_of_lt hlow _).symm
    _ = a.toNat := by omega

/-! ## The register after a load -/

theorem build_top (rule : StopRule) (source : Word) (s : Slot) (c : Completion) (r : Register)
    (a : Word) :
    s.build rule source (c.top r a) = ⟨(c.upper a).setWidth 32 <<< 16, .none⟩ :=
  if_neg fun h => nomatch h.2.1

theorem build_patch (rule : StopRule) (s : Slot) (c : Completion) (r : Register) (a : Word)
    (empty : s.value.immediate = 0) :
    s.build rule s.value (c.patch r a) = (c.patch r a).built s.value :=
  if_neg fun h => h.2.2 empty

/-- Whatever the register held, a load leaves the constant in it under either rule. -/
theorem build_load (rule : StopRule) (s : Slot) (c : Completion) (r : Register) (a : Word) :
    (c.load r a).foldl (fun s i => s.build rule s.value i) s = ⟨a, c.provenance⟩ := by
  -- The low half is empty after `lui`, so that neither rule ignores the patch.
  have hempty := immediate_shifted (c.upper a)
  rw [load, List.foldl_cons, List.foldl_cons, List.foldl_nil, build_top, build_patch]
  · cases c with
    | addiu => simp only [patch, Instruction.built, shifted_add_immediate, provenance]
    | ori => simp only [patch, Instruction.built, shifted_or_immediate, provenance]
  · exact hempty

end Completion

end CartBoot
