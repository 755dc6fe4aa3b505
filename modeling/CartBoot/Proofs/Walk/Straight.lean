import CartBoot.Proofs.Instruction.Encoding
import CartBoot.Proofs.Walk.Stop

/-!
# Straight code

A walk goes through straight code to its jump. Under the delay-slot rule it takes in the word after
the jump and stops; under the other rule it goes on to the zero words that follow.
-/

namespace CartBoot.Walk

open Instruction (jr)

/-- An instruction that a walk passes and that leaves nothing behind for the next word. -/
structure Straight (i : Instruction) : Prop where
  supported : i.Supported
  solid : i ≠ .nop
  falls : i.isJump = false

theorem errorReason?_of_supported {i : Instruction} (supported : i.Supported) :
    errorReason? i = none := by
  cases i <;> first | rfl | exact supported.elim

theorem isError_of_supported {i : Instruction} (supported : i.Supported) : i.isError = false :=
  errorReason?_eq_none_iff.mp (errorReason?_of_supported supported)

variable {rule : StopRule}

/-- A walk goes on after a supported instruction that is neither a second zero word nor in the delay
slot of the final jump. -/
theorem extentFrom_encode_cons {afterNop afterJump : Bool} {i : Instruction}
    (supported : i.Supported) (single : afterNop = false ∨ i ≠ .nop)
    (before : afterJump = false ∨ rule = .doubleNop) (rest : List Word) :
    extentFrom rule afterNop afterJump (i.encode :: rest) =
      ((extentFrom rule (i = .nop) (afterJump || i.isJump) rest).1 + 1,
        (extentFrom rule (i = .nop) (afterJump || i.isJump) rest).2) := by
  have hzero : decide (i.encode = 0) = decide (i = .nop) :=
    decide_eq_decide.mpr (Instruction.encode_eq_zero_iff supported)
  have hsingle : (afterNop && decide (i = .nop)) = false := by
    obtain hnop | hsolid := single
    · rw [hnop, Bool.false_and]
    · rw [decide_eq_false hsolid, Bool.and_false]
  have hbefore : (afterJump && decide (rule = .delaySlot)) = false := by
    obtain hjump | hrule := before
    · rw [hjump, Bool.false_and]
    · rw [hrule]
      exact Bool.and_false afterJump
  simp only [extentFrom, hzero, hsingle, hbefore, Instruction.decode_encode supported,
    errorReason?_of_supported supported, Bool.false_eq_true, if_false]

/-- A walk passes straight code with nothing to remember. -/
theorem extentFrom_straight_append {code : List Instruction} (straight : ∀ i ∈ code, Straight i)
    (rest : List Word) :
    extentFrom rule false false (code.map Instruction.encode ++ rest) =
      ((extentFrom rule false false rest).1 + code.length,
        (extentFrom rule false false rest).2) := by
  induction code with
  | nil => rfl
  | cons i code ih =>
      obtain ⟨hsupported, hsolid, hfalls⟩ := straight i List.mem_cons_self
      have hcode : ∀ i ∈ code, Straight i := fun j hj => straight j (List.mem_cons_of_mem _ hj)
      rw [List.map_cons, List.cons_append,
        extentFrom_encode_cons hsupported (.inl rfl) (.inl rfl), decide_eq_false hsolid, hfalls,
        Bool.or_false, ih hcode, List.length_cons]
      rfl

theorem delaySlot_cons_of_falls {i : Instruction} (falls : i.isJump = false)
    (rest : List Instruction) : delaySlot (i :: rest) = delaySlot rest := by
  cases rest <;> simp only [delaySlot, falls, Bool.false_eq_true, if_false]

/-- The verdict on the delay slot is that on the first jump. -/
theorem delaySlot_straight_append {code : List Instruction} (straight : ∀ i ∈ code, Straight i)
    (rest : List Instruction) : delaySlot (code ++ rest) = delaySlot rest := by
  induction code with
  | nil => rfl
  | cons i code ih =>
      have hcode : ∀ i ∈ code, Straight i := fun j hj => straight j (List.mem_cons_of_mem _ hj)
      rw [List.cons_append, delaySlot_cons_of_falls (straight i List.mem_cons_self).falls,
        ih hcode]

/-! ## The end of the code -/

/-- Of two zero words a walk reads at most the first one. -/
theorem extentFrom_zeros (afterNop afterJump : Bool) (m : Nat) (rest : List Word) :
    ∃ zeros ≤ min m 1, ∃ reason, (2 ≤ m → reason = .secondNop) ∧
      extentFrom .doubleNop afterNop afterJump ((0 :: 0 :: rest).take m) = (zeros, reason) := by
  match m with
  | 0 => exact ⟨0, Nat.le_refl 0, .endOfWindow, by simp, rfl⟩
  | 1 =>
      cases afterNop with
      | true => exact ⟨0, by decide, .secondNop, fun _ => rfl, rfl⟩
      | false => exact ⟨1, by decide, .endOfWindow, by simp, by cases afterJump <;> rfl⟩
  | m + 2 =>
      cases afterNop with
      | true => exact ⟨0, Nat.zero_le _, .secondNop, fun _ => rfl, rfl⟩
      | false => exact ⟨1, by omega, .secondNop, fun _ => rfl, by cases afterJump <;> rfl⟩

section Ending

variable {code : List Instruction} (straight : ∀ i ∈ code, Straight i) (r : Register)
  {slot : Instruction} (supported : slot.Supported)

include straight

/-- A walk comes to the delay slot with the flag of the jump. -/
theorem extentFrom_ending (rest : List Word) :
    extentFrom rule false false ((code ++ [jr r, slot]).map Instruction.encode ++ rest) =
      ((extentFrom rule false true (slot.encode :: rest)).1 + 1 + code.length,
        (extentFrom rule false true (slot.encode :: rest)).2) := by
  have hwords : (code ++ [jr r, slot]).map Instruction.encode ++ rest =
      code.map Instruction.encode ++ (jr r).encode :: slot.encode :: rest := by
    rw [List.map_append, List.append_assoc]
    rfl
  rw [hwords, extentFrom_straight_append straight,
    extentFrom_encode_cons (show (jr r).Supported from trivial) (.inl rfl) (.inl rfl)]
  rfl

include supported

theorem delaySlot_ending (rest : List Instruction) :
    delaySlot (code ++ jr r :: slot :: rest) = if slot = .nop then .nop else .filled := by
  have hjump : (jr r).isJump = true := rfl
  simp only [delaySlot_straight_append straight, delaySlot, hjump, isError_of_supported supported,
    Bool.false_eq_true, if_true, if_false]

/-- Under the delay-slot rule the walk takes in the code, its jump and the delay slot. -/
theorem extent_delaySlot (rest : List Word) :
    extent .delaySlot ((code ++ [jr r, slot]).map Instruction.encode ++ rest) =
      (code.length + 2, .delaySlot) := by
  have hslot : extentFrom .delaySlot false true (slot.encode :: rest) = (1, .delaySlot) := by
    simp [extentFrom, Instruction.decode_encode supported, errorReason?_of_supported supported]
  rw [extent, extentFrom_ending straight r, hslot]
  exact Prod.ext (by simp only; omega) rfl

/-- Under the other rule at most one zero word is walked after the delay slot. -/
theorem extent_doubleNop (m : Nat) (rest : List Word) :
    ∃ zeros ≤ min m 1, ∃ reason, (2 ≤ m → reason = .secondNop) ∧
      extent .doubleNop ((code ++ [jr r, slot]).map Instruction.encode ++ (0 :: 0 :: rest).take m) =
        (code.length + 2 + zeros, reason) := by
  obtain ⟨zeros, hzeros, reason, hreason, hextent⟩ :=
    extentFrom_zeros (slot = .nop) (true || slot.isJump) m rest
  refine ⟨zeros, hzeros, reason, hreason, ?_⟩
  rw [extent, extentFrom_ending straight r,
    extentFrom_encode_cons supported (.inl rfl) (.inr rfl), hextent]
  exact Prod.ext (by simp only; omega) rfl

end Ending

end CartBoot.Walk
