import CartBoot.Toolchain.Scan
import Mathlib.Data.List.Basic

/-!
# Tallies

A tally of some instructions holds the number of branches and the number of jumps among them. A scan
counts an instruction at most once, so that its tally never exceeds the code.
-/

namespace CartBoot

namespace Instruction

variable {i : Instruction}

theorem isReturn_iff : i.isReturn ↔ i = .jr .ra := decide_eq_true_iff

theorem isReturn_eq_false_of_quiet (quiet : i.hasDelaySlot = false) : i.isReturn = false := by
  apply eq_false_of_ne_true
  intro ret
  obtain rfl := isReturn_iff.mp ret
  cases quiet

end Instruction

namespace Tally

/-- The tally of some instructions on top of another one. -/
def countAll (tally : Tally) (code : List Instruction) : Tally :=
  code.foldl count tally

variable (tally : Tally) (i : Instruction)

@[simp] theorem countAll_nil : tally.countAll [] = tally := rfl

@[simp] theorem countAll_cons (rest : List Instruction) :
    tally.countAll (i :: rest) = (tally.count i).countAll rest := rfl

theorem countAll_append (code rest : List Instruction) :
    tally.countAll (code ++ rest) = (tally.countAll code).countAll rest :=
  List.foldl_append

@[simp] theorem count_nop : tally.count .nop = tally := rfl

/-- An instruction that transfers no control does not count. -/
theorem count_of_quiet {i : Instruction} (quiet : i.hasDelaySlot = false) :
    tally.count i = tally := by
  have hplain : i.isBranch = false ∧ i.isJump = false := Bool.or_eq_false_iff.mp quiet
  rw [count, hplain.1, hplain.2]
  rfl

theorem branches_count :
    (tally.count i).branches = tally.branches + if i.isBranch then 1 else 0 := by
  unfold count
  split
  · rfl
  · split <;> rfl

theorem isJump_eq_false_of_isBranch {i : Instruction} (branch : i.isBranch) :
    i.isJump = false := by
  cases i <;> first | rfl | cases branch

theorem jumps_count : (tally.count i).jumps = tally.jumps + if i.isJump then 1 else 0 := by
  unfold count
  split
  next branch => simp [isJump_eq_false_of_isBranch branch]
  next => split <;> rfl

theorem branches_countAll (code : List Instruction) :
    (tally.countAll code).branches = tally.branches + code.countP (·.isBranch) := by
  induction code generalizing tally with
  | nil => rfl
  | cons i rest ih =>
    rw [countAll_cons, ih, branches_count, List.countP_cons]
    omega

theorem jumps_countAll (code : List Instruction) :
    (tally.countAll code).jumps = tally.jumps + code.countP (·.isJump) := by
  induction code generalizing tally with
  | nil => rfl
  | cons i rest ih =>
    rw [countAll_cons, ih, jumps_count, List.countP_cons]
    omega

theorem total_count_le : (tally.count i).total ≤ tally.total + 1 := by
  unfold count total
  split
  next => exact Nat.le_of_eq (Nat.succ_add _ _)
  next =>
    split
    next => exact Nat.le_refl _
    next => exact Nat.le_succ _

end Tally

theorem ReverseScan.tally_step (i : Instruction) (scan : ReverseScan) :
    (step i scan).tally = scan.tally ∨ (step i scan).tally = scan.tally.count i := by
  unfold step
  split
  · exact .inl rfl
  · split
    · exact .inl rfl
    · split
      · exact .inr rfl
      · exact .inl rfl

/-! ## The steps of a forward scan -/

namespace ForwardScan

variable {i : Instruction} (tally : Tally)

theorem step_of_isError (scan : ForwardScan) (error : i.isError) :
    scan.step i = { scan with phase := .suspended } :=
  if_pos error

theorem step_slot (counted : Bool) (valid : i.isError = false) :
    step ⟨.slot counted, tally⟩ i = ⟨.armed, if counted then tally.count i else tally⟩ := by
  rw [step, if_neg (ne_true_of_eq_false valid)]

theorem step_return (phase : ScanPhase) (outside : ∀ counted, phase ≠ .slot counted) :
    step ⟨phase, tally⟩ (.jr .ra) = ⟨.slot (phase = .body), tally⟩ := by
  cases phase with
  | slot counted => exact absurd rfl (outside counted)
  | suspended | armed | body => rfl

theorem step_suspended (plain : i.isReturn = false) :
    step ⟨.suspended, tally⟩ i = ⟨.suspended, tally⟩ := by
  unfold step
  split
  next => rfl
  next => simp only [plain, Bool.false_eq_true, if_false]

theorem step_body (valid : i.isError = false) (plain : i.isReturn = false) :
    step ⟨.body, tally⟩ i = ⟨.body, tally.count i⟩ := by
  simp only [step, valid, plain, Bool.false_eq_true, if_false]

/-- The first instruction that does something begins a function. -/
theorem step_armed (valid : i.isError = false) (plain : i.isReturn = false) :
    step ⟨.armed, tally⟩ i = ⟨if i = .nop then .armed else .body, tally.count i⟩ := by
  simp only [step, valid, plain, Bool.false_eq_true, if_false]
  split
  next nop => rw [nop, Tally.count_nop]
  next => rfl

/-- A scan in either order counts an instruction or passes over it. -/
theorem tally_step (scan : ForwardScan) (i : Instruction) :
    (scan.step i).tally = scan.tally ∨ (scan.step i).tally = scan.tally.count i := by
  obtain ⟨phase, tally⟩ := scan
  cases valid : i.isError with
  | true => rw [step_of_isError _ valid]; exact .inl rfl
  | false =>
    cases plain : i.isReturn with
    | true =>
      obtain rfl := Instruction.isReturn_iff.mp plain
      cases phase with
      | slot counted => cases counted <;> rw [step_slot _ _ valid] <;> simp
      | suspended | armed | body => exact .inl rfl
    | false =>
      cases phase with
      | slot counted => cases counted <;> rw [step_slot _ _ valid] <;> simp
      | suspended => rw [step_suspended _ plain]; exact .inl rfl
      | armed => rw [step_armed _ valid plain]; exact .inr rfl
      | body => rw [step_body _ valid plain]; exact .inr rfl

end ForwardScan

/-- What a step counts at most once, a scan counts at most as often as it takes steps. -/
theorem Tally.total_le_of_step {tally next : Tally} {i : Instruction}
    (step : next = tally ∨ next = tally.count i) : next.total ≤ tally.total + 1 := by
  obtain rfl | rfl := step
  · exact Nat.le_succ _
  · exact tally.total_count_le i

theorem ReverseScan.total_run_le (code : List Instruction) :
    (run code).tally.total ≤ code.length := by
  induction code with
  | nil => exact Nat.le_refl 0
  | cons i rest ih =>
    exact Nat.le_trans (Tally.total_le_of_step (tally_step i (run rest))) (Nat.succ_le_succ ih)

theorem ForwardScan.total_foldl_le (scan : ForwardScan) (code : List Instruction) :
    (code.foldl step scan).tally.total ≤ scan.tally.total + code.length := by
  induction code generalizing scan with
  | nil => exact Nat.le_refl _
  | cons i rest ih =>
    have hstep := Tally.total_le_of_step (tally_step scan i)
    have hrest := ih (scan.step i)
    rw [List.foldl_cons, List.length_cons]
    omega

/-- A scan counts no more branches and jumps than there are instructions. -/
theorem Direction.total_tally_le (direction : Direction) (code : List Instruction) :
    (direction.tally code).total ≤ code.length := by
  cases direction with
  | reverse => exact ReverseScan.total_run_le code
  | forward =>
    have hrun := ForwardScan.total_foldl_le {} code
    exact Nat.le_trans hrun (Nat.le_of_eq (Nat.zero_add _))

end CartBoot
