import CartBoot.Proofs.Toolchain.Blocks
import CartBoot.Proofs.Toolchain.Returns
import Mathlib.Data.List.Chain

/-!
# Both scan orders on the same code

Without foreign words, and with delay slots of returns that transfer no control, the forward scan
counts all branches and jumps but the returns themselves. The reverse scan lacks those behind the
last return, and nothing else. Code that consists of complete routines has none of them there.
-/

namespace CartBoot

/-- No instruction right behind a return is a branch or a jump. -/
def QuietReturns (code : List Instruction) : Prop :=
  code.IsChain fun i slot => i.isReturn → slot.hasDelaySlot = false

instance (code : List Instruction) : Decidable (QuietReturns code) :=
  inferInstanceAs (Decidable (code.IsChain _))

/-- The instructions behind the last return, or all of them if there is no return. -/
def unfinished (code : List Instruction) : List Instruction :=
  code.rtakeWhile (!·.isReturn)

/-- A complete function: a body, its return and the delay slot. -/
structure Routine where
  body : List Instruction
  slot : Instruction
  valid : ∀ i ∈ body, i.isError = false
  plain : ∀ i ∈ body, i.isReturn = false
  validSlot : slot.isError = false
  quiet : slot.hasDelaySlot = false

/-- The code of a routine. -/
def Routine.code (routine : Routine) : List Instruction :=
  routine.body ++ [.jr .ra, routine.slot]

/-! ## The forward scan -/

namespace ForwardScan

/-- The blocks of a run with quiet returns count as much as the run without its returns. -/
theorem countAll_blocks (tally : Tally) {run : List Instruction} {blocks : List Block}
    (reads : Block.Reads run blocks) (quiet : QuietReturns run) :
    tally.countAll (blocks.flatMap Block.counted) =
      tally.countAll (run.filter (!·.isReturn)) := by
  induction reads generalizing tally with
  | nil => rfl
  | cut _ plain =>
    rw [List.flatMap_singleton, List.filter_eq_self.mpr (by simpa using plain)]
    rfl
  | returned plain =>
    rw [List.flatMap_singleton, List.filter_append, List.filter_eq_self.mpr (by simpa using plain)]
    exact congrArg tally.countAll (List.append_nil _).symm
  | @slot body rest i blocks plain _ ih =>
    have hbehind := (List.IsChain.right_of_append quiet : QuietReturns (.jr .ra :: i :: rest))
    obtain ⟨hslot, hrest⟩ := List.isChain_cons_cons.mp hbehind
    have hquiet : i.hasDelaySlot = false := hslot rfl
    have hcount : ∀ t : Tally, t.count i = t := fun t => t.count_of_quiet hquiet
    have hfilter : (body ++ .jr .ra :: i :: rest).filter (!·.isReturn) =
        body ++ i :: rest.filter (!·.isReturn) := by
      rw [List.filter_append, List.filter_eq_self.mpr (by simpa using plain),
        List.filter_cons_of_neg (by decide),
        List.filter_cons_of_pos (by simp [Instruction.isReturn_eq_false_of_quiet hquiet])]
    rw [List.flatMap_cons, Tally.countAll_append, countAll_counted_slot, hcount, ite_self,
      ih _ hrest.tail, hfilter, Tally.countAll_append, Tally.countAll_cons, hcount]

/-- A scan of code with quiet returns counts all but the returns. -/
theorem tally_run_of_quiet {code : List Instruction} (valid : ∀ i ∈ code, i.isError = false)
    (quiet : QuietReturns code) :
    (run code).tally = Tally.countAll {} (code.filter (!·.isReturn)) := by
  have hreads := Block.reads_ofRun code
  exact (tally_foldl_armed {} hreads valid).trans (countAll_blocks {} hreads quiet)

end ForwardScan

/-! ## The reverse scan -/

/-- A scan of code without foreign words lacks the instructions behind the last return. -/
theorem ReverseScan.filter_eq_counted_append {code : List Instruction}
    (valid : ∀ i ∈ code, i.isError = false) :
    code.filter (!·.isReturn) = ReverseScan.counted code ++ unfinished code := by
  have hcounted : ReverseScan.counted code = ReverseScan.beforeReturn code := by
    rw [ReverseScan.counted, List.splitOnP_eq_singleton valid, List.flatMap_singleton]
  have hunfinished : (unfinished code).filter (!·.isReturn) = unfinished code :=
    List.filter_eq_self.mpr fun _ => List.mem_rtakeWhile_imp
  calc code.filter (!·.isReturn)
      = (code.rdropWhile (!·.isReturn) ++ unfinished code).filter (!·.isReturn) := by
        rw [unfinished, List.rdropWhile_append_rtakeWhile]
    _ = ReverseScan.counted code ++ unfinished code := by
        rw [List.filter_append, hunfinished, hcounted, ReverseScan.beforeReturn]

/-! ## Routines -/

namespace Routine

theorem valid_code (routine : Routine) : ∀ i ∈ routine.code, i.isError = false := by
  rw [code, List.forall_mem_append]
  exact ⟨routine.valid, by simpa using ⟨rfl, routine.validSlot⟩⟩

theorem getLast?_code (routine : Routine) : routine.code.getLast? = some routine.slot := by
  simp [code]

theorem quietReturns_code (routine : Routine) : QuietReturns routine.code := by
  apply List.IsChain.append
  · exact (List.pairwise_of_forall_mem_list fun i hi j _ ret => by
      simp [routine.plain i hi] at ret).isChain
  · exact List.isChain_pair.mpr fun _ => routine.quiet
  · intro i hi j _ ret
    rw [routine.plain i (List.mem_of_mem_getLast? hi)] at ret
    cases ret

theorem quietReturns_flatMap (routines : List Routine) :
    QuietReturns (routines.flatMap Routine.code) := by
  induction routines with
  | nil => exact .nil
  | cons routine routines ih =>
    rw [List.flatMap_cons]
    apply List.IsChain.append routine.quietReturns_code ih
    intro i hi j _ ret
    rw [getLast?_code] at hi
    obtain rfl := Option.some.inj hi
    rw [Instruction.isReturn_eq_false_of_quiet routine.quiet] at ret
    cases ret

/-- Behind the last return of complete routines there is its delay slot at most. -/
theorem quiet_of_mem_unfinished (routines : List Routine) :
    ∀ i ∈ unfinished (routines.flatMap Routine.code), i.hasDelaySlot = false := by
  induction routines using List.reverseRecOn with
  | nil => exact fun _ h => nomatch h
  | append_singleton routines routine _ =>
    have hcode : (routines ++ [routine]).flatMap Routine.code =
        routines.flatMap Routine.code ++ routine.body ++ [.jr .ra] ++ [routine.slot] := by
      simp [code]
    have hslot : routine.slot.isReturn = false :=
      Instruction.isReturn_eq_false_of_quiet routine.quiet
    rw [hcode, unfinished, List.rtakeWhile_concat, if_pos (by rw [hslot]; rfl),
      List.rtakeWhile_concat, if_neg (by decide), List.nil_append]
    exact List.forall_mem_singleton.mpr routine.quiet

end Routine

namespace Classification

section

variable {code : List Instruction}

/-- What both scans count of the instructions that satisfy a condition. -/
theorem countP_filter_eq_add (p : Instruction → Bool) (valid : ∀ i ∈ code, i.isError = false) :
    (code.filter (!·.isReturn)).countP p =
      (ReverseScan.counted code).countP p + (unfinished code).countP p := by
  rw [ReverseScan.filter_eq_counted_append valid, List.countP_append]

theorem branches_forward_eq_add (valid : ∀ i ∈ code, i.isError = false)
    (quiet : QuietReturns code) :
    (Direction.forward.tally code).branches =
      (Direction.reverse.tally code).branches + (unfinished code).countP (·.isBranch) := by
  rw [Direction.tally, Direction.tally, ForwardScan.tally_run_of_quiet valid quiet,
    Tally.branches_countAll, countP_filter_eq_add _ valid, ReverseScan.branches_run, Nat.zero_add]

theorem jumps_forward_eq_add (valid : ∀ i ∈ code, i.isError = false)
    (quiet : QuietReturns code) :
    (Direction.forward.tally code).jumps =
      (Direction.reverse.tally code).jumps + (unfinished code).countP (·.isJump) := by
  rw [Direction.tally, Direction.tally, ForwardScan.tally_run_of_quiet valid quiet,
    Tally.jumps_countAll, countP_filter_eq_add _ valid, ReverseScan.jumps_run, Nat.zero_add]

end

/-- The scans agree on code whose unfinished tail transfers no control. -/
theorem tally_forward_eq_reverse {code : List Instruction} (valid : ∀ i ∈ code, i.isError = false)
    (quiet : QuietReturns code) (finished : ∀ i ∈ unfinished code, i.hasDelaySlot = false) :
    Direction.forward.tally code = Direction.reverse.tally code := by
  have hplain : ∀ i ∈ unfinished code, i.isBranch = false ∧ i.isJump = false :=
    fun i hi => Bool.or_eq_false_iff.mp (finished i hi)
  have hbranches : (unfinished code).countP (·.isBranch) = 0 :=
    List.countP_eq_zero.mpr fun i hi => ne_true_of_eq_false (hplain i hi).1
  have hjumps : (unfinished code).countP (·.isJump) = 0 :=
    List.countP_eq_zero.mpr fun i hi => ne_true_of_eq_false (hplain i hi).2
  rw [Tally.mk.injEq]
  exact ⟨(branches_forward_eq_add valid quiet).trans (congrArg _ hbranches),
    (jumps_forward_eq_add valid quiet).trans (congrArg _ hjumps)⟩

/-- A forward scan of code without foreign words counts what a reverse scan counts and the branches
and jumps behind the last return, provided that no delay slot of a return transfers control. On a
sequence of routines both scans give the same counts and the same verdict. -/
theorem ofCode_directions :
    (∀ minEvidence code, (∀ i ∈ code, i.isError = false) → QuietReturns code →
      (ofCode .forward minEvidence code).branches =
        (ofCode .reverse minEvidence code).branches + (unfinished code).countP (·.isBranch) ∧
      (ofCode .forward minEvidence code).jumps =
        (ofCode .reverse minEvidence code).jumps + (unfinished code).countP (·.isJump)) ∧
    ∀ minEvidence (routines : List Routine),
      ofCode .forward minEvidence (routines.flatMap Routine.code) =
        ofCode .reverse minEvidence (routines.flatMap Routine.code) := by
  refine ⟨fun minEvidence code valid quiet => ⟨?_, ?_⟩, fun minEvidence routines => ?_⟩
  · exact (congrArg Nat.cast (branches_forward_eq_add valid quiet)).trans (Int.natCast_add _ _)
  · exact (congrArg Nat.cast (jumps_forward_eq_add valid quiet)).trans (Int.natCast_add _ _)
  · have hvalid : ∀ i ∈ routines.flatMap Routine.code, i.isError = false := by
      intro i hi
      obtain ⟨routine, -, hmem⟩ := List.mem_flatMap.mp hi
      exact routine.valid_code i hmem
    have htally := tally_forward_eq_reverse hvalid (Routine.quietReturns_flatMap routines)
      (Routine.quiet_of_mem_unfinished routines)
    simp only [ofCode, htally]

/-- The law for code with two returns and an unfinished function: the branch and the jump behind the
second return count in one direction only. -/
theorem ofCode_directions_unfinished :
    let code : List Instruction := [.b 1, .jal 2, .nop, .jr .ra, .lui 4 1, .nop, .jr .ra, .nop,
      .beqz 4 3, .nop, .jr 4]
    (∀ i ∈ code, i.isError = false) ∧ QuietReturns code ∧
      (ofCode .forward 3 code).branches =
        (ofCode .reverse 3 code).branches + (unfinished code).countP (·.isBranch) ∧
      (ofCode .forward 3 code).jumps =
        (ofCode .reverse 3 code).jumps + (unfinished code).countP (·.isJump) ∧
      (unfinished code).countP (·.isBranch) = 1 ∧ (unfinished code).countP (·.isJump) = 1 := by
  intro code
  have hvalid : ∀ i ∈ code, i.isError = false := by decide
  have hquiet : QuietReturns code := by decide
  obtain ⟨hbranches, hjumps⟩ := ofCode_directions.1 3 code hvalid hquiet
  exact ⟨hvalid, hquiet, hbranches, hjumps, by decide, by decide⟩

end Classification

end CartBoot
