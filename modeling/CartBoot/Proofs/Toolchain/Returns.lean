import CartBoot.Proofs.Toolchain.Tally
import Mathlib.Data.Fintype.Fin
import Mathlib.Data.List.DropRight

/-!
# Function bodies in a reverse scan

A reverse scan counts an instruction if a return stands behind it and no foreign word comes between
the two. Cut at the foreign words, code falls into runs, and of each run the scan counts what stands
in front of the last return. Where instructions stand apart from that, and what else stands between
them, makes no difference.
-/

namespace CartBoot.ReverseScan

open Finset

/-- From the `n`-th instruction on, a return comes before any foreign word. -/
def ReturnsFrom (code : List Instruction) (n : Nat) : Prop :=
  ∃ k < code.length, n ≤ k ∧ code[k]? = some (.jr .ra) ∧
    ∀ j < k, n ≤ j → ∀ i ∈ code[j]?, i.isError = false

instance (code : List Instruction) : DecidablePred (ReturnsFrom code) :=
  fun _ => inferInstanceAs (Decidable (∃ k < code.length, _ ∧ _ ∧ _))

/-- The instruction at an index is no return, and behind it a return comes before any foreign
word. -/
def CountsAt (code : List Instruction) (n : Nat) : Prop :=
  code[n]? ≠ some (.jr .ra) ∧ ReturnsFrom code (n + 1)

instance (code : List Instruction) : DecidablePred (CountsAt code) :=
  fun _ => inferInstanceAs (Decidable (_ ∧ _))

/-- The instructions of a run in front of its last return, less any returns among them. -/
def beforeReturn (run : List Instruction) : List Instruction :=
  (run.rdropWhile (!·.isReturn)).filter (!·.isReturn)

/-- The instructions whose branches and jumps a reverse scan counts. -/
def counted (code : List Instruction) : List Instruction :=
  (code.splitOnP (·.isError)).flatMap beforeReturn

variable {i : Instruction} {code : List Instruction}

/-! ## The steps of a reverse scan -/

theorem isError_of_isReturn (ret : i.isReturn) : i.isError = false := by
  obtain rfl := Instruction.isReturn_iff.mp ret
  rfl

theorem inFunction_step (scan : ReverseScan) :
    (step i scan).inFunction = (!i.isError && (i.isReturn || scan.inFunction)) := by
  unfold step
  split
  next error => simp [error]
  next valid =>
    split
    next ret => simp [isError_of_isReturn ret, ret]
    next plain => split <;> simp_all

/-- An instruction counts if it is no return and the scan has met a return. -/
theorem tally_step_eq (scan : ReverseScan) :
    (step i scan).tally =
      if i.isError = false ∧ i.isReturn = false ∧ scan.inFunction then scan.tally.count i
      else scan.tally := by
  unfold step
  split
  next error => simp [error]
  next valid =>
    split
    next ret => simp [ret]
    next plain => split <;> simp_all

/-- A scan takes notice of control transfers and of foreign words only. -/
theorem step_of_unnoticed (scan : ReverseScan) (quiet : i.hasDelaySlot = false)
    (valid : i.isError = false) : step i scan = scan := by
  simp only [step, valid, Instruction.isReturn_eq_false_of_quiet quiet,
    Tally.count_of_quiet scan.tally quiet, Bool.false_eq_true, if_false, ite_self]

theorem run_filter (noticed : Instruction → Bool)
    (notices : ∀ i, i.hasDelaySlot ∨ i.isError → noticed i) (code : List Instruction) :
    run (code.filter noticed) = run code := by
  induction code with
  | nil => rfl
  | cons i rest ih =>
    by_cases keep : noticed i
    · rw [List.filter_cons_of_pos keep]
      exact congrArg (step i) ih
    · have hpass := not_or.mp (mt (notices i) keep)
      rw [List.filter_cons_of_neg keep, ih]
      exact (step_of_unnoticed (run rest) (eq_false_of_ne_true hpass.1)
        (eq_false_of_ne_true hpass.2)).symm

/-! ## Positions -/

theorem returnsFrom_cons_succ (n : Nat) :
    ReturnsFrom (i :: code) (n + 1) ↔ ReturnsFrom code n := by
  constructor
  · rintro ⟨_ | k, hk, hn, hret, hvalid⟩
    · exact absurd hn (Nat.not_succ_le_zero n)
    · refine ⟨k, Nat.lt_of_succ_lt_succ hk, Nat.le_of_succ_le_succ hn, hret, fun j hj hnj => ?_⟩
      exact hvalid (j + 1) (Nat.succ_lt_succ hj) (Nat.succ_le_succ hnj)
  · rintro ⟨k, hk, hn, hret, hvalid⟩
    refine ⟨k + 1, Nat.succ_lt_succ hk, Nat.succ_le_succ hn, hret, ?_⟩
    rintro (_ | j) hj hnj
    · exact absurd hnj (Nat.not_succ_le_zero n)
    · exact hvalid j (Nat.lt_of_succ_lt_succ hj) (Nat.le_of_succ_le_succ hnj)

theorem returnsFrom_cons_zero :
    ReturnsFrom (i :: code) 0 ↔ i.isError = false ∧ (i.isReturn ∨ ReturnsFrom code 0) := by
  have hrest : ReturnsFrom code 0 ↔ ReturnsFrom (i :: code) 1 := (returnsFrom_cons_succ 0).symm
  rw [hrest, Instruction.isReturn_iff]
  constructor
  · rintro ⟨_ | k, hk, -, hret, hvalid⟩
    · obtain rfl := Option.some.inj hret
      exact ⟨rfl, .inl rfl⟩
    · refine ⟨hvalid 0 (Nat.succ_pos k) (Nat.le_refl 0) i rfl, .inr ?_⟩
      exact ⟨k + 1, hk, Nat.succ_le_succ (Nat.zero_le k), hret,
        fun j hj _ => hvalid j hj (Nat.zero_le j)⟩
  · rintro ⟨valid, rfl | ⟨k, hk, -, hret, hvalid⟩⟩
    · exact ⟨0, Nat.succ_pos _, Nat.le_refl 0, rfl, fun j hj => absurd hj (Nat.not_lt_zero j)⟩
    · refine ⟨k, hk, Nat.zero_le k, hret, ?_⟩
      rintro (_ | j) hj -
      · simpa using valid
      · exact hvalid (j + 1) hj (Nat.succ_le_succ (Nat.zero_le j))

/-- The flag of a scan says whether a return opens the code that it has read. -/
theorem inFunction_run (code : List Instruction) :
    (run code).inFunction = true ↔ ReturnsFrom code 0 := by
  induction code with
  | nil => simp [run, ReturnsFrom]
  | cons i rest ih =>
    rw [returnsFrom_cons_zero, ← ih]
    change (step i (run rest)).inFunction = true ↔ _
    rw [inFunction_step]
    simp

theorem countsAt_cons_succ (n : Nat) : CountsAt (i :: code) (n + 1) ↔ CountsAt code n :=
  and_congr Iff.rfl (returnsFrom_cons_succ (n + 1))

theorem countsAt_cons_zero :
    CountsAt (i :: code) 0 ↔ i.isReturn = false ∧ (run code).inFunction := by
  rw [inFunction_run, ← returnsFrom_cons_succ (i := i), ← Bool.not_eq_true,
    Instruction.isReturn_iff]
  simp [CountsAt]

/-! ## Runs -/

theorem beforeReturn_concat (run : List Instruction) (i : Instruction) :
    beforeReturn (run ++ [i]) =
      if i.isReturn then run.filter (!·.isReturn) else beforeReturn run := by
  rw [beforeReturn, List.rdropWhile_concat]
  cases ret : i.isReturn with
  | true => simp [List.filter_append, ret]
  | false => rfl

/-- An instruction in front of a run is in front of its last return, if there is one. -/
theorem beforeReturn_cons (i : Instruction) (run : List Instruction) :
    beforeReturn (i :: run) =
      if i.isReturn = false ∧ .jr .ra ∈ run then i :: beforeReturn run else beforeReturn run := by
  induction run using List.reverseRecOn with
  | nil =>
    rw [← List.nil_append [i], beforeReturn_concat]
    simp [beforeReturn]
  | append_singleton run last ih =>
    rw [← List.cons_append, beforeReturn_concat, beforeReturn_concat, ih]
    by_cases hlast : last.isReturn
    · obtain rfl := Instruction.isReturn_iff.mp hlast
      simp [List.filter_cons, hlast]
    · have hmem : .jr .ra ∈ run ++ [last] ↔ .jr .ra ∈ run := by
        have hne : .jr .ra ≠ last := fun h => hlast (Instruction.isReturn_iff.mpr h.symm)
        simp [hne]
      simp [hlast, hmem]

/-- The flag of a scan says whether there is a return in the run that it has come to. -/
theorem inFunction_run_iff_mem {first : List Instruction} {later : List (List Instruction)}
    (runs : code.splitOnP (·.isError) = first :: later) :
    (run code).inFunction = true ↔ .jr .ra ∈ first := by
  induction code generalizing first later with
  | nil =>
    obtain ⟨rfl, -⟩ := List.cons.inj runs
    simp [run]
  | cons i rest ih =>
    obtain ⟨before, behind, hrest⟩ := List.exists_cons_of_ne_nil
      (List.splitOnP_ne_nil (·.isError) rest)
    rw [List.splitOnP_cons_eq_if_modifyHead, hrest] at runs
    change (step i (run rest)).inFunction = true ↔ _
    rw [inFunction_step]
    split at runs
    next error =>
      obtain ⟨rfl, -⟩ := List.cons.inj runs
      simp [error]
    next valid =>
      obtain ⟨rfl, -⟩ := List.cons.inj runs
      rw [Bool.eq_false_of_not_eq_true valid, Bool.not_false, Bool.true_and, Bool.or_eq_true,
        Instruction.isReturn_iff, ih hrest, List.mem_cons]
      exact or_congr_left eq_comm

theorem counted_cons (i : Instruction) (code : List Instruction) :
    counted (i :: code) =
      if i.isError = false ∧ i.isReturn = false ∧ (run code).inFunction then i :: counted code
      else counted code := by
  obtain ⟨first, later, hruns⟩ := List.exists_cons_of_ne_nil
    (List.splitOnP_ne_nil (·.isError) code)
  simp only [inFunction_run_iff_mem hruns, counted, List.splitOnP_cons_eq_if_modifyHead, hruns]
  split
  next error => simp [error, beforeReturn]
  next valid =>
    rw [List.modifyHead_cons, List.flatMap_cons, List.flatMap_cons, beforeReturn_cons]
    simp only [valid, true_and]
    split <;> rfl

/-- A scan counts what it counts once, the last instruction first. -/
theorem tally_run (code : List Instruction) :
    (run code).tally = Tally.countAll {} (counted code).reverse := by
  induction code with
  | nil => rfl
  | cons i rest ih =>
    change (step i (run rest)).tally = _
    rw [tally_step_eq, counted_cons, ih]
    split
    next => rw [List.reverse_cons, Tally.countAll_append, Tally.countAll_cons, Tally.countAll_nil]
    next => rfl

/-- The instructions of a kind at the positions that count, for one more instruction in front. -/
theorem card_countsAt_cons (p : Instruction → Bool) (i : Instruction) (code : List Instruction) :
    #{n : Fin (i :: code).length | p (i :: code)[n] ∧ CountsAt (i :: code) n} =
      #{n : Fin code.length | p code[n] ∧ CountsAt code n} +
        if p i ∧ i.isReturn = false ∧ (run code).inFunction then 1 else 0 := by
  have hcard := Fin.card_filter_univ_succ fun n : Fin (code.length + 1) =>
    p (i :: code)[n] ∧ CountsAt (i :: code) n
  simp only [Fin.getElem_fin, Fin.val_zero, List.getElem_cons_zero, Fin.val_succ,
    List.getElem_cons_succ, countsAt_cons_zero, countsAt_cons_succ] at hcard
  refine hcard.trans ?_
  split <;> rfl

/-- What a scan counts in the runs of some code stands at the positions that count. -/
theorem countP_counted {p : Instruction → Bool} (valid : ∀ i, p i → i.isError = false)
    (code : List Instruction) :
    (counted code).countP p = #{n : Fin code.length | p code[n] ∧ CountsAt code n} := by
  induction code with
  | nil => rfl
  | cons i rest ih =>
    rw [card_countsAt_cons, ← ih, counted_cons]
    by_cases hp : p i
    · simp only [valid i hp, hp, true_and]
      split
      next => exact List.countP_cons_of_pos hp
      next => rfl
    · simp only [hp]
      split
      next => exact List.countP_cons_of_neg hp
      next => rfl

theorem isError_of_isBranch (branch : i.isBranch) : i.isError = false := by
  cases i <;> first | rfl | cases branch

theorem isError_of_isJump (jump : i.isJump) : i.isError = false := by
  cases i <;> first | rfl | cases jump

theorem branches_run (code : List Instruction) :
    (run code).tally.branches = (counted code).countP (·.isBranch) := by
  rw [tally_run, Tally.branches_countAll, List.countP_reverse, Nat.zero_add]

theorem jumps_run (code : List Instruction) :
    (run code).tally.jumps = (counted code).countP (·.isJump) := by
  rw [tally_run, Tally.jumps_countAll, List.countP_reverse, Nat.zero_add]

end CartBoot.ReverseScan

namespace CartBoot.Classification

open Finset ReverseScan

/-- Code counts like other code that agrees with it in all that a scan takes notice of. -/
theorem ofCode_reverse_of_filter_eq {noticed : Instruction → Bool}
    (notices : ∀ i, i.hasDelaySlot ∨ i.isError → noticed i) (minEvidence : Int)
    {code other : List Instruction} (same : code.filter noticed = other.filter noticed) :
    ofCode .reverse minEvidence other =
      { ofCode .reverse minEvidence code with words := other.length } := by
  have hrun : run other = run code := by
    rw [← run_filter noticed notices other, ← same, run_filter noticed notices code]
  simp only [ofCode, Direction.tally, hrun]

/-- A reverse scan counts the branches and jumps at the positions where no return stands and behind
which a return comes before any foreign word; these are the ones that stand before the last return
of their run, returns left out. Code with the same control transfers and foreign words in the same
order counts alike, and so does code that differs in its zero words. -/
theorem ofCode_reverse :
    (∀ minEvidence code,
      (ofCode .reverse minEvidence code).branches =
        #{n : Fin code.length | code[n].isBranch ∧ CountsAt code n} ∧
      (ofCode .reverse minEvidence code).jumps =
        #{n : Fin code.length | code[n].isJump ∧ CountsAt code n} ∧
      (ofCode .reverse minEvidence code).branches =
        ((code.splitOnP (·.isError)).flatMap beforeReturn).countP (·.isBranch) ∧
      (ofCode .reverse minEvidence code).jumps =
        ((code.splitOnP (·.isError)).flatMap beforeReturn).countP (·.isJump)) ∧
    (∀ minEvidence (code other : List Instruction),
      code.filter (fun i => i.hasDelaySlot || i.isError) =
        other.filter (fun i => i.hasDelaySlot || i.isError) →
      ofCode .reverse minEvidence other =
        { ofCode .reverse minEvidence code with words := other.length }) ∧
    ∀ minEvidence (code other : List Instruction),
      code.filter (· ≠ .nop) = other.filter (· ≠ .nop) →
      ofCode .reverse minEvidence other =
        { ofCode .reverse minEvidence code with words := other.length } := by
  refine ⟨fun minEvidence code => ?_, fun minEvidence code other => ?_,
    fun minEvidence code other => ?_⟩
  · have hbranches := branches_run code
    have hjumps := jumps_run code
    refine ⟨?_, ?_, congrArg Nat.cast hbranches, congrArg Nat.cast hjumps⟩
    · rw [← countP_counted (fun _ => isError_of_isBranch) code]
      exact congrArg Nat.cast hbranches
    · rw [← countP_counted (fun _ => isError_of_isJump) code]
      exact congrArg Nat.cast hjumps
  · exact ofCode_reverse_of_filter_eq (fun i => Bool.or_eq_true_iff.mpr) minEvidence
  · apply ofCode_reverse_of_filter_eq
    rintro i transfers
    apply decide_eq_true
    rintro rfl
    simp [Instruction.hasDelaySlot, Instruction.isError, Instruction.kind, Kind.hasDelaySlot,
      Kind.isBranch, Kind.isJump, Kind.isError] at transfers

/-- The law for a branch whose place changes, and for zero words that come and go. -/
theorem ofCode_reverse_moved :
    let code : List Instruction := [.b 1, .nop, .jr .ra, .nop, .unknown 0xFFFFFFFF, .j 2]
    let moved : List Instruction := [.lui 4 1, .b 1, .jr .ra, .unknown 0xFFFFFFFF, .sw 4 0 0, .j 2]
    let packed : List Instruction := [.b 1, .jr .ra, .unknown 0xFFFFFFFF, .nop, .j 2, .nop]
    code.filter (fun i => i.hasDelaySlot || i.isError) =
        moved.filter (fun i => i.hasDelaySlot || i.isError) ∧
      ofCode .reverse 1 moved = { ofCode .reverse 1 code with words := 6 } ∧
      code.filter (· ≠ .nop) = packed.filter (· ≠ .nop) ∧
      ofCode .reverse 1 packed = { ofCode .reverse 1 code with words := 6 } := by
  intro code moved packed
  have hmoved : code.filter (fun i => i.hasDelaySlot || i.isError) =
      moved.filter (fun i => i.hasDelaySlot || i.isError) := by decide
  have hpacked : code.filter (· ≠ .nop) = packed.filter (· ≠ .nop) := by decide
  exact ⟨hmoved, ofCode_reverse.2.1 1 code moved hmoved, hpacked,
    ofCode_reverse.2.2 1 code packed hpacked⟩

end CartBoot.Classification
