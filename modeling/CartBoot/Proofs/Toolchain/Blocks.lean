import CartBoot.Proofs.Toolchain.Tally
import Mathlib.Data.List.Induction

/-!
# Function bodies in a forward scan

Words that are no instructions cut code into runs, and returns cut a run into blocks: a body, its
return and the delay slot behind it. A forward scan counts the bodies, and the delay slots of bodies
that do anything. The first block behind a cut is left out, since its body may begin anywhere.
-/

namespace CartBoot

/-- How a block ends. -/
inductive BlockEnd where
  /-- The run ends within the body. -/
  | cut
  /-- The run ends with the return. -/
  | returned
  /-- The return has a delay slot, which may hold another return. -/
  | slot (i : Instruction)
  deriving DecidableEq, Repr

/-- A piece of a run up to a return and its delay slot. -/
structure Block where
  body : List Instruction
  ending : BlockEnd
  deriving DecidableEq, Repr

namespace Block

/-- The blocks of a run, read from left to right. -/
def ofRun : List Instruction → List Block
  | [] => []
  | i :: rest =>
    if i.isReturn then
      match rest with
      | [] => [⟨[], .returned⟩]
      | slot :: rest => ⟨[], .slot slot⟩ :: ofRun rest
    else
      match ofRun rest with
      | [] => [⟨[i], .cut⟩]
      | block :: blocks => ⟨i :: block.body, block.ending⟩ :: blocks

/-- The instructions of a block whose branches and jumps count. -/
def counted (block : Block) : List Instruction :=
  match block.ending with
  | .slot i => if block.body.any (· ≠ .nop) then block.body ++ [i] else block.body
  | .cut | .returned => block.body

/-- A run that consists of some blocks. No body holds a return, and only the last block may lack its
delay slot or its return. -/
inductive Reads : List Instruction → List Block → Prop
  | nil : Reads [] []
  | cut {body : List Instruction} (nonempty : body ≠ [])
      (plain : ∀ i ∈ body, i.isReturn = false) : Reads body [⟨body, .cut⟩]
  | returned {body : List Instruction} (plain : ∀ i ∈ body, i.isReturn = false) :
      Reads (body ++ [.jr .ra]) [⟨body, .returned⟩]
  | slot {body rest : List Instruction} {i : Instruction} {blocks : List Block}
      (plain : ∀ i ∈ body, i.isReturn = false) (tail : Reads rest blocks) :
      Reads (body ++ .jr .ra :: i :: rest) (⟨body, .slot i⟩ :: blocks)

/-- An instruction in front of a run extends its first body. -/
theorem Reads.cons {run : List Instruction} {block : Block} {blocks : List Block}
    (reads : Reads run (block :: blocks)) {i : Instruction} (plain : i.isReturn = false) :
    Reads (i :: run) (⟨i :: block.body, block.ending⟩ :: blocks) := by
  cases reads with
  | cut _ hbody => exact .cut (List.cons_ne_nil _ _) (List.forall_mem_cons.mpr ⟨plain, hbody⟩)
  | returned hbody => exact .returned (List.forall_mem_cons.mpr ⟨plain, hbody⟩)
  | slot hbody tail => exact .slot (List.forall_mem_cons.mpr ⟨plain, hbody⟩) tail

theorem reads_ofRun (run : List Instruction) : Reads run (ofRun run) := by
  have hempty : ∀ i ∈ ([] : List Instruction), i.isReturn = false := List.forall_mem_nil _
  fun_induction ofRun run with
  | case1 => exact .nil
  | case2 i ret =>
    obtain rfl := Instruction.isReturn_iff.mp ret
    exact .returned hempty
  | case3 i ret slot rest ih =>
    obtain rfl := Instruction.isReturn_iff.mp ret
    exact .slot hempty ih
  | case4 i rest plain hblocks ih =>
    rw [hblocks] at ih
    cases ih
    exact .cut (List.cons_ne_nil _ _) (List.forall_mem_singleton.mpr (eq_false_of_ne_true plain))
  | case5 i rest plain block blocks hblocks ih =>
    rw [hblocks] at ih
    exact ih.cons (eq_false_of_ne_true plain)

theorem ofRun_cons {i : Instruction} (plain : i.isReturn = false) {run : List Instruction}
    {block : Block} {blocks : List Block} (reads : ofRun run = block :: blocks) :
    ofRun (i :: run) = ⟨i :: block.body, block.ending⟩ :: blocks := by
  rw [ofRun.eq_def]
  simp only [plain, reads, Bool.false_eq_true, if_false]

/-- A body in front of a run that starts with a return belongs to that return. -/
theorem ofRun_append {body : List Instruction} (plain : ∀ i ∈ body, i.isReturn = false)
    {run : List Instruction} {ending : BlockEnd} {blocks : List Block}
    (reads : ofRun run = ⟨[], ending⟩ :: blocks) :
    ofRun (body ++ run) = ⟨body, ending⟩ :: blocks := by
  induction body with
  | nil => exact reads
  | cons i body ih =>
    obtain ⟨hi, hbody⟩ := List.forall_mem_cons.mp plain
    exact ofRun_cons hi (ih hbody)

theorem ofRun_body {body : List Instruction} (nonempty : body ≠ [])
    (plain : ∀ i ∈ body, i.isReturn = false) : ofRun body = [⟨body, .cut⟩] := by
  induction body with
  | nil => exact absurd rfl nonempty
  | cons i body ih =>
    obtain ⟨hi, hbody⟩ := List.forall_mem_cons.mp plain
    cases body with
    | nil => rw [ofRun, if_neg (ne_true_of_eq_false hi), ofRun]
    | cons j body => exact ofRun_cons hi (ih (List.cons_ne_nil _ _) hbody)

/-- A run consists of its blocks in one way only. -/
theorem reads_iff {run : List Instruction} {blocks : List Block} :
    Reads run blocks ↔ blocks = ofRun run := by
  constructor
  · intro reads
    induction reads with
    | nil => rfl
    | cut nonempty plain => exact (ofRun_body nonempty plain).symm
    | returned plain => exact (ofRun_append plain rfl).symm
    | slot plain _ ih =>
      apply (ofRun_append plain _).symm
      rw [ih]
      rfl
  · rintro rfl
    exact reads_ofRun run

end Block

namespace ForwardScan

variable (tally : Tally)

theorem foldl_body {body : List Instruction} (valid : ∀ i ∈ body, i.isError = false)
    (plain : ∀ i ∈ body, i.isReturn = false) :
    body.foldl step ⟨.body, tally⟩ = ⟨.body, tally.countAll body⟩ := by
  induction body generalizing tally with
  | nil => rfl
  | cons i body ih =>
    rw [List.forall_mem_cons] at valid plain
    rw [List.foldl_cons, step_body tally valid.1 plain.1, ih _ valid.2 plain.2, Tally.countAll_cons]

/-- A body counts as a whole, since nothing in front of its first instruction is a branch or a
jump. -/
theorem foldl_armed {body : List Instruction} (valid : ∀ i ∈ body, i.isError = false)
    (plain : ∀ i ∈ body, i.isReturn = false) :
    body.foldl step ⟨.armed, tally⟩ =
      ⟨if body.any (· ≠ .nop) then .body else .armed, tally.countAll body⟩ := by
  induction body generalizing tally with
  | nil => rfl
  | cons i body ih =>
    rw [List.forall_mem_cons] at valid plain
    rw [List.foldl_cons, step_armed tally valid.1 plain.1, Tally.countAll_cons, List.any_cons]
    by_cases nop : i = .nop
    · simp only [nop, if_true, ih _ valid.2 plain.2, ne_eq, not_true, decide_false, Bool.false_or]
    · rw [if_neg nop, foldl_body _ valid.2 plain.2]
      simp [nop]

theorem foldl_suspended {body : List Instruction} (plain : ∀ i ∈ body, i.isReturn = false) :
    body.foldl step ⟨.suspended, tally⟩ = ⟨.suspended, tally⟩ := by
  induction body with
  | nil => rfl
  | cons i body ih =>
    rw [List.forall_mem_cons] at plain
    rw [List.foldl_cons, step_suspended tally plain.1, ih plain.2]

/-- Behind the delay slot of a return, a scan stands at the start of a function. -/
theorem foldl_return (phase : ScanPhase) (outside : ∀ counted, phase ≠ .slot counted)
    {i : Instruction} (valid : i.isError = false) (rest : List Instruction) :
    (.jr .ra :: i :: rest).foldl step ⟨phase, tally⟩ =
      rest.foldl step ⟨.armed, if phase = .body then tally.count i else tally⟩ := by
  rw [List.foldl_cons, step_return tally phase outside, List.foldl_cons, step_slot tally _ valid]
  simp only [decide_eq_true_eq]

theorem countAll_counted_slot (body : List Instruction) (i : Instruction) :
    tally.countAll (Block.counted ⟨body, .slot i⟩) =
      if body.any (· ≠ .nop) then (tally.countAll body).count i else tally.countAll body := by
  simp only [Block.counted]
  split
  next => rw [Tally.countAll_append, Tally.countAll_cons, Tally.countAll_nil]
  next => rfl

/-- From the start of a function on, a scan of a run counts all its blocks. -/
theorem tally_foldl_armed {run : List Instruction} {blocks : List Block}
    (reads : Block.Reads run blocks) (valid : ∀ i ∈ run, i.isError = false) :
    (run.foldl step ⟨.armed, tally⟩).tally = tally.countAll (blocks.flatMap Block.counted) := by
  induction reads generalizing tally with
  | nil => rfl
  | cut _ plain =>
    rw [foldl_armed tally valid plain, List.flatMap_singleton]
    rfl
  | returned plain =>
    rw [List.forall_mem_append] at valid
    rw [List.foldl_append, foldl_armed tally valid.1 plain, List.flatMap_singleton,
      List.foldl_cons, step_return _ _ (by split <;> simp)]
    rfl
  | @slot body rest i blocks plain _ ih =>
    rw [List.forall_mem_append, List.forall_mem_cons, List.forall_mem_cons] at valid
    obtain ⟨hbody, -, hi, hrest⟩ := valid
    rw [List.foldl_append, foldl_armed tally hbody plain,
      foldl_return _ _ (by split <;> simp) hi, ih _ hrest, List.flatMap_cons,
      Tally.countAll_append, countAll_counted_slot]
    congr 1
    split <;> simp

/-- From a word that is no instruction on, a scan of a run passes over the first block. -/
theorem tally_foldl_suspended {run : List Instruction} {blocks : List Block}
    (reads : Block.Reads run blocks) (valid : ∀ i ∈ run, i.isError = false) :
    (run.foldl step ⟨.suspended, tally⟩).tally =
      tally.countAll (blocks.tail.flatMap Block.counted) := by
  cases reads with
  | nil => rfl
  | cut _ plain =>
    rw [foldl_suspended tally plain]
    rfl
  | returned plain =>
    rw [List.foldl_append, foldl_suspended tally plain]
    rfl
  | slot plain tail =>
    rw [List.forall_mem_append, List.forall_mem_cons, List.forall_mem_cons] at valid
    obtain ⟨-, -, hi, hrest⟩ := valid
    rw [List.foldl_append, foldl_suspended tally plain, foldl_return _ _ (by simp) hi,
      if_neg (by simp), tally_foldl_armed tally tail hrest, List.tail_cons]

/-- The instructions whose branches and jumps a forward scan counts. -/
def counted (code : List Instruction) : List Instruction :=
  match code.splitOnP (·.isError) with
  | [] => []
  | first :: later =>
    (Block.ofRun first).flatMap Block.counted ++
      later.flatMap fun run => (Block.ofRun run).tail.flatMap Block.counted

/-- Code has no words that are no instructions, or a first one. -/
theorem forall_or_exists_isError (code : List Instruction) :
    (∀ i ∈ code, i.isError = false) ∨ ∃ run error rest, code = run ++ error :: rest ∧
      (∀ i ∈ run, i.isError = false) ∧ error.isError := by
  cases hfind : code.find? (·.isError) with
  | none => exact .inl fun i hi => eq_false_of_ne_true (List.find?_eq_none.mp hfind i hi)
  | some error =>
    obtain ⟨herror, run, rest, rfl, hrun⟩ := List.find?_eq_some_iff_append.mp hfind
    exact .inr ⟨run, error, rest, rfl, fun i hi => by simpa using hrun i hi, herror⟩

theorem tally_foldl_later (tally : Tally) (code : List Instruction) :
    (code.foldl step ⟨.suspended, tally⟩).tally =
      tally.countAll ((code.splitOnP (·.isError)).flatMap fun run =>
        (Block.ofRun run).tail.flatMap Block.counted) := by
  obtain hvalid | ⟨run, error, rest, rfl, hrun, herror⟩ := forall_or_exists_isError code
  · rw [List.splitOnP_eq_singleton hvalid, List.flatMap_singleton,
      tally_foldl_suspended tally (Block.reads_ofRun code) hvalid]
  · rw [List.splitOnP_append_cons_of_forall_mem hrun error herror, List.flatMap_cons,
      Tally.countAll_append, ← tally_foldl_suspended tally (Block.reads_ofRun run) hrun,
      List.foldl_append, List.foldl_cons, step_of_isError _ herror]
    exact tally_foldl_later _ rest
termination_by code.length

/-- The runs of a scan each count on their own. -/
theorem tally_foldl (code : List Instruction) :
    (code.foldl step ⟨.armed, tally⟩).tally = tally.countAll (counted code) := by
  unfold counted
  obtain hvalid | ⟨run, error, rest, rfl, hrun, herror⟩ := forall_or_exists_isError code
  · rw [List.splitOnP_eq_singleton hvalid, tally_foldl_armed tally (Block.reads_ofRun code) hvalid]
    simp
  · rw [List.splitOnP_append_cons_of_forall_mem hrun error herror, Tally.countAll_append,
      ← tally_foldl_armed tally (Block.reads_ofRun run) hrun, ← tally_foldl_later,
      List.foldl_append, List.foldl_cons, step_of_isError _ herror]

/-! ## Suspension -/

/-- Whether code holds a return with an instruction in its delay slot. -/
def HasReturn (code : List Instruction) : Prop :=
  ∃ front slot back, code = front ++ .jr .ra :: slot :: back ∧ slot.isError = false

theorem hasReturn_append {code : List Instruction} (front back : List Instruction)
    (returns : HasReturn code) : HasReturn (front ++ code ++ back) := by
  obtain ⟨before, slot, behind, rfl, valid⟩ := returns
  exact ⟨front ++ before, slot, behind ++ back, by simp, valid⟩

/-- A suspended scan waits for a return. One at the end of the code still lacks its delay slot. -/
theorem foldl_of_not_hasReturn (tally : Tally) (code : List Instruction)
    (waits : ¬ HasReturn code) :
    code.foldl step ⟨.suspended, tally⟩ = ⟨.suspended, tally⟩ ∨
      code.foldl step ⟨.suspended, tally⟩ = ⟨.slot false, tally⟩ ∧
        ∃ front, code = front ++ [.jr .ra] := by
  induction code using List.reverseRecOn with
  | nil => exact .inl rfl
  | append_singleton code i ih =>
    have hcode : ¬ HasReturn code := fun h => waits (hasReturn_append [] [i] h)
    rw [List.foldl_concat]
    obtain hstate | ⟨hstate, front, rfl⟩ := ih hcode
    · rw [hstate]
      cases plain : i.isReturn with
      | false => exact .inl (step_suspended tally plain)
      | true =>
        obtain rfl := Instruction.isReturn_iff.mp plain
        exact .inr ⟨rfl, code, rfl⟩
    · have herror : i.isError := by
        apply Bool.of_not_eq_false
        exact fun valid => waits ⟨front, i, [], by simp, valid⟩
      rw [hstate, step_of_isError _ herror]
      exact .inl rfl

theorem run_append_error (before rest : List Instruction) {error : Instruction}
    (invalid : error.isError) :
    run (before ++ error :: rest) = rest.foldl step ⟨.suspended, (run before).tally⟩ := by
  rw [run, List.foldl_append, List.foldl_cons, step_of_isError _ invalid]
  rfl

/-- Nothing counts behind a word that is no instruction until a return has its delay slot. -/
theorem tally_run_suspended (before : List Instruction) {rest : List Instruction}
    {error : Instruction} (invalid : error.isError) (waits : ¬ HasReturn rest) :
    (run (before ++ error :: rest)).tally = (run before).tally := by
  rw [run_append_error before rest invalid]
  obtain hstate | ⟨hstate, -⟩ := foldl_of_not_hasReturn (run before).tally rest waits
  · rw [hstate]
  · rw [hstate]

/-- Behind the first return with a delay slot, code counts as it does from the start. -/
theorem tally_run_resumed (before : List Instruction) {rest more : List Instruction}
    {error slot : Instruction} (invalid : error.isError)
    (waits : ¬ HasReturn (rest ++ [.jr .ra])) (valid : slot.isError = false) :
    (run (before ++ error :: (rest ++ .jr .ra :: slot :: more))).tally =
      (run before).tally.countAll (counted more) := by
  have hrest : ¬ HasReturn rest := fun h => waits (hasReturn_append [] [.jr .ra] h)
  rw [run_append_error before _ invalid, List.foldl_append]
  obtain hstate | ⟨-, front, rfl⟩ := foldl_of_not_hasReturn (run before).tally rest hrest
  · rw [hstate, foldl_return _ _ (by simp) valid, if_neg (by simp), tally_foldl]
  · exact absurd ⟨front, .jr .ra, [], by simp, rfl⟩ waits

end ForwardScan

namespace Classification

open ForwardScan (counted HasReturn)

/-- A forward scan counts the branches and jumps of the blocks that it may count. A word that is no
instruction, in the delay slot of a return or elsewhere, suspends it until a later return has its
delay slot; the code behind that slot counts on its own. -/
theorem ofCode_forward :
    (∀ run blocks, Block.Reads run blocks ↔ blocks = Block.ofRun run) ∧
    (∀ minEvidence code,
      (ofCode .forward minEvidence code).branches = (counted code).countP (·.isBranch) ∧
      (ofCode .forward minEvidence code).jumps = (counted code).countP (·.isJump)) ∧
    ∀ (before rest : List Instruction) (error : Instruction), error.isError →
      (¬ HasReturn rest →
        Direction.forward.tally (before ++ error :: rest) = Direction.forward.tally before) ∧
      ∀ (slot : Instruction) (more : List Instruction), ¬ HasReturn (rest ++ [.jr .ra]) →
        slot.isError = false →
        Direction.forward.tally (before ++ error :: (rest ++ .jr .ra :: slot :: more)) =
          (Direction.forward.tally before).countAll (counted more) := by
  refine ⟨fun run blocks => Block.reads_iff, fun minEvidence code => ?_,
    fun before rest error invalid => ⟨?_, ?_⟩⟩
  · have htally : Direction.forward.tally code = Tally.countAll {} (counted code) :=
      ForwardScan.tally_foldl {} code
    constructor
    · rw [ofCode, htally, Tally.branches_countAll, Nat.zero_add]
    · rw [ofCode, htally, Tally.jumps_countAll, Nat.zero_add]
  · exact ForwardScan.tally_run_suspended before invalid
  · exact fun slot more waits => ForwardScan.tally_run_resumed before invalid waits

/-- The law for a foreign word in the delay slot of a return: the branch behind it is lost, and the
jump behind the next return with a delay slot counts again. -/
theorem ofCode_forward_slotError :
    let before : List Instruction := [.b 1, .jr .ra]
    let error : Instruction := .unknown 0xFFFFFFFF
    let rest : List Instruction := [.b 2]
    error.isError ∧ ¬ HasReturn rest ∧ ¬ HasReturn (rest ++ [.jr .ra]) ∧
      Instruction.nop.isError = false ∧
      Direction.forward.tally (before ++ error :: rest) = Direction.forward.tally before ∧
      Direction.forward.tally (before ++ error :: (rest ++ .jr .ra :: .nop :: [.j 3])) =
        (Direction.forward.tally before).countAll (counted [.j 3]) := by
  intro before error rest
  have hwaits : ¬ HasReturn (rest ++ [.jr .ra]) := by
    rintro ⟨front, slot, back, hcode, -⟩
    rcases front with _ | ⟨i, _ | ⟨j, front⟩⟩ <;> simp [rest] at hcode
  have hrest : ¬ HasReturn rest := fun h => hwaits (ForwardScan.hasReturn_append [] [.jr .ra] h)
  have hlaw := ofCode_forward.2.2 before rest error rfl
  exact ⟨rfl, hrest, hwaits, rfl, hlaw.1 hrest, hlaw.2 .nop [.j 3] hwaits rfl⟩

end Classification

end CartBoot
