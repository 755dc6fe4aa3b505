import CartBoot.Proofs.Walk.Machine
import CartBoot.Proofs.Walk.Rules
import Mathlib.Order.Nat

/-!
# The jump that a verdict is about

The verdict on the delay slot is that on the first jump of a trace. Under the delay-slot rule no
jump but one in the slot itself can follow, so that the verdict is about the final jump. Under the
other rule later jumps follow, and the verdict fits the final one exactly if both slots are alike.
-/

namespace CartBoot

/-- The verdict on the word behind a jump; behind the last word of a trace there is none. -/
def DelaySlot.ofWord? : Option Word → DelaySlot
  | Option.none => .none
  | some w => if (Instruction.decode w).isError then .none else if w = 0 then .nop else .filled

namespace Analysis

open Walk (JumpAt)

/-- The words of the trace. -/
def seen (result : Analysis) : List Word := result.trace.map Step.word

/-- The verdict of a result is that on the final jump, if an instruction follows it. -/
def JudgesFinalJump (result : Analysis) : Prop :=
  ∀ k w, IsGreatest {i | JumpAt result.seen i} k → result.seen[k + 1]? = some w →
    (Instruction.decode w).isError = false → result.delaySlot = if w = 0 then .nop else .filled

/-- How the verdict of a result relates to the jumps of its trace. -/
structure JudgesFirstJump (rule : StopRule) (result : Analysis) : Prop where
  silent : (∀ i, ¬ JumpAt result.seen i) → result.delaySlot = .none
  first : ∀ j, IsLeast {i | JumpAt result.seen i} j →
    result.delaySlot = .ofWord? result.seen[j + 1]?
  refined : rule = .delaySlot → result.JudgesFinalJump
  /-- The verdict fits the final jump exactly if the slot of the first jump is like its own. -/
  final_iff : result.JudgesFinalJump ↔
    ∀ j k u w, IsLeast {i | JumpAt result.seen i} j → IsGreatest {i | JumpAt result.seen i} k →
      result.seen[j + 1]? = some u → result.seen[k + 1]? = some w →
      (Instruction.decode w).isError = false → (u = 0 ↔ w = 0)

end Analysis

namespace Walk

variable {rule : StopRule} {words : List Word}

/-! ## The first jump -/

@[simp] theorem jumpAt_cons_zero (w : Word) (rest : List Word) :
    JumpAt (w :: rest) 0 ↔ (Instruction.decode w).isJump := by
  simp [JumpAt]

@[simp] theorem jumpAt_cons_succ (w : Word) (rest : List Word) (i : Nat) :
    JumpAt (w :: rest) (i + 1) ↔ JumpAt rest i := by
  simp [JumpAt]

theorem delaySlot_of_silent (silent : ∀ i, ¬ JumpAt words i) :
    delaySlot (words.map .decode) = .none := by
  induction words with
  | nil => rfl
  | cons w rest ih =>
    have falls : (Instruction.decode w).isJump = false := by
      simpa using silent 0
    have hrest : ∀ i, ¬ JumpAt rest i := by
      intro i
      simpa using silent (i + 1)
    rw [List.map_cons, delaySlot_cons_of_falls falls, ih hrest]

theorem delaySlot_of_isLeast {j : Nat} (first : IsLeast {i | JumpAt words i} j) :
    delaySlot (words.map .decode) = .ofWord? words[j + 1]? := by
  induction words generalizing j with
  | nil =>
    obtain ⟨⟨w, hw, -⟩, -⟩ := first
    cases hw
  | cons w rest ih =>
    cases j with
    | zero =>
      have jumps : (Instruction.decode w).isJump := (jumpAt_cons_zero w rest).mp first.1
      rw [List.map_cons, List.getElem?_cons_succ]
      cases rest with
      | nil => simp [delaySlot, jumps, DelaySlot.ofWord?]
      | cons slot rest =>
        simp [delaySlot, jumps, DelaySlot.ofWord?, Instruction.decode_eq_nop_iff]
    | succ j =>
      have falls : (Instruction.decode w).isJump = false := by
        by_contra jumps
        have hzero := first.2 ((jumpAt_cons_zero w rest).mpr (by simpa using jumps))
        exact Nat.not_succ_le_zero j hzero
      have hrest : IsLeast {i | JumpAt rest i} j := by
        refine ⟨(jumpAt_cons_succ w rest j).mp first.1, fun i hi => ?_⟩
        exact Nat.succ_le_succ_iff.mp (first.2 ((jumpAt_cons_succ w rest i).mpr hi))
      rw [List.map_cons, delaySlot_cons_of_falls falls, ih hrest, List.getElem?_cons_succ]

/-! ## The final jump -/

/-- A word that is no instruction can only be the last one of a walk. -/
theorem isError_eq_false_of_lt {i : Nat} {w : Word} (here : (walked rule words)[i]? = some w)
    (below : i + 1 < (walked rule words).length) : (Instruction.decode w).isError = false := by
  obtain ⟨code, foreign, htake, hcode, -, hlen⟩ := exists_take_extentFrom rule false false words
  have hwalked : walked rule words = code ++ foreign := htake
  have hforeign : foreign.length ≤ 1 := by
    rw [hlen]
    split <;> decide
  rw [hwalked, List.length_append] at below
  rw [hwalked, List.getElem?_append_left (by omega)] at here
  exact hcode w (List.mem_of_getElem? here)

theorem exists_isLeast_jumpAt {k : Nat} (jump : JumpAt words k) :
    ∃ j, IsLeast {i | JumpAt words i} j := by
  classical
  have hjumps : ∃ i, JumpAt words i := ⟨k, jump⟩
  exact ⟨Nat.find hjumps, Nat.isLeast_find hjumps⟩

theorem ofWord?_of_instruction {w : Word} (valid : (Instruction.decode w).isError = false) :
    DelaySlot.ofWord? (some w) = if w = 0 then .nop else .filled := by
  rw [DelaySlot.ofWord?, valid]
  rfl

/-- In front of the final slot there is no foreign word, so that the first slot holds an
instruction as well. -/
theorem exists_slot_of_jumps {j k : Nat} {w : Word}
    (first : IsLeast {i | JumpAt (walked rule words) i} j)
    (final : IsGreatest {i | JumpAt (walked rule words) i} k)
    (slot : (walked rule words)[k + 1]? = some w)
    (valid : (Instruction.decode w).isError = false) :
    ∃ u, (walked rule words)[j + 1]? = some u ∧ (Instruction.decode u).isError = false := by
  have hle : j ≤ k := first.2 final.1
  have hlen : k + 1 < (walked rule words).length := (List.getElem?_eq_some_iff.mp slot).1
  rcases Nat.lt_or_eq_of_le hle with hlt | rfl
  · have hu := List.getElem?_eq_getElem (show j + 1 < (walked rule words).length by omega)
    exact ⟨_, hu, isError_eq_false_of_lt hu (by omega)⟩
  · exact ⟨w, slot, valid⟩

theorem ite_nop_filled_inj {p q : Prop} [Decidable p] [Decidable q] :
    ((if p then DelaySlot.nop else .filled) = if q then .nop else .filled) ↔ (p ↔ q) := by
  by_cases hp : p <;> by_cases hq : q <;> simp [hp, hq]

theorem seen_analyze (rule : StopRule) (address romOffset : Int) (words : List Word) :
    (analyze rule address romOffset words).seen = walked rule words :=
  map_word_steps address romOffset false (walked rule words)

theorem analyze_judgesFirstJump (rule : StopRule) (address romOffset : Int) (words : List Word) :
    (analyze rule address romOffset words).JudgesFirstJump rule := by
  have hseen := seen_analyze rule address romOffset words
  have hverdict : ∀ j, IsLeast {i | JumpAt (walked rule words) i} j →
      (analyze rule address romOffset words).delaySlot = .ofWord? (walked rule words)[j + 1]? :=
    fun j first => delaySlot_of_isLeast first
  constructor
  case silent =>
    rw [hseen]
    exact fun silent => delaySlot_of_silent silent
  case first =>
    rw [hseen]
    exact hverdict
  case refined =>
    rintro rfl k w final slot valid
    rw [hseen] at final slot
    obtain ⟨j, first⟩ := exists_isLeast_jumpAt final.1
    have hj : j = k := by
      have hle : j ≤ k := first.2 final.1
      obtain ⟨u, hu, hjump⟩ := first.1
      have hlen := length_walked_le_of_isJump hu hjump
      have hslot : k + 1 < (walked .delaySlot words).length := (List.getElem?_eq_some_iff.mp slot).1
      omega
    rw [hverdict j first, hj, slot, ofWord?_of_instruction valid]
  case final_iff =>
    rw [Analysis.JudgesFinalJump, hseen]
    constructor
    · intro judges j k u w first final hu hw valid
      obtain ⟨u', hu', hvalid⟩ := exists_slot_of_jumps first final hw valid
      obtain rfl := Option.some.inj (hu.symm.trans hu')
      have hfinal := judges k w final hw valid
      rw [hverdict j first, hu, ofWord?_of_instruction hvalid] at hfinal
      exact ite_nop_filled_inj.mp hfinal
    · intro alike k w final hw valid
      obtain ⟨j, first⟩ := exists_isLeast_jumpAt final.1
      obtain ⟨u, hu, hvalid⟩ := exists_slot_of_jumps first final hw valid
      rw [hverdict j first, hu, ofWord?_of_instruction hvalid]
      exact ite_nop_filled_inj.mpr (alike j k u w first final hu hw valid)

/-- The verdict of a walk is that on the first jump of its trace, over a buffer in a session and
over the window of an image. Under the delay-slot rule it is also that on the final one. -/
theorem walk_judgesFirstJump (s : Session) (data : Bytes) (rule : StopRule) (order : ByteOrder)
    (address : Int) (window : Bytes) :
    (s.run data).1.JudgesFirstJump s.rule ∧
      (analyzeWindow rule order address window).JudgesFirstJump rule :=
  ⟨analyze_judgesFirstJump s.rule s.address s.romOffset (s.words data),
    analyze_judgesFirstJump rule address Layout.bootOffset _⟩

/-- A stub that calls a function with an empty slot before it jumps to the game with a filled one:
its final jump is the last one that sets the jump register, but the verdict is on the call. -/
theorem not_judgesFinalJump_callFirst :
    let window : Bytes := ByteOrder.ofWords
      [0x0C009700, 0, 0x3C0A8002, 0x254A5CC0, 0x01400008, 0x27BDF330, 0, 0]
    let result := analyzeWindow .doubleNop .big 0x80000400 window
    ¬ result.JudgesFinalJump ∧ result.jumpRegister = 10 ∧ result.delaySlot = .nop := by
  intro window result
  have hseen : result.seen =
      [0x0C009700, 0, 0x3C0A8002, 0x254A5CC0, 0x01400008, 0x27BDF330, 0] := by
    decide
  have hfinal : IsGreatest {i | JumpAt result.seen i} 4 := by
    rw [hseen]
    refine ⟨⟨0x01400008, rfl, by decide⟩, ?_⟩
    rintro i ⟨w, hw, hjump⟩
    by_contra beyond
    have hlen : i < 7 := (List.getElem?_eq_some_iff.mp hw).1
    obtain rfl | rfl : i = 5 ∨ i = 6 := by omega
    all_goals
      cases hw
      revert hjump
      decide
  refine ⟨fun judges => ?_, by decide, by decide⟩
  have hverdict := judges 4 0x27BDF330 hfinal (by rw [hseen]; rfl) (by decide)
  revert hverdict
  decide

end Walk

end CartBoot
