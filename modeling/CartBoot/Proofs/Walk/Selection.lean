import CartBoot.Proofs.Tracker.History
import Mathlib.Data.List.FinRange
import Mathlib.Order.Bounds.Basic

/-!
# The registers that a walk selects

A walk names a register for the jump, for the pointer into the BSS segment and for its size. Each is
told by the last instruction of some kind among those followed. Under the delay-slot rule the choice
of the size also looks at the pointer, which the stub may have set later, and in the last resort at
what the registers hold.
-/

namespace CartBoot

namespace Instruction

/-- The register that a jump goes through. -/
def jumpBase? : Instruction → Option Register
  | jr rs => some rs
  | _ => none

/-- The base of a store. -/
def storeBase? : Instruction → Option Register
  | sw rs _ _ => some rs
  | _ => none

/-- The register that a branch on inequality compares first. -/
def compared? : Instruction → Option Register
  | bne rs _ _ | bnez rs _ => some rs
  | _ => none

/-- The destination of a trapping addition. -/
def addiTarget? : Instruction → Option Register
  | addi _ rt _ => some rt
  | _ => none

/-- The number that a trapping addition adds. -/
def addend? : Instruction → Option Int
  | addi _ _ imm => some imm.toInt
  | _ => none

end Instruction

/-- The instructions of a trace without a foreign word at its end. -/
def Walk.followed (trace : List Step) : List Instruction :=
  let seen := trace.map Step.instruction
  if seen.getLast?.any (·.isError) then seen.dropLast else seen

open Instruction (jumpBase? storeBase? compared? addiTarget? addend?)

/-- Every trapping addition moves the pointer, so that none of them tells the size. -/
def MovesOnly (code : List Instruction) (pointer : Register) : Prop :=
  ∀ r ∈ code.filterMap addiTarget?, r = pointer

/-- The registers that have another part in the stub than to hold the size. -/
def Analysis.taken (result : Analysis) : List Register :=
  [.zero, result.jumpRegister, .sp, result.pointerRegister]

/-- The choices of a result, told from the instructions followed and the registers behind them. -/
structure Analysis.Selects (rule : StopRule) (code : List Instruction) (file : RegisterFile)
    (result : Analysis) : Prop where
  jumpRegister : result.jumpRegister = (code.filterMap jumpBase?).getLast?.getD .zero
  pointerRegister : result.pointerRegister = (code.filterMap storeBase?).getLast?.getD .zero
  sign : result.bssSign = ((code.filterMap addend?).countP (0 ≤ ·) : Int) -
    (code.filterMap addend?).countP (· < 0)
  /-- The last addition that does not move the pointer tells the size. -/
  added : rule = .delaySlot → ∀ r,
    ((code.filterMap addiTarget?).filter (· ≠ result.pointerRegister)).getLast? = some r →
    result.sizeRegister = r
  compared : rule = .delaySlot → MovesOnly code result.pointerRegister → ∀ r,
    (code.filterMap compared?).getLast? = some r → result.sizeRegister = r
  /-- In the last resort, the register of the lowest number that holds anything is taken. -/
  found : rule = .delaySlot → MovesOnly code result.pointerRegister →
    code.filterMap compared? = [] → ∀ r,
    IsLeast {r | r ∉ result.taken ∧ file.value r ≠ 0} r → result.sizeRegister = r
  missed : rule = .delaySlot → MovesOnly code result.pointerRegister →
    code.filterMap compared? = [] → (∀ r, r ∉ result.taken → file.value r = 0) →
    result.sizeRegister = .zero
  guessed : result.sizeGuessed = true ↔ rule = .delaySlot ∧
    MovesOnly code result.pointerRegister ∧ code.filterMap compared? = []
  doubleNop : rule = .doubleNop →
    result.sizeRegister = (code.filterMap compared?).getLast?.getD .zero
  jumpAddress : result.jumpAddress = (file.value result.jumpRegister).toNat
  bssSize : result.bssSize = (file.value result.sizeRegister).toNat
  initialSp : result.initialSp = (file.value .sp).toNat
  bssStart : result.bssStart = if result.bssSign < 0
    then ((file.value result.pointerRegister).toNat - result.bssSize) % 0x100000000
    else (file.value result.pointerRegister).toNat
  provenance : ∀ r, result.provenance r =
    if r ∈ [result.jumpRegister, result.pointerRegister, result.sizeRegister, .sp]
    then file.provenance r else .none

/-! ## What a tracker notes -/

namespace Tracker

variable (rule : StopRule) (code : List Instruction)

theorem track_of_isError (t : Tracker) {i : Instruction} (error : i.isError) :
    t.track rule i = t := by
  cases i <;> first | rfl | cases error

/-- What is known beside the registers does not depend on the stop rule. -/
theorem roles_track (t : Tracker) (i : Instruction) :
    (t.track rule i).roles = (t.apply i).roles := by
  cases hbuilds : i.builds? with
  | none => rw [track_of_builds?_eq_none rule t hbuilds]
  | some r =>
    rw [roles_track_of_builds?_eq rule t hbuilds, apply_of_builds?_eq t hbuilds]
    rfl

/-- A note that every event of a kind replaces is that of the last event. -/
theorem note_run {α : Type} (note : Tracker → Option α) (event : Instruction → Option α)
    (role : ∀ t, note t = note t.roles)
    (step : ∀ t i, note (apply t i) = (event i).or (note t)) :
    note (run rule code) = (code.filterMap event).getLast?.or (note {}) := by
  induction code using List.reverseRecOn with
  | nil => rfl
  | append_singleton code i ih =>
    rw [run_concat, role, roles_track, ← role, step, ih, List.filterMap_append,
      List.getLast?_append, Option.or_assoc]
    cases hevent : event i <;> simp [hevent]

theorem jumpRegister_run :
    (run rule code).jumpRegister = (code.filterMap jumpBase?).getLast?.getD .zero := by
  have hnote := note_run rule code (fun t => some t.jumpRegister) jumpBase?
    (fun _ => rfl) fun t i => by cases i <;> rfl
  rw [Option.or_some] at hnote
  exact Option.some.inj hnote

theorem pointerRegister_run :
    (run rule code).pointerRegister = (code.filterMap storeBase?).getLast?.getD .zero := by
  have hnote := note_run rule code (fun t => some t.pointerRegister) storeBase?
    (fun _ => rfl) fun t i => by cases i <;> rfl
  rw [Option.or_some] at hnote
  exact Option.some.inj hnote

theorem branchRegister_run :
    (run rule code).branchRegister = (code.filterMap compared?).getLast? := by
  have hnote := note_run rule code branchRegister compared?
    (fun _ => rfl) fun t i => by cases i <;> rfl
  rwa [Option.or_none] at hnote

theorem addiTargets_track (t : Tracker) (i : Instruction) :
    (t.track rule i).addiTargets = (addiTarget? i).toList ++ t.addiTargets :=
  (congrArg addiTargets (roles_track rule t i)).trans (by cases i <;> rfl)

theorem addiTargets_run :
    (run rule code).addiTargets = (code.filterMap addiTarget?).reverse := by
  induction code using List.reverseRecOn with
  | nil => rfl
  | append_singleton code i ih =>
    rw [run_concat, addiTargets_track, ih, List.filterMap_append, List.reverse_append]
    cases hevent : addiTarget? i <;> simp [hevent]

/-- An addition votes with the sign of its number. -/
theorem sign_track (t : Tracker) (i : Instruction) :
    (t.track rule i).sign = t.sign + (addend? i).elim 0 fun n => if n < 0 then -1 else 1 := by
  refine (congrArg sign (roles_track rule t i)).trans ?_
  cases i with
  | addi rs rt imm =>
    simp only [roles, apply, addend?, Option.elim_some, BitVec.msb_eq_toInt, decide_eq_true_eq]
  | _ => exact (Int.add_zero _).symm

theorem vote_eq (n : Int) :
    ([n].countP (0 ≤ ·) : Int) - [n].countP (· < 0) = if n < 0 then -1 else 1 := by
  by_cases negative : n < 0
  · have hn : ¬ 0 ≤ n := Int.not_le.mpr negative
    simp [negative, hn]
  · have hn : 0 ≤ n := Int.not_lt.mp negative
    simp [negative, hn]

theorem sign_run :
    (run rule code).sign = ((code.filterMap addend?).countP (0 ≤ ·) : Int) -
      (code.filterMap addend?).countP (· < 0) := by
  induction code using List.reverseRecOn with
  | nil => rfl
  | append_singleton code i ih =>
    rw [run_concat, sign_track, ih, List.filterMap_append, List.countP_append, List.countP_append]
    cases hevent : addend? i with
    | none => simp [hevent]
    | some n =>
      have hvote := vote_eq n
      rw [List.filterMap_cons_some hevent, List.filterMap_nil, Option.elim_some, ← hvote]
      push_cast
      omega

end Tracker

namespace RegisterFile

variable {file : RegisterFile} {excluded : List Register}

/-- The search takes the register of the lowest number, if any register holds anything. -/
theorem firstNonzero_cases (file : RegisterFile) (excluded : List Register) :
    IsLeast {r | r ∉ excluded ∧ file.value r ≠ 0} (file.firstNonzero excluded) ∨
      file.firstNonzero excluded = .zero ∧ ∀ r, r ∉ excluded → file.value r = 0 := by
  unfold firstNonzero
  cases hfind : Register.all.find? fun r => !excluded.contains r && file.value r != 0 with
  | none =>
    right
    refine ⟨rfl, fun r outside => ?_⟩
    have hr := List.find?_eq_none.mp hfind r (List.mem_finRange r)
    simpa [outside] using hr
  | some r =>
    left
    obtain ⟨hr, k, hk, rfl, hbefore⟩ := List.find?_eq_some_iff_getElem.mp hfind
    rw [Bool.and_eq_true, bne_iff_ne] at hr
    refine ⟨⟨by simpa using hr.1, hr.2⟩, fun r ⟨outside, holds⟩ => ?_⟩
    by_contra below
    have hbelow : r.val < k := by simpa [Register.all, Fin.lt_def] using below
    have hskipped := hbefore r.val hbelow
    simp [Register.all, outside] at hskipped
    exact holds hskipped

theorem firstNonzero_of_isLeast {r : Register}
    (least : IsLeast {r | r ∉ excluded ∧ file.value r ≠ 0} r) : file.firstNonzero excluded = r := by
  obtain hleast | ⟨-, hblank⟩ := firstNonzero_cases file excluded
  · exact hleast.unique least
  · exact absurd (hblank r least.1.1) least.1.2

theorem firstNonzero_of_blank (blank : ∀ r, r ∉ excluded → file.value r = 0) :
    file.firstNonzero excluded = .zero := by
  obtain ⟨⟨outside, holds⟩, -⟩ | ⟨hzero, -⟩ := firstNonzero_cases file excluded
  · exact absurd (blank _ outside) holds
  · exact hzero

end RegisterFile

namespace Tracker

variable {rule : StopRule} {code : List Instruction} {t : Tracker}

theorem find?_addiTargets_run (r : Register) :
    (run rule code).addiTargets.find? (· != r) =
      ((code.filterMap addiTarget?).filter (· ≠ r)).getLast? := by
  rw [addiTargets_run, List.getLast?_filter]
  congr 1
  funext s
  by_cases same : s = r <;> simp [same]

theorem find?_addiTargets_run_eq_none_iff (r : Register) :
    (run rule code).addiTargets.find? (· != r) = none ↔ MovesOnly code r := by
  rw [addiTargets_run, List.find?_eq_none, MovesOnly]
  simp only [List.mem_reverse, bne_iff_ne, not_not]

theorem sizeRegister_of_added {r : Register}
    (added : t.addiTargets.find? (· != t.pointerRegister) = some r) :
    t.sizeRegister .delaySlot = (r, false) := by
  simp only [sizeRegister, added]

theorem sizeRegister_of_compared (still : t.addiTargets.find? (· != t.pointerRegister) = none)
    {r : Register} (compared : t.branchRegister = some r) :
    t.sizeRegister .delaySlot = (r, false) := by
  simp only [sizeRegister, still, compared]

theorem sizeRegister_of_silent (still : t.addiTargets.find? (· != t.pointerRegister) = none)
    (silent : t.branchRegister = none) :
    t.sizeRegister .delaySlot =
      (t.registers.firstNonzero [.zero, t.jumpRegister, .sp, t.pointerRegister], true) := by
  simp only [sizeRegister, still, silent]

/-- A size that no instruction tells is looked for in the registers. -/
theorem sizeRegister_run_of_silent (still : MovesOnly code (run .delaySlot code).pointerRegister)
    (silent : code.filterMap compared? = []) :
    (run .delaySlot code).sizeRegister .delaySlot =
      ((run .delaySlot code).registers.firstNonzero [.zero, (run .delaySlot code).jumpRegister, .sp,
        (run .delaySlot code).pointerRegister], true) := by
  apply sizeRegister_of_silent ((find?_addiTargets_run_eq_none_iff _).mpr still)
  rw [branchRegister_run, silent, List.getLast?_nil]

/-- A size register is guessed if no instruction tells it. -/
theorem guessed_iff :
    (t.sizeRegister rule).2 = true ↔ rule = .delaySlot ∧
      t.addiTargets.find? (· != t.pointerRegister) = none ∧ t.branchRegister = none := by
  cases rule with
  | doubleNop => simp [sizeRegister]
  | delaySlot =>
    cases hadded : t.addiTargets.find? (· != t.pointerRegister) with
    | some r => simp [sizeRegister_of_added hadded]
    | none =>
      cases hcompared : t.branchRegister with
      | some r => simp [sizeRegister_of_compared hadded hcompared]
      | none => simp [sizeRegister_of_silent hadded hcompared]

end Tracker

namespace Analysis

/-- The provenances of a result are those of the registers it names. -/
theorem provenance_of_entries {result : Analysis} {named : List Register}
    {provenance : Register → Provenance}
    (entries : result.provenances = named.map fun r => (r, provenance r)) (r : Register) :
    result.provenance r = if r ∈ named then provenance r else .none := by
  rw [Analysis.provenance, entries, ← List.map_reverse, List.find?_map]
  change (((named.reverse.find? fun s => decide (s = r)).map _).map _).getD Provenance.none = _
  cases hfind : named.reverse.find? fun s => decide (s = r) with
  | none =>
    have hout : r ∉ named := fun mem =>
      List.find?_eq_none.mp hfind r (List.mem_reverse.mpr mem) (decide_eq_true rfl)
    rw [if_neg hout]
    rfl
  | some s =>
    have hs := List.find?_some hfind
    obtain rfl : s = r := of_decide_eq_true hs
    rw [if_pos (List.mem_reverse.mp (List.mem_of_find?_eq_some hfind))]
    rfl

variable (rule : StopRule) (code : List Instruction)

/-- A segment that is cleared downwards starts its length below the pointer, modulo 2^32. -/
theorem toNat_pointer_sub (pointer length : Word) :
    ((pointer - length).toNat : Int) = ((pointer.toNat : Int) - length.toNat) % 0x100000000 := by
  have hpointer := pointer.isLt
  have hlength := length.isLt
  rw [BitVec.toNat_sub]
  omega

/-- A result read out of a tracker selects its registers from the code that the tracker followed. -/
theorem selects_ofTracker (delaySlot : DelaySlot) (stopReason : StopReason) (words : Int)
    (trace : List Step) :
    Selects rule code (Tracker.run rule code).registers
      { ofTracker rule (Tracker.run rule code) with delaySlot, stopReason, words, trace } := by
  have hstill := @Tracker.find?_addiTargets_run_eq_none_iff rule code
  have hbranch := Tracker.branchRegister_run rule code
  constructor
  case jumpRegister => exact Tracker.jumpRegister_run rule code
  case pointerRegister => exact Tracker.pointerRegister_run rule code
  case sign => exact Tracker.sign_run rule code
  case added =>
    rintro rfl r added
    rw [← Tracker.find?_addiTargets_run] at added
    exact congrArg Prod.fst (Tracker.sizeRegister_of_added added)
  case compared =>
    rintro rfl still r compared
    have hadded := (hstill _).mpr still
    exact congrArg Prod.fst (Tracker.sizeRegister_of_compared hadded (hbranch.trans compared))
  case found =>
    rintro rfl still silent r least
    have hsize := congrArg Prod.fst (Tracker.sizeRegister_run_of_silent still silent)
    exact hsize.trans (RegisterFile.firstNonzero_of_isLeast least)
  case missed =>
    rintro rfl still silent blank
    have hsize := congrArg Prod.fst (Tracker.sizeRegister_run_of_silent still silent)
    exact hsize.trans (RegisterFile.firstNonzero_of_blank blank)
  case guessed =>
    rw [← hstill, ← List.getLast?_eq_none_iff, ← hbranch]
    exact Tracker.guessed_iff
  case doubleNop =>
    rintro rfl
    exact congrArg (Option.getD · _) hbranch
  case jumpAddress => rfl
  case bssSize => rfl
  case initialSp => rfl
  case bssStart =>
    change ((if (Tracker.run rule code).sign < 0 then _ else _ : Word).toNat : Int) =
      if (Tracker.run rule code).sign < 0 then _ else _
    split
    next => exact toNat_pointer_sub _ _
    next => rfl
  case provenance => exact provenance_of_entries rfl

end Analysis

namespace Walk

theorem map_instruction_trace (rule : StopRule) (address romOffset : Int) (words : List Word) :
    (analyze rule address romOffset words).trace.map Step.instruction =
      (walked rule words).map .decode := by
  have hwords := map_word_steps address romOffset false (walked rule words)
  rw [← hwords, List.map_map]
  rfl

/-- A foreign word at the end of a trace has no part in what is tracked. -/
theorem run_followed (rule : StopRule) (trace : List Step) :
    Tracker.run rule (followed trace) = Tracker.run rule (trace.map Step.instruction) := by
  rw [followed]
  generalize trace.map Step.instruction = seen
  split
  next error =>
    obtain ⟨last, hlast, herror⟩ := (Option.any_eq_true _ _).mp error
    rw [← List.dropLast_append_getLast? last hlast, List.dropLast_concat, Tracker.run_concat,
      Tracker.track_of_isError _ _ herror]
  next => rfl

theorem run_followed_analyze (rule : StopRule) (address romOffset : Int) (words : List Word) :
    Tracker.run rule (followed (analyze rule address romOffset words).trace) =
      tracker rule words := by
  rw [run_followed, map_instruction_trace, tracker]

theorem analyze_selects (rule : StopRule) (address romOffset : Int) (words : List Word) :
    let result := analyze rule address romOffset words
    result.Selects rule (followed result.trace)
      (Tracker.run rule (followed result.trace)).registers := by
  intro result
  have hselects := Analysis.selects_ofTracker rule (followed result.trace) result.delaySlot
    result.stopReason result.words result.trace
  have hresult : { Analysis.ofTracker rule (Tracker.run rule (followed result.trace)) with
      delaySlot := result.delaySlot, stopReason := result.stopReason, words := result.words,
      trace := result.trace } = result := by
    rw [run_followed_analyze]
    rfl
  rwa [hresult] at hselects

/-- A walk selects its registers from the instructions that it follows and from the registers it
leaves behind, over a buffer in a session and over the window of an image. -/
theorem walk_selects :
    (∀ (s : Session) (data : Bytes),
      let result := (s.run data).1
      let file := (s.run data).2.tracker.registers
      file = (s.reset.trackAll (followed result.trace)).tracker.registers ∧
        result.Selects s.rule (followed result.trace) file) ∧
    ∀ (rule : StopRule) (order : ByteOrder) (address : Int) (window : Bytes),
      let result := analyzeWindow rule order address window
      result.Selects rule (followed result.trace)
        (Tracker.run rule (followed result.trace)).registers := by
  refine ⟨fun s data => ?_, fun rule order address window => ?_⟩
  · intro result file
    have hfile : file = (Tracker.run s.rule (followed result.trace)).registers := by
      have htracker := run_followed_analyze s.rule s.address s.romOffset (s.words data)
      exact (congrArg Tracker.registers
        ((Session.tracker_reset_trackAll s _).trans htracker.symm))
    refine ⟨?_, ?_⟩
    · rw [hfile, Session.tracker_reset_trackAll]
    · rw [hfile]
      exact analyze_selects s.rule s.address s.romOffset (s.words data)
  · exact analyze_selects rule address Layout.bootOffset _

end Walk

end CartBoot
