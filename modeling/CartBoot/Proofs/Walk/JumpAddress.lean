import CartBoot.Proofs.Tracker.History
import CartBoot.Proofs.Walk.Rules

/-!
# The address of the last jump

A walk reads the register of the last jump when it stops, and so after the delay slot. The address
is the one that the jump goes to as long as nothing behind the jump takes effect on the register.
Under the delay-slot rule only the slot itself comes behind, and it leaves a complete constant alone
unless it loads a new upper half.
-/

namespace CartBoot

open Tracker (BuildsAt)
open Instruction (jumpBase?)

/-- At an index stands the last jump through a register, which is the given one. -/
structure JumpsLastAt (code : List Instruction) (k : Nat) (r : Register) : Prop where
  here : code[k]? = some (.jr r)
  last : ∀ n, k < n → ∀ s, code[n]? ≠ some (.jr s)

/-- The value of a register before an index, as a number. -/
def valueBefore (rule : StopRule) (code : List Instruction) (k : Nat) (r : Register) : Int :=
  ((Tracker.run rule (code.take k)).registers.value r).toNat

/-- The address of a result is the one that its last jump through a register goes to. -/
def Analysis.JumpsAsRead (rule : StopRule) (result : Analysis) : Prop :=
  ∀ k r, JumpsLastAt (result.trace.map Step.instruction) k r →
    result.jumpAddress = valueBefore rule (result.trace.map Step.instruction) k r

/-- What the address of a result says of the last jump through a register among the instructions of
its trace. -/
structure Analysis.ReadsJump (rule : StopRule) (code : List Instruction) (k : Nat) (r : Register)
    (result : Analysis) : Prop where
  register : result.jumpRegister = r
  /-- The register is read when the walk stops. -/
  stop : result.jumpAddress = valueBefore rule code code.length r
  /-- Unless an instruction behind the jump takes effect on the register, that is what the jump
  reads. -/
  kept : (r ≠ .zero → ∀ n, k < n → ¬ BuildsAt rule code r n) →
    result.jumpAddress = valueBefore rule code k r
  /-- Otherwise it is what the last such instruction writes. -/
  replaced : r ≠ .zero → ∀ n i, IsGreatest {n | BuildsAt rule code r n} n → k < n →
    code[n]? = some i →
    result.jumpAddress = (i.built ((Tracker.run rule (code.take n)).sourceValue i)).value.toNat
  /-- Under the delay-slot rule at most one instruction comes behind the jump. -/
  slot : rule = .delaySlot → code.length ≤ k + 2
  /-- A complete constant is lost to a new upper half in the delay slot only. -/
  complete : rule = .delaySlot →
    ((Tracker.run rule (code.take k)).registers.value r).immediate ≠ 0 →
    (∀ imm, code[k + 1]? ≠ some (.lui r imm)) → result.jumpAddress = valueBefore rule code k r

variable {rule : StopRule} {code : List Instruction} {k : Nat} {r : Register}

/-! ## Before and behind the jump -/

theorem getLast?_jumpBase (jumps : JumpsLastAt code k r) :
    (code.filterMap jumpBase?).getLast? = some r := by
  have hsplit : code = code.take k ++ .jr r :: code.drop (k + 1) := by
    have hdrop := List.drop_eq_getElem?_toList_append (l := code) (i := k)
    rw [jumps.here, Option.toList_some, List.singleton_append] at hdrop
    rw [← hdrop, List.take_append_drop]
  have hbehind : (code.drop (k + 1)).filterMap jumpBase? = [] := by
    apply List.filterMap_eq_nil_iff.mpr
    intro i hi
    obtain ⟨n, hn⟩ := List.mem_iff_getElem?.mp hi
    rw [List.getElem?_drop] at hn
    cases i with
    | jr s => exact absurd hn (jumps.last _ (by omega) s)
    | _ => rfl
  have hjump : jumpBase? (.jr r) = some r := rfl
  rw [hsplit, List.filterMap_append, List.filterMap_cons_some hjump, hbehind, List.getLast?_concat]

theorem jumpsLastAt_append (front : List Instruction) {behind : List Instruction}
    (plain : ∀ i ∈ behind, jumpBase? i = none) :
    JumpsLastAt (front ++ .jr r :: behind) front.length r := by
  refine ⟨by simp, fun n hn s here => ?_⟩
  obtain ⟨m, rfl⟩ : ∃ m, n = front.length + (m + 1) := ⟨n - front.length - 1, by omega⟩
  rw [List.getElem?_append_right (Nat.le_add_right _ _), Nat.add_sub_cancel_left,
    List.getElem?_cons_succ] at here
  cases plain _ (List.mem_of_getElem? here)

/-- The jump itself builds no constant. -/
theorem not_buildsAt_of_jump (here : code[k]? = some (.jr r)) (s : Register) :
    ¬ BuildsAt rule code s k := by
  rintro ⟨i, hi, hbuilds, -⟩
  obtain rfl := Option.some.inj (here.symm.trans hi)
  cases hbuilds

theorem slot_run_succ_of_jump (here : code[k]? = some (.jr r)) (s : Register) :
    (Tracker.run rule (code.take (k + 1))).registers.slot s =
      (Tracker.run rule (code.take k)).registers.slot s := by
  rw [List.take_add_one, here, Option.toList_some, Tracker.run_concat, Tracker.slot_track,
    if_neg fun h => nomatch h.1]

theorem value_run_zero (rule : StopRule) (code : List Instruction) :
    (Tracker.run rule code).registers.value .zero = 0 :=
  congrArg Slot.value (Tracker.sound_run rule code).zero

theorem valueBefore_length (rule : StopRule) (code : List Instruction) (r : Register) :
    valueBefore rule code code.length r = ((Tracker.run rule code).registers.value r).toNat := by
  rw [valueBefore, List.take_length]

/-- What takes no effect on the register of the jump leaves it as the jump reads it. -/
theorem valueBefore_length_of_kept (here : code[k]? = some (.jr r))
    (kept : r ≠ .zero → ∀ n, k < n → ¬ BuildsAt rule code r n) :
    valueBefore rule code code.length r = valueBefore rule code k r := by
  rw [valueBefore_length, valueBefore]
  by_cases zero : r = .zero
  · rw [zero, value_run_zero, value_run_zero]
  · have hpassed : ∀ n, k ≤ n → ¬ BuildsAt rule code r n := by
      intro n hn
      rcases Nat.lt_or_eq_of_le hn with hlt | rfl
      · exact kept zero n hlt
      · exact not_buildsAt_of_jump here r
    rw [RegisterFile.value, Tracker.slot_run_eq_take hpassed, RegisterFile.value]

/-- In a delay slot only a new upper half takes effect on a complete constant. -/
theorem not_buildsAt_of_complete (here : code[k]? = some (.jr r)) (short : code.length ≤ k + 2)
    (complete : ((Tracker.run .delaySlot (code.take k)).registers.value r).immediate ≠ 0)
    (upper : ∀ imm, code[k + 1]? ≠ some (.lui r imm)) {n : Nat} (behind : k < n) :
    ¬ BuildsAt .delaySlot code r n := by
  intro builds
  have hn : n = k + 1 := by
    have := Tracker.lt_length_of_buildsAt builds
    omega
  obtain ⟨i, hi, hbuilds, htaken⟩ := builds
  rw [hn] at hi htaken
  rw [slot_run_succ_of_jump here] at htaken
  cases i with
  | lui rt imm =>
    obtain rfl := Option.some.inj hbuilds
    exact upper imm hi
  | addiu rs rt imm | ori rs rt imm => exact htaken ⟨rfl, rfl, complete⟩
  | _ => cases hbuilds

namespace Walk

/-- Under the delay-slot rule, the jump is the last instruction of a trace or the one before. -/
theorem length_walked_le_of_jump {words : List Word}
    (here : ((walked .delaySlot words).map Instruction.decode)[k]? = some (.jr r)) :
    ((walked .delaySlot words).map Instruction.decode).length ≤ k + 2 := by
  rw [List.getElem?_map, Option.map_eq_some_iff] at here
  obtain ⟨w, hw, hdecode⟩ := here
  rw [List.length_map]
  exact length_walked_le_of_isJump hw (by rw [hdecode]; rfl)

/-- How a walk reads the register of the last jump. -/
theorem analyze_readsJump (rule : StopRule) (address romOffset : Int) (words : List Word)
    (jumps : JumpsLastAt ((analyze rule address romOffset words).trace.map Step.instruction) k r) :
    (analyze rule address romOffset words).ReadsJump rule
      ((analyze rule address romOffset words).trace.map Step.instruction) k r := by
  have htrace := map_instruction_trace rule address romOffset words
  rw [htrace] at jumps ⊢
  have hregister : (tracker rule words).jumpRegister = r := by
    rw [tracker, Tracker.jumpRegister_run, getLast?_jumpBase jumps, Option.getD_some]
  have hstop : (analyze rule address romOffset words).jumpAddress =
      valueBefore rule ((walked rule words).map .decode)
        ((walked rule words).map Instruction.decode).length r := by
    rw [valueBefore_length, ← hregister]
    rfl
  have hslot : rule = .delaySlot →
      ((walked rule words).map Instruction.decode).length ≤ k + 2 := by
    rintro rfl
    exact length_walked_le_of_jump jumps.here
  constructor
  case register => exact hregister
  case stop => exact hstop
  case kept => exact fun kept => hstop.trans (valueBefore_length_of_kept jumps.here kept)
  case replaced =>
    intro writable n i last _ here
    rw [hstop, valueBefore_length, RegisterFile.value,
      Tracker.slot_run_of_isGreatest writable last here]
  case slot => exact hslot
  case complete =>
    rintro rfl complete upper
    refine hstop.trans (valueBefore_length_of_kept jumps.here fun _ n behind => ?_)
    exact not_buildsAt_of_complete jumps.here (hslot rfl) complete upper behind

/-- The address of a result is what the register of its last jump holds when the walk stops. It is
the address that the jump reads, unless an instruction behind the jump takes effect on the register;
then it is what the last of these writes. -/
theorem walk_readsJump :
    (∀ (s : Session) (data : Bytes) (k : Nat) (r : Register),
      let result := (s.run data).1
      JumpsLastAt (result.trace.map Step.instruction) k r →
        result.ReadsJump s.rule (result.trace.map Step.instruction) k r) ∧
    ∀ (rule : StopRule) (order : ByteOrder) (address : Int) (window : Bytes) (k : Nat)
      (r : Register),
      let result := analyzeWindow rule order address window
      JumpsLastAt (result.trace.map Step.instruction) k r →
        result.ReadsJump rule (result.trace.map Step.instruction) k r := by
  constructor
  · intro s data k r result jumps
    exact analyze_readsJump s.rule s.address s.romOffset (s.words data) jumps
  · intro rule order address window k r result jumps
    exact analyze_readsJump rule address Layout.bootOffset _ jumps

/-- The law for a complete constant that the delay slot tries to patch again: the address is the one
that the jump reads. -/
theorem walk_readsJump_patchedInSlot :
    let window : Bytes := ByteOrder.ofWords [0x3C0A8002, 0x254A5CC0, 0x01400008, 0x254A0004]
    let result := analyzeWindow .delaySlot .big 0x80000400 window
    let code : List Instruction := [.lui 10 0x8002, .addiu 10 10 0x5CC0, .jr 10, .addiu 10 10 4]
    result.trace.map Step.instruction = code ∧ JumpsLastAt code 2 10 ∧
      result.jumpAddress = valueBefore .delaySlot code 2 10 ∧ result.jumpAddress = 0x80025CC0 := by
  intro window result code
  have htrace : result.trace.map Step.instruction = code := by decide
  have hjumps : JumpsLastAt code 2 10 :=
    jumpsLastAt_append [.lui 10 0x8002, .addiu 10 10 0x5CC0] (by decide)
  have hreads := walk_readsJump.2 .delaySlot .big 0x80000400 window 2 10 (htrace ▸ hjumps)
  have hcomplete : ((Tracker.run .delaySlot (code.take 2)).registers.value 10).immediate ≠ 0 := by
    decide
  have hupper : ∀ imm, code[2 + 1]? ≠ some (.lui 10 imm) := by simp [code]
  rw [htrace] at hreads
  exact ⟨htrace, hjumps, hreads.complete rfl hcomplete hupper, by decide⟩

/-- A new upper half in the delay slot is reported in place of the address that the jump reads,
under either rule. -/
theorem not_jumpsAsRead_upperInSlot :
    let window : Bytes := ByteOrder.ofWords [0x3C0A8002, 0x01400008, 0x3C0A8003]
    ¬ (analyzeWindow .delaySlot .big 0x80000400 window).JumpsAsRead .delaySlot ∧
      ¬ (analyzeWindow .doubleNop .big 0x80000400 window).JumpsAsRead .doubleNop := by
  intro window
  have hjumps : JumpsLastAt [.lui 10 0x8002, .jr 10, .lui 10 0x8003] 1 10 :=
    jumpsLastAt_append [.lui 10 0x8002] (by decide)
  have differs : ∀ rule, ¬ (analyzeWindow rule .big 0x80000400 window).JumpsAsRead rule := by
    intro rule reads
    have htrace : (analyzeWindow rule .big 0x80000400 window).trace.map Step.instruction =
        [.lui 10 0x8002, .jr 10, .lui 10 0x8003] := by
      cases rule <;> decide
    have haddress := reads 1 10 (htrace ▸ hjumps)
    rw [htrace] at haddress
    revert haddress
    cases rule <;> decide
  exact ⟨differs .delaySlot, differs .doubleNop⟩

end Walk

end CartBoot
