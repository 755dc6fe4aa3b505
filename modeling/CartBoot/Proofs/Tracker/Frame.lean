import CartBoot.Stub.Tracker

/-!
# What each instruction changes

An instruction changes at most one register, the one whose constant it builds, or one part of what
is known beside the registers. After a piece of code that builds a constant from its own register
alone, the register depends on the instructions for it and on nothing between them.
-/

namespace CartBoot

namespace Instruction

/-- The register whose constant an instruction builds. -/
def builds? : Instruction → Option Register
  | lui rt _ | addiu _ rt _ | ori _ rt _ => some rt
  | _ => none

/-- The register that a constant is completed from. -/
def source? : Instruction → Option Register
  | addiu rs _ _ | ori rs _ _ => some rs
  | _ => none

/-- What an instruction writes, given the value of the source. -/
def built (source : Word) : Instruction → Slot
  | lui _ imm => ⟨imm.setWidth 32 <<< 16, .none⟩
  | addiu _ _ imm => ⟨source + imm.signExtend 32, .addiu⟩
  | ori _ _ imm => ⟨source ||| imm.setWidth 32, .ori⟩
  | _ => {}

end Instruction

/-- The instruction completes a constant that has its low half already. -/
def Slot.Ignores (rule : StopRule) (s : Slot) (i : Instruction) : Prop :=
  rule = .delaySlot ∧ i.source?.isSome ∧ s.value.immediate ≠ 0

instance (rule : StopRule) (s : Slot) (i : Instruction) : Decidable (s.Ignores rule i) :=
  inferInstanceAs (Decidable (_ ∧ _ ∧ _))

/-- A register after an instruction that builds its constant from a source value. -/
def Slot.build (rule : StopRule) (source : Word) (s : Slot) (i : Instruction) : Slot :=
  if s.Ignores rule i then s else i.built source

namespace RegisterFile

theorem modify_congr (file : RegisterFile) (r : Register) {change other : Slot → Slot}
    (same : change (file.slot r) = other (file.slot r)) :
    file.modify r change = file.modify r other := by
  simp only [modify, same]

theorem modify_eq_self (file : RegisterFile) (r : Register) {change : Slot → Slot}
    (same : change (file.slot r) = file.slot r) : file.modify r change = file := by
  unfold modify
  rw [same]
  split
  · rfl
  · exact congrArg RegisterFile.mk (Vector.set_getElem_self r.isLt)

end RegisterFile

namespace Tracker

variable (rule : StopRule) (t : Tracker)

/-- The value that an instruction completes a constant from. -/
def sourceValue (i : Instruction) : Word := i.source?.elim 0 t.registers.value

/-- What is known beside the registers. -/
def roles : Tracker := { t with registers := .blank }

/-! ## One instruction -/

theorem track_of_builds?_eq_none {i : Instruction} (still : i.builds? = none) :
    t.track rule i = t.apply i := by
  cases i <;> first | rfl | cases still

theorem registers_apply_of_builds?_eq_none {i : Instruction} (still : i.builds? = none) :
    (t.apply i).registers = t.registers := by
  cases i <;> first | rfl | cases still

theorem patched?_of_builds?_eq {i : Instruction} {r : Register} (builds : i.builds? = some r) :
    t.patched? rule i = if (t.registers.slot r).Ignores rule i then some r else none := by
  cases i <;> cases builds
  case lui imm => exact (if_neg fun h => nomatch h.2.1).symm
  all_goals
    simp only [patched?, Slot.Ignores, Instruction.source?, Option.isSome_some, true_and]
    rfl

theorem apply_of_builds?_eq {i : Instruction} {r : Register} (builds : i.builds? = some r) :
    t.apply i = { t with
      registers := t.registers.modify r fun _ => i.built (t.sourceValue i) } := by
  cases i <;> cases builds <;> rfl

/-- An instruction that builds a constant changes the register of the constant and nothing else. -/
theorem track_of_builds?_eq {i : Instruction} {r : Register} (builds : i.builds? = some r) :
    t.track rule i = { t with
      registers := t.registers.modify r fun s => s.build rule (t.sourceValue i) i } := by
  rw [track, patched?_of_builds?_eq rule t builds]
  by_cases ignored : (t.registers.slot r).Ignores rule i
  · have hself : t.registers.modify r (fun s => s.build rule (t.sourceValue i) i) = t.registers :=
      RegisterFile.modify_eq_self t.registers r (if_pos ignored)
    rw [if_pos ignored, hself]
  · have hbuild : t.registers.modify r (fun _ => i.built (t.sourceValue i)) =
        t.registers.modify r fun s => s.build rule (t.sourceValue i) i :=
      RegisterFile.modify_congr t.registers r (if_neg ignored).symm
    rw [if_neg ignored, ← hbuild]
    exact apply_of_builds?_eq t builds

/-- An instruction changes the register it builds, from its own slot and the source alone. -/
theorem slot_track (i : Instruction) (r : Register) :
    (t.track rule i).registers.slot r =
      if i.builds? = some r ∧ r ≠ .zero then (t.registers.slot r).build rule (t.sourceValue i) i
      else t.registers.slot r := by
  cases hbuilds : i.builds? with
  | none =>
      rw [track_of_builds?_eq_none rule t hbuilds, registers_apply_of_builds?_eq_none t hbuilds]
      exact (if_neg fun h => nomatch h.1).symm
  | some s =>
      rw [track_of_builds?_eq rule t hbuilds, RegisterFile.slot_modify]
      by_cases same : s = r
      · subst same
        simp
      · rw [if_neg fun h => same h.1.symm, if_neg fun h => same (Option.some.inj h.1)]

theorem roles_track_of_builds?_eq {i : Instruction} {r : Register} (builds : i.builds? = some r) :
    (t.track rule i).roles = t.roles := by
  rw [track_of_builds?_eq rule t builds]
  rfl

theorem roles_track_of_builds?_eq_none {i : Instruction} (still : i.builds? = none) :
    (t.track rule i).roles = t.roles.apply i := by
  cases i <;> first | rfl | cases still

/-! ## A run over a piece of code -/

/-- Every instruction for the register completes it from its own value. -/
def Own (r : Register) (code : List Instruction) : Prop :=
  ∀ i ∈ code, i.builds? = some r → ∀ s ∈ i.source?, s = r

variable {rule : StopRule} {r : Register}

theorem sourceValue_of_own {i : Instruction} (own : ∀ s ∈ i.source?, s = r) :
    i.built (t.sourceValue i) = i.built (t.registers.value r) := by
  cases i with
  | addiu rs rt imm => rw [sourceValue, own rs rfl]; rfl
  | ori rs rt imm => rw [sourceValue, own rs rfl]; rfl
  | _ => rfl

theorem slot_foldl_track (writable : r ≠ .zero) {code : List Instruction} (own : Own r code) :
    (code.foldl (track rule) t).registers.slot r =
      (code.filter fun i => i.builds? = some r).foldl (fun s i => s.build rule s.value i)
        (t.registers.slot r) := by
  -- Each step reads no register but its own, so that the others can change freely in between.
  induction code generalizing t with
  | nil => rfl
  | cons i rest ih =>
      have hrest : Own r rest := fun i hi => own i (List.mem_cons_of_mem _ hi)
      rw [List.foldl_cons, ih _ hrest, slot_track]
      by_cases hbuilds : i.builds? = some r
      · have hsource := sourceValue_of_own t (own i List.mem_cons_self hbuilds)
        rw [if_pos ⟨hbuilds, writable⟩, List.filter_cons, if_pos (decide_eq_true hbuilds),
          List.foldl_cons, Slot.build, hsource]
        rfl
      · rw [if_neg fun h => hbuilds h.1, List.filter_cons, if_neg (by simpa using hbuilds)]

theorem roles_foldl_track (code : List Instruction) :
    (code.foldl (track rule) t).roles =
      (code.filter fun i => i.builds?.isNone).foldl apply t.roles := by
  induction code generalizing t with
  | nil => rfl
  | cons i rest ih =>
      rw [List.foldl_cons, ih]
      cases hbuilds : i.builds? with
      | none =>
          rw [List.filter_cons_of_pos (by simp [hbuilds]), List.foldl_cons,
            roles_track_of_builds?_eq_none rule t hbuilds]
      | some r =>
          rw [List.filter_cons_of_neg (by simp [hbuilds]), roles_track_of_builds?_eq rule t hbuilds]

end Tracker

end CartBoot
