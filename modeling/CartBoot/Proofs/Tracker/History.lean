import CartBoot.Proofs.Stub.Constant
import CartBoot.Stub.Session
import Mathlib.Data.List.Basic
import Mathlib.Data.List.Induction
import Mathlib.Order.Bounds.Basic

/-!
# The history of a register

A register has a provenance as soon as its low half holds anything, and the provenance names the
last instruction that took effect on it. Under the delay-slot rule a low half that holds anything is
kept until the register gets a new upper half.
-/

namespace CartBoot

/-- What holds of the register file after any piece of code. -/
structure RegisterFile.Sound (file : RegisterFile) : Prop where
  zero : file.slot .zero = {}
  /-- Only an instruction that completes a constant fills a low half. -/
  low : ∀ r, file.provenance r = .none → (file.value r).immediate = 0

namespace Tracker

/-- The instruction at an index builds the register and is not ignored. -/
def BuildsAt (rule : StopRule) (code : List Instruction) (r : Register) (n : Nat) : Prop :=
  ∃ i, code[n]? = some i ∧ i.builds? = some r ∧
    ¬ ((run rule (code.take n)).registers.slot r).Ignores rule i

variable {rule : StopRule} {t : Tracker} {r : Register} {i : Instruction}

theorem run_concat (rule : StopRule) (code : List Instruction) (i : Instruction) :
    run rule (code ++ [i]) = (run rule code).track rule i :=
  List.foldl_concat ..

/-! ## Low halves -/

/-- An instruction without provenance leaves the low half of its register empty. -/
theorem immediate_built (source : Word) (builds : i.builds? = some r)
    (unmarked : (i.built source).provenance = .none) : (i.built source).value.immediate = 0 := by
  cases i with
  | lui rt imm => exact Completion.immediate_shifted imm
  | addiu rs rt imm | ori rs rt imm => cases unmarked
  | _ => cases builds

theorem sound_blank : RegisterFile.blank.Sound :=
  ⟨RegisterFile.slot_blank _, fun r _ => by simp [RegisterFile.value]; rfl⟩

theorem sound_track (sound : t.registers.Sound) (i : Instruction) :
    (t.track rule i).registers.Sound := by
  constructor
  case zero =>
    rw [slot_track, if_neg fun h => h.2 rfl, sound.zero]
  case low =>
    intro r unmarked
    have hlow := sound.low r
    rw [RegisterFile.provenance, slot_track] at unmarked
    rw [RegisterFile.value, slot_track]
    split at unmarked
    next builds =>
      rw [if_pos builds, Slot.build]
      rw [Slot.build] at unmarked
      split at unmarked
      next ignored => rw [if_pos ignored]; exact hlow unmarked
      next taken => rw [if_neg taken]; exact immediate_built _ builds.1 unmarked
    next still => rw [if_neg still]; exact hlow unmarked

theorem sound_run (rule : StopRule) (code : List Instruction) :
    (run rule code).registers.Sound := by
  induction code using List.reverseRecOn with
  | nil => exact sound_blank
  | append_singleton code i ih =>
    rw [run_concat]
    exact sound_track ih i

/-- A low half that holds anything is kept under the delay-slot rule. -/
theorem slot_track_of_complete (complete : (t.registers.value r).immediate ≠ 0)
    (kept : ∀ imm, i ≠ .lui r imm) :
    (t.track .delaySlot i).registers.slot r = t.registers.slot r := by
  rw [slot_track]
  split
  next builds =>
    have hsource : i.source?.isSome := by
      cases i with
      | lui rt imm =>
        have hrt : rt = r := Option.some.inj builds.1
        exact absurd (congrArg (Instruction.lui · imm) hrt) (kept imm)
      | addiu rs rt imm | ori rs rt imm => rfl
      | _ => cases builds.1
    exact if_pos ⟨rfl, hsource, complete⟩
  next => rfl

/-- From the moment a low half holds anything, its register is kept until the next upper half. -/
theorem slot_foldl_track_of_complete {code : List Instruction}
    (complete : (t.registers.value r).immediate ≠ 0) (kept : ∀ imm, .lui r imm ∉ code) :
    (code.foldl (track .delaySlot) t).registers.slot r = t.registers.slot r := by
  induction code generalizing t with
  | nil => rfl
  | cons i rest ih =>
    have hstep : (t.track .delaySlot i).registers.slot r = t.registers.slot r :=
      slot_track_of_complete complete fun imm h => kept imm (h ▸ List.mem_cons_self)
    have hcomplete : ((t.track .delaySlot i).registers.value r).immediate ≠ 0 := by
      rw [RegisterFile.value, hstep]
      exact complete
    rw [List.foldl_cons, ih hcomplete fun imm h => kept imm (List.mem_cons_of_mem _ h), hstep]

/-! ## The last instruction for a register -/

variable {code : List Instruction}

theorem lt_length_of_buildsAt {n : Nat} (builds : BuildsAt rule code r n) : n < code.length := by
  obtain ⟨i, hi, -⟩ := builds
  exact (List.getElem?_eq_some_iff.mp hi).1

theorem buildsAt_concat_of_lt {n : Nat} (below : n < code.length) :
    BuildsAt rule (code ++ [i]) r n ↔ BuildsAt rule code r n := by
  rw [BuildsAt, List.getElem?_append_left below,
    List.take_append_of_le_length (Nat.le_of_lt below), BuildsAt]

theorem buildsAt_concat_length :
    BuildsAt rule (code ++ [i]) r code.length ↔
      i.builds? = some r ∧ ¬ ((run rule code).registers.slot r).Ignores rule i := by
  simp [BuildsAt]

theorem le_length_of_buildsAt_concat {n : Nat} (builds : BuildsAt rule (code ++ [i]) r n) :
    n ≤ code.length := by
  have hlt := lt_length_of_buildsAt builds
  rw [List.length_append] at hlt
  exact Nat.le_of_lt_succ hlt

/-- An instruction that takes effect becomes the last one for its register. -/
theorem isGreatest_buildsAt_concat (takes : BuildsAt rule (code ++ [i]) r code.length) :
    IsGreatest {n | BuildsAt rule (code ++ [i]) r n} code.length :=
  ⟨takes, fun _ => le_length_of_buildsAt_concat⟩

theorem buildsAt_concat_of_passed (passed : ¬ BuildsAt rule (code ++ [i]) r code.length) {n : Nat} :
    BuildsAt rule (code ++ [i]) r n ↔ BuildsAt rule code r n := by
  constructor
  · intro builds
    have hne : n ≠ code.length := fun h => passed (h ▸ builds)
    have hlt := Nat.lt_of_le_of_ne (le_length_of_buildsAt_concat builds) hne
    exact (buildsAt_concat_of_lt hlt).mp builds
  · intro builds
    exact (buildsAt_concat_of_lt (lt_length_of_buildsAt builds)).mpr builds

theorem provenance_built (source : Word) :
    (i.built source).provenance = (i.built 0).provenance := by
  cases i <;> rfl

theorem provenance_run_of_takes (writable : r ≠ .zero)
    (takes : BuildsAt rule (code ++ [i]) r code.length) :
    (run rule (code ++ [i])).registers.provenance r = (i.built 0).provenance := by
  obtain ⟨hbuilds, htaken⟩ := buildsAt_concat_length.mp takes
  rw [run_concat, RegisterFile.provenance, slot_track, if_pos ⟨hbuilds, writable⟩, Slot.build,
    if_neg htaken, provenance_built]

theorem slot_run_of_passed (passed : ¬ BuildsAt rule (code ++ [i]) r code.length) :
    (run rule (code ++ [i])).registers.slot r = (run rule code).registers.slot r := by
  rw [run_concat, slot_track]
  split
  next builds =>
    exact if_pos (not_not.mp fun taken => passed (buildsAt_concat_length.mpr ⟨builds.1, taken⟩))
  next => rfl

/-- A register keeps what it holds while no instruction takes effect on it. -/
theorem slot_run_eq_take {k : Nat} (passed : ∀ n, k ≤ n → ¬ BuildsAt rule code r n) :
    (run rule code).registers.slot r = (run rule (code.take k)).registers.slot r := by
  induction code using List.reverseRecOn with
  | nil => rw [List.take_nil]
  | append_singleton code i ih =>
    by_cases inside : k ≤ code.length
    · have hlast := passed code.length inside
      have hcode : ∀ n, k ≤ n → ¬ BuildsAt rule code r n :=
        fun n hn builds => passed n hn ((buildsAt_concat_of_passed hlast).mpr builds)
      rw [slot_run_of_passed hlast, ih hcode, List.take_append_of_le_length inside]
    · rw [List.take_of_length_le (by rw [List.length_append]; exact Nat.not_le.mp inside)]

/-- A register holds what the last instruction that took effect on it wrote. -/
theorem slot_run_of_isGreatest (writable : r ≠ .zero) {n : Nat}
    (last : IsGreatest {n | BuildsAt rule code r n} n) (here : code[n]? = some i) :
    (run rule code).registers.slot r =
      i.built ((run rule (code.take n)).sourceValue i) := by
  have hbehind : ∀ m, n + 1 ≤ m → ¬ BuildsAt rule code r m :=
    fun m hm builds => Nat.not_lt.mpr (last.2 builds) hm
  obtain ⟨j, hj, hbuilds, htaken⟩ := last.1
  obtain rfl := Option.some.inj (hj.symm.trans here)
  rw [slot_run_eq_take hbehind, List.take_add_one, here, Option.toList_some, run_concat, slot_track,
    if_pos ⟨hbuilds, writable⟩, Slot.build, if_neg htaken]

/-- A register has the provenance of the last instruction that took effect on it. -/
theorem provenance_run_eq_iff (writable : r ≠ .zero) {p : Provenance} (made : p ≠ .none)
    (code : List Instruction) :
    (run rule code).registers.provenance r = p ↔
      ∃ n i, IsGreatest {n | BuildsAt rule code r n} n ∧ code[n]? = some i ∧
        (i.built 0).provenance = p := by
  induction code using List.reverseRecOn with
  | nil =>
    have hblank : (run rule []).registers.provenance r = .none := by
      simp [run, RegisterFile.provenance]
    simp [hblank, made.symm]
  | append_singleton code i ih =>
    by_cases takes : BuildsAt rule (code ++ [i]) r code.length
    · have hgreatest := isGreatest_buildsAt_concat takes
      rw [provenance_run_of_takes writable takes]
      constructor
      · intro hp
        exact ⟨code.length, i, hgreatest, List.getElem?_concat_length, hp⟩
      · rintro ⟨n, j, hn, hj, hp⟩
        obtain rfl := hn.unique hgreatest
        rw [List.getElem?_concat_length] at hj
        exact Option.some.inj hj ▸ hp
    · have hsame : {n | BuildsAt rule (code ++ [i]) r n} = {n | BuildsAt rule code r n} :=
        Set.ext fun _ => buildsAt_concat_of_passed takes
      rw [RegisterFile.provenance, slot_run_of_passed takes, ← RegisterFile.provenance, ih, hsame]
      refine exists_congr fun n => exists_congr fun j => and_congr_right fun hn => ?_
      rw [List.getElem?_append_left (lt_length_of_buildsAt hn.1)]

theorem provenance_built_eq_addiu_iff : (i.built 0).provenance = .addiu ↔ i.kind = .addiu := by
  cases i <;> simp [Instruction.built, Instruction.kind]

theorem provenance_built_eq_ori_iff : (i.built 0).provenance = .ori ↔ i.kind = .ori := by
  cases i <;> simp [Instruction.built, Instruction.kind]

end Tracker

namespace Session

open Tracker (BuildsAt)

theorem tracker_trackAll (s : Session) (code : List Instruction) :
    (s.trackAll code).tracker = code.foldl (Tracker.track s.rule) s.tracker := by
  induction code generalizing s with
  | nil => rfl
  | cons i rest ih => exact ih (s.track i)

theorem tracker_reset_trackAll (s : Session) (code : List Instruction) :
    (s.reset.trackAll code).tracker = .run s.rule code :=
  tracker_trackAll s.reset code

/-- What holds of the registers of a session that has tracked some code from a blank state, at any
point of the code. -/
structure History (s : Session) (code : List Instruction) (file : RegisterFile) : Prop where
  range : ∀ r, (file.value r).toNat < 0x100000000
  zero : file.value .zero = 0 ∧ file.provenance .zero = .none
  low : ∀ r, file.provenance r = .none → (file.value r).immediate = 0
  addiu : ∀ r, r ≠ .zero → (file.provenance r = .addiu ↔ ∃ n i,
    IsGreatest {n | BuildsAt s.rule code r n} n ∧ code[n]? = some i ∧ i.kind = .addiu)
  ori : ∀ r, r ≠ .zero → (file.provenance r = .ori ↔ ∃ n i,
    IsGreatest {n | BuildsAt s.rule code r n} n ∧ code[n]? = some i ∧ i.kind = .ori)
  kept : s.rule = .delaySlot → ∀ r, (file.value r).immediate ≠ 0 →
    ∀ more, (∀ imm, .lui r imm ∉ more) →
      (s.reset.trackAll (code ++ more)).tracker.registers.value r = file.value r ∧
      (s.reset.trackAll (code ++ more)).tracker.registers.provenance r = file.provenance r

/-- A session that is new or reset has the history of what it then tracks. -/
theorem trackAll_history (s : Session) (code : List Instruction) :
    History s code (s.reset.trackAll code).tracker.registers := by
  rw [tracker_reset_trackAll]
  obtain ⟨hzero, hlow⟩ := Tracker.sound_run s.rule code
  constructor
  case range => exact fun r => ((Tracker.run s.rule code).registers.value r).isLt
  case zero => exact ⟨congrArg Slot.value hzero, congrArg Slot.provenance hzero⟩
  case low => exact hlow
  case addiu =>
    intro r writable
    rw [Tracker.provenance_run_eq_iff writable (by decide)]
    simp only [Tracker.provenance_built_eq_addiu_iff]
  case ori =>
    intro r writable
    rw [Tracker.provenance_run_eq_iff writable (by decide)]
    simp only [Tracker.provenance_built_eq_ori_iff]
  case kept =>
    intro hrule r complete more kept
    have hslot : (Tracker.run s.rule (code ++ more)).registers.slot r =
        (Tracker.run s.rule code).registers.slot r := by
      rw [hrule] at complete ⊢
      rw [Tracker.run, List.foldl_append]
      exact Tracker.slot_foldl_track_of_complete complete kept
    rw [tracker_reset_trackAll]
    exact ⟨congrArg Slot.value hslot, congrArg Slot.provenance hslot⟩

/-- The law for a constant with both halves, which later instructions try to patch again. -/
theorem trackAll_history_patchedTwice :
    let s : Session := { address := 0 }
    let code : List Instruction := [.lui 8 0x8004, .addiu 8 8 0xE940]
    let more : List Instruction := [.ori 8 8 1, .lui 9 0x8002, .addiu 8 9 4]
    let file := (s.reset.trackAll code).tracker.registers
    s.rule = .delaySlot ∧ (file.value 8).immediate ≠ 0 ∧ (∀ imm, .lui 8 imm ∉ more) ∧
      (s.reset.trackAll (code ++ more)).tracker.registers.value 8 = file.value 8 ∧
      (s.reset.trackAll (code ++ more)).tracker.registers.provenance 8 = file.provenance 8 := by
  intro s code more file
  have hcomplete : (file.value 8).immediate ≠ 0 := by decide
  have hkept : ∀ imm, .lui 8 imm ∉ more := by simp [more]
  exact ⟨rfl, hcomplete, hkept, (trackAll_history s code).kept rfl 8 hcomplete more hkept⟩

end Session

end CartBoot
