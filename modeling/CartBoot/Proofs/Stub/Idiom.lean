import CartBoot.Proofs.ByteOrder.Layout
import CartBoot.Proofs.Stub.Constant
import CartBoot.Proofs.Walk.Straight

/-!
# The idiom of boot stubs

A boot stub loads the start and the size of the BSS segment, clears the segment in a loop that
counts the size down and the pointer up, loads the main address and the stack pointer, and jumps.
The loads of two registers may be interleaved and the patch of the stack pointer may stand in the
delay slot. The analysis gives back every constant and register of such a stub.
-/

namespace CartBoot

/-- A list that keeps the elements of two lists, each in its order. -/
inductive Interleaving {α : Type} : List α → List α → List α → Prop
  | nil : Interleaving [] [] []
  | left {a : α} {xs ys zs : List α} : Interleaving xs ys zs → Interleaving (a :: xs) ys (a :: zs)
  | right {a : α} {xs ys zs : List α} : Interleaving xs ys zs → Interleaving xs (a :: ys) (a :: zs)

namespace Interleaving

variable {α : Type} {xs ys zs : List α}

theorem mem_or_mem (merged : Interleaving xs ys zs) {a : α} (mem : a ∈ zs) : a ∈ xs ∨ a ∈ ys := by
  induction merged with
  | nil => exact .inl mem
  | left _ ih =>
      obtain rfl | hmem := List.mem_cons.mp mem
      · exact .inl List.mem_cons_self
      · exact (ih hmem).imp_left (List.mem_cons_of_mem _)
  | right _ ih =>
      obtain rfl | hmem := List.mem_cons.mp mem
      · exact .inr List.mem_cons_self
      · exact (ih hmem).imp_right (List.mem_cons_of_mem _)

/-- An element test that holds on the left alone selects the left list. -/
theorem filter_eq_left (merged : Interleaving xs ys zs) {p : α → Bool} (hleft : ∀ x ∈ xs, p x)
    (hright : ∀ y ∈ ys, p y = false) : zs.filter p = xs := by
  induction merged with
  | nil => rfl
  | left _ ih =>
      rw [List.filter_cons_of_pos (hleft _ List.mem_cons_self),
        ih (fun x hx => hleft x (List.mem_cons_of_mem _ hx)) hright]
  | right _ ih =>
      rw [List.filter_cons, hright _ List.mem_cons_self,
        ih hleft fun y hy => hright y (List.mem_cons_of_mem _ hy)]
      rfl

theorem symm (merged : Interleaving xs ys zs) : Interleaving ys xs zs := by
  induction merged with
  | nil => exact nil
  | left _ ih => exact right ih
  | right _ ih => exact left ih

theorem concat_right (merged : Interleaving xs ys zs) (a : α) :
    Interleaving xs (ys ++ [a]) (zs ++ [a]) := by
  induction merged with
  | nil => exact right nil
  | left _ ih => exact left ih
  | right _ ih => exact right ih

end Interleaving

/-! ## Instructions of a load -/

/-- An instruction that builds the constant of a register from its own value or from nothing. -/
structure Completes (r : Register) (i : Instruction) : Prop where
  builds : i.builds? = some r
  own : ∀ s ∈ i.source?, s = r
  straight : Walk.Straight i

namespace Completion

theorem completes_top (c : Completion) (r : Register) (a : Word) : Completes r (c.top r a) where
  builds := rfl
  own := nofun
  straight := ⟨trivial, nofun, rfl⟩

theorem completes_patch (c : Completion) (r : Register) (a : Word) :
    Completes r (c.patch r a) := by
  cases c <;> exact ⟨rfl, fun _ h => (Option.some.inj h).symm, trivial, nofun, rfl⟩

theorem completes_of_mem_top {c : Completion} {r : Register} {a : Word} {i : Instruction}
    (mem : i ∈ [c.top r a]) : Completes r i := by
  rw [List.mem_singleton.mp mem]
  exact c.completes_top r a

theorem completes_of_mem_load {c : Completion} {r : Register} {a : Word} {i : Instruction}
    (mem : i ∈ c.load r a) : Completes r i := by
  rw [load, List.mem_cons, List.mem_singleton] at mem
  obtain rfl | rfl := mem
  · exact c.completes_top r a
  · exact c.completes_patch r a

end Completion

theorem Completes.builds?_ne {r s : Register} {i : Instruction} (completes : Completes r i)
    (apart : r ≠ s) : i.builds? ≠ some s := by
  rw [completes.builds]
  exact fun h => apart (Option.some.inj h)

theorem Completes.own_of_builds {r s : Register} {i : Instruction} (completes : Completes r i)
    (builds : i.builds? = some s) : ∀ source ∈ i.source?, source = s := by
  obtain rfl : r = s := Option.some.inj (completes.builds.symm.trans builds)
  exact completes.own

/-- Of two interleaved pieces of code for different registers, each is found by its register. -/
theorem Interleaving.filter_builds {r s : Register} {xs ys zs : List Instruction}
    (merged : Interleaving xs ys zs) (hleft : ∀ i ∈ xs, Completes r i)
    (hright : ∀ i ∈ ys, Completes s i) (apart : r ≠ s) :
    (zs.filter fun i => i.builds? = some r) = xs :=
  merged.filter_eq_left (fun i hi => decide_eq_true (hleft i hi).builds) fun i hi =>
    decide_eq_false ((hright i hi).builds?_ne apart.symm)

/-! ## The stub -/

open Instruction (addi bnez jr sw)

/-- A boot stub of the idiom, with its constants, its registers and the order of its loads. -/
structure BootStub where
  main : Word
  bssStart : Word
  bssSize : Word
  stack : Word
  pointer : Register
  size : Register
  jump : Register
  mainForm : Completion
  startForm : Completion
  sizeForm : Completion
  stackForm : Completion
  /-- The loads of the pointer and the size. -/
  setup : List Instruction
  decrement : BitVec 16
  /-- The offsets of the stores in the loop. -/
  stores : List (BitVec 16)
  loop : BitVec 16
  increment : BitVec 16
  /-- The loads of the main address and the stack pointer, without a patch in the delay slot. -/
  finish : List Instruction
  slot : Instruction
  apart : [.zero, .sp, pointer, size, jump].Nodup
  loads_setup :
    Interleaving (startForm.load pointer bssStart) (sizeForm.load size bssSize) setup
  negative : decrement.msb = true
  stores_ne_nil : stores ≠ []
  nonnegative : increment.msb = false
  loads_finish :
    slot = .nop ∧ Interleaving (mainForm.load jump main) (stackForm.load .sp stack) finish ∨
      slot = stackForm.patch .sp stack ∧
        Interleaving (mainForm.load jump main) [stackForm.top .sp stack] finish

namespace BootStub

variable (s : BootStub)

/-- The loop that clears the segment, with the addition in the delay slot of its branch. -/
def clearing : List Instruction :=
  addi s.size s.size s.decrement :: s.stores.map (sw s.pointer .zero) ++
    [bnez s.size s.loop, addi s.pointer s.pointer s.increment]

/-- The code before the jump. -/
def body : List Instruction := s.setup ++ s.clearing ++ s.finish

def code : List Instruction := s.body ++ [jr s.jump, s.slot]

/-- The stub as it stands in a canonical image. -/
def bytes : Bytes := ByteOrder.ofWords (s.code.map Instruction.encode)

theorem length_bytes : s.bytes.length = 4 * s.code.length := by
  rw [bytes, ByteOrder.length_ofWords, List.length_map]

/-- The registers of a stub differ from each other, from the stack pointer and from zero. -/
theorem registers_apart :
    Register.sp ≠ s.pointer ∧ Register.sp ≠ s.size ∧ Register.sp ≠ s.jump ∧
      s.pointer ≠ s.size ∧ s.pointer ≠ s.jump ∧ s.size ≠ s.jump ∧
        s.pointer ≠ .zero ∧ s.size ≠ .zero ∧ s.jump ≠ .zero := by
  have hapart := s.apart
  simp only [List.nodup_cons, List.mem_cons, List.not_mem_nil, or_false, not_or] at hapart
  obtain ⟨⟨_, hp, hz, hj⟩, ⟨hsp, hsz, hsj⟩, ⟨hpz, hpj⟩, hzj, _⟩ := hapart
  exact ⟨hsp, hsz, hsj, hpz, hpj, hzj, Ne.symm hp, Ne.symm hz, Ne.symm hj⟩

/-! ## The parts of a stub -/

variable {s} {i : Instruction}

theorem completes_of_mem_setup (mem : i ∈ s.setup) : Completes s.pointer i ∨ Completes s.size i :=
  (s.loads_setup.mem_or_mem mem).imp Completion.completes_of_mem_load
    Completion.completes_of_mem_load

theorem completes_of_mem_finish (mem : i ∈ s.finish) : Completes s.jump i ∨ Completes .sp i := by
  obtain ⟨-, hloads⟩ | ⟨-, hloads⟩ := s.loads_finish
  · exact (hloads.mem_or_mem mem).imp Completion.completes_of_mem_load
      Completion.completes_of_mem_load
  · exact (hloads.mem_or_mem mem).imp Completion.completes_of_mem_load
      Completion.completes_of_mem_top

theorem slot_eq_or_completes (s : BootStub) : s.slot = .nop ∨ Completes .sp s.slot := by
  obtain ⟨hslot, -⟩ | ⟨hslot, -⟩ := s.loads_finish
  · exact .inl hslot
  · rw [hslot]
    exact .inr (s.stackForm.completes_patch .sp s.stack)

theorem supported_slot (s : BootStub) : s.slot.Supported := by
  obtain hslot | hslot := s.slot_eq_or_completes
  · rw [hslot]
    trivial
  · exact hslot.straight.supported

/-- The clearing loop builds no constant. -/
theorem still_of_mem_clearing (mem : i ∈ s.clearing) : i.builds? = none ∧ Walk.Straight i := by
  simp only [clearing, List.mem_append, List.mem_cons, List.mem_map, List.not_mem_nil,
    or_false] at mem
  obtain (rfl | ⟨offset, -, rfl⟩) | rfl | rfl := mem <;> exact ⟨rfl, trivial, nofun, rfl⟩

theorem straight_of_mem_body (mem : i ∈ s.body) : Walk.Straight i := by
  rw [body, List.mem_append, List.mem_append] at mem
  obtain (hsetup | hclearing) | hfinish := mem
  · exact (completes_of_mem_setup hsetup).elim (·.straight) (·.straight)
  · exact (still_of_mem_clearing hclearing).2
  · exact (completes_of_mem_finish hfinish).elim (·.straight) (·.straight)

theorem supported_of_mem_code (mem : i ∈ s.code) : i.Supported := by
  simp only [code, List.mem_append, List.mem_cons, List.not_mem_nil, or_false] at mem
  obtain hbody | rfl | rfl := mem
  · exact (straight_of_mem_body hbody).supported
  · trivial
  · exact s.supported_slot

/-- Every constant of a stub is completed from its own register. -/
theorem own_code (s : BootStub) (r : Register) : Tracker.Own r s.code := by
  intro i mem builds
  simp only [code, body, List.mem_append, List.mem_cons, List.not_mem_nil, or_false] at mem
  obtain ((hsetup | hclearing) | hfinish) | rfl | rfl := mem
  · exact (completes_of_mem_setup hsetup).elim (·.own_of_builds builds) (·.own_of_builds builds)
  · rw [(still_of_mem_clearing hclearing).1] at builds
    cases builds
  · exact (completes_of_mem_finish hfinish).elim (·.own_of_builds builds) (·.own_of_builds builds)
  · cases builds
  · obtain hslot | hslot := s.slot_eq_or_completes
    · rw [hslot] at builds
      cases builds
    · exact hslot.own_of_builds builds

/-! ## The code of each register -/

/-- The instructions for a register stand in the loads and the delay slot. -/
theorem filter_code (s : BootStub) (r : Register) :
    (s.code.filter fun i => i.builds? = some r) =
      (s.setup.filter fun i => i.builds? = some r) ++
        ((s.finish ++ [s.slot]).filter fun i => i.builds? = some r) := by
  have hclearing : (s.clearing.filter fun i => i.builds? = some r) = [] := by
    rw [List.filter_eq_nil_iff]
    intro i hi
    rw [(still_of_mem_clearing hi).1]
    exact Bool.false_ne_true
  have hjump : ([jr s.jump, s.slot].filter fun i => i.builds? = some r) =
      [s.slot].filter fun i => i.builds? = some r := rfl
  simp only [code, body, List.filter_append, hclearing, hjump, List.nil_append, List.append_assoc]

theorem filter_setup_eq_nil {r : Register} (hpointer : s.pointer ≠ r) (hsize : s.size ≠ r) :
    (s.setup.filter fun i => i.builds? = some r) = [] := by
  rw [List.filter_eq_nil_iff]
  intro i hi
  have hne := (completes_of_mem_setup hi).elim (·.builds?_ne hpointer) (·.builds?_ne hsize)
  exact fun h => hne (of_decide_eq_true h)

theorem filter_finish_eq_nil {r : Register} (hjump : s.jump ≠ r) (hsp : .sp ≠ r) :
    ((s.finish ++ [s.slot]).filter fun i => i.builds? = some r) = [] := by
  rw [List.filter_eq_nil_iff]
  intro i hi
  have hne : i.builds? ≠ some r := by
    obtain hfinish | rfl := (List.mem_append.mp hi).imp_right List.mem_singleton.mp
    · exact (completes_of_mem_finish hfinish).elim (·.builds?_ne hjump) (·.builds?_ne hsp)
    · obtain hslot | hslot := s.slot_eq_or_completes
      · rw [hslot]
        exact nofun
      · exact hslot.builds?_ne hsp
  exact fun h => hne (of_decide_eq_true h)

theorem filter_pointer (s : BootStub) :
    (s.code.filter fun i => i.builds? = some s.pointer) =
      s.startForm.load s.pointer s.bssStart := by
  obtain ⟨hsp, -, -, hsize, hjump, -, -⟩ := s.registers_apart
  have hsetup := s.loads_setup.filter_builds (fun _ => Completion.completes_of_mem_load)
    (fun _ => Completion.completes_of_mem_load) hsize
  rw [filter_code, hsetup, filter_finish_eq_nil hjump.symm hsp, List.append_nil]

theorem filter_size (s : BootStub) :
    (s.code.filter fun i => i.builds? = some s.size) = s.sizeForm.load s.size s.bssSize := by
  obtain ⟨-, hsp, -, hpointer, -, hjump, -⟩ := s.registers_apart
  have hsetup := s.loads_setup.symm.filter_builds (fun _ => Completion.completes_of_mem_load)
    (fun _ => Completion.completes_of_mem_load) hpointer.symm
  rw [filter_code, hsetup, filter_finish_eq_nil hjump.symm hsp, List.append_nil]

/-- Loads of the main address and the stack pointer end the stub, and perhaps an empty slot. -/
theorem loads_ending (s : BootStub) :
    ∃ loads gap, s.finish ++ [s.slot] = loads ++ gap ∧ (gap = [] ∨ gap = [.nop]) ∧
      Interleaving (s.mainForm.load s.jump s.main) (s.stackForm.load .sp s.stack) loads := by
  obtain ⟨hslot, hloads⟩ | ⟨hslot, hloads⟩ := s.loads_finish
  · exact ⟨s.finish, [.nop], by rw [hslot], .inr rfl, hloads⟩
  · rw [hslot]
    exact ⟨_, [], (List.append_nil _).symm, .inl rfl, hloads.concat_right _⟩

theorem filter_gap {gap : List Instruction} (empty : gap = [] ∨ gap = [.nop]) (r : Register) :
    (gap.filter fun i => i.builds? = some r) = [] := by
  obtain rfl | rfl := empty <;> rfl

theorem filter_jump (s : BootStub) :
    (s.code.filter fun i => i.builds? = some s.jump) = s.mainForm.load s.jump s.main := by
  obtain ⟨-, -, hsp, -, hpointer, hsize, -⟩ := s.registers_apart
  obtain ⟨loads, gap, hending, hgap, hloads⟩ := s.loads_ending
  have hfinish := hloads.filter_builds (fun _ => Completion.completes_of_mem_load)
    (fun _ => Completion.completes_of_mem_load) hsp.symm
  rw [filter_code, filter_setup_eq_nil hpointer hsize, hending, List.filter_append, hfinish,
    filter_gap hgap, List.nil_append, List.append_nil]

theorem filter_sp (s : BootStub) :
    (s.code.filter fun i => i.builds? = some .sp) = s.stackForm.load .sp s.stack := by
  obtain ⟨hpointer, hsize, hjump, -⟩ := s.registers_apart
  obtain ⟨loads, gap, hending, hgap, hloads⟩ := s.loads_ending
  have hfinish := hloads.symm.filter_builds (fun _ => Completion.completes_of_mem_load)
    (fun _ => Completion.completes_of_mem_load) hjump
  rw [filter_code, filter_setup_eq_nil hpointer.symm hsize.symm, hending, List.filter_append,
    hfinish, filter_gap hgap, List.nil_append, List.append_nil]

/-! ## The tracked state -/

variable (s) (rule : StopRule)

/-- A register that one load builds holds the constant of the load at the end. -/
theorem slot_run {r : Register} (writable : r ≠ .zero) {c : Completion} {a : Word}
    (load : (s.code.filter fun i => i.builds? = some r) = c.load r a) :
    (Tracker.run rule s.code).registers.slot r = ⟨a, c.provenance⟩ := by
  rw [Tracker.run, Tracker.slot_foldl_track {} writable (s.own_code r), load,
    Completion.build_load]

/-- Stores through a pointer leave it as the pointer register, however many there are. -/
theorem foldl_apply_stores (t : Tracker) (r : Register) {stores : List (BitVec 16)}
    (stored : stores ≠ []) :
    (stores.map (sw r .zero)).foldl Tracker.apply t = { t with pointerRegister := r } := by
  induction stores generalizing t with
  | nil => exact absurd rfl stored
  | cons offset rest ih =>
      rw [List.map_cons, List.foldl_cons]
      cases rest with
      | nil => rfl
      | cons next more => rw [ih _ (List.cons_ne_nil next more)]; rfl

/-- Beside the loads there are the loop, the jump and an empty delay slot. -/
theorem filter_isNone_code :
    ∃ slot, (slot = [] ∨ slot = [.nop]) ∧
      (s.code.filter fun i => i.builds?.isNone) = s.clearing ++ jr s.jump :: slot := by
  have hsetup : (s.setup.filter fun i => i.builds?.isNone) = [] := by
    rw [List.filter_eq_nil_iff]
    intro i hi
    obtain hbuilds | hbuilds := (completes_of_mem_setup hi).imp (·.builds) (·.builds) <;>
      rw [hbuilds] <;> exact Bool.false_ne_true
  have hfinish : (s.finish.filter fun i => i.builds?.isNone) = [] := by
    rw [List.filter_eq_nil_iff]
    intro i hi
    obtain hbuilds | hbuilds := (completes_of_mem_finish hi).imp (·.builds) (·.builds) <;>
      rw [hbuilds] <;> exact Bool.false_ne_true
  have hclearing : (s.clearing.filter fun i => i.builds?.isNone) = s.clearing := by
    rw [List.filter_eq_self]
    intro i hi
    rw [(still_of_mem_clearing hi).1]
    rfl
  refine ⟨[s.slot].filter fun i => i.builds?.isNone, ?_, ?_⟩
  · obtain hslot | hslot := s.slot_eq_or_completes
    · rw [hslot]
      exact .inr rfl
    · rw [List.filter_cons, hslot.builds]
      exact .inl rfl
  · have hjump : ([jr s.jump, s.slot].filter fun i => i.builds?.isNone) =
        jr s.jump :: [s.slot].filter fun i => i.builds?.isNone := rfl
    simp only [code, body, List.filter_append, hsetup, hfinish, hclearing, hjump,
      List.nil_append, List.append_nil]

/-- The loop votes once for each direction; its last store, its branch and the jump name the
registers. -/
theorem roles_run :
    (Tracker.run rule s.code).roles =
      { jumpRegister := s.jump, pointerRegister := s.pointer, branchRegister := some s.size,
        addiTargets := [s.pointer, s.size], sign := 0 } := by
  obtain ⟨slot, hslot, hfilter⟩ := s.filter_isNone_code
  have hclearing : s.clearing.foldl Tracker.apply {} =
      { pointerRegister := s.pointer, branchRegister := some s.size,
        addiTargets := [s.pointer, s.size], sign := 0 } := by
    rw [clearing, List.cons_append, List.foldl_cons, List.foldl_append,
      foldl_apply_stores _ _ s.stores_ne_nil]
    simp only [List.foldl_cons, List.foldl_nil, Tracker.apply, s.negative, s.nonnegative]
    rfl
  have hblank : ({} : Tracker).roles = {} := rfl
  rw [Tracker.run, Tracker.roles_foldl_track, hfilter, List.foldl_append, hblank, hclearing]
  obtain rfl | rfl := hslot <;> rfl

theorem sizeRegister_run : (Tracker.run rule s.code).sizeRegister rule = (s.size, false) := by
  have hroles := s.roles_run rule
  have hpointer : (Tracker.run rule s.code).pointerRegister = s.pointer :=
    congrArg Tracker.pointerRegister hroles
  have hbranch : (Tracker.run rule s.code).branchRegister = some s.size :=
    congrArg Tracker.branchRegister hroles
  have htargets : (Tracker.run rule s.code).addiTargets = [s.pointer, s.size] :=
    congrArg Tracker.addiTargets hroles
  cases rule with
  | doubleNop => rw [Tracker.sizeRegister, hbranch]; rfl
  | delaySlot =>
      obtain ⟨-, -, -, hsize, -⟩ := s.registers_apart
      have hfind : [s.pointer, s.size].find? (· != s.pointer) = some s.size := by
        rw [List.find?_cons_of_neg (by simp), List.find?_cons_of_pos (by simpa using hsize.symm)]
      simp only [Tracker.sizeRegister, htargets, hpointer, hfind]

/-- Zero words after the code change nothing. -/
theorem run_append_nops (code : List Instruction) (zeros : Nat) :
    Tracker.run rule (code ++ List.replicate zeros Instruction.nop) = Tracker.run rule code := by
  rw [Tracker.run, List.foldl_append, ← Tracker.run]
  induction zeros with
  | zero => rfl
  | succ zeros ih =>
      rw [List.replicate_succ, List.foldl_cons]
      exact ih

/-! ## The analysis -/

/-- What is read back from the tracked state. -/
theorem ofTracker_run :
    Analysis.ofTracker rule (Tracker.run rule s.code) =
      { jumpAddress := s.main.toNat
        bssStart := s.bssStart.toNat
        bssSize := s.bssSize.toNat
        initialSp := s.stack.toNat
        jumpRegister := s.jump
        pointerRegister := s.pointer
        sizeRegister := s.size
        provenances := [(s.jump, s.mainForm.provenance), (s.pointer, s.startForm.provenance),
          (s.size, s.sizeForm.provenance), (.sp, s.stackForm.provenance)] } := by
  obtain ⟨-, -, -, -, -, -, hpointerZero, hsizeZero, hjumpZero⟩ := s.registers_apart
  have hroles := s.roles_run rule
  have hjumpRegister : (Tracker.run rule s.code).jumpRegister = s.jump :=
    congrArg Tracker.jumpRegister hroles
  have hpointerRegister : (Tracker.run rule s.code).pointerRegister = s.pointer :=
    congrArg Tracker.pointerRegister hroles
  have hsign : (Tracker.run rule s.code).sign = 0 := congrArg Tracker.sign hroles
  have hjump := s.slot_run rule hjumpZero s.filter_jump
  have hpointer := s.slot_run rule hpointerZero s.filter_pointer
  have hsize := s.slot_run rule hsizeZero s.filter_size
  have hsp := s.slot_run rule (show Register.sp ≠ .zero by decide) s.filter_sp
  simp only [Analysis.ofTracker, hjumpRegister, hpointerRegister, sizeRegister_run, hsign,
    RegisterFile.value, RegisterFile.provenance, hjump, hpointer, hsize, hsp, List.map_cons,
    List.map_nil, Int.lt_irrefl, if_false]

/-- An analysis gives back the constants and registers of a stub, how each constant was completed,
and what stands in its delay slot. -/
structure Recovered (s : BootStub) (a : Analysis) : Prop where
  jumpAddress : a.jumpAddress = s.main.toNat
  bssStart : a.bssStart = s.bssStart.toNat
  bssSize : a.bssSize = s.bssSize.toNat
  initialSp : a.initialSp = s.stack.toNat
  jumpRegister : a.jumpRegister = s.jump
  pointerRegister : a.pointerRegister = s.pointer
  sizeRegister : a.sizeRegister = s.size
  sizeGuessed : a.sizeGuessed = false
  bssSign : a.bssSign = 0
  jumpProvenance : a.provenance s.jump = s.mainForm.provenance
  pointerProvenance : a.provenance s.pointer = s.startForm.provenance
  sizeProvenance : a.provenance s.size = s.sizeForm.provenance
  spProvenance : a.provenance .sp = s.stackForm.provenance
  delaySlot : a.delaySlot = if s.slot = .nop then DelaySlot.nop else .filled

variable {s rule} {words : List Word} {zeros : Nat}

/-- A walk over the code of a stub and any zero words after it decodes them. -/
theorem map_decode_walked (walked : Walk.walked rule words =
      (s.code ++ List.replicate zeros Instruction.nop).map Instruction.encode) :
    (Walk.walked rule words).map Instruction.decode =
      s.code ++ List.replicate zeros Instruction.nop := by
  rw [walked]
  apply Instruction.map_decode_map_encode
  intro i hi
  obtain hi | hi := List.mem_append.mp hi
  · exact supported_of_mem_code hi
  · rw [List.eq_of_mem_replicate hi]
    trivial

theorem recovered_of_walked (walked : Walk.walked rule words =
      (s.code ++ List.replicate zeros Instruction.nop).map Instruction.encode)
    (address romOffset : Int) : Recovered s (Walk.analyze rule address romOffset words) := by
  have hcode := map_decode_walked walked
  have htracker : Analysis.ofTracker rule (Walk.tracker rule words) =
      Analysis.ofTracker rule (Tracker.run rule s.code) := by
    rw [Walk.tracker, hcode, run_append_nops]
  have hdelay : Walk.delaySlot ((Walk.walked rule words).map Instruction.decode) =
      if s.slot = .nop then DelaySlot.nop else .filled := by
    rw [hcode, code, List.append_assoc]
    exact Walk.delaySlot_ending (fun i hi => straight_of_mem_body hi) s.jump s.supported_slot _
  obtain ⟨hspPointer, hspSize, hspJump, hpointerSize, hpointerJump, hsizeJump, -⟩ :=
    s.registers_apart
  rw [Walk.analyze, htracker, ofTracker_run, hdelay]
  constructor <;> try rfl
  all_goals
    simp [Analysis.provenance, hspPointer, hspSize, hspJump, hpointerJump, hsizeJump,
      hpointerSize.symm]

/-! ## The stub in an image -/

variable (s)

/-- The words of a window that starts with a stub. -/
theorem words_window (fits : s.bytes.length ≤ Layout.windowSize) (order : ByteOrder)
    (rest : Bytes) :
    order.words ((order.layOut s.bytes ++ rest).take Layout.windowSize) =
      s.code.map Instruction.encode ++ (order.words rest).take (0x400 - s.code.length) := by
  have hlength : (s.code.map Instruction.encode).length = s.code.length := List.length_map _
  have hfits : s.code.length ≤ 0x400 := by
    rw [length_bytes] at fits
    exact Nat.le_of_mul_le_mul_left fits (by decide)
  have hwindow : Layout.windowSize = 4 * 0x400 := rfl
  rw [hwindow, ByteOrder.words_take, bytes, ByteOrder.words_layOut_ofWords_append,
    List.take_append, hlength, List.take_of_length_le (hlength ▸ hfits)]

theorem words_zeros_append (order : ByteOrder) (rest : Bytes) :
    order.words (List.replicate 8 0 ++ rest) = 0 :: 0 :: order.words rest := by
  have hzeros : order.layOut (ByteOrder.ofWords [0, 0]) = List.replicate 8 0 := by
    cases order <;> rfl
  rw [← hzeros, ByteOrder.words_layOut_ofWords_append]
  rfl

/-- Under the delay-slot rule the walk ends with the code of the stub. -/
theorem walked_delaySlot (rest : List Word) :
    Walk.extent .delaySlot (s.code.map Instruction.encode ++ rest) = (s.code.length, .delaySlot) ∧
      Walk.walked .delaySlot (s.code.map Instruction.encode ++ rest) =
        s.code.map Instruction.encode := by
  have hlength : s.code.length = s.body.length + 2 := by
    rw [code, List.length_append]
    rfl
  have hextent := Walk.extent_delaySlot (fun i hi => s.straight_of_mem_body hi) s.jump
    s.supported_slot rest
  rw [← code, ← hlength] at hextent
  refine ⟨hextent, ?_⟩
  rw [Walk.walked, hextent, List.take_left' (List.length_map _)]

/-- Under the other rule it may take in the first of the zero words that follow. -/
theorem walked_doubleNop (m : Nat) (rest : List Word) :
    ∃ zeros reason, (2 ≤ m → reason = .secondNop) ∧
      (Walk.extent .doubleNop (s.code.map Instruction.encode ++ (0 :: 0 :: rest).take m)).2 =
        reason ∧
      Walk.walked .doubleNop (s.code.map Instruction.encode ++ (0 :: 0 :: rest).take m) =
        (s.code ++ List.replicate zeros Instruction.nop).map Instruction.encode := by
  have hlength : s.body.length + 2 = s.code.length := by
    rw [code, List.length_append]
    rfl
  obtain ⟨zeros, hzeros, reason, hreason, hextent⟩ := Walk.extent_doubleNop
    (fun i hi => s.straight_of_mem_body hi) s.jump s.supported_slot m rest
  rw [← code, hlength] at hextent
  refine ⟨zeros, reason, hreason, congrArg Prod.snd hextent, ?_⟩
  -- The window may end before the second zero word, but a walk reads one of them at most.
  have hcut : ((0 :: 0 :: rest).take m).take zeros = List.replicate zeros (0 : Word) := by
    obtain rfl | rfl : zeros = 0 ∨ zeros = 1 := by omega
    · rfl
    · obtain ⟨m, rfl⟩ : ∃ k, m = k + 1 := ⟨m - 1, by omega⟩
      rfl
  have hlen : (s.code.map Instruction.encode).length = s.code.length := List.length_map _
  rw [Walk.walked, hextent, ← hlen, List.take_length_add_append, hcut, List.map_append,
    List.map_replicate]
  rfl

/-- The analysis of a window that starts with the stub. -/
def analyzed (rule : StopRule) (order : ByteOrder) (address : Int) (rest : Bytes) : Analysis :=
  Walk.analyzeWindow rule order address (order.layOut s.bytes ++ rest)

/-- A stub at the start of a window is read back, in any byte order and at any address: under the
delay-slot rule whatever follows it, under the other rule if two zero words follow. -/
theorem recovered_analyzed (fits : s.bytes.length ≤ Layout.windowSize) (order : ByteOrder)
    (address : Int) (rest : Bytes) :
    Recovered s (s.analyzed .delaySlot order address rest) ∧
      (s.analyzed .delaySlot order address rest).stopReason = .delaySlot ∧
      (s.analyzed .delaySlot order address rest).words = s.code.length ∧
      Recovered s (s.analyzed .doubleNop order address (List.replicate 8 0 ++ rest)) ∧
      (s.bytes.length + 8 ≤ Layout.windowSize →
        (s.analyzed .doubleNop order address (List.replicate 8 0 ++ rest)).stopReason =
          .secondNop) := by
  have hwindow := s.words_window fits order
  obtain ⟨hend, hcode⟩ := s.walked_delaySlot ((order.words rest).take (0x400 - s.code.length))
  rw [← hwindow] at hend hcode
  have hpadded : s.code.map Instruction.encode =
      (s.code ++ List.replicate 0 Instruction.nop).map Instruction.encode := by
    rw [List.replicate_zero, List.append_nil]
  obtain ⟨zeros, reason, hreason, hextent, hwalked⟩ :=
    s.walked_doubleNop (0x400 - s.code.length) (order.words rest)
  rw [← words_zeros_append, ← hwindow] at hextent hwalked
  refine ⟨recovered_of_walked (hcode.trans hpadded) address Layout.bootOffset,
    congrArg Prod.snd hend, ?_, recovered_of_walked hwalked address Layout.bootOffset, ?_⟩
  · have hwords := congrArg List.length hcode
    rw [List.length_map] at hwords
    exact congrArg Int.ofNat hwords
  · intro hroom
    rw [length_bytes, Layout.windowSize] at hroom
    exact hextent.trans (hreason (by omega))

/-- The first temporary under `o32`. -/
def t0 : Register := ⟨8, by decide⟩

def t1 : Register := ⟨9, by decide⟩

def t2 : Register := ⟨10, by decide⟩

/-- A stub with two stores in its loop and the patch of the stack pointer in the delay slot. -/
def twoStores : BootStub where
  main := 0x80000460
  bssStart := 0x8009C8D0
  bssSize := 0x0003F7E0
  stack := 0x803FFFF0
  pointer := t0
  size := t1
  jump := t2
  mainForm := .addiu
  startForm := .addiu
  sizeForm := .ori
  stackForm := .addiu
  setup := [Completion.addiu.top t0 0x8009C8D0, Completion.ori.top t1 0x0003F7E0,
    Completion.addiu.patch t0 0x8009C8D0, Completion.ori.patch t1 0x0003F7E0]
  decrement := 0xFFF8
  stores := [0, 4]
  loop := 0xFFFC
  increment := 8
  finish := [Completion.addiu.top t2 0x80000460, Completion.addiu.top .sp 0x803FFFF0,
    Completion.addiu.patch t2 0x80000460]
  slot := Completion.addiu.patch .sp 0x803FFFF0
  apart := by decide
  loads_setup := .left (.right (.left (.right .nil)))
  negative := by decide
  stores_ne_nil := List.cons_ne_nil 0 [4]
  nonnegative := by decide
  loads_finish := .inr ⟨rfl, .left (.right (.left .nil))⟩

theorem recovered_twoStores :
    twoStores.bytes.length ≤ Layout.windowSize ∧
      Recovered twoStores (twoStores.analyzed .delaySlot .little 0x80000400 [1, 2, 3]) ∧
      Recovered twoStores
        (twoStores.analyzed .doubleNop .little 0x80000400 (List.replicate 8 0 ++ [1, 2, 3])) := by
  have hfits : twoStores.bytes.length ≤ Layout.windowSize := by
    rw [length_bytes]
    decide
  obtain ⟨hdelay, -, -, hnops, -⟩ :=
    recovered_analyzed twoStores hfits .little 0x80000400 [1, 2, 3]
  exact ⟨hfits, hdelay, hnops⟩

end BootStub

end CartBoot
