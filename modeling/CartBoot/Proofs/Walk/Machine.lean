import CartBoot.Proofs.Instruction.Grammar
import CartBoot.Proofs.Walk.Rules

/-!
# A machine that executes the words of a walk

The registers that a walk leaves behind are those of a 32-bit machine that executes the walked words
one after the other, straight from their bits. The machine knows the three operations that build
constants; every other word leaves its registers alone. For walks under the delay-slot rule it is
cautious: it skips a patch of a low half that holds anything already.
-/

namespace CartBoot

/-- What the 32 registers of a machine hold. -/
abbrev Machine := Register → Word

namespace Machine

/-! ## Words as the machine reads them -/

def opcode (w : Word) : BitVec 6 := w.extractLsb' 26 6

def source (w : Word) : Register := (w.extractLsb' 21 5).toFin

def destination (w : Word) : Register := (w.extractLsb' 16 5).toFin

def half (w : Word) : BitVec 16 := w.extractLsb' 0 16

def blank : Machine := fun _ => 0

/-- Changes one register. The register of number zero is wired to zero. -/
def set (m : Machine) (r : Register) (value : Word) : Machine :=
  fun s => if s = r ∧ r ≠ .zero then value else m s

/-- The word patches a low half that holds anything. -/
def skips (m : Machine) (w : Word) : Bool :=
  (opcode w = 0b001001 || opcode w = 0b001101) && half (m (destination w)) != 0

/-- Executes one word. -/
def execute (cautious : Bool) (m : Machine) (w : Word) : Machine :=
  if cautious && m.skips w then m
  else if opcode w = 0b001111 then m.set (destination w) (half w ++ 0#16)
  else if opcode w = 0b001001 then
    m.set (destination w) (m (source w) + (half w).signExtend 32)
  else if opcode w = 0b001101 then
    m.set (destination w) (m (source w) ||| (half w).zeroExtend 32)
  else m

/-- Executes words from a blank state. -/
def run (cautious : Bool) (words : List Word) : Machine :=
  words.foldl (execute cautious) blank

theorem opcode_eq_iff (w : Word) (op : BitVec 6) : opcode w = op ↔ w.opcode = op.toNat := by
  have hw := w.isLt
  rw [← BitVec.toNat_inj, opcode, Word.opcode, BitVec.extractLsb'_toNat,
    Nat.shiftRight_eq_div_pow, Nat.mod_eq_of_lt (by omega)]

theorem source_eq (w : Word) : source w = w.rs := by
  apply Fin.ext
  simp [source, Word.rs, Nat.shiftRight_eq_div_pow]

theorem destination_eq (w : Word) : destination w = w.rt := by
  apply Fin.ext
  simp [destination, Word.rt, Nat.shiftRight_eq_div_pow]

theorem half_eq (w : Word) : half w = w.immediate := by
  apply BitVec.eq_of_toNat_eq
  rw [half, Word.immediate, BitVec.extractLsb'_toNat, BitVec.toNat_ofNat, Nat.shiftRight_zero]

theorem append_zeros (imm : BitVec 16) : imm ++ 0#16 = imm.setWidth 32 <<< 16 := by
  apply BitVec.eq_of_toNat_eq
  rw [Completion.toNat_shifted, BitVec.toNat_append, Nat.shiftLeft_eq, BitVec.toNat_ofNat]
  exact Nat.or_zero _


/-! ## The effect of one word -/

variable {w : Word} (m : Machine) (cautious : Bool)

theorem execute_of_upper (upper : w.opcode = 0b001111) :
    m.execute cautious w = m.set w.rt (w.immediate.setWidth 32 <<< 16) := by
  simp [execute, skips, opcode_eq_iff, upper, destination_eq, half_eq, append_zeros]

theorem execute_of_addiu (patch : w.opcode = 0b001001) :
    m.execute cautious w = if cautious ∧ (m w.rt).immediate ≠ 0 then m
      else m.set w.rt (m w.rs + w.immediate.signExtend 32) := by
  simp [execute, skips, opcode_eq_iff, patch, destination_eq, source_eq, half_eq]

theorem execute_of_ori (patch : w.opcode = 0b001101) :
    m.execute cautious w = if cautious ∧ (m w.rt).immediate ≠ 0 then m
      else m.set w.rt (m w.rs ||| w.immediate.setWidth 32) := by
  simp [execute, skips, opcode_eq_iff, patch, destination_eq, source_eq, half_eq]

theorem execute_of_other (other : w.opcode ∉ [0b001111, 0b001001, 0b001101]) :
    m.execute cautious w = m := by
  simp only [List.mem_cons, List.not_mem_nil, or_false, not_or] at other
  obtain ⟨hlui, haddiu, hori⟩ := other
  simp [execute, skips, opcode_eq_iff, hlui, haddiu, hori]

end Machine

namespace Tracker

variable {rule : StopRule} {t : Tracker} {i : Instruction} {r : Register}

theorem value_track_of_taken (builds : i.builds? = some r) (taken : t.patched? rule i = none) :
    (t.track rule i).registers.value =
      Machine.set t.registers.value r (i.built (t.sourceValue i)).value := by
  funext s
  rw [track_of_not_patched t taken, apply_of_builds?_eq t builds, RegisterFile.value,
    RegisterFile.slot_modify, Machine.set]
  exact apply_ite Slot.value _ _ _

theorem track_of_patched (patched : t.patched? rule i = some r) : t.track rule i = t := by
  rw [track, patched]

/-- An instruction that completes a constant does so unless it is ignored. -/
theorem value_track_of_source (builds : i.builds? = some r) (completes : i.source?.isSome) :
    (t.track rule i).registers.value =
      if decide (rule = .delaySlot) ∧ (t.registers.value r).immediate ≠ 0 then t.registers.value
      else Machine.set t.registers.value r (i.built (t.sourceValue i)).value := by
  have hpatched := patched?_of_builds?_eq rule t builds
  simp only [Slot.Ignores, completes, true_and] at hpatched
  simp only [decide_eq_true_eq]
  split
  next ignored =>
    rw [track_of_patched (hpatched.trans (if_pos ignored))]
  next taken =>
    exact value_track_of_taken builds (hpatched.trans (if_neg taken))

/-- One step of a tracker is one step of the machine on its registers. -/
theorem value_track_decode (rule : StopRule) (t : Tracker) {w : Word}
    (valid : (Instruction.decode w).isError = false) :
    (t.track rule (.decode w)).registers.value =
      Machine.execute (rule = .delaySlot) t.registers.value w := by
  have hreading := Instruction.readFrom_decode w
  cases hi : Instruction.decode w with
  | lui rt imm =>
    rw [hi] at hreading
    obtain ⟨hopcode, -, rfl, rfl⟩ := hreading
    rw [Machine.execute_of_upper _ _ hopcode]
    exact value_track_of_taken rfl rfl
  | addiu rs rt imm =>
    rw [hi] at hreading
    obtain ⟨hopcode, rfl, rfl, rfl⟩ := hreading
    rw [Machine.execute_of_addiu _ _ hopcode]
    exact value_track_of_source rfl rfl
  | ori rs rt imm =>
    rw [hi] at hreading
    obtain ⟨hopcode, rfl, rfl, rfl⟩ := hreading
    rw [Machine.execute_of_ori _ _ hopcode]
    exact value_track_of_source rfl rfl
  | unknown word | invalid word =>
    rw [hi] at valid
    cases valid
  | nop =>
    rw [hi] at hreading
    obtain rfl := hreading
    exact (Machine.execute_of_other _ _ (by decide)).symm
  | _ =>
    rw [hi] at hreading
    refine (Machine.execute_of_other _ _ ?_).symm
    rw [hreading.1]
    decide

/-- The registers after a piece of code are those of the machine after its words. -/
theorem value_run_decode (rule : StopRule) {words : List Word}
    (valid : ∀ w ∈ words, (Instruction.decode w).isError = false) :
    (run rule (words.map .decode)).registers.value =
      Machine.run (rule = .delaySlot) words := by
  induction words using List.reverseRecOn with
  | nil =>
    funext r
    exact congrArg Slot.value (RegisterFile.slot_blank r)
  | append_singleton words w ih =>
    have hwords : ∀ v ∈ words, (Instruction.decode v).isError = false :=
      fun v hv => valid v (List.mem_append_left _ hv)
    have hw : (Instruction.decode w).isError = false := valid w (by simp)
    rw [List.map_append, List.map_cons, List.map_nil, run_concat, value_track_decode rule _ hw,
      ih hwords, Machine.run, Machine.run, List.foldl_concat]

end Tracker

/-! ## Walks -/

/-- The walk stopped on a word that is no instruction. -/
def StopReason.isForeign : StopReason → Bool
  | unknownWord | invalidWord => true
  | _ => false

/-- The words of a result that are executed: all that were walked but a foreign one at their end. -/
def Analysis.executed (result : Analysis) : List Word :=
  let seen := result.trace.map Step.word
  if result.stopReason.isForeign then seen.dropLast else seen

/-- What a result reads out of the registers of a machine. -/
structure Analysis.ReadsMachine (result : Analysis) (machine : Machine) : Prop where
  jumpAddress : result.jumpAddress = (machine result.jumpRegister).toNat
  bssSize : result.bssSize = (machine result.sizeRegister).toNat
  initialSp : result.initialSp = (machine .sp).toNat
  bssStart : result.bssStart = if result.bssSign < 0
    then (machine result.pointerRegister - machine result.sizeRegister).toNat
    else (machine result.pointerRegister).toNat

namespace Walk

theorem isForeign_of_errorReason? {i : Instruction} {reason : StopReason}
    (error : errorReason? i = some reason) : reason.isForeign := by
  cases i <;> cases error <;> rfl

/-- A walk reads supported words, and behind them a foreign one if that is why it stops. -/
theorem exists_take_extentFrom (rule : StopRule) (afterNop afterJump : Bool)
    (words : List Word) :
    ∃ code foreign,
      words.take (extentFrom rule afterNop afterJump words).1 = code ++ foreign ∧
      (∀ w ∈ code, (Instruction.decode w).isError = false) ∧
      (∀ w ∈ foreign, (Instruction.decode w).isError) ∧
      foreign.length =
        if (extentFrom rule afterNop afterJump words).2.isForeign then 1 else 0 := by
  induction words generalizing afterNop afterJump with
  | nil => exact ⟨[], [], rfl, by simp, by simp, rfl⟩
  | cons w rest ih =>
    simp only [extentFrom]
    split
    next nops => exact ⟨[], [], rfl, by simp, by simp, rfl⟩
    next single =>
      split
      next reason error =>
        have herror : (Instruction.decode w).isError := by
          by_contra valid
          rw [errorReason?_eq_none_iff.mpr (Bool.eq_false_iff.mpr valid)] at error
          cases error
        refine ⟨[], [w], rfl, by simp, by simpa using herror, ?_⟩
        rw [isForeign_of_errorReason? error]
        rfl
      next valid =>
        have hvalid := errorReason?_eq_none_iff.mp valid
        split
        next slot => exact ⟨[w], [], rfl, by simpa using hvalid, by simp, rfl⟩
        next =>
          obtain ⟨code, foreign, htake, hcode, hforeign, hlen⟩ :=
            ih (w = 0) (afterJump || (Instruction.decode w).isJump)
          refine ⟨w :: code, foreign, congrArg (w :: ·) htake, ?_, hforeign, hlen⟩
          exact List.forall_mem_cons.mpr ⟨hvalid, hcode⟩

/-- The executed words are those walked without a foreign one at the end. -/
theorem walked_eq_executed_append (rule : StopRule) (address romOffset : Int)
    (words : List Word) :
    ∃ foreign, walked rule words = (analyze rule address romOffset words).executed ++ foreign ∧
      (∀ w ∈ (analyze rule address romOffset words).executed,
        (Instruction.decode w).isError = false) ∧
      ∀ w ∈ foreign, (Instruction.decode w).isError := by
  obtain ⟨code, foreign, htake, hcode, hforeign, hlen⟩ :=
    exists_take_extentFrom rule false false words
  have hexecuted : (analyze rule address romOffset words).executed = code := by
    have hseen : (analyze rule address romOffset words).trace.map Step.word = code ++ foreign :=
      (map_word_steps _ _ _ _).trans htake
    rw [Analysis.executed, hseen]
    change (if (extent rule words).2.isForeign then _ else _) = _
    split
    next stopped =>
      rw [← extent, if_pos stopped] at hlen
      obtain ⟨w, rfl⟩ := List.length_eq_one_iff.mp hlen
      exact List.dropLast_concat
    next supported =>
      rw [← extent, if_neg supported] at hlen
      rw [List.length_eq_zero_iff.mp hlen, List.append_nil]
  exact ⟨foreign, hexecuted ▸ htake, hexecuted ▸ hcode, hforeign⟩

/-- Words that are no instructions leave a tracker as it is. -/
theorem foldl_track_of_isError (rule : StopRule) (t : Tracker) {words : List Word}
    (foreign : ∀ w ∈ words, (Instruction.decode w).isError) :
    (words.map Instruction.decode).foldl (Tracker.track rule) t = t := by
  induction words with
  | nil => rfl
  | cons w rest ih =>
    rw [List.forall_mem_cons] at foreign
    rw [List.map_cons, List.foldl_cons, Tracker.track_of_isError rule t foreign.1, ih foreign.2]

theorem value_tracker (rule : StopRule) (address romOffset : Int) (words : List Word) :
    (tracker rule words).registers.value =
      Machine.run (rule = .delaySlot) (analyze rule address romOffset words).executed := by
  obtain ⟨foreign, hwalked, hcode, hforeign⟩ :=
    walked_eq_executed_append rule address romOffset words
  rw [tracker, hwalked, List.map_append, Tracker.run, List.foldl_append,
    foldl_track_of_isError rule _ hforeign]
  exact Tracker.value_run_decode rule hcode

/-- Every walk leaves the registers of the machine that executes its words, the cautious one under
the delay-slot rule, and reads its result out of them. -/
theorem walk_executes :
    (∀ (s : Session) (data : Bytes) (r : Register),
      ((s.under .doubleNop).run data).2.tracker.registers.value r =
          Machine.run false ((s.under .doubleNop).run data).1.executed r ∧
        ((s.under .delaySlot).run data).2.tracker.registers.value r =
          Machine.run true ((s.under .delaySlot).run data).1.executed r) ∧
    ∀ (rule : StopRule) (order : ByteOrder) (address : Int) (window : Bytes),
      let result := analyzeWindow rule order address window
      result.ReadsMachine (Machine.run (rule = .delaySlot) result.executed) := by
  constructor
  · intro s data r
    rw [Session.tracker_run, Session.tracker_run]
    exact ⟨congrFun (value_tracker .doubleNop s.address s.romOffset (s.words data)) r,
      congrFun (value_tracker .delaySlot s.address s.romOffset (s.words data)) r⟩
  · intro rule order address window result
    have hvalue := value_tracker rule address Layout.bootOffset
      (order.words (window.take Layout.windowSize))
    have hresult : result.ReadsMachine (tracker rule _).registers.value :=
      ⟨rfl, rfl, rfl, by rw [← apply_ite BitVec.toNat]; rfl⟩
    exact hvalue ▸ hresult

/-- A negative half borrows from the upper one, and only a cautious machine keeps what it has. -/
example :
    Machine.run false [0x3C088004, 0x2508E940, 0x35080003] 8 = 0x8003E943 ∧
      Machine.run true [0x3C088004, 0x2508E940, 0x35080003] 8 = 0x8003E940 := by
  decide

end Walk

end CartBoot
