import CartBoot.Proofs.ByteOrder.Layout
import CartBoot.Proofs.Walk.Selection
import CartBoot.Proofs.Walk.Straight

/-!
# Walks under both stop rules

The delay-slot rule ends a walk earlier, and it keeps a constant that has its low half. In all else
the two walks go in step: the shorter one reads a leading part of what the longer one reads, and
over that part alone both note the same registers. They also hold the same values there unless the
delay-slot rule ignores an instruction.
-/

namespace CartBoot

namespace Tracker

/-- The register for whose sake the instruction at an index is ignored. -/
def ignoredAt? (rule : StopRule) (code : List Instruction) (n : Nat) : Option Register :=
  code[n]?.bind ((run rule (code.take n)).patched? rule)

variable {rule : StopRule} {code : List Instruction} {i : Instruction}

theorem ignoredAt?_concat_of_lt {n : Nat} (below : n < code.length) :
    ignoredAt? rule (code ++ [i]) n = ignoredAt? rule code n := by
  rw [ignoredAt?, List.getElem?_append_left below,
    List.take_append_of_le_length (Nat.le_of_lt below), ignoredAt?]

theorem ignoredAt?_concat_length :
    ignoredAt? rule (code ++ [i]) code.length = (run rule code).patched? rule i := by
  simp [ignoredAt?]

theorem ignoredAt?_of_length_le {n : Nat} (beyond : code.length ≤ n) :
    ignoredAt? rule code n = none := by
  rw [ignoredAt?, List.getElem?_eq_none beyond, Option.bind_none]

theorem track_of_not_patched (t : Tracker) (taken : t.patched? rule i = none) :
    t.track rule i = t.apply i := by
  rw [track, taken]

/-- The double-nop rule ignores no instruction. -/
theorem patched?_doubleNop (t : Tracker) (i : Instruction) : t.patched? .doubleNop i = none := by
  cases i <;> rfl

/-- What is known beside the registers is the same under both rules. -/
theorem roles_run_congr (rule other : StopRule) (code : List Instruction) :
    (run rule code).roles = (run other code).roles :=
  (roles_foldl_track {} code).trans (roles_foldl_track {} code).symm

/-- Code of which no instruction is ignored has the same effect under both rules. -/
theorem run_delaySlot_eq (taken : ∀ n, ignoredAt? .delaySlot code n = none) :
    run .delaySlot code = run .doubleNop code := by
  induction code using List.reverseRecOn with
  | nil => rfl
  | append_singleton code i ih =>
    have hcode : ∀ n, ignoredAt? .delaySlot code n = none := by
      intro n
      by_cases below : n < code.length
      · rw [← ignoredAt?_concat_of_lt below, taken]
      · exact ignoredAt?_of_length_le (Nat.not_lt.mp below)
    have hlast : (run .delaySlot code).patched? .delaySlot i = none := by
      rw [← ignoredAt?_concat_length, taken]
    rw [run_concat, run_concat, track_of_not_patched _ hlast, ih hcode,
      track_of_not_patched _ (patched?_doubleNop _ i)]

end Tracker

namespace Walk

variable {rule : StopRule} {afterNop afterJump : Bool} {words : List Word}

/-! ## Extents -/

/-- Whether a word ends a walk under either rule. -/
def ends (afterNop : Bool) (w : Word) : Bool :=
  afterNop && w = 0 || (Instruction.decode w).isError

theorem extentFrom_cons_of_ends {w : Word} (stop : ends afterNop w) :
    ∃ n ≤ 1, ∃ reason, reason ≠ .delaySlot ∧
      ∀ rule afterJump rest, extentFrom rule afterNop afterJump (w :: rest) = (n, reason) := by
  unfold extentFrom
  cases nops : afterNop && decide (w = 0) with
  | true => exact ⟨0, Nat.zero_le 1, .secondNop, by simp, fun _ _ _ => rfl⟩
  | false =>
    rw [ends, nops, Bool.false_or] at stop
    cases i : Instruction.decode w with
    | unknown word => exact ⟨1, Nat.le_refl 1, .unknownWord, by simp, fun _ _ _ => rfl⟩
    | invalid word => exact ⟨1, Nat.le_refl 1, .invalidWord, by simp, fun _ _ _ => rfl⟩
    | _ => simp [i, Instruction.isError, Instruction.kind, Kind.isError] at stop

theorem extentFrom_cons_of_passed {w : Word} (passed : ends afterNop w = false)
    (rest : List Word) :
    extentFrom rule afterNop afterJump (w :: rest) =
      if afterJump && rule = .delaySlot then (1, .delaySlot)
      else ((extentFrom rule (w = 0) (afterJump || (Instruction.decode w).isJump) rest).1 + 1,
        (extentFrom rule (w = 0) (afterJump || (Instruction.decode w).isJump) rest).2) := by
  obtain ⟨nops, valid⟩ := Bool.or_eq_false_iff.mp passed
  simp only [extentFrom, nops, errorReason?_eq_none_iff.mpr valid, Bool.false_eq_true, if_false]

/-- The walks have the same extent, or the delay slot ends the shorter one. -/
theorem extentFrom_rules (afterNop afterJump : Bool) (words : List Word) :
    extentFrom .delaySlot afterNop afterJump words =
        extentFrom .doubleNop afterNop afterJump words ∨
      (extentFrom .delaySlot afterNop afterJump words).2 = .delaySlot ∧
        (extentFrom .delaySlot afterNop afterJump words).1 ≤
          (extentFrom .doubleNop afterNop afterJump words).1 := by
  induction words generalizing afterNop afterJump with
  | nil => exact .inl rfl
  | cons w rest ih =>
    cases hends : ends afterNop w with
    | true =>
      obtain ⟨n, -, reason, -, hextent⟩ := extentFrom_cons_of_ends hends
      exact .inl (by rw [hextent, hextent])
    | false =>
      rw [extentFrom_cons_of_passed hends, extentFrom_cons_of_passed hends]
      cases afterJump with
      | true => exact .inr ⟨rfl, Nat.succ_le_succ (Nat.zero_le _)⟩
      | false =>
        obtain hsame | ⟨hreason, hle⟩ := ih (w = 0) (Instruction.decode w).isJump
        · exact .inl (congrArg (fun extent : Nat × StopReason => (extent.1 + 1, extent.2)) hsame)
        · exact .inr ⟨hreason, Nat.succ_le_succ hle⟩

/-- A walk over the words of a longer one, cut short, reads them all. -/
theorem extentFrom_take {k : Nat} (inside : k ≤ (extentFrom rule afterNop afterJump words).1) :
    (extentFrom rule afterNop afterJump (words.take k)).1 = k := by
  induction words generalizing afterNop afterJump k with
  | nil =>
    obtain rfl := Nat.le_zero.mp inside
    rfl
  | cons w rest ih =>
    cases k with
    | zero => rfl
    | succ k =>
      rw [List.take_succ_cons]
      cases hends : ends afterNop w with
      | true =>
        obtain ⟨n, hn, reason, -, hextent⟩ := extentFrom_cons_of_ends hends
        rw [hextent] at inside ⊢
        exact Nat.le_antisymm (Nat.le_trans hn (Nat.succ_pos k)) inside
      | false =>
        rw [extentFrom_cons_of_passed hends] at inside ⊢
        split
        next slot =>
          rw [if_pos slot] at inside
          exact Nat.le_antisymm (Nat.succ_pos k) inside
        next slot =>
          rw [if_neg slot] at inside
          exact congrArg Nat.succ (ih (Nat.le_of_succ_le_succ inside))

theorem extentFrom_afterJump_le (afterNop : Bool) (words : List Word) :
    (extentFrom .delaySlot afterNop true words).1 ≤ 1 := by
  cases words with
  | nil => exact Nat.zero_le 1
  | cons w rest =>
    cases hends : ends afterNop w with
    | true =>
      obtain ⟨n, hn, reason, -, hextent⟩ := extentFrom_cons_of_ends hends
      rw [hextent]
      exact hn
    | false =>
      rw [extentFrom_cons_of_passed hends]
      exact Nat.le_refl 1

/-- Under the delay-slot rule, at most one word is read behind a jump. -/
theorem extentFrom_le_of_jump {k : Nat} {w : Word} (here : words[k]? = some w)
    (jump : (Instruction.decode w).isJump) :
    (extentFrom .delaySlot afterNop false words).1 ≤ k + 2 := by
  induction words generalizing afterNop k with
  | nil => exact Nat.zero_le _
  | cons v rest ih =>
    cases hends : ends afterNop v with
    | true =>
      obtain ⟨n, hn, reason, -, hextent⟩ := extentFrom_cons_of_ends hends
      rw [hextent]
      exact Nat.le_trans hn (Nat.succ_pos _)
    | false =>
      rw [extentFrom_cons_of_passed hends, if_neg (by simp), Bool.false_or]
      cases hv : (Instruction.decode v).isJump with
      | true =>
        have hrest := extentFrom_afterJump_le (v = 0) rest
        exact Nat.succ_le_succ (Nat.le_trans hrest (Nat.succ_pos k))
      | false =>
        cases k with
        | zero =>
          obtain rfl := Option.some.inj here
          rw [jump] at hv
          cases hv
        | succ k => exact Nat.succ_le_succ (ih here)

theorem length_walked_le_of_isJump {k : Nat} {w : Word}
    (here : (walked .delaySlot words)[k]? = some w) (jump : (Instruction.decode w).isJump) :
    (walked .delaySlot words).length ≤ k + 2 := by
  rw [walked, List.getElem?_take] at here
  split at here
  next =>
    rw [length_walked]
    exact extentFrom_le_of_jump here jump
  next => cases here

/-- A walk that ends with a delay slot has passed no jump but the one in front of the slot. -/
theorem exists_of_extentFrom_delaySlot
    (stop : (extentFrom .delaySlot afterNop false words).2 = .delaySlot) :
    ∃ front jump slot rest, words = front ++ jump :: slot :: rest ∧
      (extentFrom .delaySlot afterNop false words).1 = front.length + 2 ∧
      (∀ w ∈ front, (Instruction.decode w).isJump = false) ∧ (Instruction.decode jump).isJump := by
  induction words generalizing afterNop with
  | nil => cases stop
  | cons w rest ih =>
    cases hends : ends afterNop w with
    | true =>
      obtain ⟨n, -, reason, hreason, hextent⟩ := extentFrom_cons_of_ends hends
      rw [hextent] at stop
      exact absurd stop hreason
    | false =>
      rw [extentFrom_cons_of_passed hends, if_neg (by simp), Bool.false_or] at stop ⊢
      cases hjump : (Instruction.decode w).isJump with
      | true =>
        rw [hjump] at stop
        cases rest with
        | nil => cases stop
        | cons slot rest =>
          cases hslot : ends (w = 0) slot with
          | true =>
            obtain ⟨n, -, reason, hreason, hextent⟩ := extentFrom_cons_of_ends hslot
            rw [hextent] at stop
            exact absurd stop hreason
          | false =>
            refine ⟨[], w, slot, rest, rfl, ?_, List.forall_mem_nil _, hjump⟩
            rw [extentFrom_cons_of_passed hslot]
            rfl
      | false =>
        rw [hjump] at stop
        obtain ⟨front, jump, slot, more, rfl, hextent, hfront, hat⟩ := ih stop
        refine ⟨w :: front, jump, slot, more, rfl, congrArg Nat.succ hextent, ?_, hat⟩
        exact List.forall_mem_cons.mpr ⟨hjump, hfront⟩

/-! ## Words and steps -/

theorem walked_delaySlot_isPrefix (words : List Word) :
    walked .delaySlot words <+: walked .doubleNop words := by
  apply List.take_prefix_take_left
  obtain hsame | ⟨-, hle⟩ := extentFrom_rules false false words
  · exact Nat.le_of_eq (congrArg Prod.fst hsame)
  · exact hle

/-- The longer walk over the words of the shorter one reads them all. -/
theorem walked_doubleNop_walked (words : List Word) :
    walked .doubleNop (walked .delaySlot words) = walked .delaySlot words := by
  have hinside : (extent .delaySlot words).1 ≤ (extent .doubleNop words).1 := by
    rw [← length_walked, ← length_walked]
    exact (walked_delaySlot_isPrefix words).length_le
  have hextent : (extent .doubleNop (walked .delaySlot words)).1 = (extent .delaySlot words).1 :=
    extentFrom_take hinside
  rw [walked, hextent, ← length_walked, List.take_length]

/-- The steps over a leading part of some words are the leading steps. -/
theorem steps_isPrefix (address romOffset : Int) (inDelaySlot : Bool) {front : List Word}
    (leads : front <+: words) :
    steps address romOffset inDelaySlot front <+: steps address romOffset inDelaySlot words := by
  obtain ⟨back, rfl⟩ := leads
  induction front generalizing address romOffset inDelaySlot with
  | nil => exact List.nil_prefix
  | cons w front ih => exact (List.prefix_cons_inj _).mpr (ih _ _ _)

theorem delaySlot_append_jump {front : List Instruction}
    (falls : ∀ i ∈ front, i.isJump = false) {jump : Instruction} (jumps : jump.isJump)
    (slot : Instruction) (rest : List Instruction) :
    delaySlot (front ++ jump :: slot :: rest) = delaySlot [jump, slot] := by
  induction front with
  | nil => simp only [List.nil_append, delaySlot, jumps, if_true]
  | cons i front ih =>
    rw [List.forall_mem_cons] at falls
    rw [List.cons_append, delaySlot_cons_of_falls falls.1, ih falls.2]

/-- Both walks give the same verdict on the delay slot. -/
theorem delaySlot_walked_rules (words : List Word) :
    delaySlot ((walked .delaySlot words).map .decode) =
      delaySlot ((walked .doubleNop words).map .decode) := by
  obtain ⟨more, hmore⟩ := walked_delaySlot_isPrefix words
  obtain hsame | ⟨hreason, -⟩ := extentFrom_rules false false words
  · rw [walked, walked, extent, extent, hsame]
  · obtain ⟨front, jump, slot, rest, rfl, hextent, hfront, hjump⟩ :=
      exists_of_extentFrom_delaySlot hreason
    have hwalked : walked .delaySlot (front ++ jump :: slot :: rest) = front ++ [jump, slot] := by
      rw [walked, extent, hextent, List.take_length_add_append]
      rfl
    have hfalls : ∀ i ∈ front.map Instruction.decode, i.isJump = false :=
      List.forall_mem_map.mpr hfront
    rw [← hmore, hwalked, List.append_assoc, List.map_append, List.map_append]
    exact (delaySlot_append_jump hfalls hjump _ []).trans
      (delaySlot_append_jump hfalls hjump _ _).symm

/-! ## Results -/

/-- How a walk under the delay-slot rule relates to one under the other rule over the same words and
to one over the words it reads itself. The files are those that the first and the last of these
walks leave behind. -/
structure RulesAgree (short long again : Analysis) (file other : RegisterFile) : Prop where
  trace : short.trace <+: long.trace
  delaySlot : short.delaySlot = long.delaySlot
  retrace : again.trace = short.trace
  jumpRegister : again.jumpRegister = short.jumpRegister
  pointerRegister : again.pointerRegister = short.pointerRegister
  sign : again.bssSign = short.bssSign
  /-- The values differ only if an instruction is ignored. -/
  taken : (∀ n, Tracker.ignoredAt? .delaySlot (short.trace.map Step.instruction) n = none) →
    (∀ r, other.value r = file.value r) ∧ again.jumpAddress = short.jumpAddress ∧
    again.initialSp = short.initialSp ∧
    ∀ r ∈ [short.jumpRegister, short.pointerRegister, .sp], again.provenance r = short.provenance r

theorem tracker_walked (words : List Word) :
    tracker .doubleNop (walked .delaySlot words) =
      .run .doubleNop ((walked .delaySlot words).map .decode) := by
  rw [tracker, walked_doubleNop_walked]

/-- A result has the provenances of the registers that it names. -/
theorem provenance_analyze {address romOffset : Int} {r : Register}
    (named : r ∈ [(tracker rule words).jumpRegister, (tracker rule words).pointerRegister, .sp]) :
    (analyze rule address romOffset words).provenance r =
      (tracker rule words).registers.provenance r := by
  have hentries : (analyze rule address romOffset words).provenances =
      [(tracker rule words).jumpRegister, (tracker rule words).pointerRegister,
        ((tracker rule words).sizeRegister rule).1, .sp].map fun r =>
          (r, (tracker rule words).registers.provenance r) := rfl
  rw [Analysis.provenance_of_entries hentries r]
  apply if_pos
  simp only [List.mem_cons] at named ⊢
  tauto

theorem analyze_rulesAgree (address romOffset : Int) (words : List Word) :
    RulesAgree (analyze .delaySlot address romOffset words)
      (analyze .doubleNop address romOffset words)
      (analyze .doubleNop address romOffset (walked .delaySlot words))
      (tracker .delaySlot words).registers
      (tracker .doubleNop (walked .delaySlot words)).registers := by
  have hroles : (tracker .doubleNop (walked .delaySlot words)).roles =
      (tracker .delaySlot words).roles := by
    rw [tracker_walked]
    exact Tracker.roles_run_congr _ _ _
  have hjump := congrArg Tracker.jumpRegister hroles
  have hpointer := congrArg Tracker.pointerRegister hroles
  have hsign := congrArg Tracker.sign hroles
  constructor
  case trace => exact steps_isPrefix address romOffset false (walked_delaySlot_isPrefix words)
  case delaySlot => exact delaySlot_walked_rules words
  case retrace => exact congrArg (steps address romOffset false) (walked_doubleNop_walked words)
  case jumpRegister => exact hjump
  case pointerRegister => exact hpointer
  case sign => exact hsign
  case taken =>
    intro taken
    rw [map_instruction_trace] at taken
    have hrun : tracker .doubleNop (walked .delaySlot words) = tracker .delaySlot words :=
      (tracker_walked words).trans (Tracker.run_delaySlot_eq taken).symm
    refine ⟨fun r => by rw [hrun], ?_, ?_, fun r named => ?_⟩
    · exact congrArg (fun t : Tracker => ((t.registers.value t.jumpRegister).toNat : Int)) hrun
    · exact congrArg (fun t : Tracker => ((t.registers.value .sp).toNat : Int)) hrun
    · rw [provenance_analyze named, provenance_analyze (by rw [hrun]; exact named), hrun]

end Walk

namespace Session

/-- A session that walks under a given rule. -/
def under (s : Session) (rule : StopRule) : Session := { s with rule }

theorem tracker_run (s : Session) (data : Bytes) :
    (s.run data).2.tracker = Walk.tracker s.rule (s.words data) :=
  tracker_reset_trackAll s _

/-- Tracking leaves the settings of a session alone. -/
theorem trackAll_eq (s : Session) (code : List Instruction) :
    s.trackAll code = { s with tracker := code.foldl (Tracker.track s.rule) s.tracker } := by
  induction code generalizing s with
  | nil => rfl
  | cons i rest ih => exact ih (s.track i)

/-- A walk leaves behind what it has tracked, and the settings. -/
theorem run_eq (s : Session) (data : Bytes) :
    s.run data = (Walk.analyze s.rule s.address s.romOffset (s.words data),
      { s with tracker := Walk.tracker s.rule (s.words data) }) := by
  rw [run, trackAll_eq]
  rfl

end Session

namespace Walk

/-- The words that a walk reads are those of as many bytes of its buffer. -/
theorem words_take_trace (rule : StopRule) (order : ByteOrder) (address romOffset : Int)
    (data : Bytes) :
    order.words (data.take
        (4 * (analyze rule address romOffset (order.words data)).words.toNat)) =
      walked rule (order.words data) := by
  have hcount : (analyze rule address romOffset (order.words data)).words.toNat =
      (extent rule (order.words data)).1 := by
    rw [← length_walked]
    rfl
  rw [ByteOrder.words_take, hcount, walked]

/-- Of the walks under both rules, the one under the delay-slot rule reads a leading part of what
the other reads. Over that part alone, the other notes the same registers; it also finds the same
values there, unless the delay-slot rule ignores an instruction. -/
theorem walk_rules :
    (∀ (s : Session) (data : Bytes),
      let short := (s.under .delaySlot).run data
      let long := (s.under .doubleNop).run data
      let again := (s.under .doubleNop).run (data.take (4 * short.1.words.toNat))
      RulesAgree short.1 long.1 again.1 short.2.tracker.registers again.2.tracker.registers) ∧
    ∀ (order : ByteOrder) (address : Int) (window : Bytes),
      let short := analyzeWindow .delaySlot order address window
      let long := analyzeWindow .doubleNop order address window
      let again := analyzeWindow .doubleNop order address (window.take (4 * short.words.toNat))
      RulesAgree short long again
        (Tracker.run .delaySlot (followed short.trace)).registers
        (Tracker.run .doubleNop (followed again.trace)).registers := by
  constructor
  · intro s data short long again
    have hwords : (s.under .doubleNop).words (data.take (4 * short.1.words.toNat)) =
        walked .delaySlot (s.words data) := words_take_trace .delaySlot s.order _ _ data
    have hagree := analyze_rulesAgree s.address s.romOffset (s.words data)
    rw [← hwords] at hagree
    rwa [Session.tracker_run, Session.tracker_run]
  · intro order address window short long again
    have hwords : order.words ((window.take (4 * short.words.toNat)).take Layout.windowSize) =
        walked .delaySlot (order.words (window.take Layout.windowSize)) := by
      rw [List.take_take, Nat.min_comm, ← List.take_take]
      exact words_take_trace .delaySlot order address Layout.bootOffset _
    have hagree := analyze_rulesAgree address Layout.bootOffset
      (order.words (window.take Layout.windowSize))
    have hshort : Tracker.run .delaySlot (followed short.trace) = tracker .delaySlot _ :=
      run_followed_analyze .delaySlot address Layout.bootOffset _
    have hagain : Tracker.run .doubleNop (followed again.trace) = tracker .doubleNop _ :=
      run_followed_analyze .doubleNop address Layout.bootOffset _
    rw [← hwords, ← hshort, ← hagain] at hagree
    exact hagree

/-- The law for a stub whose jump has its stack pointer completed in the delay slot. The constants
have their low halves set once, and so the values are the same under both rules. -/
theorem walk_rules_setOnce :
    let window : Bytes := ByteOrder.ofWords
      [0x3C0A8002, 0x3C1D8004, 0x254A5CC0, 0x01400008, 0x27BDF330, 0x254A0004, 0, 0]
    let short := analyzeWindow .delaySlot .big 0x80000400 window
    let again := analyzeWindow .doubleNop .big 0x80000400 (window.take (4 * short.words.toNat))
    (∀ n, Tracker.ignoredAt? .delaySlot (short.trace.map Step.instruction) n = none) ∧
      short.words = 5 ∧ again.jumpAddress = short.jumpAddress ∧
      again.initialSp = short.initialSp ∧
      ∀ r ∈ [short.jumpRegister, short.pointerRegister, .sp],
        again.provenance r = short.provenance r := by
  intro window short again
  have hcount : (short.trace.map Step.instruction).length = 5 := by decide
  have htaken : ∀ n, Tracker.ignoredAt? .delaySlot (short.trace.map Step.instruction) n = none := by
    intro n
    by_cases below : n < 5
    · revert n
      decide
    · exact Tracker.ignoredAt?_of_length_le (hcount ▸ Nat.not_lt.mp below)
  exact ⟨htaken, by decide, ((walk_rules.2 .big 0x80000400 window).taken htaken).2⟩

end Walk

end CartBoot
