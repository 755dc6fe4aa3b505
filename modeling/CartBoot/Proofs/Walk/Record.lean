import CartBoot.Proofs.ByteOrder.Layout
import CartBoot.Proofs.Walk.Stop
import CartBoot.Stub.Session
import Mathlib.Data.ENat.Lattice

/-!
# What a walk records

Three indices compete for the end of a walk: that of the second of two zero words, that of the first
word that is no instruction, and the one after the first jump. The least of them within the words
ends the walk and gives its reason, and each step of the trace is determined by its index.
-/

namespace CartBoot.Walk

/-- The least index with a property, infinite if there is none. -/
noncomputable def firstIndex (p : Nat → Prop) : ℕ∞ := ⨅ (i : Nat) (_ : p i), (i : ℕ∞)

theorem le_firstIndex_iff {p : Nat → Prop} {n : Nat} :
    (n : ℕ∞) ≤ firstIndex p ↔ ∀ i < n, ¬ p i := by
  simp only [firstIndex, le_iInf_iff, Nat.cast_le]
  constructor
  · intro h i hi hp
    exact absurd (h i hp) (Nat.not_le.mpr hi)
  · intro h i hp
    exact Nat.not_lt.mp fun hi => h i hi hp

theorem lt_firstIndex_iff {p : Nat → Prop} {n : Nat} :
    (n : ℕ∞) < firstIndex p ↔ ∀ i ≤ n, ¬ p i := by
  rw [← ENat.natCast_add_one_le_iff, ← Nat.cast_succ, le_firstIndex_iff]
  simp only [Nat.lt_succ_iff]

theorem firstIndex_eq_iff {p : Nat → Prop} {n : Nat} :
    firstIndex p = n ↔ p n ∧ ∀ i < n, ¬ p i := by
  constructor
  · intro h
    refine ⟨by_contra fun hn => ?_, le_firstIndex_iff.mp h.ge⟩
    have hnext : (n : ℕ∞) < firstIndex p := by
      apply lt_firstIndex_iff.mpr
      intro i hi
      rcases Nat.lt_or_eq_of_le hi with hlt | rfl
      · exact le_firstIndex_iff.mp h.ge i hlt
      · exact hn
    exact hnext.ne' h
  · rintro ⟨hp, hbefore⟩
    exact le_antisymm (iInf₂_le n hp) (le_firstIndex_iff.mpr hbefore)

variable (words : List Word)

noncomputable def nopEnd : ℕ∞ := firstIndex (SecondNopAt words)

noncomputable def errorEnd : ℕ∞ := firstIndex (ErrorAt words)

/-- The index after the first jump, which ends a walk under the delay-slot rule only. -/
noncomputable def slotEnd (rule : StopRule) : ℕ∞ :=
  if rule = .delaySlot then firstIndex (JumpAt words) + 1 else ⊤

/-- The result of a walk over a list of words, by the indices that compete for its end. -/
structure Records (rule : StopRule) (address romOffset : Int) (result : Analysis) : Prop where
  secondNop : ∀ n : Nat, nopEnd words = n → n ≤ errorEnd words → n ≤ slotEnd words rule →
    n < words.length → result.trace.length = n ∧ result.stopReason.text = "second nop"
  error : ∀ n : Nat, errorEnd words = n → n < nopEnd words → n ≤ slotEnd words rule →
    n < words.length → result.trace.length = n + 1 ∧ ∃ w, words[n]? = some w ∧
      result.stopReason.text = (Instruction.decode w).kind.name ++ " instruction"
  delaySlot : ∀ n : Nat, slotEnd words rule = n → n < nopEnd words → n < errorEnd words →
    n < words.length → result.trace.length = n + 1 ∧
      result.stopReason.text = "delay slot of final jump"
  endOfWindow : words.length ≤ nopEnd words → words.length ≤ errorEnd words →
    words.length ≤ slotEnd words rule →
    result.trace.length = words.length ∧ result.stopReason.text = "end of window"
  step : ∀ (i : Nat) (s : Step), result.trace[i]? = some s →
    words[i]? = some s.word ∧ s.instruction = .decode s.word ∧
    s.romOffset = romOffset + 4 * i ∧
    s.ramAddress = (if i = 0 then address else (address + 4 * i) % 0x100000000) ∧
    (s.inDelaySlot = true ↔ 1 ≤ i ∧ ∃ w, words[i - 1]? = some w ∧
      (Instruction.decode w).hasDelaySlot = true)
  words : result.words = result.trace.length

variable {words} {rule : StopRule} {address romOffset : Int}

/-! ## The competing indices -/

theorem le_slotEnd_iff {n : Nat} :
    (n : ℕ∞) ≤ slotEnd words rule ↔ rule = .delaySlot → ∀ i, i + 1 < n → ¬ JumpAt words i := by
  unfold slotEnd
  split
  next hrule =>
    cases n with
    | zero => simp
    | succ n =>
        rw [Nat.cast_succ, ENat.add_le_add_iff_right ENat.one_ne_top, le_firstIndex_iff]
        simp [hrule]
  next hrule => simp [hrule]

theorem jumpAt_of_slotEnd_eq {n : Nat} (slot : slotEnd words rule = n) :
    rule = .delaySlot ∧ ∃ i, n = i + 1 ∧ JumpAt words i := by
  unfold slotEnd at slot
  split at slot
  next hrule =>
    cases n with
    | zero => simp at slot
    | succ n =>
        rw [Nat.cast_succ] at slot
        have hjump := ENat.add_left_injective_of_ne_top ENat.one_ne_top slot
        exact ⟨hrule, n, rfl, (firstIndex_eq_iff.mp hjump).1⟩
  next => exact absurd slot.symm (ENat.natCast_ne_top n)

/-- No word before the three competing indices has a reason to stop. -/
theorem stopAt_eq_none_of_le {n : Nat} (nops : n ≤ nopEnd words) (errors : n ≤ errorEnd words)
    (slots : n ≤ slotEnd words rule) : ∀ i < n, stopAt rule none words i = none := by
  intro i hi
  apply stopAt_eq_none (le_firstIndex_iff.mp nops i hi) (le_firstIndex_iff.mp errors i hi)
  rintro hrule j rfl
  exact le_slotEnd_iff.mp slots hrule j hi

/-! ## The steps -/

theorem length_trace_analyze (rule : StopRule) (address romOffset : Int) (words : List Word) :
    (analyze rule address romOffset words).trace.length = (extent rule words).1 := by
  simp only [analyze, length_steps, length_walked]

theorem getElem?_steps (ramAddress romOffset : Int) (previous : Option Word) (words : List Word)
    (i : Nat) :
    (steps ramAddress romOffset (previous.any (Instruction.decode · |>.hasDelaySlot)) words)[i]? =
      words[i]?.map fun word =>
        { ramAddress := if i = 0 then ramAddress else (ramAddress + 4 * i) % 0x100000000
          romOffset := romOffset + 4 * i
          word
          inDelaySlot :=
            (previousAt previous words i).any (Instruction.decode · |>.hasDelaySlot) } := by
  induction words generalizing ramAddress romOffset previous i with
  | nil => rfl
  | cons w rest ih =>
      cases i with
      | zero => simp [steps, previousAt]
      | succ i =>
          have hrest := ih ((ramAddress + 4) % 0x100000000) (romOffset + 4) (some w) i
          have hprevious :
              previousAt (some w) rest i = previousAt previous (w :: rest) (i + 1) := by
            cases i <;> rfl
          rw [Option.any_some, hprevious] at hrest
          rw [steps, List.getElem?_cons_succ, hrest, List.getElem?_cons_succ]
          congr 1
          funext word
          rw [Step.mk.injEq]
          refine ⟨?_, by omega, rfl, rfl⟩
          split <;> omega

theorem step_of_getElem?_trace {i : Nat} {s : Step}
    (here : (analyze rule address romOffset words).trace[i]? = some s) :
    words[i]? = some s.word ∧ s.instruction = .decode s.word ∧
    s.romOffset = romOffset + 4 * i ∧
    s.ramAddress = (if i = 0 then address else (address + 4 * i) % 0x100000000) ∧
    (s.inDelaySlot = true ↔ 1 ≤ i ∧ ∃ w, words[i - 1]? = some w ∧
      (Instruction.decode w).hasDelaySlot = true) := by
  have htrace := getElem?_steps address romOffset none (walked rule words) i
  rw [Option.any_none] at htrace
  change (steps address romOffset false (walked rule words))[i]? = some s at here
  rw [htrace, walked, Option.map_eq_some_iff] at here
  obtain ⟨w, hw, rfl⟩ := here
  rw [List.getElem?_take] at hw
  split at hw
  next hi =>
    refine ⟨hw, rfl, rfl, rfl, ?_⟩
    cases i with
    | zero => simp [previousAt]
    | succ i =>
        simp [previousAt, List.getElem?_take_of_lt (Nat.lt_of_succ_lt hi), Option.any_eq_true]
  next => cases hw

/-- The outcome of a walk over any words. -/
theorem analyze_records (rule : StopRule) (address romOffset : Int) (words : List Word) :
    Records words rule address romOffset (analyze rule address romOffset words) := by
  have hreason : (analyze rule address romOffset words).stopReason = (extent rule words).2 := rfl
  constructor
  case secondNop =>
    intro n hn herror hslot _
    have hstop := stopAt_of_secondNopAt rule (firstIndex_eq_iff.mp hn).1
    have hextent := extent_of_stopAt hstop (stopAt_eq_none_of_le hn.ge herror hslot)
    rw [length_trace_analyze, hreason, hextent]
    exact ⟨rfl, rfl⟩
  case error =>
    intro n hn hnop hslot _
    have hsingle : ¬ SecondNopAt words n := lt_firstIndex_iff.mp hnop n (Nat.le_refl n)
    obtain ⟨w, reason, hw, hstop, hne, htext⟩ :=
      stopAt_of_errorAt rule (firstIndex_eq_iff.mp hn).1 hsingle
    have hextent := extent_of_stopAt hstop (stopAt_eq_none_of_le hnop.le hn.ge hslot)
    rw [length_trace_analyze, hreason, hextent, if_neg hne]
    exact ⟨rfl, w, hw, htext⟩
  case delaySlot =>
    intro n hn hnop herror hlen
    obtain ⟨hrule, i, rfl, hjump⟩ := jumpAt_of_slotEnd_eq hn
    have hsingle : ¬ SecondNopAt words (i + 1) := lt_firstIndex_iff.mp hnop _ (Nat.le_refl _)
    have hvalid : ¬ ErrorAt words (i + 1) := lt_firstIndex_iff.mp herror _ (Nat.le_refl _)
    have hstop := stopAt_of_jumpAt hrule hjump hlen hsingle hvalid
    have hextent := extent_of_stopAt hstop (stopAt_eq_none_of_le hnop.le herror.le hn.ge)
    rw [length_trace_analyze, hreason, hextent]
    exact ⟨rfl, rfl⟩
  case endOfWindow =>
    intro hnop herror hslot
    have hextent := extent_of_no_stop (stopAt_eq_none_of_le hnop herror hslot)
    rw [length_trace_analyze, hreason, hextent]
    exact ⟨rfl, rfl⟩
  case step => exact fun i s => step_of_getElem?_trace
  case words => simp [analyze]

/-- Walks over any buffer, bounded by a window or not, record the words that checked reads of the
buffer give. -/
theorem walk_records :
    (∀ (s : Session) (data : Bytes), ∃ words, s.order.readWords data = .ok words ∧
      Records words s.rule s.address s.romOffset (s.run data).1) ∧
    ∀ (rule : StopRule) (order : ByteOrder) (address : Int) (window : Bytes), ∃ words,
      order.readWords (window.take 0x1000) = .ok words ∧
        Records words rule address 0x1000 (analyzeWindow rule order address window) := by
  constructor
  · intro s data
    exact ⟨_, s.order.readWords_eq data, analyze_records s.rule s.address s.romOffset _⟩
  · intro rule order address window
    exact ⟨_, order.readWords_eq (window.take 0x1000), analyze_records rule address 0x1000 _⟩

end CartBoot.Walk
