import CartBoot.Stub.Walk

/-!
# The word at which a walk stops

Whether a walk stops at a word depends on that word and the one before it alone. The extent of a
walk is that of the first word with a reason to stop; a walk without one takes in every word.
-/

namespace CartBoot.Walk

/-- Why a walk stops at a word, given the word before it. A word that is no instruction stops it
also in the delay slot of a jump. -/
def stop? (rule : StopRule) (previous : Option Word) (w : Word) : Option StopReason :=
  if previous = some 0 ∧ w = 0 then some .secondNop
  else match errorReason? (.decode w) with
    | some reason => some reason
    | none =>
        if rule = .delaySlot ∧ previous.any (Instruction.decode · |>.isJump) then some .delaySlot
        else none

/-- The word before an index, where another word may come before the first one. -/
def previousAt (previous : Option Word) (words : List Word) : Nat → Option Word
  | 0 => previous
  | i + 1 => words[i]?

/-- Why a walk stops at an index. -/
def stopAt (rule : StopRule) (previous : Option Word) (words : List Word) (i : Nat) :
    Option StopReason :=
  words[i]?.bind (stop? rule (previousAt previous words i))

@[simp] theorem stopAt_cons_succ (rule : StopRule) (previous : Option Word) (w : Word)
    (rest : List Word) (i : Nat) :
    stopAt rule previous (w :: rest) (i + 1) = stopAt rule (some w) rest i := by
  cases i <;> rfl

/-- What the flags of a walk say about the word before. Under the delay-slot rule no jump but the
last word can have been seen; under the other rule the flag is not read. -/
structure FlagsOf (rule : StopRule) (previous : Option Word) (afterNop afterJump : Bool) :
    Prop where
  nop : afterNop = decide (previous = some 0)
  jump : rule = .delaySlot → afterJump = previous.any (Instruction.decode · |>.isJump)

variable {rule : StopRule} {previous : Option Word} {afterNop afterJump : Bool}

theorem flagsOf_start (rule : StopRule) : FlagsOf rule none false false := ⟨rfl, fun _ => rfl⟩

theorem errorReason?_ne_secondNop (i : Instruction) : errorReason? i ≠ some .secondNop := by
  cases i <;> simp [errorReason?]

/-- A walk with a reason to stop takes in the word, unless it is the second of two zero words. -/
theorem extentFrom_cons_of_stop (flags : FlagsOf rule previous afterNop afterJump) {w : Word}
    {reason : StopReason} (stop : stop? rule previous w = some reason) (rest : List Word) :
    extentFrom rule afterNop afterJump (w :: rest) =
      (if reason = .secondNop then 0 else 1, reason) := by
  obtain ⟨rfl, hjump⟩ := flags
  unfold stop? at stop
  split at stop
  next hnops =>
    cases stop
    simp [extentFrom, hnops]
  next hnops =>
    have hgo : (decide (previous = some 0) && decide (w = 0)) = false := by simpa using hnops
    cases herror : errorReason? (.decode w) with
    | some error =>
        have hne := errorReason?_ne_secondNop (.decode w)
        rw [herror] at stop hne
        cases stop
        have hreason : reason ≠ .secondNop := fun h => hne (congrArg some h)
        simp only [extentFrom, hgo, herror, Bool.false_eq_true, if_false, if_neg hreason]
    | none =>
        simp only [herror] at stop
        split at stop
        next hslot =>
          cases stop
          have hstop : (afterJump && decide (rule = .delaySlot)) = true := by
            simp [hslot.1, hjump hslot.1, hslot.2]
          simp only [extentFrom, hgo, herror, hstop, Bool.false_eq_true, if_false, if_true,
            reduceCtorEq]
        next => cases stop

/-- A walk without a reason to stop goes on with the flags of the word it has read. -/
theorem extentFrom_cons_of_go (flags : FlagsOf rule previous afterNop afterJump) {w : Word}
    (go : stop? rule previous w = none) (rest : List Word) :
    ∃ afterJump', FlagsOf rule (some w) (w = 0) afterJump' ∧
      extentFrom rule afterNop afterJump (w :: rest) =
        ((extentFrom rule (w = 0) afterJump' rest).1 + 1,
          (extentFrom rule (w = 0) afterJump' rest).2) := by
  obtain ⟨rfl, hjump⟩ := flags
  unfold stop? at go
  split at go
  next => cases go
  next hnops =>
    have hgo : (decide (previous = some 0) && decide (w = 0)) = false := by simpa using hnops
    cases herror : errorReason? (.decode w) with
    | some error =>
        rw [herror] at go
        cases go
    | none =>
        simp only [herror] at go
        split at go
        next => cases go
        next hslot =>
          have hbefore : rule = .delaySlot → afterJump = false := by
            intro hrule
            rw [hjump hrule]
            simpa [hrule] using hslot
          have hstay : (afterJump && decide (rule = .delaySlot)) = false := by
            by_cases hrule : rule = .delaySlot <;> simp [hrule, hbefore]
          refine ⟨afterJump || (Instruction.decode w).isJump, ⟨by simp, ?_⟩, ?_⟩
          · intro hrule
            simp [hbefore hrule]
          · simp only [extentFrom, hgo, herror, hstay, Bool.false_eq_true, if_false]

theorem extentFrom_of_stopAt (flags : FlagsOf rule previous afterNop afterJump)
    {words : List Word} {k : Nat} {reason : StopReason}
    (stop : stopAt rule previous words k = some reason)
    (go : ∀ i < k, stopAt rule previous words i = none) :
    extentFrom rule afterNop afterJump words =
      (if reason = .secondNop then k else k + 1, reason) := by
  induction words generalizing previous afterNop afterJump k with
  | nil => cases stop
  | cons w rest ih =>
      cases k with
      | zero => simpa using extentFrom_cons_of_stop flags stop rest
      | succ k =>
          obtain ⟨afterJump', hflags, hextent⟩ :=
            extentFrom_cons_of_go flags (go 0 (Nat.succ_pos k)) rest
          have hrest : ∀ i < k, stopAt rule (some w) rest i = none := by
            intro i hi
            have := go (i + 1) (Nat.succ_lt_succ hi)
            rwa [stopAt_cons_succ] at this
          rw [stopAt_cons_succ] at stop
          rw [hextent, ih hflags stop hrest]
          split <;> rfl

theorem extentFrom_of_no_stop (flags : FlagsOf rule previous afterNop afterJump)
    {words : List Word} (go : ∀ i < words.length, stopAt rule previous words i = none) :
    extentFrom rule afterNop afterJump words = (words.length, .endOfWindow) := by
  induction words generalizing previous afterNop afterJump with
  | nil => rfl
  | cons w rest ih =>
      obtain ⟨afterJump', hflags, hextent⟩ :=
        extentFrom_cons_of_go flags (go 0 (Nat.succ_pos rest.length)) rest
      have hrest : ∀ i < rest.length, stopAt rule (some w) rest i = none := by
        intro i hi
        have := go (i + 1) (Nat.succ_lt_succ hi)
        rwa [stopAt_cons_succ] at this
      rw [hextent, ih hflags hrest, List.length_cons]

/-- The first word with a reason to stop ends the walk. -/
theorem extent_of_stopAt {words : List Word} {k : Nat} {reason : StopReason}
    (stop : stopAt rule none words k = some reason)
    (go : ∀ i < k, stopAt rule none words i = none) :
    extent rule words = (if reason = .secondNop then k else k + 1, reason) :=
  extentFrom_of_stopAt (flagsOf_start rule) stop go

theorem extent_of_no_stop {words : List Word}
    (go : ∀ i < words.length, stopAt rule none words i = none) :
    extent rule words = (words.length, .endOfWindow) :=
  extentFrom_of_no_stop (flagsOf_start rule) go

/-! ## The reasons to stop -/

section Reasons

variable (words : List Word)

/-- The word at the index and the one before it are zero. -/
def SecondNopAt (i : Nat) : Prop :=
  1 ≤ i ∧ words[i - 1]? = some 0 ∧ words[i]? = some 0

/-- The word at the index is no instruction. -/
def ErrorAt (i : Nat) : Prop :=
  ∃ w, words[i]? = some w ∧ (Instruction.decode w).isError

/-- The word at the index is a jump. -/
def JumpAt (i : Nat) : Prop :=
  ∃ w, words[i]? = some w ∧ (Instruction.decode w).isJump

variable {words}

theorem stopAt_of_secondNopAt (rule : StopRule) {i : Nat} (nops : SecondNopAt words i) :
    stopAt rule none words i = some .secondNop := by
  obtain ⟨hi, hbefore, hw⟩ := nops
  obtain ⟨j, rfl⟩ : ∃ j, i = j + 1 := ⟨i - 1, by omega⟩
  rw [Nat.add_sub_cancel] at hbefore
  simp only [stopAt, hw, previousAt, hbefore]
  rfl

theorem previousAt_eq_zero_iff {i : Nat} {w : Word} (here : words[i]? = some w) :
    (previousAt none words i = some 0 ∧ w = 0) ↔ SecondNopAt words i := by
  cases i with
  | zero => simp [previousAt, SecondNopAt]
  | succ i => simp [previousAt, SecondNopAt, here]

theorem errorReason?_eq_none_iff {i : Instruction} :
    errorReason? i = none ↔ i.isError = false := by
  cases i <;> simp [errorReason?, Instruction.isError, Instruction.kind, Kind.isError]

theorem text_of_errorReason? {i : Instruction} {reason : StopReason}
    (error : errorReason? i = some reason) : reason.text = i.kind.name ++ " instruction" := by
  cases i <;> cases error <;> rfl

theorem stopAt_of_errorAt (rule : StopRule) {i : Nat} (error : ErrorAt words i)
    (single : ¬ SecondNopAt words i) :
    ∃ w reason, words[i]? = some w ∧ stopAt rule none words i = some reason ∧
      reason ≠ .secondNop ∧ reason.text = (Instruction.decode w).kind.name ++ " instruction" := by
  obtain ⟨w, hw, herror⟩ := error
  cases hreason : errorReason? (.decode w) with
  | none => simp [errorReason?_eq_none_iff.mp hreason] at herror
  | some reason =>
      refine ⟨w, reason, hw, ?_, ?_, text_of_errorReason? hreason⟩
      · rw [stopAt, hw, Option.bind_some, stop?, if_neg (mt (previousAt_eq_zero_iff hw).mp single),
          hreason]
      · rintro rfl
        exact errorReason?_ne_secondNop _ hreason

theorem previousAt_isJump_iff {i : Nat} :
    (previousAt none words i).any (Instruction.decode · |>.isJump) = true ↔
      ∃ j, j + 1 = i ∧ JumpAt words j := by
  cases i with
  | zero => simp [previousAt]
  | succ i => simp [previousAt, JumpAt, Option.any_eq_true]

theorem errorReason?_of_not_errorAt {i : Nat} {w : Word} (here : words[i]? = some w)
    (valid : ¬ ErrorAt words i) : errorReason? (.decode w) = none := by
  apply errorReason?_eq_none_iff.mpr
  cases herror : (Instruction.decode w).isError with
  | false => rfl
  | true => exact absurd ⟨w, here, herror⟩ valid

theorem stopAt_of_jumpAt {i : Nat} (hrule : rule = .delaySlot) (jump : JumpAt words i)
    (below : i + 1 < words.length) (single : ¬ SecondNopAt words (i + 1))
    (valid : ¬ ErrorAt words (i + 1)) :
    stopAt rule none words (i + 1) = some .delaySlot := by
  have hw := List.getElem?_eq_getElem below
  have hjump := previousAt_isJump_iff.mpr ⟨i, rfl, jump⟩
  rw [stopAt, hw, Option.bind_some, stop?, if_neg (mt (previousAt_eq_zero_iff hw).mp single),
    errorReason?_of_not_errorAt hw valid]
  exact if_pos ⟨hrule, hjump⟩

theorem stopAt_eq_none {i : Nat} (single : ¬ SecondNopAt words i) (valid : ¬ ErrorAt words i)
    (straight : rule = .delaySlot → ∀ j, j + 1 = i → ¬ JumpAt words j) :
    stopAt rule none words i = none := by
  cases hw : words[i]? with
  | none => rw [stopAt, hw, Option.bind_none]
  | some w =>
      rw [stopAt, hw, Option.bind_some, stop?, if_neg (mt (previousAt_eq_zero_iff hw).mp single),
        errorReason?_of_not_errorAt hw valid]
      apply if_neg
      rintro ⟨hrule, hjump⟩
      obtain ⟨j, hj, hat⟩ := previousAt_isJump_iff.mp hjump
      exact straight hrule j hj hat

end Reasons

end CartBoot.Walk
