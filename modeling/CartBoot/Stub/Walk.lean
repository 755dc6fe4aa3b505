import CartBoot.ByteOrder
import CartBoot.Stub.Analysis

/-!
# The walk over a boot stub

The words of a stub are read once, in program order. `Walk.extent` fixes how far the walk goes and
why it stops; the trace, the tracked state and the verdict on the delay slot are functions of the
words within that extent.
-/

namespace CartBoot.Walk

/-- Why a walk stops on an instruction that is none. -/
def errorReason? : Instruction → Option StopReason
  | .unknown _ => some .unknownWord
  | .invalid _ => some .invalidWord
  | _ => none

/-- The number of words that are walked and the reason for the end, given whether the last word was
zero and whether a jump was seen. The second of two zero words is not walked; a word that is no
instruction and the delay slot of the final jump are. -/
def extentFrom (rule : StopRule) (afterNop afterJump : Bool) : List Word → Nat × StopReason
  | [] => (0, .endOfWindow)
  | w :: rest =>
    if afterNop && w = 0 then (0, .secondNop)
    else
      let i := Instruction.decode w
      match errorReason? i with
      | some reason => (1, reason)
      | none =>
        if afterJump && rule = .delaySlot then (1, .delaySlot)
        else
          let (n, reason) := extentFrom rule (w = 0) (afterJump || i.isJump) rest
          (n + 1, reason)

/-- The extent of a walk from the first word. -/
def extent (rule : StopRule) (words : List Word) : Nat × StopReason :=
  extentFrom rule false false words

/-- The words that are walked. -/
def walked (rule : StopRule) (words : List Word) : List Word :=
  words.take (extent rule words).1

/-- The steps over a list of words. Addresses after the first one are those of a 32-bit machine. -/
def steps (ramAddress romOffset : Int) (inDelaySlot : Bool) : List Word → List Step
  | [] => []
  | word :: rest =>
    { ramAddress, romOffset, word, inDelaySlot } ::
      steps ((ramAddress + 4) % 0x100000000) (romOffset + 4)
        (Instruction.decode word).hasDelaySlot rest

/-- What follows the first jump. -/
def delaySlot : List Instruction → DelaySlot
  | [] => .none
  | i :: rest =>
    if i.isJump then
      match rest with
      | [] => .none
      | slot :: _ => if slot.isError then .none else if slot = .nop then .nop else .filled
    else delaySlot rest

/-- The tracked state at the end of a walk. -/
def tracker (rule : StopRule) (words : List Word) : Tracker :=
  .run rule ((walked rule words).map .decode)

/-- Walks over the words of a stub. -/
def analyze (rule : StopRule) (address romOffset : Int) (words : List Word) : Analysis :=
  let seen := walked rule words
  { Analysis.ofTracker rule (tracker rule words) with
    delaySlot := delaySlot (seen.map .decode)
    stopReason := (extent rule words).2
    words := seen.length
    trace := steps address romOffset false seen }

/-- Walks over the window of an image, whose first word is at the address. -/
def analyzeWindow (rule : StopRule) (order : ByteOrder) (address : Int) (window : Bytes) :
    Analysis :=
  analyze rule address Layout.bootOffset (order.words (window.take Layout.windowSize))

theorem extentFrom_le_length (rule : StopRule) (afterNop afterJump : Bool) (words : List Word) :
    (extentFrom rule afterNop afterJump words).1 ≤ words.length := by
  induction words generalizing afterNop afterJump with
  | nil => simp [extentFrom]
  | cons w rest ih =>
    simp only [extentFrom]
    split
    · simp
    · split
      · simp
      · split
        · simp
        · simpa using ih _ _

theorem extent_le_length (rule : StopRule) (words : List Word) :
    (extent rule words).1 ≤ words.length :=
  extentFrom_le_length rule false false words

theorem length_walked (rule : StopRule) (words : List Word) :
    (walked rule words).length = (extent rule words).1 := by
  simp [walked, extent_le_length]

@[simp]
theorem length_steps (ramAddress romOffset : Int) (inDelaySlot : Bool) (words : List Word) :
    (steps ramAddress romOffset inDelaySlot words).length = words.length := by
  induction words generalizing ramAddress romOffset inDelaySlot with
  | nil => rfl
  | cons w rest ih => simp [steps, ih]

/-- A trace holds the words that were walked. -/
@[simp]
theorem map_word_steps (ramAddress romOffset : Int) (inDelaySlot : Bool) (words : List Word) :
    (steps ramAddress romOffset inDelaySlot words).map Step.word = words := by
  induction words generalizing ramAddress romOffset inDelaySlot with
  | nil => rfl
  | cons w rest ih => simp [steps, ih]

end CartBoot.Walk
