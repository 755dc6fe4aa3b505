import CartBoot.Proofs.Walk.Reach
import CartBoot.Proofs.Walk.Rules

/-!
# Sessions that are used again

Whatever a session was used for, its settings stay, and a walk starts from a blank tracker. So a
walk tells and leaves what it would in a new session. It does not look behind the word that it stops
at either, and any other buffer with the same bytes up to there gives the same walk.
-/

namespace CartBoot

namespace Session

/-- One use of a session. -/
inductive Use where
  /-- Tracks the instruction that a word is read as. -/
  | track (w : Word)
  | run (data : Bytes)

/-- A session after one use. -/
def use (s : Session) : Use → Session
  | .track w => s.track (.decode w)
  | .run data => (s.run data).2

/-- A session after a number of uses. -/
def after (s : Session) (uses : List Use) : Session := uses.foldl use s

/-- A new session with the same settings. -/
def fresh (s : Session) : Session :=
  { address := s.address, order := s.order, rule := s.rule, romOffset := s.romOffset }

/-- No use changes the settings. -/
theorem fresh_use (s : Session) (u : Use) : (s.use u).fresh = s.fresh := by
  cases u with
  | track w => rfl
  | run data =>
    rw [use, run_eq]
    rfl

theorem fresh_after (s : Session) (uses : List Use) : (s.after uses).fresh = s.fresh := by
  induction uses generalizing s with
  | nil => rfl
  | cons u rest ih => exact (ih (s.use u)).trans (s.fresh_use u)

/-- A walk takes nothing from the session but its settings. -/
theorem run_eq_run_fresh (s : Session) (data : Bytes) : s.run data = s.fresh.run data := by
  rw [run_eq, run_eq]
  rfl

/-- A walk leaves what tracking the instructions of its trace leaves in a new session. -/
theorem run_eq_of_trace (s : Session) (data : Bytes) :
    (s.run data).2 = s.fresh.trackAll ((s.run data).1.trace.map Step.instruction) := by
  rw [run_eq, trackAll_eq, Walk.map_instruction_trace]
  rfl

end Session

/-- The number of bytes that a walk has looked at, told from its result: those of the words that it
has walked and of the second of two zero words. -/
def Analysis.bytesRead (result : Analysis) : Nat :=
  4 * result.words.toNat + if result.stopReason = .secondNop then 4 else 0

namespace Walk

theorem bytesRead_analyze (rule : StopRule) (address romOffset : Int) (words : List Word) :
    (analyze rule address romOffset words).bytesRead = 4 * reach rule words := by
  simp only [Analysis.bytesRead, analyze, length_walked, Int.toNat_natCast, reach]
  split <;> omega

/-- Buffers that agree as far as a walk looks at them have the same analysis. -/
theorem analyze_words_eq_of_agree {rule : StopRule} {order : ByteOrder} {address romOffset : Int}
    {data other : Bytes}
    (stopped : (analyze rule address romOffset (order.words data)).stopReason ≠ .endOfWindow)
    (agree : ∀ i < (analyze rule address romOffset (order.words data)).bytesRead,
      other[i]? = data[i]?) :
    analyze rule address romOffset (order.words other) =
      analyze rule address romOffset (order.words data) := by
  rw [bytesRead_analyze] at agree
  exact analyze_eq_of_agree address romOffset (order.words_eq_of_agree agree)
    fun ends => absurd ends stopped

end Walk

namespace Session

/-- A walk in a session that was used before is the walk in a new session. If the words end it, then
it is also the walk over any other buffer with the bytes that it looks at. -/
theorem run_after_uses (s : Session) (uses : List Use) (data : Bytes) :
    (s.after uses).run data = s.fresh.run data ∧
      ((s.fresh.run data).1.stopReason ≠ .endOfWindow → ∀ other : Bytes,
        (∀ i < (s.fresh.run data).1.bytesRead, other[i]? = data[i]?) →
        (s.after uses).run other = s.fresh.run data) := by
  have hused : ∀ data, (s.after uses).run data = s.fresh.run data := fun data => by
    rw [run_eq_run_fresh, fresh_after]
  refine ⟨hused data, fun stopped other agree => ?_⟩
  have hresult : (s.fresh.run other).1 = (s.fresh.run data).1 :=
    Walk.analyze_words_eq_of_agree stopped agree
  rw [hused]
  apply Prod.ext hresult
  rw [run_eq_of_trace, run_eq_of_trace, hresult]

/-- The law for a session that has tracked a jump and walked over another stub, where two zero words
end the walk and the other buffer ends right behind them. -/
theorem run_after_uses_nops :
    let s : Session := { address := 0x80000400, rule := .doubleNop }
    let uses : List Use := [.track 0x01400008, .run (ByteOrder.ofWords [0x3C1D8004, 0xAFA00000])]
    let data : Bytes := ByteOrder.ofWords [0x3C088004, 0x2508E940, 0, 0, 0x01000008]
    let other : Bytes := ByteOrder.ofWords [0x3C088004, 0x2508E940, 0, 0] ++ [0xFF]
    let result := (s.fresh.run data).1
    (s.after uses).tracker ≠ {} ∧ result.stopReason ≠ .endOfWindow ∧
      (∀ i < result.bytesRead, other[i]? = data[i]?) ∧
      (s.after uses).run other = s.fresh.run data := by
  intro s uses data other result
  have hstopped : result.stopReason ≠ .endOfWindow := by decide
  have hagree : ∀ i < result.bytesRead, other[i]? = data[i]? := by decide
  exact ⟨by decide, hstopped, hagree, (run_after_uses s uses data).2 hstopped other hagree⟩

end Session

end CartBoot
