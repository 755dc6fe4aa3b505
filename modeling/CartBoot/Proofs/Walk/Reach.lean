import CartBoot.Proofs.ByteOrder.Layout
import CartBoot.Proofs.Walk.Stop
import Mathlib.Data.Nat.Find

/-!
# How far a walk reads

A walk looks at the words it walks and, when it stops at the second of two zero words, at that word.
Words behind them have no part in its result, unless it goes on to the end of the window: then the
window has to end there too.
-/

namespace CartBoot.Walk

variable {rule : StopRule} {words other : List Word}

/-- The number of words that a walk looks at. -/
def reach (rule : StopRule) (words : List Word) : Nat :=
  (extent rule words).1 + if (extent rule words).2 = .secondNop then 1 else 0

/-- Whether a walk stops at an index is decided by the words up to it. -/
theorem stopAt_eq_of_agree {previous : Option Word} {i : Nat}
    (agree : ∀ j ≤ i, other[j]? = words[j]?) :
    stopAt rule previous other i = stopAt rule previous words i := by
  have hbefore : previousAt previous other i = previousAt previous words i := by
    cases i with
    | zero => rfl
    | succ i => exact agree i (Nat.le_succ i)
  rw [stopAt, stopAt, agree i (Nat.le_refl i), hbefore]

theorem lt_length_of_stopAt {previous : Option Word} {i : Nat} {reason : StopReason}
    (stop : stopAt rule previous words i = some reason) : i < words.length := by
  by_contra hlen
  rw [stopAt, List.getElem?_eq_none (Nat.not_lt.mp hlen)] at stop
  cases stop

/-- A walk ends at the first word with a reason to stop, or else with the last word. -/
theorem extent_cases (rule : StopRule) (words : List Word) :
    (∃ k reason, stopAt rule none words k = some reason ∧
      (∀ i < k, stopAt rule none words i = none) ∧ reach rule words = k + 1) ∨
    (∀ i < words.length, stopAt rule none words i = none) ∧
      extent rule words = (words.length, .endOfWindow) ∧ reach rule words = words.length := by
  by_cases stops : ∃ k, stopAt rule none words k ≠ none
  · left
    classical
    obtain ⟨reason, hstop⟩ := Option.ne_none_iff_exists'.mp (Nat.find_spec stops)
    have hgo : ∀ i < Nat.find stops, stopAt rule none words i = none :=
      fun i hi => not_not.mp (Nat.find_min stops hi)
    refine ⟨Nat.find stops, reason, hstop, hgo, ?_⟩
    rw [reach, extent_of_stopAt hstop hgo]
    by_cases hreason : reason = .secondNop <;> simp [hreason]
  · right
    have hgo : ∀ i < words.length, stopAt rule none words i = none :=
      fun i _ => not_not.mp (not_exists.mp stops i)
    have hextent := extent_of_no_stop hgo
    refine ⟨hgo, hextent, ?_⟩
    rw [reach, hextent]
    rfl

theorem reach_le_length (rule : StopRule) (words : List Word) :
    reach rule words ≤ words.length := by
  obtain ⟨k, reason, hstop, -, hreach⟩ | ⟨-, -, hreach⟩ := extent_cases rule words
  · rw [hreach]
    exact lt_length_of_stopAt hstop
  · exact Nat.le_of_eq hreach

/-- Words that agree as far as a walk reads have the same extent. -/
theorem extent_eq_of_agree (agree : ∀ i < reach rule words, other[i]? = words[i]?)
    (ends : (extent rule words).2 = .endOfWindow → other.length = words.length) :
    extent rule other = extent rule words := by
  obtain ⟨k, reason, hstop, hgo, hreach⟩ | ⟨-, hextent, hreach⟩ := extent_cases rule words
  · rw [hreach] at agree
    have hsame : ∀ i ≤ k, stopAt rule none other i = stopAt rule none words i :=
      fun i hi => stopAt_eq_of_agree fun j hj => agree j (by omega)
    have hstop' := (hsame k (Nat.le_refl k)).trans hstop
    have hgo' : ∀ i < k, stopAt rule none other i = none :=
      fun i hi => (hsame i (Nat.le_of_lt hi)).trans (hgo i hi)
    rw [extent_of_stopAt hstop hgo, extent_of_stopAt hstop' hgo']
  · rw [hreach] at agree
    have hlen : other.length = words.length := ends (by rw [hextent])
    have hwords : other = words := by
      apply List.ext_getElem?
      intro i
      by_cases hi : i < words.length
      · exact agree i hi
      · rw [List.getElem?_eq_none (by omega), List.getElem?_eq_none (by omega)]
    rw [hwords]

/-- Words that agree as far as a walk reads have the same analysis. -/
theorem analyze_eq_of_agree (address romOffset : Int)
    (agree : ∀ i < reach rule words, other[i]? = words[i]?)
    (ends : (extent rule words).2 = .endOfWindow → other.length = words.length) :
    analyze rule address romOffset other = analyze rule address romOffset words := by
  have hextent := extent_eq_of_agree agree ends
  have hwalked : walked rule other = walked rule words := by
    rw [walked, walked, hextent]
    apply List.ext_getElem?
    intro i
    rw [List.getElem?_take, List.getElem?_take]
    split
    next hi => exact agree i (by rw [reach]; omega)
    next => rfl
  simp only [analyze, tracker, hwalked, hextent]

end CartBoot.Walk
