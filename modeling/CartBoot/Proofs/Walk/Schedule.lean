import CartBoot.Proofs.Walk.Record
import CartBoot.Proofs.Walk.Rules

/-!
# The order of neighbouring instructions

Compilers schedule the same stub in many orders. Two instructions that build constants apart leave
the same tracked state in either order, and so do one that builds a constant and one that builds
none. A walk passes both without taking notice, so all that it tells beside its trace stays when two
neighbours of this kind change places.
-/

namespace CartBoot

/-- Two instructions that may change places: one builds a constant, and the other one builds another
constant apart from it or none at all. -/
inductive Exchangeable : Instruction → Instruction → Prop
  /-- Both build a constant, and neither reads the other's register. -/
  | apart {i j : Instruction} {r s : Register} (first : i.builds? = some r)
      (second : j.builds? = some s) (distinct : r ≠ s) (unread : j.source? ≠ some r)
      (unreading : i.source? ≠ some s) : Exchangeable i j
  /-- The other one is a trapping addition, a store or a branch, whatever registers it reads. -/
  | beside {i j : Instruction} {r : Register} (first : i.builds? = some r)
      (second : j.kind = .addi ∨ j.kind = .sw ∨ j.isBranch) : Exchangeable i j
  | symm {i j : Instruction} (other : Exchangeable i j) : Exchangeable j i

/-- The buffer with the words at an index and at the next one in each other's place. -/
def Bytes.exchange (index : Nat) (bytes : Bytes) : Bytes :=
  bytes.take (4 * index) ++ ByteOrder.slice bytes (index + 1) ++ ByteOrder.slice bytes index ++
    bytes.drop (4 * (index + 2))

theorem ByteOrder.words_take_window (order : ByteOrder) (window : Bytes) :
    order.words (window.take Layout.windowSize) = (order.words window).take 0x400 :=
  order.words_take window 0x400

/-- The words of a buffer whose bytes have changed places have done so. -/
theorem ByteOrder.words_exchange (order : ByteOrder) {bytes : Bytes} {index : Nat}
    (inside : index + 1 < (order.words bytes).length) :
    ∃ front v w back, front.length = index ∧ order.words bytes = front ++ v :: w :: back ∧
      order.words (bytes.exchange index) = front ++ w :: v :: back := by
  match bytes, index with
  | a :: b :: c :: d :: a' :: b' :: c' :: d' :: rest, 0 =>
    refine ⟨[], order.word a b c d, order.word a' b' c' d', order.words rest, rfl, ?_, ?_⟩
    · rw [words_cons, words_cons, List.nil_append]
    · change order.words (a' :: b' :: c' :: d' :: a :: b :: c :: d :: rest) = _
      rw [words_cons, words_cons, List.nil_append]
  | a :: b :: c :: d :: rest, index + 1 =>
    have hrest : index + 1 < (order.words rest).length := by
      simpa using inside
    obtain ⟨front, v, w, back, hlen, hwords, hexchanged⟩ := words_exchange order hrest
    have hcut : Bytes.exchange (index + 1) (a :: b :: c :: d :: rest) =
        a :: b :: c :: d :: Bytes.exchange index rest := by
      simp [Bytes.exchange, slice_succ, Nat.mul_succ]
    refine ⟨order.word a b c d :: front, v, w, back, congrArg Nat.succ hlen, ?_, ?_⟩
    · rw [words_cons, hwords, List.cons_append]
    · rw [hcut, words_cons, hexchanged, List.cons_append]
  | [], _ | [_], _ | [_, _], _ | [_, _, _], _ => simp at inside
  | [_, _, _, _], 0 | [_, _, _, _, _], 0 | [_, _, _, _, _, _], 0 | [_, _, _, _, _, _, _], 0 =>
    simp at inside

/-- A register file is told by its slots. -/
theorem RegisterFile.ext_slot {file other : RegisterFile} (same : ∀ r, file.slot r = other.slot r) :
    file = other := by
  obtain ⟨slots⟩ := file
  obtain ⟨others⟩ := other
  congr 1
  ext1 r hr
  exact same ⟨r, hr⟩

namespace Tracker

variable {rule : StopRule} {i j : Instruction}

/-- A tracker is told by its registers and by what is known beside them. -/
theorem eq_of_roles {t u : Tracker} (registers : t.registers = u.registers)
    (roles : t.roles = u.roles) : t = u := by
  obtain ⟨_, _, _, _, _, _⟩ := t
  obtain ⟨_, _, _, _, _, _⟩ := u
  cases registers
  injection roles
  subst_vars
  rfl

theorem builds?_eq_none_of_kind (aside : j.kind = .addi ∨ j.kind = .sw ∨ j.isBranch) :
    j.builds? = none := by
  cases j <;> first | rfl | simp [Instruction.kind, Instruction.isBranch, Kind.isBranch] at aside

/-- An instruction that does not build the source of another leaves the source as it is. -/
theorem sourceValue_track (t : Tracker) (apart : i.builds? = none ∨ j.source? ≠ i.builds?) :
    (t.track rule i).sourceValue j = t.sourceValue j := by
  rw [sourceValue, sourceValue]
  cases hsource : j.source? with
  | none => rfl
  | some s =>
    rw [Option.elim_some, Option.elim_some, RegisterFile.value, slot_track, if_neg]
    · rfl
    · rintro ⟨builds, -⟩
      obtain hnone | hne := apart
      · rw [hnone] at builds
        cases builds
      · exact hne (hsource.trans builds.symm)

/-- Exchangeable instructions have the same effect in either order. -/
theorem track_comm (t : Tracker) (exchange : Exchangeable i j) :
    (t.track rule i).track rule j = (t.track rule j).track rule i := by
  induction exchange with
  | symm _ ih => exact ih.symm
  | @apart i j r s first second distinct unread unreading =>
    have hi : (t.track rule j).sourceValue i = t.sourceValue i :=
      sourceValue_track t (.inr (second ▸ unreading))
    have hj : (t.track rule i).sourceValue j = t.sourceValue j :=
      sourceValue_track t (.inr (first ▸ unread))
    -- Each of the two builds its register from a source that the other leaves alone.
    apply eq_of_roles
    · apply RegisterFile.ext_slot
      intro q
      rw [slot_track, slot_track, slot_track, slot_track, hi, hj, first, second]
      by_cases hr : r = q
      · subst hr
        simp [distinct.symm]
      · simp [hr]
    · rw [roles_track_of_builds?_eq rule _ second, roles_track_of_builds?_eq rule _ first,
        roles_track_of_builds?_eq rule _ first, roles_track_of_builds?_eq rule _ second]
  | @beside i j r first second =>
    have hstill := builds?_eq_none_of_kind second
    have hi : (t.track rule j).sourceValue i = t.sourceValue i := sourceValue_track t (.inl hstill)
    apply eq_of_roles
    · apply RegisterFile.ext_slot
      intro q
      rw [slot_track, slot_track, slot_track, slot_track, hi, hstill]
      simp
    · rw [roles_track_of_builds?_eq_none rule _ hstill, roles_track_of_builds?_eq rule _ first,
        roles_track_of_builds?_eq rule _ first, roles_track_of_builds?_eq_none rule _ hstill]

theorem run_exchange (exchange : Exchangeable i j) (front back : List Instruction) :
    run rule (front ++ j :: i :: back) = run rule (front ++ i :: j :: back) := by
  simp only [run, List.foldl_append, List.foldl_cons, track_comm _ exchange]

end Tracker

namespace Walk

/-- An instruction that a walk passes without taking notice. -/
structure Plain (i : Instruction) : Prop where
  solid : i ≠ .nop
  valid : i.isError = false
  falls : i.isJump = false

theorem plain_of_builds? {i : Instruction} {r : Register} (builds : i.builds? = some r) :
    Plain i := by
  cases i with
  | lui | addiu | ori => exact ⟨nofun, rfl, rfl⟩
  | _ => cases builds

theorem plain_of_kind {i : Instruction} (aside : i.kind = .addi ∨ i.kind = .sw ∨ i.isBranch) :
    Plain i := by
  cases i with
  | addi | sw | beq | bne | beqz | bnez | b => exact ⟨nofun, rfl, rfl⟩
  | _ => simp [Instruction.kind, Instruction.isBranch, Kind.isBranch] at aside

theorem plain_of_exchangeable {i j : Instruction} (exchange : Exchangeable i j) :
    Plain i ∧ Plain j := by
  induction exchange with
  | apart first second => exact ⟨plain_of_builds? first, plain_of_builds? second⟩
  | beside first second => exact ⟨plain_of_builds? first, plain_of_kind second⟩
  | symm _ ih => exact ih.symm

variable {rule : StopRule} {v w : Word}

/-! ## Extents -/

/-- A plain word changes nothing for the next one but that a zero word was not the last. -/
theorem extentFrom_cons_of_plain (plain : Plain (.decode w)) (afterNop afterJump : Bool)
    (rest : List Word) :
    extentFrom rule afterNop afterJump (w :: rest) =
      if afterJump && rule = .delaySlot then (1, .delaySlot)
      else ((extentFrom rule false afterJump rest).1 + 1,
        (extentFrom rule false afterJump rest).2) := by
  have hzero : decide (w = 0) = false :=
    decide_eq_false fun zero => plain.solid ((Instruction.decode_eq_nop_iff w).mpr zero)
  have hpassed : ends afterNop w = false := by
    rw [ends, hzero, plain.valid, Bool.and_false, Bool.or_false]
  rw [extentFrom_cons_of_passed hpassed, hzero, plain.falls, Bool.or_false]

theorem extentFrom_exchange (hv : Plain (.decode v)) (hw : Plain (.decode w))
    (afterNop afterJump : Bool) (front back : List Word) :
    extentFrom rule afterNop afterJump (front ++ w :: v :: back) =
      extentFrom rule afterNop afterJump (front ++ v :: w :: back) := by
  induction front generalizing afterNop afterJump with
  | nil => simp only [List.nil_append, extentFrom_cons_of_plain hv, extentFrom_cons_of_plain hw]
  | cons u front ih => simp only [List.cons_append, extentFrom, ih]

/-! ## Delay slots -/

/-- The verdict on a delay slot is the same for all plain instructions. -/
theorem delaySlot_exchange {i j : Instruction} (hi : Plain i) (hj : Plain j)
    (front back : List Instruction) :
    delaySlot (front ++ j :: i :: back) = delaySlot (front ++ i :: j :: back) := by
  induction front with
  | nil =>
    simp only [List.nil_append, delaySlot_cons_of_falls hi.falls,
      delaySlot_cons_of_falls hj.falls]
  | cons u front ih =>
    cases hu : u.isJump with
    | false => rw [List.cons_append, List.cons_append, delaySlot_cons_of_falls hu, ih,
        delaySlot_cons_of_falls hu]
    | true =>
      cases front with
      | nil =>
        simp only [List.cons_append, List.nil_append, delaySlot, hu, hi.valid, hj.valid, hi.solid,
          hj.solid, Bool.false_eq_true, if_true, if_false]
      | cons slot front => simp only [List.cons_append, delaySlot, hu, if_true]

/-! ## Walks -/

/-- The result of a walk before and after two neighbouring words have changed places. -/
structure Exchanged (index : Nat) (result other : Analysis) : Prop where
  same : { other with trace := result.trace } = result
  words : ∃ front v w back, front.length = index ∧
    result.trace.map Step.word = front ++ v :: w :: back ∧
    other.trace.map Step.word = front ++ w :: v :: back

theorem take_of_inside {front back : List Word} {n : Nat} (inside : front.length + 1 < n) :
    (front ++ v :: w :: back).take n = front ++ v :: w :: back.take (n - front.length - 2) := by
  obtain ⟨m, rfl⟩ : ∃ m, n = front.length + (m + 2) := ⟨n - (front.length + 2), by omega⟩
  rw [List.take_length_add_append, Nat.add_sub_cancel_left, Nat.add_sub_cancel]
  rfl

theorem analyze_exchange (address romOffset : Int) {front back : List Word}
    (inside : front.length + 1 < (extent rule (front ++ v :: w :: back)).1)
    (exchange : Exchangeable (.decode v) (.decode w)) :
    Exchanged front.length (analyze rule address romOffset (front ++ v :: w :: back))
        (analyze rule address romOffset (front ++ w :: v :: back)) ∧
      tracker rule (front ++ w :: v :: back) = tracker rule (front ++ v :: w :: back) := by
  obtain ⟨hv, hw⟩ := plain_of_exchangeable exchange
  have hextent : extent rule (front ++ w :: v :: back) = extent rule (front ++ v :: w :: back) :=
    extentFrom_exchange hv hw false false front back
  have hwalked : walked rule (front ++ v :: w :: back) = front ++ v :: w :: _ :=
    take_of_inside inside
  have hwalked' : walked rule (front ++ w :: v :: back) = front ++ w :: v :: _ :=
    (congrArg (List.take · _) (congrArg Prod.fst hextent)).trans (take_of_inside inside)
  have htracker :
      tracker rule (front ++ w :: v :: back) = tracker rule (front ++ v :: w :: back) := by
    rw [tracker, tracker, hwalked, hwalked']
    simp only [List.map_append, List.map_cons]
    exact Tracker.run_exchange exchange _ _
  have hslot : delaySlot ((walked rule (front ++ w :: v :: back)).map .decode) =
      delaySlot ((walked rule (front ++ v :: w :: back)).map .decode) := by
    rw [hwalked, hwalked']
    simp only [List.map_append, List.map_cons]
    exact delaySlot_exchange hv hw _ _
  have hlength : (walked rule (front ++ w :: v :: back)).length =
      (walked rule (front ++ v :: w :: back)).length := by
    rw [length_walked, length_walked, hextent]
  have hseen := (map_word_steps address romOffset false _).trans hwalked
  have hseen' := (map_word_steps address romOffset false _).trans hwalked'
  refine ⟨⟨?_, front, v, w, _, rfl, hseen, hseen'⟩, htracker⟩
  simp only [analyze, htracker, hslot, hextent, hlength]

/-- A walk over words of which two neighbouring ones have changed places. -/
theorem analyze_exchange_steps {address romOffset : Int} {words other front back : List Word}
    (split : words = front ++ v :: w :: back) (exchanged : other = front ++ w :: v :: back)
    {first second : Step}
    (here : (analyze rule address romOffset words).trace[front.length]? = some first)
    (next : (analyze rule address romOffset words).trace[front.length + 1]? = some second)
    (exchange : Exchangeable first.instruction second.instruction) :
    Exchanged front.length (analyze rule address romOffset words)
        (analyze rule address romOffset other) ∧
      tracker rule other = tracker rule words := by
  subst split exchanged
  have hinside := (List.getElem?_eq_some_iff.mp next).1
  rw [length_trace_analyze] at hinside
  have hfirst := (step_of_getElem?_trace here).1
  have hsecond := (step_of_getElem?_trace next).1
  rw [List.getElem?_append_right (by omega)] at hfirst hsecond
  simp only [Nat.sub_self, Nat.add_sub_cancel_left, List.getElem?_cons_zero,
    List.getElem?_cons_succ, Option.some.injEq] at hfirst hsecond
  rw [Step.instruction, Step.instruction, ← hfirst, ← hsecond] at exchange
  exact analyze_exchange address romOffset hinside exchange

/-- When two neighbouring instructions of a trace that may change places do so in the buffer, only
the trace of the result changes. -/
theorem walk_exchange :
    (∀ (s : Session) (data : Bytes) (index : Nat) (first second : Step),
      (s.run data).1.trace[index]? = some first →
      (s.run data).1.trace[index + 1]? = some second →
      Exchangeable first.instruction second.instruction →
      Exchanged index (s.run data).1 (s.run (data.exchange index)).1 ∧
        (s.run (data.exchange index)).2 = (s.run data).2) ∧
    ∀ (rule : StopRule) (order : ByteOrder) (address : Int) (window : Bytes) (index : Nat)
      (first second : Step),
      (analyzeWindow rule order address window).trace[index]? = some first →
      (analyzeWindow rule order address window).trace[index + 1]? = some second →
      Exchangeable first.instruction second.instruction →
      Exchanged index (analyzeWindow rule order address window)
        (analyzeWindow rule order address (window.exchange index)) := by
  constructor
  · intro s data index first second here next exchange
    have hinside := (List.getElem?_eq_some_iff.mp (step_of_getElem?_trace next).1).1
    obtain ⟨front, v, w, back, rfl, hwords, hexchanged⟩ := s.order.words_exchange hinside
    obtain ⟨hresult, htracker⟩ := analyze_exchange_steps hwords hexchanged here next exchange
    refine ⟨hresult, ?_⟩
    rw [s.run_eq, s.run_eq, Session.words, htracker]
    rfl
  · intro rule order address window index first second here next exchange
    have hinside := (List.getElem?_eq_some_iff.mp (step_of_getElem?_trace next).1).1
    rw [order.words_take_window, List.length_take, Nat.lt_min] at hinside
    obtain ⟨front, v, w, back, rfl, hwords, hexchanged⟩ := order.words_exchange hinside.2
    have hwindow := (order.words_take_window window).trans
      (hwords ▸ take_of_inside hinside.1)
    have hexchangedWindow := (order.words_take_window (window.exchange front.length)).trans
      (hexchanged ▸ take_of_inside hinside.1)
    exact (analyze_exchange_steps hwindow hexchangedWindow here next exchange).1

/-- The law for the size of a loop that is counted down before the size is loaded. -/
theorem walk_exchange_counter :
    let window : Bytes := ByteOrder.ofWords
      [0x3C088004, 0x2508E940, 0x24095D50, 0x2129FFF8, 0xAD000000, 0x1520FFFD, 0x21080008,
        0x03E00008, 0]
    let result := analyzeWindow .delaySlot .big 0x80000400 window
    let first : Step := ⟨0x80000408, 0x1008, 0x24095D50, false⟩
    let second : Step := ⟨0x8000040C, 0x100C, 0x2129FFF8, false⟩
    result.trace[2]? = some first ∧ result.trace[3]? = some second ∧
      Exchangeable first.instruction second.instruction ∧
      Exchanged 2 result (analyzeWindow .delaySlot .big 0x80000400 (window.exchange 2)) := by
  intro window result first second
  have hfirst : result.trace[2]? = some first := by decide
  have hsecond : result.trace[3]? = some second := by decide
  have hexchange : Exchangeable first.instruction second.instruction :=
    .beside (r := 9) (by decide) (.inl (by decide))
  exact ⟨hfirst, hsecond, hexchange,
    walk_exchange.2 .delaySlot .big 0x80000400 window 2 first second hfirst hsecond hexchange⟩

end Walk

end CartBoot
