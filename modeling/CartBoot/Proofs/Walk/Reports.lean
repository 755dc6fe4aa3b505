import CartBoot.Proofs.Walk.DelaySlot
import CartBoot.Stub.Log

/-!
# Walks that report as they go

The log of a walk is told from its words once their extent is known. A walk that stands at one word
after the other and reports there what it meets emits the same events. Of these only the end on a
word that is no instruction is a warning, so that a walk gives at most one, about its last step.
-/

namespace CartBoot

/-- The last step of a trace, if its word is no instruction. -/
def Analysis.foreignStep? (result : Analysis) : Option Step :=
  result.trace.getLast?.filter (·.instruction.isError)

theorem atLevel_append (level : Level) (front back : List Event) :
    atLevel level (front ++ back) = atLevel level front ++ atLevel level back :=
  List.filter_append ..

theorem atLevel_eq_nil {level : Level} {log : List Event}
    (quiet : ∀ e ∈ log, e.level.rank < level.rank) : atLevel level log = [] := by
  apply List.filter_eq_nil_iff.mpr
  intro e he
  simpa using quiet e he

theorem StopReason.isForeign_iff {reason : StopReason} :
    reason.isForeign ↔ reason = .unknownWord ∨ reason = .invalidWord := by
  cases reason <;> simp [isForeign]

namespace Walk

/-- Where a walk stands, and what it has seen so far. -/
structure Cursor where
  ramAddress : Int
  romOffset : Int
  inDelaySlot : Bool := false
  afterNop : Bool := false
  afterJump : Bool := false
  tracker : Tracker := {}

/-- The step over a word. -/
def Cursor.step (c : Cursor) (word : Word) : Step :=
  ⟨c.ramAddress, c.romOffset, word, c.inDelaySlot⟩

/-- The place in front of the first word. -/
def Cursor.start (ramAddress romOffset : Int) : Cursor := { ramAddress, romOffset }

/-- The place behind a word. -/
def Cursor.next (c : Cursor) (rule : StopRule) (word : Word) : Cursor :=
  let i := Instruction.decode word
  { ramAddress := (c.ramAddress + 4) % 0x100000000
    romOffset := c.romOffset + 4
    inDelaySlot := i.hasDelaySlot
    afterNop := word = 0
    afterJump := c.afterJump || i.isJump
    tracker := c.tracker.track rule i }

/-- What a walk reports from a place on. -/
def report (rule : StopRule) (c : Cursor) : List Word → List Event
  | [] => []
  | w :: rest =>
    if c.afterNop && w = 0 then [.secondNop c.romOffset]
    else
      match errorReason? (.decode w) with
      | some _ => [.stopping (c.step w)]
      | none =>
        c.tracker.log rule (.decode w) ++
          if c.afterJump && rule = .delaySlot then [] else report rule (c.next rule w) rest

variable {rule : StopRule} {words : List Word}

/-! ## The log as a report -/

/-- A walk that stops on a foreign word has read it last. -/
theorem exists_getLast?_of_isForeign {afterNop afterJump : Bool}
    (foreign : (extentFrom rule afterNop afterJump words).2.isForeign) :
    ∃ w, (words.take (extentFrom rule afterNop afterJump words).1).getLast? = some w ∧
      errorReason? (.decode w) = some (extentFrom rule afterNop afterJump words).2 := by
  induction words generalizing afterNop afterJump with
  | nil => cases foreign
  | cons w rest ih =>
    simp only [extentFrom] at foreign ⊢
    split at foreign
    next => cases foreign
    next single =>
      rw [if_neg single]
      cases herror : errorReason? (Instruction.decode w) with
      | some reason => exact ⟨w, rfl, herror⟩
      | none =>
        simp only [herror] at foreign ⊢
        split at foreign
        next => cases foreign
        next slot =>
          rw [if_neg slot]
          obtain ⟨last, hlast, hreason⟩ := ih foreign
          refine ⟨last, ?_, hreason⟩
          rw [List.take_succ_cons, List.getLast?_cons, hlast]
          rfl

theorem take_ne_nil_of_isForeign {afterNop afterJump : Bool}
    (foreign : (extentFrom rule afterNop afterJump words).2.isForeign) :
    words.take (extentFrom rule afterNop afterJump words).1 ≠ [] := by
  obtain ⟨w, hlast, -⟩ := exists_getLast?_of_isForeign foreign
  intro empty
  rw [empty] at hlast
  cases hlast

theorem stopLog_of_isForeign {reason : StopReason} (foreign : reason.isForeign) (romEnd : Int)
    (trace : List Step) :
    stopLog reason romEnd trace = (trace.getLast?.map Event.stopping).toList := by
  cases reason <;> first | rfl | cases foreign

/-- Steps in front of the last one have no part in the event of the end. -/
theorem stopLog_cons {reason : StopReason} {romEnd : Int} {trace : List Step}
    (behind : reason.isForeign → trace ≠ []) (s : Step) :
    stopLog reason romEnd (s :: trace) = stopLog reason romEnd trace := by
  cases reason with
  | unknownWord | invalidWord =>
    simp only [stopLog, List.getLast?_cons_of_ne_nil (behind rfl)]
  | _ => rfl

theorem steps_ne_nil {ramAddress romOffset : Int} {inDelaySlot : Bool} (nonempty : words ≠ []) :
    steps ramAddress romOffset inDelaySlot words ≠ [] := by
  obtain ⟨w, rest, rfl⟩ := List.exists_cons_of_ne_nil nonempty
  simp [steps]

theorem log_of_errorReason? {i : Instruction} {reason : StopReason}
    (error : errorReason? i = some reason) (t : Tracker) : t.log rule i = [] := by
  cases i <;> first | rfl | cases error

/-- From any place on, a walk reports the events that its extent tells. -/
theorem report_eq (c : Cursor) (words : List Word) :
    report rule c words =
      c.tracker.runLog rule
          ((words.take (extentFrom rule c.afterNop c.afterJump words).1).map .decode) ++
        stopLog (extentFrom rule c.afterNop c.afterJump words).2
          (c.romOffset + 4 * (extentFrom rule c.afterNop c.afterJump words).1)
          (steps c.ramAddress c.romOffset c.inDelaySlot
            (words.take (extentFrom rule c.afterNop c.afterJump words).1)) := by
  induction words generalizing c with
  | nil => rfl
  | cons w rest ih =>
    simp only [report, extentFrom]
    split
    next nops => simp [Tracker.runLog, stopLog]
    next single =>
      cases herror : errorReason? (Instruction.decode w) with
      | some reason =>
        have hlog : c.tracker.log rule (.decode w) = [] := log_of_errorReason? herror c.tracker
        have hforeign := isForeign_of_errorReason? herror
        simp only [List.take_succ_cons, List.take_zero, List.map_cons, List.map_nil,
          Tracker.runLog, hlog, List.nil_append, stopLog_of_isForeign hforeign]
        rfl
      | none =>
        simp only
        split
        next slot => simp [Tracker.runLog, stopLog]
        next =>
          have hbehind := @take_ne_nil_of_isForeign rule rest (w = 0)
            (c.afterJump || (Instruction.decode w).isJump)
          rw [ih (c.next rule w)]
          simp only [Cursor.next]
          rw [List.take_succ_cons, List.map_cons, Tracker.runLog, steps,
            stopLog_cons fun foreign => steps_ne_nil (hbehind foreign), List.append_assoc]
          congr 3
          push_cast
          omega

theorem log_eq_report (rule : StopRule) (address romOffset : Int) (words : List Word) :
    log rule address romOffset words =
      report rule (.start address romOffset) words ++
        [.registersAtStop (tracker rule words).registers] ++
        (tracker rule words).readLog rule := by
  have hwords : (analyze rule address romOffset words).words = (extent rule words).1 :=
    congrArg Nat.cast (length_walked rule words)
  rw [report_eq, log, hwords]
  rfl

/-! ## Warnings -/

theorem level_of_mem_runLog {t : Tracker} {code : List Instruction} :
    ∀ e ∈ t.runLog rule code, e.level = .debug := by
  induction code generalizing t with
  | nil => exact fun _ h => nomatch h
  | cons i code ih =>
    intro e he
    obtain he | he := List.mem_append.mp he
    · obtain ⟨r, -, rfl⟩ := List.mem_map.mp he
      rfl
    · exact ih e he

theorem level_of_mem_readLog {t : Tracker} : ∀ e ∈ t.readLog rule, e.level = .info := by
  intro e he
  unfold Tracker.readLog at he
  simp only at he
  split at he
  · obtain rfl := List.mem_singleton.mp he
    rfl
  · cases he

theorem getLast?_walked {address romOffset : Int} {s : Step}
    (last : (analyze rule address romOffset words).trace.getLast? = some s) :
    (walked rule words).getLast? = some s.word := by
  rw [← seen_analyze rule address romOffset words, Analysis.seen, List.getLast?_map, last]
  rfl

/-- The last word of a walk tells why the walk stops, if that is a foreign word. -/
theorem errorReason?_of_getLast? {address romOffset : Int} {s : Step}
    (last : (analyze rule address romOffset words).trace.getLast? = some s)
    (foreign : (extent rule words).2.isForeign) :
    errorReason? s.instruction = some (extent rule words).2 := by
  obtain ⟨w, hw, hreason⟩ := exists_getLast?_of_isForeign foreign
  obtain rfl := Option.some.inj (hw.symm.trans (getLast?_walked last))
  exact hreason

/-- The last word of a walk is foreign exactly if that is why the walk stops. -/
theorem isError_of_getLast? {address romOffset : Int} {s : Step}
    (last : (analyze rule address romOffset words).trace.getLast? = some s) :
    s.instruction.isError = (extent rule words).2.isForeign := by
  cases hreason : (extent rule words).2.isForeign with
  | true =>
    have herror := errorReason?_of_getLast? last hreason
    by_contra valid
    rw [errorReason?_eq_none_iff.mpr (Bool.eq_false_iff.mpr valid)] at herror
    cases herror
  | false =>
    obtain ⟨code, foreign, htake, hcode, -, hlen⟩ := exists_take_extentFrom rule false false words
    have hword := getLast?_walked last
    rw [← extent, if_neg (by simp [hreason])] at hlen
    rw [walked, extent, htake, List.length_eq_zero_iff.mp hlen, List.append_nil] at hword
    exact hcode _ (List.mem_of_getLast? hword)

theorem foreignStep?_analyze (rule : StopRule) (address romOffset : Int) (words : List Word) :
    (analyze rule address romOffset words).foreignStep? =
      if (extent rule words).2.isForeign
      then (analyze rule address romOffset words).trace.getLast? else none := by
  unfold Analysis.foreignStep?
  cases hlast : (analyze rule address romOffset words).trace.getLast? with
  | none => simp
  | some s => rw [Option.filter_some, isError_of_getLast? hlast]

theorem isSome_foreignStep?_analyze (rule : StopRule) (address romOffset : Int)
    (words : List Word) :
    (analyze rule address romOffset words).foreignStep?.isSome =
      (analyze rule address romOffset words).stopReason.isForeign := by
  rw [foreignStep?_analyze]
  change _ = (extent rule words).2.isForeign
  cases hreason : (extent rule words).2.isForeign with
  | false => rfl
  | true =>
    have hseen : walked rule words ≠ [] := take_ne_nil_of_isForeign hreason
    have htrace : (analyze rule address romOffset words).trace ≠ [] := steps_ne_nil hseen
    simpa using htrace

theorem of_foreignStep?_eq_some {address romOffset : Int} {s : Step}
    (foreign : (analyze rule address romOffset words).foreignStep? = some s) :
    (analyze rule address romOffset words).trace.getLast? = some s ∧
      errorReason? s.instruction = some (analyze rule address romOffset words).stopReason := by
  obtain ⟨hlast, herror⟩ := Option.filter_eq_some_iff.mp foreign
  have hstops : (extent rule words).2.isForeign := (isError_of_getLast? hlast).symm.trans herror
  exact ⟨hlast, errorReason?_of_getLast? hlast hstops⟩

theorem atLevel_stopLog (reason : StopReason) (romEnd : Int) (trace : List Step) :
    atLevel .warning (stopLog reason romEnd trace) =
      if reason.isForeign then (trace.getLast?.map .stopping).toList else [] := by
  split
  next foreign =>
    rw [stopLog_of_isForeign foreign]
    cases trace.getLast? <;> rfl
  next supported =>
    cases reason <;> first | rfl | exact absurd rfl supported

/-- A walk warns of a foreign word at its end and of nothing else. -/
theorem atLevel_log (rule : StopRule) (address romOffset : Int) (words : List Word) :
    atLevel .warning (log rule address romOffset words) =
      ((analyze rule address romOffset words).foreignStep?.map .stopping).toList := by
  have hpatched :
      atLevel .warning (Tracker.runLog rule {} ((walked rule words).map .decode)) = [] :=
    atLevel_eq_nil fun e he => by rw [level_of_mem_runLog e he]; decide
  have hread : atLevel .warning ((tracker rule words).readLog rule) = [] :=
    atLevel_eq_nil fun e he => by rw [level_of_mem_readLog e he]; decide
  rw [log, atLevel_append, atLevel_append, atLevel_append, hpatched, hread, atLevel_stopLog,
    foreignStep?_analyze, List.nil_append, List.append_nil]
  change (if (extent rule words).2.isForeign then _ else _) ++ [] = _
  rw [List.append_nil]
  split <;> rfl

theorem atLevel_windowLog (rule : StopRule) (order : ByteOrder) (address : Int) (window : Bytes) :
    atLevel .warning (windowLog rule order address window) =
      ((analyzeWindow rule order address window).foreignStep?.map .stopping).toList := by
  rw [windowLog, atLevel_append, atLevel_log]
  exact List.append_nil _

end Walk

end CartBoot
