import CartBoot.Proofs.Profile.Footprint
import CartBoot.Proofs.Walk.Reports
import CartBoot.Proofs.Walk.Selection

/-!
# Warnings of an analysis

The log of an analysis is told from its result. An analysis that writes its events as it goes ends
with the same result and the same log, also where it fails. Its warnings are those that the result
calls for: a word that is no instruction at the end of the walk, then a guessed size. An image that
is refused gives none.
-/

namespace CartBoot

/-- Computations that write events. What is written before a fault stays. -/
abbrev Logged := ExceptT Fault (StateM (List Event))

namespace Logged

variable {α β : Type}

/-- Writes events to the log. -/
def emit (events : List Event) : Logged Unit := modify (· ++ events)

/-- A result that comes without events. -/
def silently (result : Except Fault α) : Logged α := ExceptT.mk (pure result)

/-- A computation ends with a result and appends events to any log. -/
def Writes (x : Logged α) (result : Except Fault α) (events : List Event) : Prop :=
  ∀ before, x.run before = (result, before ++ events)

theorem writes_emit (events : List Event) : Writes (emit events) (.ok ()) events :=
  fun _ => rfl

theorem writes_silently (result : Except Fault α) : Writes (silently result) result [] := by
  intro before
  rw [List.append_nil]
  rfl

theorem writes_pure (a : α) : Writes (pure a) (.ok a) [] := writes_silently (.ok a)

variable {x : Logged α} {f : α → Logged β} {a : α} {result : Except Fault β} {fault : Fault}
  {front back : List Event}

/-- The second computation goes on behind the events of the first one, unless that fails. -/
theorem run_bind (x : Logged α) (f : α → Logged β) (before : List Event) :
    (x >>= f).run before =
      match x.run before with
      | (.ok a, after) => (f a).run after
      | (.error fault, after) => (.error fault, after) := by
  change (x.run >>= ExceptT.bindCont f) before = _
  simp only [bind, StateT.bind]
  cases x.run before with
  | mk result after => cases result <;> rfl

theorem Writes.bind_ok (first : Writes x (.ok a) front) (second : Writes (f a) result back) :
    Writes (x >>= f) result (front ++ back) := by
  intro before
  rw [run_bind, first before]
  simp only
  rw [second (before ++ front), List.append_assoc]

theorem Writes.bind_error (fails : Writes x (.error fault) front) :
    Writes (x >>= f) (.error fault) front := by
  intro before
  rw [run_bind, fails before]

theorem Writes.silently_bind (next : Writes (f a) result back) :
    Writes (silently (.ok a) >>= f) result back := next

end Logged

namespace Profile

open Logged

variable (options : ScanOptions) (filename : String)

/-! ## Scans that write as they go -/

/-- Identifies the boot loader of a canonical image. -/
def scanLoader (table : Cic.Table) (image : Bytes) : Logged Cic :=
  if image.length < Layout.bootOffset then throw (.truncated .ipl3 image.length)
  else do
    let checksum : Int := (Ipl3.imageChecksum image).toNat
    emit [.ipl3Checksum checksum]
    let cic ← silently (table.lookup checksum)
    emit [.ipl3Identified cic.name]
    return cic

/-- Walks over the window of an image. -/
def scanWindow (rule : StopRule) (order : ByteOrder) (address : Int) (window : Bytes) :
    Logged Analysis := do
  let words := order.words (window.take Layout.windowSize)
  emit (Walk.report rule (.start address Layout.bootOffset) words)
  emit [.registersAtStop (Walk.tracker rule words).registers]
  emit ((Walk.tracker rule words).readLog rule)
  let result := Walk.analyze rule address Layout.bootOffset words
  emit [.walked address result.words result.stopReason]
  return result

/-- The events of a size, if it is guessed. -/
def sizeLog (filename : String) (analysis : Analysis) : List Event :=
  if analysis.sizeGuessed then [.sizeGuessed filename analysis.sizeRegister] else []

/-- Analyses the boot code of a canonical image. -/
def scanBoot (size : Int) (order : ByteOrder) (header : Header) (cic : Cic) (image : Bytes) :
    Logged Profile := do
  let entrypoint := cic.correct header.entrypoint.toNat
  emit [.located filename cic.name entrypoint header.entrypoint.toNat]
  let analysis ← scanWindow options.stopRule .big entrypoint (bootCode image)
  emit (sizeLog filename analysis)
  let segmentLength := CartBoot.segmentLength analysis.bssStart entrypoint (bootCode image).length
  let classification : Classification :=
    .ofCode options.direction options.minEvidence (segment image segmentLength)
  emit [.scanned options.direction classification]
  return {
    filename, size, order, header, cic, entrypoint, segmentLength, analysis, classification }

/-- The stages behind the byte order. -/
def scanCanonical (size : Int) (order : ByteOrder) (image : Bytes) : Logged Profile := do
  let header ← silently (Header.parse image)
  let cic ← scanLoader options.cics image
  scanBoot options filename size order header cic image

/-- Analyses a raw image. -/
def scan (raw : Bytes) : Logged Profile := do
  let order ← silently (checkedOrder raw)
  emit [.ordered filename order]
  let image ← silently (canonical order raw)
  scanCanonical options filename raw.length order image

theorem writes_scanLoader (table : Cic.Table) (image : Bytes) :
    Writes (scanLoader table image) (Ipl3.identify table image) (ipl3Log table image) := by
  unfold scanLoader Ipl3.identify ipl3Log
  split
  · exact writes_silently (.error _)
  · refine (writes_emit _).bind_ok ?_
    unfold Cic.Table.lookup
    cases table.find? (Ipl3.imageChecksum image).toNat with
    | none => exact (writes_silently (.error _)).bind_error
    | some cic =>
      exact (writes_silently (.ok cic)).bind_ok ((writes_emit _).bind_ok (writes_pure cic))

theorem writes_scanWindow (rule : StopRule) (order : ByteOrder) (address : Int) (window : Bytes) :
    Writes (scanWindow rule order address window)
      (.ok (Walk.analyzeWindow rule order address window))
      (Walk.windowLog rule order address window) := by
  have hlog : Walk.windowLog rule order address window =
      Walk.report rule (.start address Layout.bootOffset)
          (order.words (window.take Layout.windowSize)) ++
        ([.registersAtStop
            (Walk.tracker rule (order.words (window.take Layout.windowSize))).registers] ++
          ((Walk.tracker rule (order.words (window.take Layout.windowSize))).readLog rule ++
            ([.walked address (Walk.analyzeWindow rule order address window).words
                (Walk.analyzeWindow rule order address window).stopReason] ++ []))) := by
    rw [Walk.windowLog, Walk.log_eq_report]
    simp only [List.append_assoc, List.append_nil]
  rw [hlog]
  exact (writes_emit _).bind_ok ((writes_emit _).bind_ok ((writes_emit _).bind_ok
    ((writes_emit _).bind_ok (writes_pure _))))

/-- An image without a header has no boot loader either. -/
theorem ipl3Log_of_headless {table : Cic.Table} {image : Bytes} {fault : Fault}
    (headless : Header.parse image = .error fault) : ipl3Log table image = [] := by
  have short : image.length < Layout.bootOffset := by
    unfold Header.parse at headless
    split at headless
    next short =>
      exact Nat.lt_trans short (by decide)
    next => cases headless
  exact if_pos short

theorem writes_scanBoot (size : Int) (order : ByteOrder) (header : Header) (cic : Cic)
    (image : Bytes) :
    Writes (scanBoot options filename size order header cic image)
      (.ok (ofLoader options filename size order header cic image))
      (bootLog options (ofLoader options filename size order header cic image)
        (bootCode image)) := by
  have hwrites : Writes (scanBoot options filename size order header cic image)
      (.ok (ofLoader options filename size order header cic image)) _ :=
    (writes_emit _).bind_ok ((writes_scanWindow _ _ _ _).bind_ok ((writes_emit _).bind_ok
      ((writes_emit _).bind_ok (writes_pure _))))
  simp only [List.append_nil, ← List.append_assoc] at hwrites
  exact hwrites

theorem writes_scanCanonical (size : Int) (order : ByteOrder) (image : Bytes) :
    Writes (scanCanonical options filename size order image)
      (ofCanonical options filename size order image)
      (ipl3Log options.cics image ++
        match ofCanonical options filename size order image with
        | .error _ => []
        | .ok p => bootLog options p (bootCode image)) := by
  unfold scanCanonical ofCanonical
  cases hheader : Header.parse image with
  | error fault =>
    have hlog : ipl3Log options.cics image = [] := ipl3Log_of_headless hheader
    rw [hlog]
    exact (writes_silently (.error fault)).bind_error
  | ok header =>
    apply Writes.silently_bind
    have hloader := writes_scanLoader options.cics image
    cases hcic : Ipl3.identify options.cics image with
    | error fault =>
      rw [hcic, ← List.append_nil (ipl3Log _ _)] at hloader
      exact hloader.bind_error
    | ok cic =>
      rw [hcic] at hloader
      exact hloader.bind_ok (writes_scanBoot options filename size order header cic image)

/-- A scan that writes as it goes ends like `ofImage` and leaves its log. -/
theorem writes_scan (raw : Bytes) :
    Writes (scan options filename raw) (ofImage options filename raw)
      (log options filename raw) := by
  simp only [log, ofImage_eq_bind, scan, canonical_eq]
  cases checkedOrder raw with
  | error fault => exact (writes_silently (.error fault)).bind_error
  | ok order =>
    apply Writes.silently_bind
    refine (writes_emit [.ordered filename order]).bind_ok ?_
    apply Writes.silently_bind
    exact writes_scanCanonical options filename raw.length order _

/-! ## Warnings -/

/-- The warnings that a result calls for. -/
def warnings (p : Profile) : List Event :=
  (p.analysis.foreignStep?.map .stopping).toList ++ sizeLog p.filename p.analysis

theorem atLevel_ipl3Log (table : Cic.Table) (image : Bytes) :
    atLevel .warning (ipl3Log table image) = [] := by
  unfold ipl3Log
  split
  · rfl
  · cases table.find? (Ipl3.imageChecksum image).toNat <;> rfl

theorem atLevel_sizeLog (file : String) (analysis : Analysis) :
    atLevel .warning (sizeLog file analysis) = sizeLog file analysis := by
  unfold sizeLog
  split <;> rfl

theorem atLevel_bootLog {p : Profile} {code : Bytes}
    (walked : p.analysis = Walk.analyzeWindow options.stopRule .big p.entrypoint code) :
    atLevel .warning (bootLog options p code) = p.warnings := by
  calc atLevel .warning (bootLog options p code)
      = atLevel .warning (Walk.windowLog options.stopRule .big p.entrypoint code) ++
          atLevel .warning (sizeLog p.filename p.analysis) := by
        rw [bootLog, atLevel_append, atLevel_append, atLevel_append]
        exact List.append_nil _
    _ = p.warnings := by
        rw [Walk.atLevel_windowLog, atLevel_sizeLog, ← walked]
        rfl

theorem atLevel_log_of_error {raw : Bytes} {fault : Fault}
    (refused : ofImage options filename raw = .error fault) :
    atLevel .warning (log options filename raw) = [] := by
  rw [log]
  cases checkedOrder raw with
  | error fault => rfl
  | ok order =>
    simp only [canonical_eq, refused]
    change atLevel .warning (ipl3Log _ _ ++ []) = []
    rw [List.append_nil, atLevel_ipl3Log]

theorem atLevel_log_of_ok {raw : Bytes} {p : Profile}
    (accepted : ofImage options filename raw = .ok p) :
    atLevel .warning (log options filename raw) = p.warnings := by
  obtain ⟨order, header, cic, starts, enough, -, -, rfl⟩ := exists_of_ofImage_eq_ok accepted
  rw [log, checkedOrder_of_magic starts, if_neg (Nat.not_lt.mpr enough)]
  simp only [canonical_eq, accepted]
  change atLevel .warning (ipl3Log _ _ ++ bootLog _ _ _) = _
  rw [atLevel_append, atLevel_ipl3Log, List.nil_append]
  exact atLevel_bootLog options rfl

theorem analyzed_of_ofImage_eq_ok {raw : Bytes} {p : Profile}
    (accepted : ofImage options filename raw = .ok p) :
    p.filename = filename ∧ ∃ words,
      p.analysis = Walk.analyze options.stopRule p.entrypoint Layout.bootOffset words := by
  obtain ⟨order, header, cic, -, -, -, -, rfl⟩ := exists_of_ofImage_eq_ok accepted
  exact ⟨rfl, _, rfl⟩

open Text.Numeral in
/-- The warnings of a log, given the outcome that it belongs to. -/
structure Warns (rule : StopRule) (filename : String) (outcome : Except Fault Profile)
    (log : List Event) : Prop where
  refused : ∀ fault, outcome = .error fault → atLevel .warning log = []
  accepted : ∀ p, outcome = .ok p → atLevel .warning log =
    (p.analysis.foreignStep?.map .stopping).toList ++
      if p.analysis.sizeGuessed then [.sizeGuessed filename p.analysis.sizeRegister] else []
  stopped : ∀ p, outcome = .ok p → (p.analysis.foreignStep?.isSome ↔
    p.analysis.stopReason = .unknownWord ∨ p.analysis.stopReason = .invalidWord)
  /-- The step that the walk stopped on is the last one of the trace. -/
  last : ∀ p s, outcome = .ok p → p.analysis.foreignStep? = some s →
    p.analysis.trace.getLast? = some s ∧
      Walk.errorReason? s.instruction = some p.analysis.stopReason
  records : ∀ e ∈ atLevel .warning log, e.level = .warning ∧
    ((∃ s, e = .stopping s ∧ e.source = .entrypoint ∧
        e.message = "Stopping at 0x" ++ hex 8 s.ramAddress ++ " (ROM 0x" ++ hex 6 s.romOffset ++
          "): " ++ s.instruction.plainText) ∨
      ∃ r, e = .sizeGuessed filename r ∧ e.source = .package ∧
        e.message = filename ++ ": BSS size is a fallback guess from " ++ r.name .o32 ++
          ", needs manual review")
  /-- Under the double-nop rule no size is guessed. -/
  settled : rule = .doubleNop → ∀ file r, .sizeGuessed file r ∉ log

theorem mem_warnings {p : Profile} {e : Event} (he : e ∈ p.warnings) :
    (∃ s, e = .stopping s) ∨
      p.analysis.sizeGuessed ∧ e = .sizeGuessed p.filename p.analysis.sizeRegister := by
  obtain he | he := List.mem_append.mp he
  · obtain ⟨s, -, rfl⟩ := Option.map_eq_some_iff.mp (Option.mem_toList.mp he)
    exact .inl ⟨s, rfl⟩
  · unfold sizeLog at he
    split at he
    next guessed => exact .inr ⟨guessed, List.mem_singleton.mp he⟩
    next => cases he

theorem sizeGuessed_mem_atLevel {log : List Event} {file : String} {r : Register}
    (mem : .sizeGuessed file r ∈ log) : .sizeGuessed file r ∈ atLevel .warning log :=
  List.mem_filter.mpr ⟨mem, rfl⟩

theorem warns_of_refused {fault : Fault} {log : List Event} (silent : atLevel .warning log = []) :
    Warns options.stopRule filename (.error fault) log := by
  constructor
  case refused => exact fun _ _ => silent
  case settled =>
    intro _ file r mem
    have hwarning := sizeGuessed_mem_atLevel mem
    rw [silent] at hwarning
    cases hwarning
  case records =>
    rw [silent]
    exact fun _ he => nomatch he
  case last => exact fun _ _ h => nomatch h
  all_goals exact fun _ h => nomatch h

theorem warns_log (raw : Bytes) :
    Warns options.stopRule filename (ofImage options filename raw) (log options filename raw) := by
  cases houtcome : ofImage options filename raw with
  | error fault =>
    exact warns_of_refused options filename (atLevel_log_of_error options filename houtcome)
  | ok p =>
    have hlog := atLevel_log_of_ok options filename houtcome
    obtain ⟨rfl, words, hwalk⟩ := analyzed_of_ofImage_eq_ok options filename houtcome
    constructor
    case refused => exact fun _ h => nomatch h
    case accepted =>
      rintro _ ⟨⟩
      exact hlog
    case stopped =>
      rintro _ ⟨⟩
      rw [← StopReason.isForeign_iff, hwalk, Walk.isSome_foreignStep?_analyze]
    case last =>
      rintro _ s ⟨⟩ foreign
      rw [hwalk] at foreign ⊢
      exact Walk.of_foreignStep?_eq_some foreign
    case records =>
      intro e he
      rw [hlog] at he
      obtain ⟨s, rfl⟩ | ⟨-, rfl⟩ := mem_warnings he
      · exact ⟨rfl, .inl ⟨s, rfl, rfl, rfl⟩⟩
      · exact ⟨rfl, .inr ⟨_, rfl, rfl, rfl⟩⟩
    case settled =>
      intro hrule file r mem
      have he := sizeGuessed_mem_atLevel mem
      rw [hlog] at he
      obtain ⟨s, hs⟩ | ⟨guessed, -⟩ := mem_warnings he
      · cases hs
      · have hguessed := hwalk ▸ guessed
        obtain ⟨hdelay, -⟩ := Tracker.guessed_iff.mp hguessed
        rw [hrule] at hdelay
        cases hdelay

/-- A scan ends like `ofImage` and leaves its log, and the warnings of that log are those that the
outcome calls for. -/
theorem scan_warns (raw : Bytes) :
    Writes (scan options filename raw) (ofImage options filename raw)
      (log options filename raw) ∧
    Warns options.stopRule filename (ofImage options filename raw) (log options filename raw) :=
  ⟨writes_scan options filename raw, warns_log options filename raw⟩

end Profile

end CartBoot
