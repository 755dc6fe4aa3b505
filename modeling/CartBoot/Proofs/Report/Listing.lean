import CartBoot.Proofs.Instruction.Text
import CartBoot.Proofs.Text.Lines
import CartBoot.Report
import Mathlib.Data.List.Forall2

/-!
# Listings read back

A listing has one line for each step of its trace, and a line tells its step. Columns of other
widths and other register names change the line but not what it tells. Only the width of the
mnemonic column can keep a listing from being written.
-/

namespace CartBoot

open Text Text.Numeral

/-! ## Widths -/

section Widths

variable (room : Nat) {width : Int}

theorem columnWidth_of_excessive (excessive : 0x8000000000000000 ≤ width) :
    columnWidth room width = .error .excessiveWidth :=
  if_pos (by omega)

/-- A width that can be counted is refused only if there is no room for the column. -/
theorem columnWidth_of_counted (lower : 0 ≤ width) (counted : width < 0x8000000000000000) :
    columnWidth room width =
      if room < width.toNat then .error .outOfMemory else .ok width.toNat := by
  rw [columnWidth, if_neg (by omega), if_neg (by omega)]

/-- The column of a checked width is the width. -/
theorem eq_toNat_of_columnWidth {column : Nat} (checked : columnWidth room width = .ok column) :
    column = width.toNat := by
  unfold columnWidth at checked
  split at checked
  · cases checked
  · split at checked
    · cases checked
    · split at checked
      · cases checked
      · exact (Except.ok.inj checked).symm

end Widths

/-! ## Texts of one line -/

theorem Kind.oneLine_name (kind : Kind) : OneLine kind.name := by
  cases kind <;> decide

theorem Register.oneLine_name (abi : Abi) (r : Register) : OneLine (r.name abi) := by
  revert r
  cases abi <;> decide +kernel

namespace Statement

theorem oneLine_registerText (abi : Abi) (operand : Option Register) :
    OneLine (registerText abi operand) := by
  cases operand with
  | none => exact oneLine_empty
  | some r => exact Register.oneLine_name abi r

theorem oneLine_offsetText (s : Statement) : OneLine s.offsetText := oneLine_signedHex _

theorem oneLine_operandText (s : Statement) (abi : Abi) : OneLine (s.operandText abi) := by
  have separators : OneLine "0x" ∧ OneLine ", " ∧ OneLine "(" ∧ OneLine ")" ∧ OneLine "(op: 0b" ∧
      OneLine ", word: " := by decide
  simp only [operandText]
  cases s.kind.layout with
  | none => exact oneLine_empty
  | _ =>
    simp only [oneLine_append_iff, immediateText, oneLine_registerText, oneLine_offsetText,
      oneLine_hex, oneLine_binary, separators, and_self]

theorem oneLine_text (s : Statement) (column : Nat) (abi : Abi) : OneLine (s.text column abi) := by
  have hpadding : OneLine (String.ofList (List.replicate (column - s.kind.name.length) ' ')) := by
    rw [oneLine_ofString_iff, String.toList_ofList]
    intro c hc
    rw [List.eq_of_mem_replicate hc]
    decide
  simp only [text]
  split
  next => exact s.kind.oneLine_name
  next =>
    simp only [oneLine_append_iff]
    exact ⟨⟨⟨s.kind.oneLine_name, hpadding⟩, by decide⟩, oneLine_operandText s abi⟩

/-- A statement starts with its mnemonic. -/
theorem head?_text_ne (s : Statement) (column : Nat) (abi : Abi) :
    (s.text column abi).toList.head? ≠ some ' ' := by
  have hname : s.kind.name.toList.head? ≠ some ' ' ∧ s.kind.name.toList ≠ [] := by
    cases s.kind <;> decide
  simp only [text]
  split
  next => exact hname.1
  next =>
    simp only [String.toList_append, List.append_assoc]
    rw [List.head?_append_of_ne_nil _ hname.2]
    exact hname.1

end Statement

/-! ## The step of a line -/

namespace Step

theorem oneLine_line (column : Nat) (abi : Abi) (s : Step) : OneLine (s.line column abi) := by
  have hindent : OneLine s.indent := by
    unfold indent
    split <;> decide
  have separators : OneLine "/* " ∧ OneLine " " ∧ OneLine " */" := by decide
  have htext : OneLine (s.instruction.text column abi) := Statement.oneLine_text _ _ _
  simp only [line, margin, oneLine_append_iff, oneLine_hex, separators, hindent, htext, and_self]

theorem line_ne_empty (column : Nat) (abi : Abi) (s : Step) : s.line column abi ≠ "" := by
  simp [line, margin, String.append_eq_empty_iff]

theorem tokens_line (column : Nat) (abi : Abi) (s : Step) :
    tokens (s.line column abi) =
      ["/*", hex 8 s.ramAddress, hex 6 s.romOffset, hex 8 s.word.toNat, "*/"] ++
        tokens (s.instruction.text column abi) := by
  have hgroups : s.line column abi = "/*" ++ " " ++ hex 8 s.ramAddress ++ " " ++
      hex 6 s.romOffset ++ " " ++ hex 8 s.word.toNat ++ " " ++ "*/" ++ s.indent ++
        s.instruction.text column abi := by
    simp [line, margin, ← String.toList_inj]
  have hindent : IsGap s.indent ∧ s.indent ≠ "" := by
    unfold indent
    split <;> decide
  have hmarks : tokens "/*" = ["/*"] ∧ tokens "*/" = ["*/"] := by decide
  rw [hgroups, tokens_append_gap_append hindent.1 hindent.2]
  simp (disch := decide) only [tokens_append_gap_append, tokens_hex, hmarks, List.cons_append,
    List.nil_append]

/-- The one blank more in front of an instruction in a delay slot is told from its mnemonic. -/
theorem indented_ne {front back : String} (solid : back.toList.head? ≠ some ' ') :
    "      " ++ front ≠ "     " ++ back := by
  intro h
  have hwide : "      " ++ front = "     " ++ (" " ++ front) := by
    rw [← String.append_assoc]
    rfl
  have hback : " " ++ front = back := (String.append_right_inj _).mp (hwide.symm.trans h)
  apply solid
  rw [← hback, String.toList_append]
  rfl

theorem indent_inj {s t : Step} {front back : String} (hfront : front.toList.head? ≠ some ' ')
    (hback : back.toList.head? ≠ some ' ') (h : s.indent ++ front = t.indent ++ back) :
    s.inDelaySlot = t.inDelaySlot := by
  unfold indent at h
  cases hs : s.inDelaySlot <;> cases ht : t.inDelaySlot <;> rw [hs, ht] at h
  case false.true => exact absurd h.symm (indented_ne hfront)
  case true.false => exact absurd h (indented_ne hback)


/-- A line tells its step, whatever the widths of the columns and the names of the registers. -/
theorem eq_of_line_eq {column column' : Nat} {abi abi' : Abi} {s t : Step}
    (h : s.line column abi = t.line column' abi') : s = t := by
  have htokens := congrArg tokens h
  rw [tokens_line, tokens_line] at htokens
  simp only [List.cons_append, List.nil_append, List.cons.injEq, true_and, hex_inj] at htokens
  obtain ⟨hram, hrom, hword, -⟩ := htokens
  have hslot : s.inDelaySlot = t.inDelaySlot := by
    simp only [line, margin, hram, hrom, hword, String.append_assoc, String.append_right_inj] at h
    exact indent_inj (Statement.head?_text_ne _ _ _) (Statement.head?_text_ne _ _ _) h
  cases s
  cases t
  simp only [Step.mk.injEq]
  exact ⟨hram, hrom, BitVec.eq_of_toNat_eq (Int.ofNat_inj.mp hword), hslot⟩

end Step

/-! ## The trace of a listing -/

theorem eq_of_map_line_eq {column column' : Nat} {abi abi' : Abi} {steps other : List Step}
    (h : steps.map (Step.line column abi) = other.map (Step.line column' abi')) :
    steps = other := by
  have hlines : List.Forall₂ (fun s t => s.line column abi = t.line column' abi') steps other := by
    rw [← List.forall₂_map_right_iff, ← List.forall₂_map_left_iff, List.forall₂_eq_eq_eq]
    exact h
  rw [← List.forall₂_eq_eq_eq]
  exact hlines.imp fun _ _ => Step.eq_of_line_eq

namespace Analysis

variable (a : Analysis)

theorem lines_listingText (column : Nat) (abi : Abi) :
    Text.lines (a.listingText column abi) =
      (a.trace.map (Step.line column abi)).map Text.ofString := by
  rw [listingText, ofString_intercalate]
  apply lines_intercalate
  rw [List.forall_mem_map, List.forall_mem_map]
  intro s _
  refine ⟨?_, s.oneLine_line column abi⟩
  intro empty
  exact s.line_ne_empty column abi (ofString_inj.mp empty)

theorem listingText_eq_empty_iff (column : Nat) (abi : Abi) :
    a.listingText column abi = "" ↔ a.trace = [] := by
  constructor
  · intro empty
    have hlines := a.lines_listingText column abi
    rw [empty] at hlines
    exact List.map_eq_nil_iff.mp (List.map_eq_nil_iff.mp hlines.symm)
  · intro silent
    rw [listingText, silent]
    rfl

theorem listing_of_silent (silent : a.trace = []) (room : Nat) (config : ReportConfig) :
    a.listing room config = .ok "" := by
  rw [listing, silent]
  rfl

theorem listing_of_steps (steps : a.trace ≠ []) (room : Nat) (config : ReportConfig) :
    a.listing room config = (columnWidth room config.width).bind fun column =>
      if a.neededRoom column config.abi ≤ room then .ok (a.listingText column config.abi)
      else .error .outOfMemory := by
  rw [listing, if_neg (by simpa using steps)]
  rfl

/-- A listing that is written has the column that is asked for. -/
theorem eq_listingText_of_listing {room : Nat} {config : ReportConfig} {text : String}
    (written : a.listing room config = .ok text) :
    text = a.listingText config.width.toNat config.abi := by
  by_cases silent : a.trace = []
  · rw [a.listing_of_silent silent] at written
    rw [(a.listingText_eq_empty_iff _ _).mpr silent]
    exact (Except.ok.inj written).symm
  · rw [a.listing_of_steps silent] at written
    cases hcolumn : columnWidth room config.width with
    | error fault =>
      rw [hcolumn] at written
      cases written
    | ok column =>
      rw [hcolumn, Except.bind] at written
      split at written
      · rw [← eq_toNat_of_columnWidth room hcolumn]
        exact (Except.ok.inj written).symm
      · cases written

/-! ## Room -/

section Room

variable {room : Nat} (column : Nat) (abi : Abi)

/-- Lines with their ends are as long as their join with one more end. -/
theorem foldl_lineLength (first : Step) (steps : List Step) (done : Nat) :
    (first :: steps).foldl (fun total step => total + step.lineLength column abi + 1) done =
      done + ("\n".intercalate ((first :: steps).map (Step.line column abi))).length + 1 := by
  induction steps generalizing first done with
  | nil =>
    rw [List.map_singleton, String.intercalate_singleton, Step.length_line]
    rfl
  | cons next steps ih =>
    have hend : "\n".length = 1 := rfl
    rw [List.foldl_cons, ih]
    simp only [List.map_cons, String.intercalate_cons_cons, String.length_append, Step.length_line,
      hend]
    omega

theorem length_listingText : (a.listingText column abi).length = a.listingLength column abi := by
  rw [listingText, listingLength]
  cases a.trace with
  | nil => rfl
  | cons first steps =>
    rw [foldl_lineLength]
    omega

theorem foldl_max_le_iff {f : Step → Nat} {steps : List Step} {most : Nat} :
    steps.foldl (fun most step => max most (f step)) most ≤ room ↔
      most ≤ room ∧ ∀ step ∈ steps, f step ≤ room := by
  induction steps generalizing most with
  | nil => simp
  | cons step steps ih =>
    rw [List.foldl_cons, ih, Nat.max_le, List.forall_mem_cons, and_assoc]

/-- A listing needs room for itself and for each of its statements with the blanks at its end. -/
theorem neededRoom_le_iff :
    a.neededRoom column abi ≤ room ↔
      (a.listingText column abi).length ≤ room ∧
        ∀ step ∈ a.trace, step.instruction.statement.paddedLength column abi ≤ room := by
  rw [neededRoom, foldl_max_le_iff, length_listingText]

/-- A column needs room of its own if there is a statement to stand in it. -/
theorem le_neededRoom (steps : a.trace ≠ []) : column ≤ a.neededRoom column abi := by
  obtain ⟨step, hstep⟩ := List.exists_mem_of_ne_nil _ steps
  have hpadded := ((a.neededRoom_le_iff column abi).mp (Nat.le_refl _)).2 step hstep
  rw [Statement.paddedLength] at hpadded
  omega

end Room

/-- Steps in a column that can be counted are written exactly if there is room for them. -/
theorem listing_of_counted (steps : a.trace ≠ []) (room : Nat) {config : ReportConfig}
    (lower : 0 ≤ config.width) (counted : config.width < 0x8000000000000000) :
    a.listing room config =
      if a.neededRoom config.width.toNat config.abi ≤ room then
        .ok (a.listingText config.width.toNat config.abi)
      else .error .outOfMemory := by
  rw [a.listing_of_steps steps, columnWidth_of_counted room lower counted]
  split
  next narrow =>
    have hneeded := a.le_neededRoom config.width.toNat config.abi steps
    rw [if_neg (by omega)]
    rfl
  next => rfl

/-- A listing and what it tells. -/
structure Lossless : Prop where
  empty_iff : ∀ column abi, a.listingText column abi = "" ↔ a.trace = []
  lines : ∀ column abi, Text.lines (a.listingText column abi) =
    (a.trace.map (Step.line column abi)).map Text.ofString
  determined : ∀ (b : Analysis) column column' abi abi',
    a.listingText column abi = b.listingText column' abi' → a.trace = b.trace
  told : ∀ (b : Analysis) room room' config config' text,
    a.listing room config = .ok text → b.listing room' config' = .ok text → a.trace = b.trace
  /-- Whatever is written is that text. -/
  written : ∀ room config text, a.listing room config = .ok text →
    text = a.listingText config.width.toNat config.abi
  silent : a.trace = [] → ∀ room config, a.listing room config = .ok ""
  /-- Steps in a column that can be counted lack at most room. -/
  counted : a.trace ≠ [] → ∀ room config, 0 ≤ config.width → config.width < 0x8000000000000000 →
    a.listing room config =
      if a.neededRoom config.width.toNat config.abi ≤ room then
        .ok (a.listingText config.width.toNat config.abi)
      else .error .outOfMemory
  excessive : a.trace ≠ [] → ∀ room config, 0x8000000000000000 ≤ config.width →
    a.listing room config = .error .excessiveWidth
  /-- Room is needed for the text and for each statement with the blanks at its end. -/
  room_iff : ∀ room column abi, a.neededRoom column abi ≤ room ↔
    (a.listingText column abi).length ≤ room ∧
      ∀ step ∈ a.trace, step.instruction.statement.paddedLength column abi ≤ room

/-- The listing of any analysis tells its trace, one line for each step, and is written wherever
the width of its column can be counted and there is room for it. -/
theorem listing_lossless : a.Lossless := by
  have determined : ∀ (b : Analysis) column column' abi abi',
      a.listingText column abi = b.listingText column' abi' → a.trace = b.trace := by
    intro b column column' abi abi' h
    have hlines := congrArg (fun text : String => Text.lines text) h
    simp only [lines_listingText] at hlines
    exact eq_of_map_line_eq (List.map_injective_iff.mpr (fun _ _ => ofString_inj.mp) hlines)
  constructor
  case empty_iff => exact a.listingText_eq_empty_iff
  case lines => exact a.lines_listingText
  case determined => exact determined
  case told =>
    intro b room room' config config' text ha hb
    apply determined b
    rw [← a.eq_listingText_of_listing ha, ← b.eq_listingText_of_listing hb]
  case written => exact fun _ _ _ => a.eq_listingText_of_listing
  case silent => exact a.listing_of_silent
  case counted => exact fun steps room _ => a.listing_of_counted steps room
  case excessive =>
    intro steps room config excessive
    rw [a.listing_of_steps steps, columnWidth_of_excessive room excessive]
    rfl
  case room_iff => exact fun _ => a.neededRoom_le_iff

-- The first address is kept as it is given, also a negative one.
example :
    (Walk.analyzeWindow .delaySlot .big (-4) [0x03, 0xE0, 0, 8, 0, 0, 0, 0]).listingText 4 .o32 =
      "/* -0000004 001000 03E00008 */     jr   ra\n/* 00000000 001004 00000000 */      nop" := by
  decide

/-- No listing of a single `nop` is written in a column whose width cannot be counted, however much
room there is. -/
theorem not_listed_at_every_width :
    ¬ ∀ config : ReportConfig, 0 ≤ config.width → ∃ room text,
      (Walk.analyzeWindow .delaySlot .big 0x80000400 [0, 0, 0, 0]).listing room config =
        .ok text := by
  intro listed
  let config : ReportConfig := { width := 100000000000000000000 }
  obtain ⟨room, text, htext⟩ := listed config (by decide)
  have steps : (Walk.analyzeWindow .delaySlot .big 0x80000400 [0, 0, 0, 0]).trace ≠ [] := by
    decide
  rw [listing_of_steps _ steps, columnWidth_of_excessive room (by decide)] at htext
  cases htext

end Analysis

end CartBoot
