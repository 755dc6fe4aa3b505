import CartBoot.Header.Text
import CartBoot.Profile
import CartBoot.Text.Lines

/-!
# Reports

Three forms of output: a report of several lines, a terse record of one line with its fields
separated by semicolons, and the listing of the words that were walked.
-/

namespace CartBoot

/-- How reports are written. -/
structure ReportConfig where
  /-- The width of the mnemonic column. -/
  width : Int := Statement.defaultColumn
  abi : Abi := .o32
  verbosity : Int := 0
  terse : Bool := false
  listing : Bool := false
  /-- Whether all header fields are shown. -/
  fullHeader : Bool := false
  deriving DecidableEq, Repr

open Text.Numeral

namespace Step

/-- The blanks in front of an instruction, of which there is one more in a delay slot. -/
def indent (step : Step) : String := if step.inDelaySlot then "      " else "     "

/-- What stands in front of the instruction on a line of a listing. -/
def margin (step : Step) : String :=
  "/* " ++ hex 8 step.ramAddress ++ " " ++ hex 6 step.romOffset ++ " " ++ hex 8 step.word.toNat ++
    " */" ++ step.indent

/-- A line of a listing. -/
def line (column : Nat) (abi : Abi) (step : Step) : String :=
  step.margin ++ step.instruction.text column abi

/-- The characters of a line, which are counted without writing it. -/
def lineLength (column : Nat) (abi : Abi) (step : Step) : Nat :=
  step.margin.length + step.instruction.statement.textLength column abi

theorem length_line (column : Nat) (abi : Abi) (step : Step) :
    (step.line column abi).length = step.lineLength column abi := by
  rw [line, String.length_append, Instruction.text, Statement.length_text, lineLength]

end Step

namespace Analysis

/-- The listing with a mnemonic column of `column` characters. -/
def listingText (a : Analysis) (column : Nat) (abi : Abi) : String :=
  "\n".intercalate (a.trace.map (Step.line column abi))

/-- The characters of a listing with its ends of lines, which are counted without writing it. -/
def listingLength (a : Analysis) (column : Nat) (abi : Abi) : Nat :=
  a.trace.foldl (fun total step => total + step.lineLength column abi + 1) 0 - 1

/-- The characters of the longest text on the way to a listing, which is the listing or a statement
before the blanks at its end are taken off. -/
def neededRoom (a : Analysis) (column : Nat) (abi : Abi) : Nat :=
  a.trace.foldl (fun most step => max most (step.instruction.statement.paddedLength column abi))
    (a.listingLength column abi)

/-- The listing, given the most characters that a text has room for. The width is checked only if
there is an instruction to write. -/
def listing (a : Analysis) (room : Nat) (config : ReportConfig) : Except Fault String :=
  if a.trace.isEmpty then .ok ""
  else do
    let column ← columnWidth room config.width
    if a.neededRoom column config.abi ≤ room then return a.listingText column config.abi
    else throw .outOfMemory

/-- The mark of a register's provenance. -/
def tag (a : Analysis) (r : Register) : String :=
  (a.provenance r).tag

/-- A value with the register it was read from, after a label of the common width. -/
def registerLine (a : Analysis) (abi : Abi) (label : String) (value : Int) (r : Register) :
    String :=
  let mark := a.tag r
  label ++ "0x" ++ hex 8 value ++ "  (" ++ r.name abi ++
    (if mark.isEmpty then "" else ", " ++ mark) ++ ")"

end Analysis

namespace Profile

variable (p : Profile) (room : Nat) (config : ReportConfig)

/-- The part of a report about the image and its header. -/
def headerLines : List Text :=
  let file : List Text :=
    ["File:                   " ++ p.filename,
      "Size:                   0x" ++ hex 0 p.size ++ " (" ++ decimal p.size ++ " bytes)",
      "Format:                 " ++ p.order.name ++ " (" ++ p.order.description ++ ")"]
  let header : List Text :=
    if config.fullHeader then
      "Header:" :: (Text.lines p.header.description).map fun line => "  " ++ line
    else ["Header:                 " ++ p.header.summary]
  file ++ header

/-- The part of a report about the boot sequence. -/
def bootLines : List String :=
  let a := p.analysis
  let c := p.classification
  ["IPL3:                   " ++ p.cic.name ++ " (CRC 0x" ++ hex 8 p.cic.checksum ++ ")",
    "Entrypoint:             0x" ++ hex 8 p.entrypoint,
    "Boot segment length:    0x" ++ hex 0 p.segmentLength,
    a.registerLine config.abi "Initial sp:             " a.initialSp .sp,
    a.registerLine config.abi "BSS start:              " a.bssStart a.pointerRegister,
    a.registerLine config.abi "BSS size:               " a.bssSize a.sizeRegister,
    "BSS end:                0x" ++ hex 8 a.bssEnd,
    a.registerLine config.abi "Jump address:           " a.jumpAddress a.jumpRegister,
    "Delay slot:             " ++ a.delaySlot.name ++
      (a.delaySlot.hint.elim "" fun hint => " (suggests " ++ hint.name ++ ")"),
    "Branches / jumps:       " ++ decimal c.branches ++ " / " ++ decimal c.jumps ++ " -> " ++
      c.verdict.name]

/-- The remarks of a report that only some profiles or configurations have. -/
def remarkLines : List String :=
  let a := p.analysis
  (if a.sizeGuessed then
    ["WARNING: BSS size guessed from " ++ a.sizeRegister.name config.abi ++ ", check by hand"]
    else []) ++
    if 0 < config.verbosity then
      ["Stopped:                " ++ a.stopReason.text ++ " after " ++ decimal a.words ++ " words",
        "Classified words:       " ++ decimal p.classification.words]
    else []

/-- The lines of a report above the listing. -/
def reportLines : List Text :=
  p.headerLines config ++ (p.bootLines config ++ p.remarkLines config).map Text.ofString

/-- The report of several lines, given the most characters that a text has room for. -/
def report : Except Fault Text := do
  let lines := p.reportLines config
  if config.listing then
    let listing ← p.analysis.listing room config
    return ("\n" : Text).intercalate (lines ++ [("" : Text), listing])
  else return ("\n" : Text).intercalate lines

/-- The columns of a terse record. -/
def terseColumns : List String :=
  ["file", "size", "format",
    "clock_rate", "header_entrypoint", "revision", "checksum1", "checksum2",
    "image_name", "media_format", "cartridge_id", "country_code", "version",
    "ipl3", "entrypoint", "boot_segment_length",
    "sp", "sp_provenance",
    "bss_start", "bss_start_provenance",
    "bss_size", "bss_size_provenance",
    "jump", "jump_provenance",
    "delay_slot", "delay_slot_hint", "branches", "jumps", "toolchain", "bss_size_guessed"]

/-- The heading of a file of terse records. -/
def terseHeading : String := ";".intercalate terseColumns

/-- The values of a terse record. Separators in the image name become commas, and a country code of
zero is left out. -/
def terseValues : List Text :=
  let a := p.analysis
  let c := p.classification
  let h := p.header
  [p.filename,
    "0x" ++ hex 0 p.size,
    p.order.name,
    "0x" ++ hex 8 h.clockRate.toNat,
    "0x" ++ hex 8 h.entrypoint.toNat,
    "0x" ++ hex 8 h.revision.toNat,
    "0x" ++ hex 8 h.checksum1.toNat,
    "0x" ++ hex 8 h.checksum2.toNat,
    h.imageName.map fun c => if c = ';' then ',' else c,
    h.mediaFormat,
    h.cartridgeId,
    if h.rawCountryCode = 0 then "" else h.countryCode,
    "0x" ++ hex 2 h.version.toNat,
    p.cic.name,
    "0x" ++ hex 8 p.entrypoint,
    "0x" ++ hex 0 p.segmentLength,
    "0x" ++ hex 8 a.initialSp,
    a.tag .sp,
    "0x" ++ hex 8 a.bssStart,
    a.tag a.pointerRegister,
    "0x" ++ hex 0 a.bssSize,
    a.tag a.sizeRegister,
    "0x" ++ hex 8 a.jumpAddress,
    a.tag a.jumpRegister,
    a.delaySlot.name,
    a.delaySlot.hint.elim "" (·.name),
    decimal c.branches,
    decimal c.jumps,
    c.verdict.name,
    if a.sizeGuessed then "yes" else "no"]

/-- The terse record. -/
def terse : Text := (";" : Text).intercalate p.terseValues

end Profile

end CartBoot
