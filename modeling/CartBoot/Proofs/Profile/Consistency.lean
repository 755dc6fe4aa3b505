import CartBoot.Proofs.Profile.Footprint
import CartBoot.Proofs.Toolchain.Tally
import Mathlib.Order.Bounds.Basic

/-!
# Consistency of a profile

The parts of a profile come from different stages, and what one of them finds is cut to what another
one holds. In the profile of an accepted image they fit together: the walk stays within its window,
the addresses are those of a 32-bit machine, and the boot segment lies in front of the BSS segment
and within the image.
-/

namespace CartBoot

/-- The canonical form of an image starts with the canonical magic. -/
theorem ByteOrder.take_arrange {order : ByteOrder} {image : Bytes}
    (starts : image.take 4 = order.magic) : (order.arrange image).take 4 = big.magic := by
  match image with
  | a :: b :: c :: d :: rest =>
    simp only [List.take_succ_cons, List.take_zero] at starts
    cases order <;> cases starts <;> simp [magic]
  | [] | [_] | [_, _] | [_, _, _] => cases order <;> simp [magic] at starts

theorem Header.busSettings_of_parse {image : Bytes} {header : Header}
    (parsed : parse image = .ok header) : header.busSettings = image.take 4 := by
  unfold parse at parsed
  split at parsed
  · cases parsed
  · cases parsed
    rfl

theorem segmentLength_nonneg (bssStart entrypoint available : Int) :
    0 ≤ segmentLength bssStart entrypoint available := by
  unfold segmentLength
  split
  next => exact Int.le_refl 0
  next =>
    simp only
    omega

/-- A boot segment ends in front of the BSS segment. -/
theorem add_segmentLength_le {bssStart entrypoint available : Int}
    (nonzero : segmentLength bssStart entrypoint available ≠ 0) :
    entrypoint + segmentLength bssStart entrypoint available ≤ bssStart := by
  unfold segmentLength at *
  split at nonzero
  next => exact absurd rfl nonzero
  next habove =>
    rw [if_neg habove]
    simp only
    omega

/-- The boot segment is as long as the space in front of the BSS segment, the load size and the
image allow. -/
theorem segmentLength_isGreatest {bssStart entrypoint available : Int}
    (above : entrypoint < bssStart) (room : 0 ≤ available) :
    IsGreatest {n : Int | 4 ∣ n ∧ n ≤ min (min (bssStart - entrypoint) 0x100000) available}
      (segmentLength bssStart entrypoint available) := by
  have hlength : segmentLength bssStart entrypoint available =
      min (min (bssStart - entrypoint) 0x100000) available -
        min (min (bssStart - entrypoint) 0x100000) available % 4 := by
    have hpositive : 0 ≤ min (min (bssStart - entrypoint) 0x100000) available := by omega
    have hload : ((Layout.loadSize : Nat) : Int) = 0x100000 := rfl
    simp only [segmentLength, if_neg (Int.not_le.mpr above), hload, Int.max_eq_right hpositive]
  generalize min (min (bssStart - entrypoint) 0x100000) available = limit at hlength
  rw [hlength]
  constructor
  · constructor <;> omega
  · rintro n ⟨hn, hle⟩
    omega

namespace Walk

/-- The first word of a stub is walked, whatever it is. -/
theorem one_le_extent (rule : StopRule) {words : List Word} (nonempty : words ≠ []) :
    1 ≤ (extent rule words).1 := by
  cases words with
  | nil => exact absurd rfl nonempty
  | cons w rest =>
    simp only [extent, extentFrom, Bool.false_and, Bool.false_eq_true, if_false]
    split
    · exact Nat.le_refl 1
    · exact Nat.le_add_left 1 _

theorem words_analyzeWindow (rule : StopRule) (order : ByteOrder) (address : Int)
    (window : Bytes) :
    (analyzeWindow rule order address window).words =
      (analyzeWindow rule order address window).trace.length := by
  simp only [analyzeWindow, analyze, length_steps]

/-- A walk over a window of full size walks at least one word and at most those of the window. -/
theorem words_analyzeWindow_bounds (rule : StopRule) (order : ByteOrder) (address : Int)
    {window : Bytes} (full : Layout.windowSize ≤ window.length) :
    1 ≤ (analyzeWindow rule order address window).words ∧
      (analyzeWindow rule order address window).words ≤ 1024 := by
  have hlength : (order.words (window.take Layout.windowSize)).length = 1024 := by
    rw [ByteOrder.length_words, List.length_take, Nat.min_eq_left full]
    rfl
  have hnonempty : order.words (window.take Layout.windowSize) ≠ [] := by
    rw [← List.length_pos_iff, hlength]
    decide
  have hlower := one_le_extent rule hnonempty
  have hupper := extent_le_length rule (order.words (window.take Layout.windowSize))
  simp only [analyzeWindow, analyze, length_walked]
  omega

end Walk

/-- The values that are read out of a tracker are those of 32-bit registers. -/
theorem Analysis.ofTracker_addresses (rule : StopRule) (t : Tracker) :
    ∀ n ∈ [(ofTracker rule t).jumpAddress, (ofTracker rule t).bssStart, (ofTracker rule t).bssSize,
      (ofTracker rule t).initialSp, (ofTracker rule t).bssEnd], 0 ≤ n ∧ n < 0x100000000 := by
  have hword : ∀ w : Word, 0 ≤ (w.toNat : Int) ∧ (w.toNat : Int) < 0x100000000 := by
    intro w
    have := w.isLt
    omega
  simp only [List.forall_mem_cons, ofTracker, hword, bssEnd, true_and]
  refine ⟨?_, List.forall_mem_nil _⟩
  omega

namespace Profile

/-- How the parts of an image's profile fit together. -/
structure Consistent (raw : Bytes) (p : Profile) : Prop where
  busSettings : p.header.busSettings = [0x80, 0x37, 0x12, 0x40]
  words : p.analysis.words = p.analysis.trace.length
  walked : 1 ≤ p.analysis.words ∧ p.analysis.words ≤ 1024
  addresses : ∀ n ∈ [p.analysis.jumpAddress, p.analysis.bssStart, p.analysis.bssSize,
    p.analysis.initialSp, p.analysis.bssEnd], 0 ≤ n ∧ n < 0x100000000
  noSegment : p.analysis.bssStart ≤ p.entrypoint → p.segmentLength = 0
  segment : p.entrypoint < p.analysis.bssStart →
    IsGreatest {n : Int | 4 ∣ n ∧ n ≤ min (min (p.analysis.bssStart - p.entrypoint) 0x100000)
      (((raw.length - raw.length % 4 : Nat) : Int) - 0x1000)} p.segmentLength
  belowBss : p.segmentLength ≠ 0 → p.entrypoint + p.segmentLength ≤ p.analysis.bssStart
  /-- The boot segment is not cut off at the end of the image. -/
  slice : ∃ image, canonical p.order raw = .ok image ∧
    (((image.drop 0x1000).take p.segmentLength.toNat).length : Int) = p.segmentLength
  windowWords : p.classification.words = p.segmentLength / 4
  counted : p.classification.branches + p.classification.jumps ≤ p.classification.words

variable {options : ScanOptions} {filename : String}

/-- The boot segment is whole words of the image, and no word of it is missing. -/
theorem length_segment (image : Bytes) {length : Int} (nonneg : 0 ≤ length)
    (inside : length ≤ (bootCode image).length) :
    ((segment image length).length : Int) = length / 4 := by
  rw [segment, List.length_map, ByteOrder.length_words, List.length_take]
  omega

theorem ofCode_counts (direction : Direction) (minEvidence : Int) (code : List Instruction) :
    (Classification.ofCode direction minEvidence code).branches +
        (Classification.ofCode direction minEvidence code).jumps ≤ code.length := by
  have htotal := direction.total_tally_le code
  rw [Tally.total] at htotal
  simp only [Classification.ofCode]
  omega

section Loader

variable (options filename) {raw : Bytes} {order : ByteOrder} {header : Header} (cic : Cic)

theorem consistent_ofLoader (starts : raw.take 4 = order.magic)
    (enough : Layout.imageSize ≤ raw.length)
    (parsed : Header.parse (order.arrange (wholeWords raw)) = .ok header) :
    Consistent raw (ofLoader options filename raw.length order header cic
      (order.arrange (wholeWords raw))) := by
  have hsize : 0x2000 ≤ raw.length := enough
  have hcode : ((bootCode (order.arrange (wholeWords raw))).length : Int) =
      ((raw.length - raw.length % 4 : Nat) : Int) - 0x1000 := by
    rw [length_bootCode, ByteOrder.length_arrange, length_wholeWords]
    omega
  have hfull : Layout.windowSize ≤ (bootCode (order.arrange (wholeWords raw))).length := by
    rw [Layout.windowSize]
    omega
  have hnonneg : 0 ≤ (ofLoader options filename raw.length order header cic
      (order.arrange (wholeWords raw))).segmentLength := segmentLength_nonneg _ _ _
  have hinside : (ofLoader options filename raw.length order header cic
      (order.arrange (wholeWords raw))).segmentLength ≤
        (bootCode (order.arrange (wholeWords raw))).length := segmentLength_le _ _ _
  constructor
  case busSettings =>
    have hwhole : (wholeWords raw).take 4 = order.magic := by
      rw [wholeWords, List.take_take, Nat.min_eq_left (by omega), starts]
    exact (Header.busSettings_of_parse parsed).trans (ByteOrder.take_arrange hwhole)
  case words => exact Walk.words_analyzeWindow _ _ _ _
  case walked => exact Walk.words_analyzeWindow_bounds _ _ _ hfull
  case addresses => exact Analysis.ofTracker_addresses _ _
  case noSegment => exact fun below => if_pos below
  case segment =>
    intro above
    rw [← hcode]
    exact segmentLength_isGreatest above (Int.natCast_nonneg _)
  case belowBss => exact fun nonzero => add_segmentLength_le nonzero
  case slice =>
    refine ⟨_, canonical_eq order raw, ?_⟩
    rw [List.length_take, ← Layout.bootOffset, ← bootCode]
    omega
  case windowWords => exact length_segment _ hnonneg hinside
  case counted => exact ofCode_counts _ _ _

end Loader

/-- The profile of an accepted image is consistent. -/
theorem ofImage_consistent {raw : Bytes} {p : Profile}
    (accepted : ofImage options filename raw = .ok p) : Consistent raw p := by
  obtain ⟨order, header, cic, starts, enough, parsed, -, rfl⟩ := exists_of_ofImage_eq_ok accepted
  exact consistent_ofLoader options filename cic starts enough parsed

/-- A stub that stores to one address and jumps there. -/
def storeOnce : Bytes :=
  [0x3C, 0x08, 0x80, 0x00,  -- lui t0, 0x8000
    0x35, 0x08, 0x0C, 0x82,  -- ori t0, t0, 0xC82
    0xAD, 0x00, 0x00, 0x00,  -- sw zero, 0(t0)
    0x01, 0x00, 0x00, 0x08,  -- jr t0
    0x00, 0x00, 0x00, 0x00]

theorem bssStart_storeOnce (address : Int) (rest : Bytes) :
    (Walk.analyzeWindow .delaySlot .big address (storeOnce ++ rest)).bssStart = 0x80000C82 := by
  have hwindow : (storeOnce ++ rest).take Layout.windowSize = storeOnce ++ rest.take 0xFEC := rfl
  rw [Walk.analyzeWindow, hwindow]
  simp only [storeOnce, List.cons_append, ByteOrder.words_cons]
  rfl

theorem segmentLength_storeOnce (options : ScanOptions) (filename : String) (size : Int)
    (order : ByteOrder) (header : Header) {cic : Cic} {image rest : Bytes}
    (rule : options.stopRule = .delaySlot)
    (fixed : cic.correct header.entrypoint.toNat = 0x80000480)
    (code : bootCode image = storeOnce ++ rest) (long : 0x7EC ≤ rest.length) :
    (ofLoader options filename size order header cic image).segmentLength = 0x800 := by
  change CartBoot.segmentLength (Walk.analyzeWindow options.stopRule .big
    (cic.correct header.entrypoint.toNat) (bootCode image)).bssStart
    (cic.correct header.entrypoint.toNat) (bootCode image).length = 0x800
  have hlength : (storeOnce ++ rest).length = 0x14 + rest.length := List.length_append
  rw [rule, fixed, code, bssStart_storeOnce, hlength, CartBoot.segmentLength, Layout.loadSize,
    if_neg (by decide)]
  simp only
  omega

/-- The profile of an image of the least size. Its BSS segment starts in the middle of a word, and
its boot segment ends in front of that word. -/
theorem ofImage_consistent_storeOnce :
    let front : Bytes := ByteOrder.big.magic ++ List.replicate 0xFFC 0
    let image : Bytes := front ++ (storeOnce ++ List.replicate 0xFEC 0)
    let cic : Cic := ⟨0xDAB442CD, Cic.absent, "7102", 0x80000480⟩
    let options : ScanOptions := { cics := [(loaderChecksum .big image, cic)] }
    ∃ p, ofImage options "game.z64" image = .ok p ∧ p.segmentLength = 0x800 ∧
      Consistent image p := by
  intro front image cic options
  have hfront : front.length = 0x1000 := by
    rw [List.length_append, List.length_replicate]
    rfl
  have hstub : storeOnce.length = 0x14 := rfl
  have himage : image.length = 0x2000 := by
    rw [List.length_append, hfront, List.length_append, hstub, List.length_replicate]
  have starts : image.take 4 = ByteOrder.big.magic := rfl
  have enough : Layout.imageSize ≤ image.length := by
    rw [himage]
    exact Nat.le_refl 0x2000
  have found : options.cics.find? (loaderChecksum .big image) = some cic := by
    simp only [options, Cic.Table.find?, List.reverse_singleton, List.find?_singleton,
      decide_true, if_true, Option.map_some]
  obtain ⟨header, parsed, -⟩ := ofImage_of_long options "game.z64" starts enough
  have accepted : ofImage options "game.z64" image = .ok _ :=
    ofImage_eq_ok starts enough parsed found
  have hcode : bootCode (ByteOrder.big.arrange (wholeWords image)) =
      storeOnce ++ List.replicate 0xFEC 0 := by
    rw [ByteOrder.arrange_big, wholeWords_of_dvd (by rw [himage])]
    exact List.drop_left' hfront
  have hfixed : cic.correct header.entrypoint.toNat = 0x80000480 := if_pos (by decide)
  refine ⟨_, accepted, ?_, ofImage_consistent accepted⟩
  apply segmentLength_storeOnce options "game.z64" _ .big header rfl hfixed hcode
  rw [List.length_replicate]
  decide

end Profile

end CartBoot
