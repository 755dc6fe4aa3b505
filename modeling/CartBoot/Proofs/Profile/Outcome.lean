import CartBoot.Profile
import CartBoot.Proofs.ByteOrder.Layout

/-!
# Outcomes of an analysis

An analysis fails in exactly three ways, each decided by a condition on the raw image: its first
bytes, its length, and the checksum of its boot loader. Behind these checks no stage can fail, since
the canonical image has whole words and holds the header and the boot loader.
-/

namespace CartBoot

/-- The value of a word is in range, so that it can be decoded. -/
theorem Word.ofInt_toNat (w : Word) : Word.ofInt w.toNat = .ok w := by
  have hbound : (0 : Int) ≤ w.toNat ∧ (w.toNat : Int) < 0x100000000 := by
    have := w.isLt
    omega
  simp [Word.ofInt, hbound.2]

namespace Profile

variable (options : ScanOptions) (filename : String)

/-- A raw image up to its last whole word. -/
def wholeWords (raw : Bytes) : Bytes :=
  raw.take (raw.length - raw.length % 4)

/-- The checksum of the boot loader that a raw image holds in a byte order. -/
def loaderChecksum (order : ByteOrder) (raw : Bytes) : Int :=
  (Ipl3.checksum (((order.arrange (wholeWords raw)).take 0x1000).drop 0x40)).toNat

/-- What a canonical image tells once its header and its boot loader are known. -/
def ofLoader (size : Int) (order : ByteOrder) (header : Header) (cic : Cic) (image : Bytes) :
    Profile :=
  let entrypoint := cic.correct header.entrypoint.toNat
  let analysis := Walk.analyzeWindow options.stopRule .big entrypoint (bootCode image)
  let segmentLength := CartBoot.segmentLength analysis.bssStart entrypoint (bootCode image).length
  { filename, size, order, header, cic, entrypoint, segmentLength, analysis
    classification :=
      .ofCode options.direction options.minEvidence (segment image segmentLength) }

/-- The stages behind the byte order. The raw image takes part through its size and order alone. -/
def ofCanonical (size : Int) (order : ByteOrder) (image : Bytes) : Except Fault Profile := do
  let header ← Header.parse image
  let cic ← Ipl3.identify options.cics image
  return ofLoader options filename size order header cic image

theorem ofImage_eq_bind (raw : Bytes) :
    ofImage options filename raw = (checkedOrder raw).bind fun order =>
      (canonical order raw).bind fun image =>
        ofCanonical options filename raw.length order image := rfl

theorem length_wholeWords (raw : Bytes) :
    (wholeWords raw).length = raw.length - raw.length % 4 := by
  simp [wholeWords]

/-- Whole words are whole groups of every order, so that rearranging them cannot fail. -/
theorem canonical_eq (order : ByteOrder) (raw : Bytes) :
    canonical order raw = .ok (order.arrange (wholeWords raw)) := by
  have hgroup : (wholeWords raw).length % order.group = 0 := by
    rw [length_wholeWords]
    cases order <;> simp only [ByteOrder.group] <;> omega
  exact if_pos hgroup

theorem checkedOrder_of_magic {order : ByteOrder} {raw : Bytes}
    (starts : raw.take 4 = order.magic) :
    checkedOrder raw =
      if raw.length < Layout.imageSize then .error (.truncated .image raw.length)
      else .ok order := by
  simp only [checkedOrder, ByteOrder.detect_of_magic starts]
  split <;> rfl

theorem checkedOrder_of_no_magic {raw : Bytes}
    (foreign : ∀ order : ByteOrder, raw.take 4 ≠ order.magic) :
    checkedOrder raw = .error (.unknownMagic (raw.take 4)) := by
  simp only [checkedOrder, ByteOrder.detect_of_no_magic foreign]
  rfl

theorem ofImage_of_no_magic {raw : Bytes}
    (foreign : ∀ order : ByteOrder, raw.take 4 ≠ order.magic) :
    ofImage options filename raw = .error (.unknownMagic (raw.take 4)) := by
  rw [ofImage_eq_bind, checkedOrder_of_no_magic foreign]
  rfl

theorem ofImage_of_magic {order : ByteOrder} {raw : Bytes} (starts : raw.take 4 = order.magic) :
    ofImage options filename raw =
      if raw.length < Layout.imageSize then .error (.truncated .image raw.length)
      else ofCanonical options filename raw.length order (order.arrange (wholeWords raw)) := by
  rw [ofImage_eq_bind, checkedOrder_of_magic starts]
  split
  · rfl
  · simp only [Except.bind, canonical_eq]

/-- A long enough image has a header and passes every check behind it but the one of the loader. -/
theorem ofCanonical_of_le (image : Bytes) (enough : Layout.bootOffset ≤ image.length) :
    ∃ header, Header.parse image = .ok header ∧ ∀ size order,
      ofCanonical options filename size order image =
        match options.cics.find? (Ipl3.imageChecksum image).toNat with
        | none => .error (.unknownIpl3 (Ipl3.imageChecksum image).toNat)
        | some cic => .ok (ofLoader options filename size order header cic image) := by
  have hheader : ¬ image.length < Layout.headerSize := by
    simp only [Layout.bootOffset, Layout.headerSize] at *
    omega
  refine ⟨_, if_neg hheader, fun size order => ?_⟩
  have hidentify : Ipl3.identify options.cics image =
      options.cics.lookup (Ipl3.imageChecksum image).toNat := if_neg (Nat.not_lt.mpr enough)
  simp only [ofCanonical, hidentify, Cic.Table.lookup, Header.parse, if_neg hheader]
  cases options.cics.find? (Ipl3.imageChecksum image).toNat <;> rfl

theorem length_arrange_wholeWords (order : ByteOrder) {raw : Bytes}
    (enough : Layout.imageSize ≤ raw.length) :
    Layout.imageSize ≤ (order.arrange (wholeWords raw)).length := by
  rw [ByteOrder.length_arrange, length_wholeWords]
  simp only [Layout.imageSize, Layout.bootOffset, Layout.windowSize] at *
  omega

/-- The outcome of an image that is long enough is decided by the checksum of its loader. -/
theorem ofImage_of_long {order : ByteOrder} {raw : Bytes} (starts : raw.take 4 = order.magic)
    (enough : Layout.imageSize ≤ raw.length) :
    ∃ header, Header.parse (order.arrange (wholeWords raw)) = .ok header ∧
      ofImage options filename raw =
        match options.cics.find? (loaderChecksum order raw) with
        | none => .error (.unknownIpl3 (loaderChecksum order raw))
        | some cic => .ok (ofLoader options filename raw.length order header cic
            (order.arrange (wholeWords raw))) := by
  have hlong := length_arrange_wholeWords order enough
  obtain ⟨header, hparse, hstages⟩ := ofCanonical_of_le options filename
    (order.arrange (wholeWords raw)) (by
      simp only [Layout.imageSize] at hlong
      omega)
  refine ⟨header, hparse, ?_⟩
  rw [ofImage_of_magic options filename starts, if_neg (Nat.not_lt.mpr enough), hstages]
  rfl

/-- The outcomes of an analysis, each with the condition on the raw image under which it occurs. -/
structure Decided (raw : Bytes) (result : Except Fault Profile) : Prop where
  unknownMagic : result = .error (.unknownMagic (raw.take 4)) ↔
    ∀ order : ByteOrder, raw.take 4 ≠ order.magic
  truncated : result = .error (.truncated .image raw.length) ↔
    (∃ order : ByteOrder, raw.take 4 = order.magic) ∧ raw.length < 0x2000
  unknownLoader : ∀ checksum, result = .error (.unknownIpl3 checksum) ↔
    ∃ order : ByteOrder, raw.take 4 = order.magic ∧ 0x2000 ≤ raw.length ∧
      checksum = loaderChecksum order raw ∧ options.cics.find? checksum = none
  analysed : (∃ p, result = .ok p) ↔
    ∃ order : ByteOrder, raw.take 4 = order.magic ∧ 0x2000 ≤ raw.length ∧
      ∃ cic, options.cics.find? (loaderChecksum order raw) = some cic
  /-- No other fault occurs. -/
  faults : ∀ fault, result = .error fault →
    fault = .unknownMagic (raw.take 4) ∧ fault.stage = some "endian" ∨
    fault = .truncated .image raw.length ∧ Region.image.needed = 0x2000 ∧
      fault.stage = some "read" ∨
    ∃ checksum, fault = .unknownIpl3 checksum ∧ fault.stage = some "ipl3"

theorem decided_of_no_magic {raw : Bytes}
    (foreign : ∀ order : ByteOrder, raw.take 4 ≠ order.magic) :
    Decided options raw (ofImage options filename raw) := by
  rw [ofImage_of_no_magic options filename foreign]
  constructor <;> simp [foreign, Fault.stage]

/-- An image has at most one byte order. -/
theorem exists_order_iff {order : ByteOrder} {raw : Bytes} (starts : raw.take 4 = order.magic)
    (p : ByteOrder → Prop) :
    (∃ other : ByteOrder, raw.take 4 = other.magic ∧ p other) ↔ p order := by
  constructor
  · rintro ⟨other, hother, hp⟩
    rwa [ByteOrder.magic_injective (starts.symm.trans hother)]
  · exact fun hp => ⟨order, starts, hp⟩

theorem decided_of_magic {order : ByteOrder} {raw : Bytes} (starts : raw.take 4 = order.magic) :
    Decided options raw (ofImage options filename raw) := by
  have hmagic : ¬ ∀ other : ByteOrder, raw.take 4 ≠ other.magic := fun h => h order starts
  have hexists : ∃ other : ByteOrder, raw.take 4 = other.magic := ⟨order, starts⟩
  by_cases short : raw.length < Layout.imageSize
  · have hresult := ofImage_of_magic options filename starts
    rw [if_pos short] at hresult
    have hlen : raw.length < 0x2000 := short
    have hlong : ¬ 0x2000 ≤ raw.length := Nat.not_le.mpr hlen
    constructor <;>
      simp [hresult, hmagic, hexists, hlen, hlong, Fault.stage, Region.stage, Region.needed,
        Layout.imageSize, Layout.bootOffset, Layout.windowSize]
  · obtain ⟨header, -, hresult⟩ :=
      ofImage_of_long options filename starts (Nat.not_lt.mp short)
    have hlen : ¬ raw.length < 0x2000 := short
    have hlong : 0x2000 ≤ raw.length := Nat.not_lt.mp hlen
    cases hfind : options.cics.find? (loaderChecksum order raw) with
    | none =>
        rw [hfind] at hresult
        constructor
        case unknownLoader =>
          intro checksum
          rw [hresult, exists_order_iff starts, Except.error.injEq, Fault.unknownIpl3.injEq]
          constructor
          · rintro rfl
            exact ⟨hlong, rfl, hfind⟩
          · rintro ⟨-, rfl, -⟩
            rfl
        all_goals simp [hresult, hmagic, hlen, hlong, hfind, exists_order_iff starts, Fault.stage]
    | some cic =>
        rw [hfind] at hresult
        constructor <;>
          simp [hresult, hmagic, hlen, hlong, hfind, exists_order_iff starts, Fault.stage]

/-- The reads of whole words succeed, wherever they start and end. -/
theorem canonical_readable (order : ByteOrder) (raw : Bytes) :
    ∃ image, canonical order raw = .ok image ∧ ∀ length,
      ByteOrder.big.readWords ((bootCode image).take length) =
          .ok (ByteOrder.big.words ((bootCode image).take length)) ∧
        ∀ w ∈ ByteOrder.big.words ((bootCode image).take length), Word.ofInt w.toNat = .ok w := by
  refine ⟨_, canonical_eq order raw, fun length => ⟨ByteOrder.readWords_eq _ _, ?_⟩⟩
  intro w _
  exact w.ofInt_toNat

/-- Every outcome has its condition, and no other fault occurs; behind the byte order no
rearranging, reading or decoding of words fails. -/
theorem ofImage_outcome (raw : Bytes) :
    Decided options raw (ofImage options filename raw) ∧
    ∀ order : ByteOrder, ∃ image, canonical order raw = .ok image ∧ ∀ length,
      ByteOrder.big.readWords ((bootCode image).take length) =
          .ok (ByteOrder.big.words ((bootCode image).take length)) ∧
        ∀ w ∈ ByteOrder.big.words ((bootCode image).take length), Word.ofInt w.toNat = .ok w := by
  refine ⟨?_, fun order => canonical_readable order raw⟩
  by_cases known : ∃ order : ByteOrder, raw.take 4 = order.magic
  · obtain ⟨order, starts⟩ := known
    exact decided_of_magic options filename starts
  · exact decided_of_no_magic options filename (not_exists.mp known)

end Profile

end CartBoot
