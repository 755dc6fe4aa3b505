import CartBoot.Proofs.Header.Layout
import Mathlib.Data.List.SplitLengths

/-!
# The format of the header

The thirteen fields tile the first 0x40 bytes: an image cut at their sizes falls into their bytes.
The pieces of a cut are determined by their sizes and by what they make up together, so an image has
a header exactly if it starts with what the header is written as.
-/

namespace CartBoot

theorem Word.toBytes_injective : Function.Injective Word.toBytes := by
  intro v w h
  rw [← Bytes.toWord_toBytes_append v [], h, Bytes.toWord_toBytes_append]

namespace Header

/-- The sizes of the fields in order. -/
def fieldSizes : List Nat := [4, 4, 4, 4, 4, 4, 8, 20, 4, 4, 2, 1, 1]

/-- The bytes of the fields in order. -/
def pieces (h : Header) : List Bytes :=
  [h.busSettings, h.clockRate.toBytes, h.entrypoint.toBytes, h.revision.toBytes,
    h.checksum1.toBytes, h.checksum2.toBytes, h.reserved18, h.rawName, h.reserved34,
    h.rawMediaFormat.toBytes, h.rawCartridgeId, [h.rawCountryCode], [h.version]]

variable {h g : Header} {image : Bytes} {fault : Fault}

theorem flatten_pieces (h : Header) : h.pieces.flatten = h.encode := by
  simp [pieces, encode]

theorem map_length_pieces_iff : h.pieces.map List.length = fieldSizes ↔ h.WellFormed := by
  simp only [pieces, fieldSizes, List.map_cons, List.map_nil, Word.length_toBytes,
    List.length_singleton, List.cons.injEq, true_and, and_true]
  constructor
  · rintro ⟨busSettings, reserved18, rawName, reserved34, rawCartridgeId⟩
    exact { busSettings, reserved18, rawName, reserved34, rawCartridgeId }
  · intro sizes
    exact ⟨sizes.busSettings, sizes.reserved18, sizes.rawName, sizes.reserved34,
      sizes.rawCartridgeId⟩

theorem pieces_injective : Function.Injective pieces := by
  intro h g same
  simp only [pieces, List.cons.injEq, Word.toBytes_injective.eq_iff, and_true] at same
  cases h
  cases g
  simpa only [mk.injEq] using same

/-- A header is determined by what it is written as. -/
theorem eq_of_encode_eq (sizes : h.WellFormed) (others : g.WellFormed)
    (same : h.encode = g.encode) : h = g := by
  apply pieces_injective
  apply List.eq_iff_flatten_eq.mpr
  constructor
  · rw [flatten_pieces, flatten_pieces, same]
  · rw [map_length_pieces_iff.mpr sizes, map_length_pieces_iff.mpr others]

theorem parse_eq_error_iff : parse image = .error fault ↔
    image.length < Layout.headerSize ∧ fault = .truncated .header image.length := by
  rw [parse]
  split
  case isTrue short => simp [short, eq_comm]
  case isFalse long => simp [long]

theorem exists_parse (holds : Layout.headerSize ≤ image.length) : ∃ h, parse image = .ok h :=
  ⟨_, if_neg (Nat.not_lt.mpr holds)⟩

theorem holds_of_parse (parsed : parse image = .ok h) : Layout.headerSize ≤ image.length := by
  by_contra short
  rw [parse_eq_error_iff.mpr ⟨Nat.not_le.mp short, rfl⟩] at parsed
  cases parsed

/-- An image cut at the sizes of the fields falls into their bytes. -/
theorem pieces_of_parse (parsed : parse image = .ok h) :
    h.pieces = fieldSizes.splitLengths image := by
  have holds : 0x40 ≤ image.length := holds_of_parse parsed
  rw [parse, if_neg (Nat.not_lt.mpr (holds_of_parse parsed))] at parsed
  cases parsed
  simp (disch := omega) only [pieces, toBytes_wordField, singleton_byteField]
  simp only [fieldSizes, List.splitLengths_cons, List.splitLengths_nil, List.drop_drop, field,
    List.drop_zero, Nat.reduceAdd]

theorem wellFormed_of_parse (parsed : parse image = .ok h) : h.WellFormed := by
  apply map_length_pieces_iff.mp
  rw [pieces_of_parse parsed]
  apply List.map_splitLengths_length
  -- The sizes of the fields add up to the size of the header.
  exact holds_of_parse parsed

/-- A header is written as the bytes that it is read from. -/
theorem encode_of_parse (parsed : parse image = .ok h) :
    h.encode = image.take Layout.headerSize := by
  have alone : parse (image.take Layout.headerSize) = .ok h := by
    rw [parse_take image (holds_of_parse parsed), parsed]
  calc h.encode = h.pieces.flatten := (flatten_pieces h).symm
    _ = (fieldSizes.splitLengths (image.take Layout.headerSize)).flatten := by
      rw [pieces_of_parse alone]
    _ = image.take Layout.headerSize :=
      List.flatten_splitLengths _ _ (List.length_take_le _ _)

/-- An image has a header exactly if it starts with what the header is written as. -/
theorem parse_eq_ok_iff : parse image = .ok h ↔ h.WellFormed ∧ h.encode <+: image := by
  constructor
  · intro parsed
    refine ⟨wellFormed_of_parse parsed, ?_⟩
    rw [encode_of_parse parsed]
    exact List.take_prefix _ _
  · rintro ⟨sizes, starts⟩
    have holds : Layout.headerSize ≤ image.length := by
      rw [← sizes.length_encode]
      exact starts.length_le
    obtain ⟨g, parsed⟩ := exists_parse holds
    have same : h.encode = g.encode := by
      calc h.encode = image.take h.encode.length := List.prefix_iff_eq_take.mp starts
        _ = image.take Layout.headerSize := by rw [sizes.length_encode]
        _ = g.encode := (encode_of_parse parsed).symm
    rw [eq_of_encode_eq sizes (wellFormed_of_parse parsed) same, parsed]

/-- What it means that an image starts with a header. -/
structure Heads (h : Header) (image : Bytes) : Prop where
  sizes : h.WellFormed
  cut : h.pieces = fieldSizes.splitLengths image
  encode : h.encode = image.take 0x40
  /-- The bytes behind the header take no part. -/
  alone : ∀ other : Bytes, other.take 0x40 = image.take 0x40 → parse other = .ok h

theorem heads_of_parse (parsed : parse image = .ok h) : h.Heads image where
  sizes := wellFormed_of_parse parsed
  cut := pieces_of_parse parsed
  encode := encode_of_parse parsed
  alone := by
    intro other same
    apply parse_eq_ok_iff.mpr
    refine ⟨wellFormed_of_parse parsed, ?_⟩
    rw [encode_of_parse parsed, Layout.headerSize, ← same]
    exact List.take_prefix _ _

/-- Every image that is long enough has a header, which is written as its first bytes; every header
is read from what it is written as, whatever follows; and an image is refused only if it is short. -/
theorem parse_lossless :
    (∀ image : Bytes, 0x40 ≤ image.length → ∃ h, parse image = .ok h ∧ h.Heads image) ∧
    (∀ (h : Header) (rest : Bytes), h.WellFormed → parse (h.encode ++ rest) = .ok h) ∧
    ∀ (image : Bytes) (fault : Fault), parse image = .error fault ↔
      image.length < 0x40 ∧ fault = .truncated .header image.length ∧
        Region.header.needed = 0x40 ∧ fault.stage = some "header" := by
  refine ⟨?_, ?_, ?_⟩
  · intro image holds
    obtain ⟨h, parsed⟩ := exists_parse holds
    exact ⟨h, parsed, heads_of_parse parsed⟩
  · intro h rest sizes
    exact parse_eq_ok_iff.mpr ⟨sizes, List.prefix_append _ _⟩
  · intro image fault
    rw [parse_eq_error_iff]
    constructor
    · rintro ⟨short, rfl⟩
      exact ⟨short, rfl, rfl, rfl⟩
    · rintro ⟨short, hfault, -, -⟩
      exact ⟨short, hfault⟩

/-- A header whose fields differ from one another. -/
def cartridge : Header where
  busSettings := [0x80, 0x37, 0x12, 0x40]
  clockRate := 0x0000000F
  entrypoint := 0x80246000
  revision := 0x0000144B
  checksum1 := 0x635A2BFF
  checksum2 := 0x8B022326
  reserved18 := [1, 2, 3, 4, 5, 6, 7, 8]
  rawName := [0x53, 0x55, 0x50, 0x45, 0x52, 0x20, 0x4D, 0x41, 0x52, 0x49,
    0x4F, 0x20, 0x36, 0x34, 0x20, 0x20, 0x20, 0x20, 0x20, 0x20]
  reserved34 := [9, 10, 11, 12]
  rawMediaFormat := 0x0000004E
  rawCartridgeId := [0x53, 0x4D]
  rawCountryCode := 0x45
  version := 0

theorem parse_lossless_cartridge :
    (cartridge.WellFormed ∧ parse (cartridge.encode ++ [0xFF]) = .ok cartridge) ∧
    0x40 ≤ (cartridge.encode ++ [0xFF]).length ∧
      ∃ h, parse (cartridge.encode ++ [0xFF]) = .ok h ∧ h.Heads (cartridge.encode ++ [0xFF]) := by
  have sizes : cartridge.WellFormed := ⟨rfl, rfl, rfl, rfl, rfl⟩
  have holds : 0x40 ≤ (cartridge.encode ++ [0xFF]).length := by
    rw [List.length_append, sizes.length_encode]
    exact Nat.le_add_right _ _
  exact ⟨⟨sizes, parse_lossless.2.1 _ _ sizes⟩, holds, parse_lossless.1 _ holds⟩

end Header

end CartBoot
