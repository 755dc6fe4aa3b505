import CartBoot.Ipl3.Cic
import CartBoot.Proofs.Ipl3.Division

/-!
# Bursts

A burst changes bits of a message within 32 consecutive ones. The two messages then differ by a
polynomial below the generator, times a power of `X`. The generator has a constant term, so that it
divides no such product, and the checksums of the two messages differ.
-/

namespace CartBoot.Ipl3

open Polynomial

/-- Two messages of one length differ, and their bits differ within 32 consecutive ones only. -/
structure Burst (a b : Bytes) : Prop where
  length : a.length = b.length
  differ : a ≠ b
  window : ∃ start, ∀ i, (messageBits a)[i]? ≠ (messageBits b)[i]? → start ≤ i ∧ i < start + 32

/-! ## Bits and their polynomials -/

theorem degree_bitsPoly_lt (bits : List Bool) : (bitsPoly bits).degree < bits.length := by
  induction bits with
  | nil => simp [bitsPoly]
  | cons b rest ih =>
    have hterm : (C (coefficient b) * X ^ rest.length : (ZMod 2)[X]).degree <
        ((rest.length + 1 : Nat) : WithBot Nat) :=
      (degree_C_mul_X_pow_le _ _).trans_lt (by exact_mod_cast Nat.lt_succ_self _)
    have hrest : (bitsPoly rest).degree < ((rest.length + 1 : Nat) : WithBot Nat) :=
      ih.trans (by exact_mod_cast Nat.lt_succ_self _)
    exact (degree_add_le _ _).trans_lt (max_lt hterm hrest)

theorem coeff_bitsPoly_cons (b : Bool) (rest : List Bool) :
    (bitsPoly (b :: rest)).coeff rest.length = coefficient b := by
  rw [bitsPoly, coeff_add, coeff_C_mul_X_pow, if_pos rfl,
    coeff_eq_zero_of_degree_lt (degree_bitsPoly_lt rest), add_zero]

theorem bitsPoly_injective {bits other : List Bool} (length : bits.length = other.length)
    (same : bitsPoly bits = bitsPoly other) : bits = other := by
  induction bits generalizing other with
  | nil => exact (List.length_eq_zero_iff.mp length.symm).symm
  | cons b rest ih =>
    obtain ⟨c, more, rfl⟩ := List.exists_cons_of_length_eq_add_one length.symm
    have hlength : rest.length = more.length := Nat.succ.inj length
    have hhead : b = c := by
      apply coefficient_injective
      rw [← coeff_bitsPoly_cons b rest, same, hlength, coeff_bitsPoly_cons]
    subst hhead
    rw [bitsPoly, bitsPoly, hlength] at same
    rw [ih hlength (add_left_cancel same)]

theorem length_messageBits (bytes : Bytes) : (messageBits bytes).length = 8 * bytes.length := by
  induction bytes with
  | nil => rfl
  | cons b rest ih =>
    rw [messageBits, List.flatMap_cons, List.length_append, length_byteBits, ← messageBits, ih,
      List.length_cons]
    omega

theorem messageBits_append (bytes rest : Bytes) :
    messageBits (bytes ++ rest) = messageBits bytes ++ messageBits rest :=
  List.flatMap_append

theorem byteBits_injective {b c : UInt8} (same : byteBits b = byteBits c) : b = c := by
  apply UInt8.toBitVec_inj.mp
  apply poly_injective
  rw [← bitsPoly_byteBits, same, bitsPoly_byteBits]

theorem messageBits_injective {a b : Bytes} (length : a.length = b.length)
    (same : messageBits a = messageBits b) : a = b := by
  induction a generalizing b with
  | nil => exact (List.length_eq_zero_iff.mp length.symm).symm
  | cons x rest ih =>
    obtain ⟨y, more, rfl⟩ := List.exists_cons_of_length_eq_add_one length.symm
    obtain ⟨hbyte, hrest⟩ := List.append_inj same rfl
    rw [byteBits_injective hbyte, ih (Nat.succ.inj length) hrest]

/-! ## The generator -/

theorem isCoprime_generator_X_pow (k : Nat) : IsCoprime generator (X ^ k) := by
  have hcoprime : IsCoprime (X : (ZMod 2)[X]) generator := by
    rw [irreducible_X.coprime_iff_not_dvd, X_dvd_iff]
    simp [generator, polynomial]
  exact hcoprime.symm.pow_right

theorem eq_zero_of_generator_dvd {p : (ZMod 2)[X]} {k : Nat} (low : p.degree < 32)
    (divides : generator ∣ p * X ^ k) : p = 0 := by
  have hdvd := (isCoprime_generator_X_pow k).dvd_of_dvd_mul_right divides
  apply eq_zero_of_dvd_of_degree_lt hdvd
  rwa [degree_generator]

theorem generator_dvd_of_remainder_eq {a b : Bytes} (same : remainder a = remainder b) :
    generator ∣ (bitsPoly (messageBits a) - bitsPoly (messageBits b)) * X ^ 32 := by
  have hresidue : residue (bitsPoly (messageBits a) * X ^ 32) =
      residue (bitsPoly (messageBits b) * X ^ 32) := by
    rw [← residue_remainder, same, residue_remainder]
  rw [sub_mul]
  exact AdjoinRoot.mk_eq_mk.mp hresidue

/-! ## Bursts -/

variable {a b : Bytes}

/-- The messages of a burst have the same bits before and behind some 32 bits. -/
theorem Burst.exists_window (burst : Burst a b) : ∃ front bits other back,
    messageBits a = front ++ (bits ++ back) ∧ messageBits b = front ++ (other ++ back) ∧
      bits.length = other.length ∧ bits.length ≤ 32 := by
  obtain ⟨hlength, -, start, hwindow⟩ := burst
  have hbits : (messageBits a).length = (messageBits b).length := by
    rw [length_messageBits, length_messageBits, hlength]
  have hagree : ∀ i, i < start ∨ start + 32 ≤ i → (messageBits a)[i]? = (messageBits b)[i]? := by
    intro i outside
    by_contra hne
    have hinside := hwindow i hne
    omega
  have hfront : (messageBits a).take start = (messageBits b).take start := by
    apply List.ext_getElem?
    intro i
    rw [List.getElem?_take, List.getElem?_take]
    split
    next below => exact hagree i (.inl below)
    next => rfl
  have hback : (messageBits a).drop (start + 32) = (messageBits b).drop (start + 32) := by
    apply List.ext_getElem?
    intro i
    rw [List.getElem?_drop, List.getElem?_drop]
    exact hagree _ (.inr (Nat.le_add_right _ i))
  refine ⟨(messageBits a).take start, ((messageBits a).drop start).take 32,
    ((messageBits b).drop start).take 32, (messageBits a).drop (start + 32), ?_, ?_, ?_, ?_⟩
  · rw [← List.drop_drop, List.take_append_drop, List.take_append_drop]
  · rw [hfront, hback, ← List.drop_drop, List.take_append_drop, List.take_append_drop]
  · rw [List.length_take, List.length_take, List.length_drop, List.length_drop, hbits]
  · exact List.length_take_le 32 _

/-- A burst shows in the remainder. -/
theorem Burst.remainder_ne (burst : Burst a b) : remainder a ≠ remainder b := by
  intro same
  obtain ⟨front, bits, other, back, ha, hb, hlength, hshort⟩ := burst.exists_window
  have hshift : (bitsPoly (messageBits a) - bitsPoly (messageBits b)) * X ^ 32 =
      (bitsPoly bits - bitsPoly other) * X ^ (back.length + 32) := by
    simp only [ha, hb, bitsPoly_append, List.length_append, hlength]
    ring
  have hlow : (bitsPoly bits - bitsPoly other).degree < 32 := by
    have hroom : ((bits.length : Nat) : WithBot Nat) ≤ 32 := by exact_mod_cast hshort
    have hbits := (degree_bitsPoly_lt bits).trans_le hroom
    have hother := degree_bitsPoly_lt other
    rw [← hlength] at hother
    exact (degree_sub_le _ _).trans_lt (max_lt hbits (hother.trans_le hroom))
  have hdvd := generator_dvd_of_remainder_eq same
  rw [hshift] at hdvd
  have hwindow : bits = other :=
    bitsPoly_injective hlength (sub_eq_zero.mp (eq_zero_of_generator_dvd hlow hdvd))
  exact burst.differ (messageBits_injective burst.length (by rw [ha, hb, hwindow]))

theorem Burst.checksum_ne (burst : Burst a b) : checksum a ≠ checksum b :=
  fun same => burst.remainder_ne ((BitVec.xor_left_inj _).mp same)

/-- A burst stays one wherever it stands in a longer message. -/
theorem Burst.append (burst : Burst a b) (front back : Bytes) :
    Burst (front ++ (a ++ back)) (front ++ (b ++ back)) := by
  obtain ⟨hlength, hdiffer, start, hwindow⟩ := burst
  have hbits : (messageBits a).length = (messageBits b).length := by
    rw [length_messageBits, length_messageBits, hlength]
  refine ⟨by simp [hlength], ?_, (messageBits front).length + start, fun i hi => ?_⟩
  · intro same
    exact hdiffer (List.append_cancel_right (List.append_cancel_left same))
  · simp only [messageBits_append] at hi
    -- In front of the burst and behind it, the bits are those of the same bytes.
    by_cases hfront : i < (messageBits front).length
    · rw [List.getElem?_append_left hfront, List.getElem?_append_left hfront] at hi
      exact absurd rfl hi
    · have hle := Nat.not_lt.mp hfront
      rw [List.getElem?_append_right hle, List.getElem?_append_right hle] at hi
      by_cases hinside : i - (messageBits front).length < (messageBits a).length
      · have hinside' := hbits ▸ hinside
        rw [List.getElem?_append_left hinside, List.getElem?_append_left hinside'] at hi
        have := hwindow _ hi
        omega
      · have hbehind := Nat.not_lt.mp hinside
        rw [List.getElem?_append_right hbehind, List.getElem?_append_right (hbits ▸ hbehind),
          hbits] at hi
        exact absurd rfl hi

end CartBoot.Ipl3

namespace CartBoot

/-- Every build stands under its own checksum. -/
def Cic.Table.Keyed (table : Cic.Table) : Prop :=
  ∀ key cic, table.find? key = some cic → cic.checksum = key

theorem Cic.Table.keyed_ofBuilds (builds : List Cic) : (ofBuilds builds).Keyed := by
  intro key cic found
  obtain ⟨entry, hentry, rfl⟩ := Option.map_eq_some_iff.mp found
  have hkey := List.find?_some hentry
  obtain ⟨build, -, rfl⟩ := List.mem_map.mp (List.mem_reverse.mp (List.mem_of_find?_eq_some hentry))
  exact of_decide_eq_true hkey

namespace Ipl3

theorem checksum_of_identify {table : Cic.Table} (keyed : table.Keyed) {image : Bytes} {cic : Cic}
    (found : identify table image = .ok cic) : cic.checksum = (imageChecksum image).toNat := by
  unfold identify at found
  split at found
  next => cases found
  next =>
    unfold Cic.Table.lookup at found
    split at found
    next build hbuild =>
      cases found
      exact keyed _ _ hbuild
    next => cases found

/-- The checksum detects every burst. In a table that has every build under its own checksum, images
that differ by a burst in the boot loader, and in any way elsewhere, are never taken for the same
build. -/
theorem checksum_detects_burst :
    (∀ a b, Burst a b → checksum a ≠ checksum b) ∧
    ∀ (table : Cic.Table) (image patched : Bytes), table.Keyed →
      Burst ((image.take 0x1000).drop 0x40) ((patched.take 0x1000).drop 0x40) →
      ∀ cic, identify table image = .ok cic → identify table patched ≠ .ok cic := by
  refine ⟨fun a b burst => burst.checksum_ne, ?_⟩
  intro table image patched keyed burst cic found same
  have himage := checksum_of_identify keyed found
  have hpatched := checksum_of_identify keyed same
  have hsame : imageChecksum image = imageChecksum patched :=
    BitVec.eq_of_toNat_eq (Int.ofNat_inj.mp (himage.symm.trans hpatched))
  exact burst.checksum_ne hsame

theorem burst_unaligned : Burst [0x01, 0xFF, 0x00, 0x80, 0xFE] [0x00, 0x00, 0x00, 0x00, 0x00] := by
  refine ⟨rfl, by decide, 7, fun i hi => ?_⟩
  by_cases inside : i < 40
  · have hbits : ∀ i < 40, (messageBits [0x01, 0xFF, 0x00, 0x80, 0xFE])[i]? ≠
        (messageBits [0x00, 0x00, 0x00, 0x00, 0x00])[i]? → 7 ≤ i ∧ i < 7 + 32 := by decide
    exact hbits i inside hi
  · have hlength (bytes : Bytes) (five : bytes.length = 5) : (messageBits bytes)[i]? = none := by
      rw [List.getElem?_eq_none_iff, length_messageBits, five]
      omega
    exact absurd ((hlength _ rfl).trans (hlength _ rfl).symm) hi

theorem drop_take_image (header loader tail : Bytes) (hheader : header.length = 0x40)
    (hloader : loader.length = 0xFC0) :
    ((header ++ (loader ++ tail)).take 0x1000).drop 0x40 = loader := by
  rw [List.drop_take, List.drop_left' hheader, List.take_left' hloader]

/-- An image is found under its own checksum. -/
theorem identify_ofBuilds_singleton {image : Bytes} (room : Layout.bootOffset ≤ image.length)
    {build : Cic} (own : build.checksum = (imageChecksum image).toNat) :
    identify (.ofBuilds [build]) image = .ok build := by
  rw [identify, if_neg (Nat.not_lt.mpr room)]
  simp [Cic.Table.lookup, Cic.Table.find?, Cic.Table.ofBuilds, own]

/-- The law for a burst over five bytes of a boot loader that stands in the table, while the header
and the end of the image change as well. -/
theorem checksum_detects_burst_unaligned :
    let loader (bytes : Bytes) : Bytes :=
      List.replicate 0x20 0 ++ (bytes ++ List.replicate 0xF9B 0)
    let image := List.replicate 0x40 0 ++ (loader [0x01, 0xFF, 0x00, 0x80, 0xFE] ++ [1, 2, 3])
    let patched := List.replicate 0x40 7 ++ (loader [0x00, 0x00, 0x00, 0x00, 0x00] ++ [7])
    let build : Cic := ⟨(imageChecksum image).toNat, "6102", "7101", 0⟩
    let table : Cic.Table := .ofBuilds [build]
    Burst [0x01, 0xFF, 0x00, 0x80, 0xFE] [0x00, 0x00, 0x00, 0x00, 0x00] ∧
      checksum [0x01, 0xFF, 0x00, 0x80, 0xFE] ≠ checksum [0x00, 0x00, 0x00, 0x00, 0x00] ∧
      table.Keyed ∧
      Burst ((image.take 0x1000).drop 0x40) ((patched.take 0x1000).drop 0x40) ∧
      identify table image = .ok build ∧ identify table patched ≠ .ok build := by
  intro loader image patched build table
  have hlength (bytes : Bytes) (five : bytes.length = 5) : (loader bytes).length = 0xFC0 := by
    simp only [loader, List.length_append, List.length_replicate, five]
  have hloader : Burst ((image.take 0x1000).drop 0x40) ((patched.take 0x1000).drop 0x40) := by
    rw [drop_take_image _ _ _ List.length_replicate (hlength _ rfl),
      drop_take_image _ _ _ List.length_replicate (hlength _ rfl)]
    exact burst_unaligned.append _ _
  have hkeyed : table.Keyed := Cic.Table.keyed_ofBuilds [build]
  have hfound : identify table image = .ok build := by
    have hbytes := hlength [0x01, 0xFF, 0x00, 0x80, 0xFE] rfl
    have hroom : Layout.bootOffset ≤ image.length := by
      rw [List.length_append, List.length_append, List.length_replicate, hbytes]
      decide
    exact identify_ofBuilds_singleton hroom rfl
  exact ⟨burst_unaligned, checksum_detects_burst.1 _ _ burst_unaligned, hkeyed, hloader, hfound,
    checksum_detects_burst.2 table image patched hkeyed hloader build hfound⟩

end Ipl3

end CartBoot
