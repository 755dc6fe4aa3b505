import CartBoot.Ipl3.Checksum
import Mathlib

/-!
# The checksum as a polynomial division

Bits stand for coefficients over the field of two elements, the most significant one first. Modulo
the generator, the register that takes in a message a byte at a time and the register of a division
bit by bit both stand for the message times a power of `X`. A register has room for remainders only,
so that the two hold the same word: the remainder itself.
-/

namespace CartBoot.Ipl3

open Polynomial

/-! ## Bit vectors as polynomials -/

/-- The coefficient that a bit stands for. -/
def coefficient (b : Bool) : ZMod 2 := b.toNat

@[simp] theorem coefficient_false : coefficient false = 0 := rfl

@[simp] theorem coefficient_true : coefficient true = 1 := rfl

theorem coefficient_xor : ∀ a b, coefficient (a ^^ b) = coefficient a + coefficient b := by decide

theorem coefficient_injective : ∀ a b, coefficient a = coefficient b → a = b := by decide

/-- The polynomial of a bit vector, whose bit `i` is the coefficient of `X ^ i`. -/
noncomputable def poly {n : Nat} (v : BitVec n) : (ZMod 2)[X] :=
  ∑ i ∈ Finset.range n, C (coefficient (v.getLsbD i)) * X ^ i

variable {n : Nat}

@[simp] theorem coeff_poly (v : BitVec n) (d : Nat) :
    (poly v).coeff d = coefficient (v.getLsbD d) := by
  simp only [poly, finsetSum_coeff, coeff_C_mul_X_pow, Finset.sum_ite_eq, Finset.mem_range]
  split
  next => rfl
  next outside => rw [BitVec.getLsbD_of_ge v d (Nat.not_lt.mp outside), coefficient_false]

theorem poly_injective {v w : BitVec n} (same : poly v = poly w) : v = w := by
  apply BitVec.eq_of_getLsbD_eq
  intro i _
  apply coefficient_injective
  rw [← coeff_poly, ← coeff_poly, same]

theorem degree_poly_lt (v : BitVec n) : (poly v).degree < n := by
  rw [degree_lt_iff_coeff_zero]
  intro d hd
  rw [coeff_poly, BitVec.getLsbD_of_ge v d hd, coefficient_false]

theorem poly_xor (v w : BitVec n) : poly (v ^^^ w) = poly v + poly w := by
  ext d
  rw [coeff_add, coeff_poly, coeff_poly, coeff_poly, BitVec.getLsbD_xor, coefficient_xor]

/-- The bits that leave a register on its way up are what it cannot hold of the product. -/
theorem poly_mul_X_pow (v : BitVec n) {k : Nat} (fits : k ≤ n) :
    poly v * X ^ k = poly (v <<< k) + poly (v.extractLsb' (n - k) k) * X ^ n := by
  ext d
  simp only [coeff_add, coeff_mul_X_pow', coeff_poly, BitVec.getLsbD_shiftLeft,
    BitVec.getLsbD_extractLsb']
  by_cases low : d < k
  · have hn : ¬ n ≤ d := by omega
    simp [low, Nat.not_le.mpr low, hn]
  · have hk : k ≤ d := Nat.not_lt.mp low
    by_cases inside : d < n
    · simp [hk, low, inside, Nat.not_le.mpr inside]
    · have hn : n ≤ d := Nat.not_lt.mp inside
      have htop : n - k + (d - n) = d - k := by omega
      by_cases top : d - n < k
      · simp [hk, hn, inside, top, htop]
      · have hbit : v.getLsbD (d - k) = false := BitVec.getLsbD_of_ge v _ (by omega)
        simp [hk, hn, inside, top, hbit]

/-- A byte in the highest place of a register. -/
theorem poly_setWidth_shiftLeft (b : BitVec 8) :
    poly (b.setWidth 32 <<< 24) = poly b * X ^ 24 := by
  ext d
  rw [coeff_mul_X_pow', coeff_poly, coeff_poly, BitVec.getLsbD_shiftLeft, BitVec.getLsbD_setWidth]
  by_cases low : d < 24
  · simp [low, Nat.not_le.mpr low]
  · by_cases inside : d < 32
    · simp [low, inside, Nat.not_lt.mp low, Nat.lt_of_le_of_lt (Nat.sub_le d 24) inside]
    · have hbit : b.getLsbD (d - 24) = false := BitVec.getLsbD_of_ge b _ (by omega)
      simp [low, inside, hbit]

/-- A bit pushes the highest one out of a register. -/
theorem poly_shiftConcat (v : Word) (b : Bool) :
    poly v * X + C (coefficient b) = poly (v.shiftConcat b) + C (coefficient v.msb) * X ^ 32 := by
  ext d
  rw [coeff_add, coeff_add, coeff_poly, BitVec.getLsbD_shiftConcat, BitVec.msb_eq_getLsbD_last,
    coeff_C_mul, coeff_X_pow]
  cases d with
  | zero => simp
  | succ d =>
    rw [coeff_mul_X, coeff_poly, coeff_C_succ]
    by_cases inside : d + 1 < 32
    · have hd : d + 1 ≠ 32 := by omega
      simp [inside, hd]
    · by_cases top : d + 1 = 32
      · obtain rfl : d = 31 := by omega
        simp
      · have hbit : v.getLsbD d = false := BitVec.getLsbD_of_ge v d (by omega)
        simp [inside, top, hbit]

/-! ## Messages -/

/-- The bits of a byte, the most significant one first. -/
def byteBits (b : UInt8) : List Bool :=
  List.ofFn fun i : Fin 8 => b.toBitVec.getMsbD i

/-- The bits of a message in the order in which they are read. -/
def messageBits (bytes : Bytes) : List Bool :=
  bytes.flatMap byteBits

theorem length_byteBits (b : UInt8) : (byteBits b).length = 8 := List.length_ofFn

theorem messageBits_concat (bytes : Bytes) (b : UInt8) :
    messageBits (bytes ++ [b]) = messageBits bytes ++ byteBits b := by
  rw [messageBits, List.flatMap_append, List.flatMap_singleton, messageBits]

/-- The polynomial of a run of bits, the first of which has the highest power. -/
noncomputable def bitsPoly : List Bool → (ZMod 2)[X]
  | [] => 0
  | b :: rest => C (coefficient b) * X ^ rest.length + bitsPoly rest

/-- One step of a division by hand: the next bit of the dividend is brought down, and the generator
is subtracted if the highest bit falls out. -/
def divideBit (register : Word) (b : Bool) : Word :=
  if register.msb then register.shiftConcat b ^^^ polynomial else register.shiftConcat b

/-- The register at the end of a division. -/
def divideBits (register : Word) (bits : List Bool) : Word :=
  bits.foldl divideBit register

/-- The polynomial that messages are divided by. -/
noncomputable def generator : (ZMod 2)[X] := X ^ 32 + poly polynomial

theorem bitsPoly_append (bits rest : List Bool) :
    bitsPoly (bits ++ rest) = bitsPoly bits * X ^ rest.length + bitsPoly rest := by
  induction bits with
  | nil => simp [bitsPoly]
  | cons b bits ih =>
    rw [List.cons_append, bitsPoly, ih, List.length_append, bitsPoly]
    ring

theorem bitsPoly_replicate_false (n : Nat) : bitsPoly (List.replicate n false) = 0 := by
  induction n with
  | zero => rfl
  | succ n ih => simp [List.replicate_succ, bitsPoly, ih]

theorem bitsPoly_byteBits (b : UInt8) : bitsPoly (byteBits b) = poly b.toBitVec := by
  simp only [byteBits, List.ofFn_succ, List.ofFn_zero, bitsPoly, poly, Finset.sum_range_succ]
  simp [BitVec.getMsbD_eq_getLsbD]
  ring

/-! ## Remainders -/

theorem monic_generator : generator.Monic := monic_X_pow_add (degree_poly_lt polynomial)

theorem degree_generator : generator.degree = 32 := by
  have hlow : (poly polynomial).degree < (X ^ 32 : (ZMod 2)[X]).degree := by
    rw [degree_X_pow]
    exact degree_poly_lt polynomial
  rw [generator, degree_add_eq_left_of_degree_lt hlow, degree_X_pow]
  rfl

/-- The class of a polynomial modulo the generator. -/
noncomputable def residue : (ZMod 2)[X] →+* AdjoinRoot generator := AdjoinRoot.mk generator

theorem residue_X_pow : residue (X ^ 32) = residue (poly polynomial) := by
  apply AdjoinRoot.mk_eq_mk.mpr
  rw [CharTwo.sub_eq_add, ← generator]

/-- A register of the class of a polynomial holds its remainder. -/
theorem poly_eq_modByMonic {register : Word} {p : (ZMod 2)[X]}
    (same : residue (poly register) = residue p) : poly register = p %ₘ generator := by
  obtain ⟨q, hq⟩ := AdjoinRoot.mk_eq_mk.mp same
  refine (div_modByMonic_unique (-q) (poly register) monic_generator ⟨?_, ?_⟩).2.symm
  · linear_combination hq
  · rw [degree_generator]
    exact degree_poly_lt register

theorem residue_divideBit (register : Word) (b : Bool) :
    residue (poly (divideBit register b)) =
      residue (poly register * X + C (coefficient b)) := by
  rw [poly_shiftConcat, divideBit]
  split
  next out =>
    rw [poly_xor, map_add, ← residue_X_pow, ← map_add, out, coefficient_true, C_1, one_mul]
  next stays =>
    rw [Bool.eq_false_of_not_eq_true stays, coefficient_false, C_0, zero_mul, add_zero]

theorem residue_mul_add {p q : (ZMod 2)[X]} (same : residue p = residue q) (r s : (ZMod 2)[X]) :
    residue (p * r + s) = residue (q * r + s) := by
  rw [map_add, map_mul, same, ← map_mul, ← map_add]

/-- A division reduces the register times a power of `X` together with the bits behind it. -/
theorem residue_divideBits (register : Word) (bits : List Bool) :
    residue (poly (divideBits register bits)) =
      residue (poly register * X ^ bits.length + bitsPoly bits) := by
  induction bits using List.reverseRecOn with
  | nil => simp [divideBits, bitsPoly]
  | append_singleton bits b ih =>
    calc residue (poly (divideBits register (bits ++ [b])))
        = residue (poly (divideBits register bits) * X + C (coefficient b)) := by
          rw [divideBits, List.foldl_concat]
          exact residue_divideBit _ b
      _ = residue ((poly register * X ^ bits.length + bitsPoly bits) * X + C (coefficient b)) :=
          residue_mul_add ih _ _
      _ = residue (poly register * X ^ (bits ++ [b]).length + bitsPoly (bits ++ [b])) := by
          apply congrArg residue
          simp only [bitsPoly_append, bitsPoly, List.length_append, List.length_cons,
            List.length_nil]
          ring

theorem shiftBit_eq_divideBit (register : Word) :
    shiftBit register = divideBit register false := by
  have hshift : register <<< 1 = register.shiftConcat false := by
    ext i
    simp [BitVec.getElem_shiftConcat]
  rw [shiftBit, hshift, divideBit]

/-- The bit steps behind the table divide with zeros brought down. -/
theorem shiftBits_eq_divideBits (n : Nat) (register : Word) :
    shiftBits n register = divideBits register (List.replicate n false) := by
  induction n generalizing register with
  | zero => rfl
  | succ n ih =>
    rw [shiftBits, ih, shiftBit_eq_divideBit]
    rfl

/-- The table holds the remainders of bytes that stand 32 places above the register. -/
theorem residue_byteEffect (b : BitVec 8) :
    residue (poly (byteEffect b)) = residue (poly b * X ^ 32) := by
  rw [byteEffect, shiftBits_eq_divideBits, residue_divideBits, bitsPoly_replicate_false,
    List.length_replicate, poly_setWidth_shiftLeft]
  apply congrArg residue
  ring

/-- The byte that leaves the register and the byte of the message are looked up together. -/
theorem residue_takeByte (register : Word) (b : UInt8) :
    residue (poly (takeByte register b)) =
      residue (poly register * X ^ 8 + poly b.toBitVec * X ^ 32) := by
  have hfits : 8 ≤ 32 := by decide
  calc residue (poly (takeByte register b))
      = residue (poly (register <<< 8) +
          (poly (register.extractLsb' 24 8) + poly b.toBitVec) * X ^ 32) := by
        rw [takeByte_eq, poly_xor, map_add, residue_byteEffect, poly_xor, ← map_add]
    _ = residue (poly register * X ^ 8 + poly b.toBitVec * X ^ 32) := by
        rw [poly_mul_X_pow register hfits]
        apply congrArg residue
        ring

/-- The register after a message stands for the message with 32 zero bits behind it. -/
theorem residue_remainder (bytes : Bytes) :
    residue (poly (remainder bytes)) = residue (bitsPoly (messageBits bytes) * X ^ 32) := by
  induction bytes using List.reverseRecOn with
  | nil => simp [remainder, messageBits, bitsPoly, poly]
  | append_singleton bytes b ih =>
    calc residue (poly (remainder (bytes ++ [b])))
        = residue (poly (remainder bytes) * X ^ 8 + poly b.toBitVec * X ^ 32) := by
          rw [remainder, List.foldl_concat]
          exact residue_takeByte _ b
      _ = residue (bitsPoly (messageBits bytes) * X ^ 32 * X ^ 8 + poly b.toBitVec * X ^ 32) :=
          residue_mul_add ih _ _
      _ = residue (bitsPoly (messageBits (bytes ++ [b])) * X ^ 32) := by
          rw [messageBits_concat, bitsPoly_append, bitsPoly_byteBits, length_byteBits]
          apply congrArg residue
          ring

/-- The checksum is the complement of the remainder that the message times `X ^ 32` leaves, and a
division bit by bit of the message, with 32 zero bits behind it, gives the same. -/
theorem checksum_eq_remainder (bytes : Bytes) :
    poly (checksum bytes ^^^ 0xFFFFFFFF) =
        (bitsPoly (messageBits bytes) * X ^ 32) %ₘ (X ^ 32 + poly (0x04C11DB7 : Word)) ∧
      checksum bytes ^^^ 0xFFFFFFFF =
        divideBits 0 (messageBits bytes ++ List.replicate 32 false) := by
  have hcomplement : checksum bytes ^^^ 0xFFFFFFFF = remainder bytes := by
    rw [checksum, BitVec.xor_assoc, BitVec.xor_self, BitVec.xor_zero]
  have htable : poly (remainder bytes) = (bitsPoly (messageBits bytes) * X ^ 32) %ₘ generator :=
    poly_eq_modByMonic (residue_remainder bytes)
  rw [hcomplement]
  refine ⟨htable, poly_injective (htable.trans (poly_eq_modByMonic ?_).symm)⟩
  rw [residue_divideBits, bitsPoly_append, bitsPoly_replicate_false, List.length_replicate]
  apply congrArg residue
  simp [poly]

end CartBoot.Ipl3
