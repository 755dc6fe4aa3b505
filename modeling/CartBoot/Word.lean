/-!
# Bytes and 32-bit words

A word is four bytes, most significant first. Its bit fields are read off its value by division, so
that each field is a remainder with a known bound.
-/

namespace CartBoot

/-- A run of bytes, such as a cartridge image or a part of it. -/
abbrev Bytes := List UInt8

/-- A 32-bit machine word. -/
abbrev Word := BitVec 32

namespace Word

/-- The word whose bytes are `a`, `b`, `c` and `d`, most significant first. -/
def ofBytes (a b c d : UInt8) : Word :=
  BitVec.ofNat 32 (a.toNat * 0x1000000 + b.toNat * 0x10000 + c.toNat * 0x100 + d.toNat)

/-- The four bytes of a word, most significant first. -/
def toBytes (w : Word) : Bytes :=
  [UInt8.ofNat (w.toNat / 0x1000000), UInt8.ofNat (w.toNat / 0x10000),
    UInt8.ofNat (w.toNat / 0x100), UInt8.ofNat w.toNat]

theorem toNat_ofBytes (a b c d : UInt8) :
    (ofBytes a b c d).toNat =
      a.toNat * 0x1000000 + b.toNat * 0x10000 + c.toNat * 0x100 + d.toNat := by
  have ha := a.toNat_lt
  have hb := b.toNat_lt
  have hc := c.toNat_lt
  have hd := d.toNat_lt
  simp only [ofBytes, BitVec.toNat_ofNat]
  omega

@[simp]
theorem length_toBytes (w : Word) : w.toBytes.length = 4 := rfl

@[simp]
theorem toBytes_ofBytes (a b c d : UInt8) : (ofBytes a b c d).toBytes = [a, b, c, d] := by
  have ha := a.toNat_lt
  have hb := b.toNat_lt
  have hc := c.toNat_lt
  have hd := d.toNat_lt
  simp only [toBytes, toNat_ofBytes, List.cons.injEq, and_true]
  refine ⟨?_, ?_, ?_, ?_⟩ <;> apply UInt8.toNat_inj.mp <;> simp only [UInt8.toNat_ofNat'] <;>
    omega

end Word

/-- The word at the front of a run of bytes; a run of fewer than four bytes reads as zero. -/
def Bytes.toWord : Bytes → Word
  | a :: b :: c :: d :: _ => Word.ofBytes a b c d
  | _ => 0

@[simp]
theorem Bytes.toWord_cons_four (a b c d : UInt8) (rest : Bytes) :
    Bytes.toWord (a :: b :: c :: d :: rest) = Word.ofBytes a b c d := rfl

@[simp]
theorem Bytes.toWord_toBytes_append (w : Word) (rest : Bytes) :
    Bytes.toWord (w.toBytes ++ rest) = w := by
  apply BitVec.eq_of_toNat_eq
  have hw := w.isLt
  simp only [Word.toBytes, List.cons_append, List.nil_append, toWord_cons_four,
    Word.toNat_ofBytes, UInt8.toNat_ofNat']
  omega

end CartBoot
