import CartBoot.Header

/-!
# Where the header fields stand

Every field lies within the first 0x40 bytes, so that a header is read from these alone.
-/

namespace CartBoot

/-- A word is read from the four bytes at the front. -/
theorem Bytes.toWord_take (bytes : Bytes) {n : Nat} (enough : 4 ≤ n) :
    Bytes.toWord (bytes.take n) = Bytes.toWord bytes := by
  obtain ⟨n, rfl⟩ := Nat.exists_eq_add_of_le' enough
  match bytes with
  | a :: b :: c :: d :: rest => rfl
  | [] | [_] | [_, _] | [_, _, _] => rfl

/-- The word at the front is written as the bytes that it is read from. -/
theorem Bytes.toBytes_toWord {bytes : Bytes} (enough : 4 ≤ bytes.length) :
    (Bytes.toWord bytes).toBytes = bytes.take 4 := by
  match bytes with
  | a :: b :: c :: d :: rest => simp
  | [] | [_] | [_, _] | [_, _, _] => simp at enough

namespace Header

variable (image : Bytes) {offset size n : Nat}

theorem field_take (inside : offset + size ≤ n) :
    field (image.take n) offset size = field image offset size := by
  rw [field, field, List.drop_take, List.take_take, Nat.min_eq_left (by omega)]

theorem wordField_take (inside : offset + 4 ≤ n) :
    wordField (image.take n) offset = wordField image offset := by
  rw [wordField, wordField, List.drop_take, Bytes.toWord_take _ (by omega)]

theorem byteField_take (inside : offset + 1 ≤ n) :
    byteField (image.take n) offset = byteField image offset := by
  rw [byteField, byteField, List.drop_take]
  obtain ⟨k, hk⟩ : ∃ k, n - offset = k + 1 := ⟨n - offset - 1, by omega⟩
  rw [hk]
  cases image.drop offset <;> rfl

theorem toBytes_wordField (inside : offset + 4 ≤ image.length) :
    (wordField image offset).toBytes = field image offset 4 := by
  apply Bytes.toBytes_toWord
  rw [List.length_drop]
  omega

theorem singleton_byteField (inside : offset + 1 ≤ image.length) :
    [byteField image offset] = field image offset 1 := by
  cases hdrop : image.drop offset with
  | nil =>
    have hshort := List.drop_eq_nil_iff.mp hdrop
    omega
  | cons first rest =>
    rw [byteField, field, hdrop]
    rfl

/-- A header is read from the first bytes of an image that holds it. -/
theorem parse_take (holds : Layout.headerSize ≤ image.length) :
    parse (image.take Layout.headerSize) = parse image := by
  have hshort : ¬ image.length < Layout.headerSize := Nat.not_lt.mpr holds
  have hcut : ¬ (image.take Layout.headerSize).length < Layout.headerSize := by
    rw [List.length_take, Nat.min_eq_left holds]
    exact Nat.lt_irrefl _
  rw [parse, parse, if_neg hshort, if_neg hcut]
  simp (disch := decide) only [field_take, wordField_take, byteField_take]

/-- Images with the same first bytes have the same header. -/
theorem parse_eq_of_take {image other : Bytes} {n : Nat} (same : other.take n = image.take n)
    (enough : Layout.headerSize ≤ n) (holds : Layout.headerSize ≤ image.length)
    (otherHolds : Layout.headerSize ≤ other.length) : parse other = parse image := by
  have hcut : other.take Layout.headerSize = image.take Layout.headerSize := by
    have h := congrArg (List.take Layout.headerSize) same
    rwa [List.take_take, List.take_take, Nat.min_eq_left enough] at h
  rw [← parse_take other otherHolds, ← parse_take image holds, hcut]

end Header

end CartBoot
