import CartBoot.ByteOrder

/-!
# Laying out an image in a byte order

`ByteOrder.layOut` puts the bytes of each word of a canonical image where an order holds them.
Detection finds the order of a layout, rearranging it leads back to the image, and its words are
the words of the image. The words of a buffer are also those that checked reads of four bytes give.
-/

namespace CartBoot.ByteOrder

/-- The bytes of a word from the first one in an image to the last, given from the most significant
one to the least. -/
def layWord : ByteOrder → UInt8 → UInt8 → UInt8 → UInt8 → Bytes
  | big, a, b, c, d => [a, b, c, d]
  | little, a, b, c, d => [d, c, b, a]
  | swapped, a, b, c, d => [b, a, d, c]

/-- A canonical image in another order. Bytes after the last whole word keep their places. -/
def layOut (order : ByteOrder) : Bytes → Bytes
  | a :: b :: c :: d :: rest => order.layWord a b c d ++ order.layOut rest
  | rest => rest

@[simp] theorem layOut_cons (order : ByteOrder) (a b c d : UInt8) (rest : Bytes) :
    order.layOut (a :: b :: c :: d :: rest) = order.layWord a b c d ++ order.layOut rest := rfl

@[simp] theorem length_layWord (order : ByteOrder) (a b c d : UInt8) :
    (order.layWord a b c d).length = 4 := by
  cases order <;> rfl

@[simp] theorem length_layOut (order : ByteOrder) (bytes : Bytes) :
    (order.layOut bytes).length = bytes.length := by
  match bytes with
  | a :: b :: c :: d :: rest =>
      simp only [layOut_cons, List.length_append, length_layWord, List.length_cons,
        length_layOut order rest]
      omega
  | [] | [_] | [_, _] | [_, _, _] => rfl

/-- A canonical image is its own layout. -/
theorem layOut_big (bytes : Bytes) : big.layOut bytes = bytes := by
  match bytes with
  | a :: b :: c :: d :: rest =>
      rw [layOut_cons, layOut_big rest]
      rfl
  | [] | [_] | [_, _] | [_, _, _] => rfl

/-- Rearranging a word takes it back to canonical order. -/
theorem arrange_layWord_append (order : ByteOrder) (a b c d : UInt8) (rest : Bytes) :
    order.arrange (order.layWord a b c d ++ rest) = a :: b :: c :: d :: order.arrange rest := by
  cases order <;> simp [layWord]

/-- Rearranging the layout of whole words gives the canonical image. -/
theorem arrange_layOut (order : ByteOrder) {bytes : Bytes} (whole : bytes.length % 4 = 0) :
    order.arrange (order.layOut bytes) = bytes := by
  match bytes with
  | a :: b :: c :: d :: rest =>
      have hrest : rest.length % 4 = 0 := by
        simp only [List.length_cons] at whole
        omega
      rw [layOut_cons, arrange_layWord_append, arrange_layOut order hrest]
  | [] => cases order <;> rfl
  | [_] | [_, _] | [_, _, _] => simp at whole

/-- A word is read from its own layout. -/
theorem words_layWord_append (order : ByteOrder) (a b c d : UInt8) (rest : Bytes) :
    order.words (order.layWord a b c d ++ rest) = .ofBytes a b c d :: order.words rest := by
  cases order <;> simp [layWord, word]

/-- The words of a layout are those of the canonical image. -/
theorem words_layOut_append (order : ByteOrder) {bytes : Bytes} (whole : bytes.length % 4 = 0)
    (rest : Bytes) :
    order.words (order.layOut bytes ++ rest) = big.words bytes ++ order.words rest := by
  match bytes with
  | a :: b :: c :: d :: more =>
      have hmore : more.length % 4 = 0 := by
        simp only [List.length_cons] at whole
        omega
      rw [layOut_cons, List.append_assoc, words_layWord_append, words_layOut_append order hmore,
        words_cons]
      rfl
  | [] => rfl
  | [_] | [_, _] | [_, _, _] => simp at whole

/-- The words of the first bytes are the first words. -/
theorem words_take (order : ByteOrder) (bytes : Bytes) (n : Nat) :
    order.words (bytes.take (4 * n)) = (order.words bytes).take n := by
  match n, bytes with
  | 0, bytes => rw [Nat.mul_zero, List.take_zero, List.take_zero]; rfl
  | n + 1, a :: b :: c :: d :: rest =>
      have hcut : (a :: b :: c :: d :: rest).take (4 * (n + 1)) =
          a :: b :: c :: d :: rest.take (4 * n) := rfl
      rw [hcut, words_cons, words_cons, List.take_succ_cons, words_take order rest n]
  | n + 1, [] | n + 1, [_] | n + 1, [_, _] | n + 1, [_, _, _] =>
      rw [List.take_of_length_le (by simp only [List.length_cons, List.length_nil]; omega)]
      rfl

/-- Rearranging a word brings its bytes into the order of their weight. -/
theorem exists_arrange_cons (order : ByteOrder) (a b c d : UInt8) (rest : Bytes) :
    ∃ a' b' c' d', order.arrange (a :: b :: c :: d :: rest) =
        a' :: b' :: c' :: d' :: order.arrange rest ∧
      order.word a b c d = .ofBytes a' b' c' d' := by
  cases order with
  | big => exact ⟨a, b, c, d, rfl, rfl⟩
  | little => exact ⟨d, c, b, a, arrange_little_cons a b c d rest, rfl⟩
  | swapped =>
      refine ⟨b, a, d, c, ?_, rfl⟩
      rw [arrange_swapped_cons, arrange_swapped_cons]

/-- A buffer read in an order has the words of the rearranged buffer. -/
theorem words_arrange (order : ByteOrder) (bytes : Bytes) :
    big.words (order.arrange bytes) = order.words bytes := by
  match bytes with
  | a :: b :: c :: d :: rest =>
      obtain ⟨a', b', c', d', harrange, hword⟩ := exists_arrange_cons order a b c d rest
      rw [harrange, words_cons, words_cons, words_arrange order rest, hword]
      rfl
  | [] | [_] | [_, _] | [_, _, _] =>
      rw [words_of_length_lt, words_of_length_lt]
      all_goals simp

/-- Bytes after the last whole word are not read. -/
theorem words_take_whole (order : ByteOrder) (bytes : Bytes) :
    order.words (bytes.take (bytes.length - bytes.length % 4)) = order.words bytes := by
  have hwhole : bytes.length - bytes.length % 4 = 4 * (bytes.length / 4) := by omega
  rw [hwhole, words_take, List.take_of_length_le (Nat.le_of_eq (length_words order bytes))]

/-- Words written most significant byte first. -/
def ofWords (words : List Word) : Bytes := words.flatMap Word.toBytes

@[simp] theorem length_ofWords (words : List Word) : (ofWords words).length = 4 * words.length := by
  induction words with
  | nil => rfl
  | cons w rest ih =>
      rw [ofWords, List.flatMap_cons, List.length_append, ← ofWords, ih, Word.length_toBytes,
        List.length_cons]
      omega

theorem words_ofWords (words : List Word) : big.words (ofWords words) = words := by
  induction words with
  | nil => rfl
  | cons w rest ih =>
      have hword := Bytes.toWord_toBytes_append w []
      rw [List.append_nil] at hword
      calc big.words (ofWords (w :: rest))
          = Bytes.toWord w.toBytes :: big.words (ofWords rest) := words_cons big _ _ _ _ _
        _ = w :: rest := by rw [hword, ih]

/-- Words laid out in an order are read back in it. -/
theorem words_layOut_ofWords_append (order : ByteOrder) (words : List Word) (rest : Bytes) :
    order.words (order.layOut (ofWords words) ++ rest) = words ++ order.words rest := by
  have hwhole : (ofWords words).length % 4 = 0 := by
    rw [length_ofWords]
    omega
  rw [words_layOut_append order hwhole, words_ofWords]

/-! ## Detection -/

theorem magic_injective {order other : ByteOrder} (same : order.magic = other.magic) :
    order = other := by
  cases order <;> cases other <;> first | rfl | simp [magic] at same

theorem detect_of_magic {order : ByteOrder} {image : Bytes} (starts : image.take 4 = order.magic) :
    detect image = .ok order := by
  cases order <;> simp only [detect, starts] <;> rfl

theorem detect_of_no_magic {image : Bytes}
    (foreign : ∀ order : ByteOrder, image.take 4 ≠ order.magic) :
    detect image = .error (.unknownMagic (image.take 4)) := by
  have hfind : (all.find? fun order => order.magic == image.take 4) = none := by
    rw [List.find?_eq_none]
    intro order _
    simpa using (foreign order).symm
  simp only [detect, hfind]

/-- The layout of an image starts with the magic of its order. -/
theorem take_layOut_append (order : ByteOrder) {image : Bytes} (starts : image.take 4 = big.magic)
    (tail : Bytes) : (order.layOut image ++ tail).take 4 = order.magic := by
  match image with
  | a :: b :: c :: d :: rest =>
      obtain ⟨rfl, rfl, rfl, rfl⟩ : a = 0x80 ∧ b = 0x37 ∧ c = 0x12 ∧ d = 0x40 := by
        simpa [magic] using starts
      cases order <;> rfl
  | [] | [_] | [_, _] | [_, _, _] => simp [magic] at starts

/-! ## Checked reads -/

/-- The four bytes at a word index, fewer at the end of the buffer. -/
def slice (bytes : Bytes) (index : Nat) : Bytes :=
  (bytes.drop (4 * index)).take 4

/-- Reads the words of a buffer one by one, each with the check of its length. -/
def readWords (order : ByteOrder) (bytes : Bytes) : Except Fault (List Word) :=
  (List.range (bytes.length / 4)).mapM fun index => order.readWord (slice bytes index)

theorem slice_zero (a b c d : UInt8) (rest : Bytes) :
    slice (a :: b :: c :: d :: rest) 0 = [a, b, c, d] := rfl

theorem slice_succ (a b c d : UInt8) (rest : Bytes) (index : Nat) :
    slice (a :: b :: c :: d :: rest) (index + 1) = slice rest index := by
  simp [slice, Nat.mul_succ]

/-- A checked read gives the word whose bytes stand at its index in the rearranged buffer. -/
theorem readWord_slice_eq_ofBytes (order : ByteOrder) (bytes : Bytes) (index : Nat)
    (below : index < bytes.length / 4) :
    ∃ a b c d, slice (order.arrange bytes) index = [a, b, c, d] ∧
      order.readWord (slice bytes index) = .ok (.ofBytes a b c d) := by
  match bytes, index with
  | a :: b :: c :: d :: rest, 0 =>
      obtain ⟨a', b', c', d', harrange, hword⟩ := exists_arrange_cons order a b c d rest
      refine ⟨a', b', c', d', ?_, ?_⟩
      · rw [harrange, slice_zero]
      · rw [slice_zero, readWord, hword]
  | a :: b :: c :: d :: rest, index + 1 =>
      obtain ⟨a', b', c', d', harrange, -⟩ := exists_arrange_cons order a b c d rest
      have hbelow : index < rest.length / 4 := by
        simp only [List.length_cons] at below
        omega
      rw [harrange, slice_succ, slice_succ]
      exact readWord_slice_eq_ofBytes order rest index hbelow
  | [], _ | [_], _ | [_, _], _ | [_, _, _], _ => simp at below

/-- Checked reads do not reach past the whole words of a buffer. -/
theorem slice_take_whole {bytes : Bytes} {index : Nat} (below : index < bytes.length / 4) :
    slice (bytes.take (bytes.length - bytes.length % 4)) index = slice bytes index := by
  rw [slice, slice, List.drop_take, List.take_take]
  congr 1
  omega

/-- No checked read of a buffer fails, whatever its length. -/
theorem readWords_eq (order : ByteOrder) (bytes : Bytes) :
    order.readWords bytes = .ok (order.words bytes) := by
  match bytes with
  | a :: b :: c :: d :: rest =>
      have hlen : (a :: b :: c :: d :: rest).length / 4 = rest.length / 4 + 1 := by
        simp only [List.length_cons]
        omega
      have hrest := readWords_eq order rest
      simp only [readWords] at hrest
      rw [readWords, hlen, List.range_succ_eq_map, List.mapM_cons, List.mapM_map, slice_zero,
        words_cons]
      simp only [Function.comp_def, slice_succ, hrest]
      rfl
  | [] => rfl
  | [_] | [_, _] | [_, _, _] => simp [readWords, words, wordsOnto, pure, Except.pure]

end CartBoot.ByteOrder

namespace CartBoot

/-! ## Buffers that agree -/

/-- Bytes that agree up to an offset are cut to the same bytes there. -/
theorem Bytes.take_eq_of_agree {bytes other : Bytes} {n : Nat}
    (agree : ∀ i < n, other[i]? = bytes[i]?) : other.take n = bytes.take n := by
  apply List.ext_getElem?
  intro i
  rw [List.getElem?_take, List.getElem?_take]
  split
  next hi => exact agree i hi
  next => rfl

/-- Bytes that agree up to a word have the same words before it. -/
theorem ByteOrder.words_eq_of_agree (order : ByteOrder) {bytes other : Bytes} {n : Nat}
    (agree : ∀ i < 4 * n, other[i]? = bytes[i]?) :
    ∀ i < n, (order.words other)[i]? = (order.words bytes)[i]? := by
  intro i hi
  have hwords : (order.words other).take n = (order.words bytes).take n := by
    rw [← words_take, ← words_take, Bytes.take_eq_of_agree agree]
  rw [← List.getElem?_take_of_lt hi, hwords, List.getElem?_take_of_lt hi]

end CartBoot
