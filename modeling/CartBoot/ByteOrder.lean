import CartBoot.Fault

/-!
# Byte orders of cartridge images

Images circulate in three orders, told apart by the first word of the header. `ByteOrder.arrange`
permutes the bytes of each group; every order is its own inverse, so the same function leads from
the canonical big-endian order to another one and back.
-/

namespace CartBoot

/-- How the bytes of each 32-bit word are laid out in an image. -/
inductive ByteOrder where
  /-- Most significant byte first, the canonical order. -/
  | big
  /-- Every word reversed. -/
  | little
  /-- The two bytes of every half-word swapped. -/
  | swapped
  deriving DecidableEq, Repr

namespace ByteOrder

def all : List ByteOrder := [big, little, swapped]

/-- The file suffix that stands for the order. -/
def name : ByteOrder → String
  | big => "z64"
  | little => "n64"
  | swapped => "v64"

def description : ByteOrder → String
  | big => "big-endian (native)"
  | little => "little-endian (word byte-reversed)"
  | swapped => "byte-swapped (half-word swapped)"

/-- The first four bytes of an image in this order. -/
def magic : ByteOrder → Bytes
  | big => [0x80, 0x37, 0x12, 0x40]
  | little => [0x40, 0x12, 0x37, 0x80]
  | swapped => [0x37, 0x80, 0x40, 0x12]

/-- The order whose magic the image starts with. -/
def detect (image : Bytes) : Except Fault ByteOrder :=
  match all.find? fun order => order.magic == image.take 4 with
  | some order => .ok order
  | none => .error (.unknownMagic (image.take 4))

/-- The number of bytes that move together. -/
def group : ByteOrder → Nat
  | big => 1
  | little => 4
  | swapped => 2

/-- Reverses whole groups of four bytes onto the bytes already done, which are held backwards. -/
def reverseWords (done : Bytes) : Bytes → Bytes
  | a :: b :: c :: d :: rest => reverseWords (a :: b :: c :: d :: done) rest
  | rest => done.reverse ++ rest

/-- Swaps whole pairs of bytes onto the bytes already done, which are held backwards. -/
def swapPairs (done : Bytes) : Bytes → Bytes
  | a :: b :: rest => swapPairs (a :: b :: done) rest
  | rest => done.reverse ++ rest

/-- Permutes each whole group of bytes; an incomplete last group stays as it is. -/
def arrange : ByteOrder → Bytes → Bytes
  | big, bytes => bytes
  | little, bytes => reverseWords [] bytes
  | swapped, bytes => swapPairs [] bytes

/-- Rearranges a buffer of whole groups into canonical order. -/
def normalize (order : ByteOrder) (bytes : Bytes) : Except Fault Bytes :=
  if bytes.length % order.group = 0 then .ok (order.arrange bytes)
  else .error (.raggedLength bytes.length order.group)

/-- The word that four bytes hold in this order. -/
def word : ByteOrder → UInt8 → UInt8 → UInt8 → UInt8 → Word
  | big, a, b, c, d => .ofBytes a b c d
  | little, a, b, c, d => .ofBytes d c b a
  | swapped, a, b, c, d => .ofBytes b a d c

/-- Reads the word at the front of a buffer. -/
def readWord (order : ByteOrder) : Bytes → Except Fault Word
  | a :: b :: c :: d :: _ => .ok (order.word a b c d)
  | short => .error (.shortWord short.length)

/-- Reads whole words onto the words already read, which are held backwards. -/
def wordsOnto (order : ByteOrder) (done : List Word) : Bytes → List Word
  | a :: b :: c :: d :: rest => wordsOnto order (order.word a b c d :: done) rest
  | _ => done.reverse

/-- The whole words of a buffer; bytes after the last whole word are not read. -/
def words (order : ByteOrder) (bytes : Bytes) : List Word :=
  wordsOnto order [] bytes

theorem reverseWords_eq_append (done bytes : Bytes) :
    reverseWords done bytes = done.reverse ++ reverseWords [] bytes := by
  match bytes with
  | a :: b :: c :: d :: rest =>
    rw [reverseWords, reverseWords, reverseWords_eq_append (a :: b :: c :: d :: done),
      reverseWords_eq_append [a, b, c, d]]
    simp
  | [] | [_] | [_, _] | [_, _, _] => simp [reverseWords]

theorem swapPairs_eq_append (done bytes : Bytes) :
    swapPairs done bytes = done.reverse ++ swapPairs [] bytes := by
  match bytes with
  | a :: b :: rest =>
    rw [swapPairs, swapPairs, swapPairs_eq_append (a :: b :: done), swapPairs_eq_append [a, b]]
    simp
  | [] | [_] => simp [swapPairs]

theorem wordsOnto_eq_append (order : ByteOrder) (done : List Word) (bytes : Bytes) :
    wordsOnto order done bytes = done.reverse ++ order.words bytes := by
  match bytes with
  | a :: b :: c :: d :: rest =>
    rw [words, wordsOnto, wordsOnto, wordsOnto_eq_append order (order.word a b c d :: done),
      wordsOnto_eq_append order [order.word a b c d]]
    simp
  | [] | [_] | [_, _] | [_, _, _] => simp [words, wordsOnto]

@[simp]
theorem arrange_big (bytes : Bytes) : big.arrange bytes = bytes := rfl

@[simp]
theorem arrange_little_cons (a b c d : UInt8) (rest : Bytes) :
    little.arrange (a :: b :: c :: d :: rest) = d :: c :: b :: a :: little.arrange rest := by
  rw [arrange, reverseWords, reverseWords_eq_append]
  rfl

@[simp]
theorem arrange_swapped_cons (a b : UInt8) (rest : Bytes) :
    swapped.arrange (a :: b :: rest) = b :: a :: swapped.arrange rest := by
  rw [arrange, swapPairs, swapPairs_eq_append]
  rfl

@[simp]
theorem words_cons (order : ByteOrder) (a b c d : UInt8) (rest : Bytes) :
    order.words (a :: b :: c :: d :: rest) = order.word a b c d :: order.words rest := by
  rw [words, wordsOnto, wordsOnto_eq_append]
  rfl

theorem words_of_length_lt (order : ByteOrder) {bytes : Bytes} (short : bytes.length < 4) :
    order.words bytes = [] := by
  match bytes with
  | [] | [_] | [_, _] | [_, _, _] => rfl
  | _ :: _ :: _ :: _ :: _ => simp at short; omega

theorem length_reverseWords (done bytes : Bytes) :
    (reverseWords done bytes).length = done.length + bytes.length := by
  match bytes with
  | a :: b :: c :: d :: rest =>
    rw [reverseWords, length_reverseWords (a :: b :: c :: d :: done)]
    simp only [List.length_cons]
    omega
  | [] | [_] | [_, _] | [_, _, _] => simp [reverseWords]

theorem length_swapPairs (done bytes : Bytes) :
    (swapPairs done bytes).length = done.length + bytes.length := by
  match bytes with
  | a :: b :: rest =>
    rw [swapPairs, length_swapPairs (a :: b :: done)]
    simp only [List.length_cons]
    omega
  | [] | [_] => simp [swapPairs]

@[simp]
theorem length_arrange (order : ByteOrder) (bytes : Bytes) :
    (order.arrange bytes).length = bytes.length := by
  cases order <;> simp [arrange, length_reverseWords, length_swapPairs]

@[simp]
theorem length_words (order : ByteOrder) (bytes : Bytes) :
    (order.words bytes).length = bytes.length / 4 := by
  match bytes with
  | a :: b :: c :: d :: rest =>
    rw [words_cons, List.length_cons, length_words order rest]
    simp only [List.length_cons]
    omega
  | [] | [_] | [_, _] | [_, _, _] => simp [words, wordsOnto]

end ByteOrder

end CartBoot
