import CartBoot.Proofs.Profile.Outcome

/-!
# Independence of the byte order

An image laid out in any order and followed by a partial word gives the outcome of the canonical
image. Only the order and the size of the raw image show in a profile, and only its length in a
fault.
-/

namespace CartBoot.Profile

/-- Outcomes of two raw forms of one image, the first of them canonical. -/
inductive SameButForm (order : ByteOrder) (size otherSize : Nat) :
    Except Fault Profile → Except Fault Profile → Prop
  | analysed (p : Profile) :
      SameButForm order size otherSize (.ok p) (.ok { p with order, size := otherSize })
  | unknownLoader (checksum : Int) :
      SameButForm order size otherSize (.error (.unknownIpl3 checksum))
        (.error (.unknownIpl3 checksum))
  | truncated :
      SameButForm order size otherSize (.error (.truncated .image size))
        (.error (.truncated .image otherSize))

variable (order : ByteOrder) {image : Bytes} (tail : Bytes)

/-- The whole words of a raw image are its layout without the partial word at the end. -/
theorem wholeWords_layOut_append (whole : image.length % 4 = 0) (few : tail.length ≤ 3) :
    wholeWords (order.layOut image ++ tail) = order.layOut image := by
  have hlen : (order.layOut image ++ tail).length - (order.layOut image ++ tail).length % 4 =
      (order.layOut image).length := by
    simp only [List.length_append, ByteOrder.length_layOut]
    omega
  rw [wholeWords, hlen, List.take_left]

/-- The raw form of an image shows in its outcome through its size and its order alone. -/
theorem ofImage_layOut_append (options : ScanOptions) (filename : String)
    (starts : image.take 4 = ByteOrder.big.magic) (whole : image.length % 4 = 0)
    (few : tail.length ≤ 3) :
    ofImage options filename (order.layOut image ++ tail) =
      if image.length < Layout.imageSize then
        .error (.truncated .image (image.length + tail.length))
      else ofCanonical options filename ((image.length + tail.length : Nat) : Int) order image := by
  have hstarts := ByteOrder.take_layOut_append order starts tail
  have hlen : (order.layOut image ++ tail).length = image.length + tail.length := by simp
  -- A partial word cannot make up for a missing whole one, since the size asked for is whole.
  have hshort :
      image.length + tail.length < Layout.imageSize ↔ image.length < Layout.imageSize := by
    simp only [Layout.imageSize, Layout.bootOffset, Layout.windowSize]
    omega
  rw [ofImage_of_magic options filename hstarts, hlen,
    wholeWords_layOut_append order tail whole few, ByteOrder.arrange_layOut order whole]
  simp only [hshort]

/-- Every layout of an image, with a partial word behind it, has the outcome of the image itself. -/
theorem ofImage_order_independent (options : ScanOptions) (filename : String)
    (starts : image.take 4 = ByteOrder.big.magic) (whole : image.length % 4 = 0)
    (few : tail.length ≤ 3) :
    SameButForm order image.length (image.length + tail.length)
      (ofImage options filename image)
      (ofImage options filename (order.layOut image ++ tail)) := by
  have hcanonical := ofImage_layOut_append .big [] options filename starts whole (Nat.zero_le _)
  rw [ByteOrder.layOut_big, List.append_nil, List.length_nil, Nat.add_zero] at hcanonical
  rw [hcanonical, ofImage_layOut_append order tail options filename starts whole few]
  by_cases short : image.length < Layout.imageSize
  · rw [if_pos short, if_pos short]
    exact .truncated
  · have enough : Layout.bootOffset ≤ image.length := by
      simp only [Layout.imageSize] at short
      omega
    obtain ⟨header, -, hstages⟩ := ofCanonical_of_le options filename image enough
    rw [if_neg short, if_neg short, hstages, hstages]
    cases options.cics.find? (Ipl3.imageChecksum image).toNat with
    | none => exact .unknownLoader _
    | some cic => exact .analysed (ofLoader options filename image.length .big header cic image)

/-- The law at an image of the least size, reversed word by word and followed by three bytes. -/
theorem ofImage_order_independent_reversed :
    let image : Bytes := ByteOrder.big.magic ++ List.replicate 0x1FFC 0
    let tail : Bytes := [1, 2, 3]
    image.take 4 = ByteOrder.big.magic ∧ image.length % 4 = 0 ∧ tail.length ≤ 3 ∧
      SameButForm .little image.length (image.length + tail.length)
        (ofImage {} "game.n64" image)
        (ofImage {} "game.n64" (ByteOrder.little.layOut image ++ tail)) := by
  intro image tail
  have starts : image.take 4 = ByteOrder.big.magic := rfl
  have whole : image.length % 4 = 0 := by
    rw [List.length_append, List.length_replicate]
    rfl
  have few : tail.length ≤ 3 := Nat.le_refl 3
  exact ⟨starts, whole, few, ofImage_order_independent .little tail {} "game.n64" starts whole few⟩

end CartBoot.Profile
