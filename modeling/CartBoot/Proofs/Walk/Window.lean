import CartBoot.Proofs.Profile.Outcome

/-!
# Raw windows

A walk over a raw window reads its words in the order of the image. Rearranging the whole words of
the window first and reading them as they stand gives the same words, and so the same analysis.
-/

namespace CartBoot.Walk

open ByteOrder (slice)

/-- A window has the words of its canonical form. -/
theorem words_window_canonical (order : ByteOrder) (window : Bytes) :
    ByteOrder.big.words ((order.arrange (Profile.wholeWords window)).take Layout.windowSize) =
      order.words (window.take Layout.windowSize) := by
  have hsize : Layout.windowSize = 4 * 0x400 := rfl
  calc ByteOrder.big.words ((order.arrange (Profile.wholeWords window)).take Layout.windowSize)
      = (order.words (Profile.wholeWords window)).take 0x400 := by
        rw [hsize, ByteOrder.words_take, ByteOrder.words_arrange]
    _ = (order.words window).take 0x400 := by
        rw [Profile.wholeWords, ByteOrder.words_take_whole]
    _ = order.words (window.take Layout.windowSize) := by
        rw [hsize, ByteOrder.words_take]

/-- A walk over a raw window is the walk over its canonical form, since each of its checked reads
gives the word whose bytes stand there, most significant first. -/
theorem analyzeWindow_canonical (rule : StopRule) (order : ByteOrder) (address : Int)
    (window : Bytes) :
    ∃ image, order.normalize (window.take (window.length - window.length % 4)) = .ok image ∧
      analyzeWindow rule order address window = analyzeWindow rule .big address image ∧
      ∀ index < window.length / 4, ∃ a b c d, slice image index = [a, b, c, d] ∧
        order.readWord (slice window index) = .ok (.ofBytes a b c d) := by
  refine ⟨_, Profile.canonical_eq order window, ?_, ?_⟩
  · rw [analyzeWindow, analyzeWindow, words_window_canonical]
  · intro index below
    have hbelow : index < (Profile.wholeWords window).length / 4 := by
      rw [Profile.length_wholeWords]
      omega
    obtain ⟨a, b, c, d, hslice, hread⟩ :=
      ByteOrder.readWord_slice_eq_ofBytes order (Profile.wholeWords window) index hbelow
    rw [Profile.wholeWords, ByteOrder.slice_take_whole below] at hread
    exact ⟨a, b, c, d, hslice, hread⟩

end CartBoot.Walk
