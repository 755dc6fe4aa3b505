import CartBoot.Proofs.Header.Layout
import CartBoot.Proofs.Profile.Outcome
import CartBoot.Proofs.Walk.Reach

/-!
# The bytes that decide a profile

A canonical image is judged by its header and its boot loader, by the words that the walk looks at,
and by the boot segment. Another image with the same bytes there has the same profile, even a
longer one if the boot segment does not end with the image.
-/

namespace CartBoot

theorem segmentLength_le (bssStart entrypoint : Int) (available : Nat) :
    segmentLength bssStart entrypoint available ≤ available := by
  unfold segmentLength
  split
  next => exact Int.natCast_nonneg available
  next =>
    simp only
    omega

/-- A segment that ends before the image is as long in a longer image. -/
theorem segmentLength_eq_of_le {bssStart entrypoint available more : Int}
    (inside : segmentLength bssStart entrypoint available < available)
    (whole : available % 4 = 0) (le : available ≤ more) :
    segmentLength bssStart entrypoint more = segmentLength bssStart entrypoint available := by
  unfold segmentLength at *
  split
  next => rfl
  next habove =>
    rw [if_neg habove] at inside
    simp only at inside ⊢
    omega

namespace Walk

/-- The bytes that a walk over a window looks at, told from its result. -/
theorem reach_analyzeWindow (rule : StopRule) (order : ByteOrder) (address : Int)
    (window : Bytes) :
    4 * (analyzeWindow rule order address window).words +
        (if (analyzeWindow rule order address window).stopReason = .secondNop then 4 else 0) =
      4 * (reach rule (order.words (window.take Layout.windowSize)) : Int) := by
  simp only [analyzeWindow, analyze, length_walked, reach]
  split <;> omega

/-- Windows of full size that agree as far as a walk reads have the same analysis. -/
theorem analyzeWindow_eq_of_agree {rule : StopRule} {order : ByteOrder} (address : Int)
    {window other : Bytes} (full : Layout.windowSize ≤ window.length)
    (otherFull : Layout.windowSize ≤ other.length)
    (agree : ∀ i < 4 * reach rule (order.words (window.take Layout.windowSize)),
      other[i]? = window[i]?) :
    analyzeWindow rule order address other = analyzeWindow rule order address window := by
  have hlen : (order.words (other.take Layout.windowSize)).length =
      (order.words (window.take Layout.windowSize)).length := by
    rw [ByteOrder.length_words, ByteOrder.length_words, List.length_take, List.length_take,
      Nat.min_eq_left full, Nat.min_eq_left otherFull]
  apply analyze_eq_of_agree
  · apply ByteOrder.words_eq_of_agree
    intro i hi
    rw [List.getElem?_take, List.getElem?_take, agree i hi]
  · exact fun _ => hlen

end Walk

namespace Profile

variable {options : ScanOptions} {filename : String}

/-- The offset behind the bytes that decide the profile of a canonical image. -/
def footprint (p : Profile) : Int :=
  0x1000 + max (4 * p.analysis.words + if p.analysis.stopReason = .secondNop then 4 else 0)
    p.segmentLength

/-- An accepted image has passed every check. -/
theorem exists_of_ofImage_eq_ok {raw : Bytes} {p : Profile}
    (accepted : ofImage options filename raw = .ok p) :
    ∃ (order : ByteOrder) (header : Header) (cic : Cic),
      raw.take 4 = order.magic ∧ Layout.imageSize ≤ raw.length ∧
      Header.parse (order.arrange (wholeWords raw)) = .ok header ∧
      options.cics.find? (loaderChecksum order raw) = some cic ∧
      p = ofLoader options filename raw.length order header cic
        (order.arrange (wholeWords raw)) := by
  by_cases known : ∃ order : ByteOrder, raw.take 4 = order.magic
  · obtain ⟨order, starts⟩ := known
    by_cases short : raw.length < Layout.imageSize
    · rw [ofImage_of_magic options filename starts, if_pos short] at accepted
      cases accepted
    · have enough := Nat.not_lt.mp short
      obtain ⟨header, hparse, hresult⟩ := ofImage_of_long options filename starts enough
      rw [hresult] at accepted
      cases hfind : options.cics.find? (loaderChecksum order raw) with
      | none =>
          rw [hfind] at accepted
          cases accepted
      | some cic =>
          rw [hfind] at accepted
          cases accepted
          exact ⟨order, header, cic, starts, enough, hparse, hfind, rfl⟩
  · rw [ofImage_of_no_magic options filename (not_exists.mp known)] at accepted
    cases accepted

/-- An image that passes every check is accepted. -/
theorem ofImage_eq_ok {raw : Bytes} {order : ByteOrder} {header : Header} {cic : Cic}
    (starts : raw.take 4 = order.magic) (enough : Layout.imageSize ≤ raw.length)
    (parsed : Header.parse (order.arrange (wholeWords raw)) = .ok header)
    (found : options.cics.find? (loaderChecksum order raw) = some cic) :
    ofImage options filename raw = .ok (ofLoader options filename raw.length order header cic
      (order.arrange (wholeWords raw))) := by
  obtain ⟨header', hparse, hresult⟩ := ofImage_of_long options filename starts enough
  rw [parsed] at hparse
  cases hparse
  rw [hresult, found]

section Loader

variable (options filename) (size : Int) (order : ByteOrder) (header : Header) (cic : Cic)
  {image other : Bytes}

theorem length_bootCode (image : Bytes) : (bootCode image).length = image.length - 0x1000 :=
  List.length_drop

/-- The number of words that the walk over the boot code looks at. -/
def bootReach (options : ScanOptions) (image : Bytes) : Nat :=
  Walk.reach options.stopRule (ByteOrder.big.words ((bootCode image).take Layout.windowSize))

theorem footprint_ofLoader (image : Bytes) :
    footprint (ofLoader options filename size order header cic image) =
      0x1000 + max (4 * (bootReach options image : Int))
        (ofLoader options filename size order header cic image).segmentLength := by
  rw [bootReach, ← Walk.reach_analyzeWindow]
  rfl

/-- The bytes that decide a profile lie within the image. -/
theorem footprint_ofLoader_le (long : Layout.imageSize ≤ image.length) :
    footprint (ofLoader options filename size order header cic image) ≤ image.length := by
  have hsize : 0x2000 ≤ image.length := long
  have hreach : 4 * bootReach options image ≤ image.length - 0x1000 := by
    have hwords := Walk.reach_le_length options.stopRule
      (ByteOrder.big.words ((bootCode image).take Layout.windowSize))
    rw [ByteOrder.length_words, List.length_take, length_bootCode] at hwords
    rw [bootReach]
    omega
  have hsegment : (ofLoader options filename size order header cic image).segmentLength ≤
      (bootCode image).length := segmentLength_le _ _ _
  rw [length_bootCode] at hsegment
  rw [footprint_ofLoader]
  omega

theorem analysis_ofLoader_eq (long : Layout.imageSize ≤ image.length)
    (longer : image.length ≤ other.length)
    (agree : ∀ i < 4 * bootReach options image, (bootCode other)[i]? = (bootCode image)[i]?) :
    (ofLoader options filename size order header cic other).analysis =
      (ofLoader options filename size order header cic image).analysis := by
  have hsize : 0x2000 ≤ image.length := long
  apply Walk.analyzeWindow_eq_of_agree
  · rw [length_bootCode, Layout.windowSize]
    omega
  · rw [length_bootCode, Layout.windowSize]
    omega
  · exact agree

theorem segmentLength_ofLoader_eq (long : Layout.imageSize ≤ image.length)
    (whole : image.length % 4 = 0) (longer : image.length ≤ other.length)
    (same : (ofLoader options filename size order header cic other).analysis =
      (ofLoader options filename size order header cic image).analysis)
    (inside : other.length = image.length ∨
      (ofLoader options filename size order header cic image).segmentLength <
        (image.length : Int) - 0x1000) :
    (ofLoader options filename size order header cic other).segmentLength =
      (ofLoader options filename size order header cic image).segmentLength := by
  have hsize : 0x2000 ≤ image.length := long
  have havailable : ((bootCode image).length : Int) = image.length - 0x1000 := by
    rw [length_bootCode]
    omega
  change CartBoot.segmentLength
    (ofLoader options filename size order header cic other).analysis.bssStart _ _ = _
  rw [same]
  obtain hsame | hinside := inside
  · rw [length_bootCode, hsame, ← length_bootCode]
    rfl
  · rw [← havailable] at hinside
    apply segmentLength_eq_of_le
    · exact hinside
    · omega
    · rw [length_bootCode, length_bootCode]
      omega

theorem segment_eq_of_agree {length : Int}
    (agree : ∀ i : Nat, (i : Int) < length → (bootCode other)[i]? = (bootCode image)[i]?) :
    segment other length = segment image length := by
  have htake : (bootCode other).take length.toNat = (bootCode image).take length.toNat := by
    apply Bytes.take_eq_of_agree
    intro i hi
    apply agree
    omega
  rw [segment, segment, htake]

/-- What the boot code of two canonical images tells is the same if they agree as far as the walk
and the boot segment reach, and if the end of the shorter one does not cut the segment off. -/
theorem ofLoader_eq_of_agree (long : Layout.imageSize ≤ image.length)
    (whole : image.length % 4 = 0) (longer : image.length ≤ other.length)
    (agree : ∀ i : Nat,
      (i : Int) < footprint (ofLoader options filename size order header cic image) →
        other[i]? = image[i]?)
    (inside : other.length = image.length ∨
      (ofLoader options filename size order header cic image).segmentLength <
        (image.length : Int) - 0x1000) :
    ofLoader options filename size order header cic other =
      ofLoader options filename size order header cic image := by
  rw [footprint_ofLoader] at agree
  have hcode : ∀ i : Nat, (i : Int) < max (4 * (bootReach options image : Int))
      (ofLoader options filename size order header cic image).segmentLength →
        (bootCode other)[i]? = (bootCode image)[i]? := by
    intro i hi
    rw [bootCode, bootCode, List.getElem?_drop, List.getElem?_drop]
    apply agree
    simp only [Layout.bootOffset]
    omega
  have hanalysis := analysis_ofLoader_eq options filename size order header cic long longer
    fun i hi => hcode i (by omega)
  have hlength := segmentLength_ofLoader_eq options filename size order header cic long whole longer
    hanalysis inside
  have hsegment :
      segment other (ofLoader options filename size order header cic other).segmentLength =
        segment image (ofLoader options filename size order header cic image).segmentLength := by
    rw [hlength]
    exact segment_eq_of_agree fun i hi => hcode i (by omega)
  have hclassification : (ofLoader options filename size order header cic other).classification =
      (ofLoader options filename size order header cic image).classification :=
    congrArg (Classification.ofCode options.direction options.minEvidence) hsegment
  rw [Profile.mk.injEq]
  exact ⟨rfl, rfl, rfl, rfl, rfl, rfl, hlength, hanalysis, hclassification⟩

end Loader

/-! ## Raw images -/

variable {image other : Bytes} {p : Profile}

theorem wholeWords_of_dvd (whole : image.length % 4 = 0) : wholeWords image = image := by
  rw [wholeWords, whole]
  exact List.take_length

theorem wholeWords_eq_of_agree {n : Nat} (inside : n ≤ (wholeWords image).length)
    (longer : image.length ≤ other.length) (agree : ∀ i < n, other[i]? = image[i]?) :
    ∀ i < n, (wholeWords other)[i]? = (wholeWords image)[i]? := by
  intro i hi
  rw [length_wholeWords] at inside
  rw [wholeWords, wholeWords, List.getElem?_take_of_lt (by omega),
    List.getElem?_take_of_lt (by omega), agree i hi]

/-- An image with the header and the boot loader of an accepted one passes the same checks. -/
theorem ofImage_eq_ok_of_take {header : Header} {cic : Cic}
    (starts : other.take 4 = ByteOrder.big.magic) (enough : Layout.imageSize ≤ image.length)
    (otherEnough : Layout.imageSize ≤ other.length)
    (same : (wholeWords other).take 0x1000 = (wholeWords image).take 0x1000)
    (parsed : Header.parse (wholeWords image) = .ok header)
    (found : options.cics.find? (loaderChecksum .big image) = some cic) :
    ofImage options filename other =
      .ok (ofLoader options filename other.length .big header cic (wholeWords other)) := by
  have hlong : Layout.imageSize ≤ (wholeWords image).length :=
    length_arrange_wholeWords .big enough
  have hlong' : Layout.imageSize ≤ (wholeWords other).length :=
    length_arrange_wholeWords .big otherEnough
  have hparse : Header.parse (wholeWords other) = .ok header := by
    rw [← parsed]
    exact Header.parse_eq_of_take same (by decide) (Nat.le_trans (by decide) hlong)
      (Nat.le_trans (by decide) hlong')
  have hfind : options.cics.find? (loaderChecksum .big other) = some cic := by
    rw [← found, loaderChecksum, loaderChecksum, ByteOrder.arrange_big, ByteOrder.arrange_big,
      same]
  exact ofImage_eq_ok starts otherEnough hparse hfind

/-- The outcome of an image that is at least as long as an accepted one and has the same decisive
bytes. -/
theorem ofImage_of_agree (starts : image.take 4 = ByteOrder.big.magic)
    (accepted : ofImage options filename image = .ok p) (longer : image.length ≤ other.length)
    (agree : ∀ i : Nat, (i : Int) < p.footprint → other[i]? = image[i]?)
    (inside : (wholeWords other).length = (wholeWords image).length ∨
      p.segmentLength < ((wholeWords image).length : Int) - 0x1000) :
    ofImage options filename other = .ok { p with size := other.length } := by
  obtain ⟨order, header, cic, hstarts, henough, hparse, hfind, rfl⟩ :=
    exists_of_ofImage_eq_ok accepted
  obtain rfl : order = .big := ByteOrder.magic_injective (hstarts.symm.trans starts)
  rw [ByteOrder.arrange_big] at *
  have hlong : Layout.imageSize ≤ (wholeWords image).length :=
    length_arrange_wholeWords .big henough
  have hwhole : (wholeWords image).length % 4 = 0 := by
    rw [length_wholeWords]
    omega
  have hlonger : (wholeWords image).length ≤ (wholeWords other).length := by
    rw [length_wholeWords, length_wholeWords]
    omega
  have hlower := footprint_ofLoader options filename image.length .big header cic
    (wholeWords image)
  have hupper := footprint_ofLoader_le options filename image.length .big header cic hlong
  have hagree : ∀ i : Nat,
      (i : Int) < footprint (ofLoader options filename image.length .big header cic
        (wholeWords image)) → (wholeWords other)[i]? = (wholeWords image)[i]? := by
    intro i hi
    refine wholeWords_eq_of_agree (n := i + 1) (by omega) longer ?_ i (Nat.lt_succ_self i)
    exact fun j hj => agree j (by omega)
  have hstarts' : other.take 4 = ByteOrder.big.magic := by
    rw [← starts]
    exact Bytes.take_eq_of_agree fun i hi => agree i (by omega)
  have hcut : (wholeWords other).take 0x1000 = (wholeWords image).take 0x1000 :=
    Bytes.take_eq_of_agree fun i hi => hagree i (by omega)
  rw [ofImage_eq_ok_of_take hstarts' henough (Nat.le_trans henough longer) hcut hparse hfind]
  exact congrArg Except.ok
    (ofLoader_eq_of_agree options filename other.length .big header cic hlong hwhole hlonger hagree
      inside)

/-- A walk over boot code that starts with two zero words looks at no others. -/
theorem bootReach_nops (options : ScanOptions) {image rest : Bytes}
    (nops : bootCode image = List.replicate 8 0 ++ rest) : bootReach options image = 2 := by
  rw [bootReach, nops]
  change Walk.reach _
    (ByteOrder.big.words (0 :: 0 :: 0 :: 0 :: 0 :: 0 :: 0 :: 0 :: rest.take 0xFF8)) = 2
  rw [ByteOrder.words_cons, ByteOrder.words_cons]
  cases options.stopRule <;> rfl

/-- Boot code that starts with two zero words has no segment. -/
theorem segmentLength_ofLoader_nops (options : ScanOptions) (filename : String) (size : Int)
    (order : ByteOrder) (header : Header) (cic : Cic) {image rest : Bytes}
    (nops : bootCode image = List.replicate 8 0 ++ rest)
    (above : 0 ≤ cic.correct header.entrypoint.toNat) :
    (ofLoader options filename size order header cic image).segmentLength = 0 := by
  have hstart : (ofLoader options filename size order header cic image).analysis.bssStart = 0 := by
    change (Walk.analyzeWindow _ _ _ (bootCode image)).bssStart = 0
    rw [nops]
    change (Walk.analyze _ _ _
      (ByteOrder.big.words (0 :: 0 :: 0 :: 0 :: 0 :: 0 :: 0 :: 0 :: rest.take 0xFF8))).bssStart = 0
    rw [ByteOrder.words_cons, ByteOrder.words_cons]
    cases options.stopRule <;> rfl
  change CartBoot.segmentLength
    (ofLoader options filename size order header cic image).analysis.bssStart _ _ = 0
  rw [hstart]
  exact if_pos above

/-- An image has the profile of an accepted canonical image of its length if it has the decisive
bytes of that image; a longer one differs in its size alone if the boot segment ends before the
accepted image does. -/
theorem ofImage_eq_of_agree (starts : image.take 4 = ByteOrder.big.magic)
    (accepted : ofImage options filename image = .ok p) (other : Bytes)
    (agree : ∀ i : Nat, (i : Int) < p.footprint → other[i]? = image[i]?) :
    (other.length = image.length → ofImage options filename other = .ok p) ∧
    (image.length < other.length →
      p.segmentLength < ((image.length - image.length % 4 : Nat) : Int) - 0x1000 →
      ofImage options filename other = .ok { p with size := other.length }) := by
  constructor
  · intro same
    have hlen : (wholeWords other).length = (wholeWords image).length := by
      rw [length_wholeWords, length_wholeWords, same]
    have hsize : p.size = other.length := by
      obtain ⟨order, header, cic, -, -, -, -, rfl⟩ := exists_of_ofImage_eq_ok accepted
      rw [same]
      rfl
    rw [ofImage_of_agree starts accepted (Nat.le_of_eq same.symm) agree (Or.inl hlen), ← hsize]
  · intro longer inside
    rw [← length_wholeWords] at inside
    exact ofImage_of_agree starts accepted (Nat.le_of_lt longer) agree (Or.inr inside)

/-- The law at an image of the least size without boot code, and two others that fill the place
behind the first two words of the window, one of them beyond the end of the image. -/
theorem ofImage_eq_of_agree_nops :
    let front : Bytes := ByteOrder.big.magic ++ List.replicate 0xFFC 0 ++ List.replicate 8 0
    let image : Bytes := front ++ List.replicate 0xFF8 0
    let other : Bytes := front ++ List.replicate 0xFF8 0xFF
    let longer : Bytes := front ++ List.replicate 0x1000 0xFF
    let cic : Cic := ⟨0xDAB442CD, Cic.absent, "7102", 0x80000480⟩
    let options : ScanOptions := { cics := [(loaderChecksum .big image, cic)] }
    ∃ p, image.take 4 = ByteOrder.big.magic ∧ ofImage options "game.z64" image = .ok p ∧
      (∀ i : Nat, (i : Int) < p.footprint → other[i]? = image[i]? ∧ longer[i]? = image[i]?) ∧
      other.length = image.length ∧ image.length < longer.length ∧
      p.segmentLength < ((image.length - image.length % 4 : Nat) : Int) - 0x1000 ∧
      ofImage options "game.z64" other = .ok p ∧
      ofImage options "game.z64" longer = .ok { p with size := longer.length } := by
  intro front image other longer cic options
  have hfront : front.length = 0x1008 := by
    rw [List.length_append, List.length_append, List.length_replicate, List.length_replicate]
    rfl
  have himage : image.length = 0x2000 := by
    rw [List.length_append, List.length_replicate, hfront]
  have hother : other.length = image.length := by
    rw [himage, List.length_append, List.length_replicate, hfront]
  have hlonger : image.length < longer.length := by
    rw [himage, List.length_append, List.length_replicate, hfront]
    decide
  have starts : image.take 4 = ByteOrder.big.magic := rfl
  have enough : Layout.imageSize ≤ image.length := by
    rw [himage]
    exact Nat.le_refl 0x2000
  have found : options.cics.find? (loaderChecksum .big image) = some cic := by
    simp only [options, Cic.Table.find?, List.reverse_singleton, List.find?_singleton,
      decide_true, if_true, Option.map_some]
  obtain ⟨header, parsed, -⟩ := ofImage_of_long options "game.z64" starts enough
  have accepted : ofImage options "game.z64" image = .ok _ :=
    ofImage_eq_ok starts enough parsed found
  have hcode : bootCode (wholeWords image) = List.replicate 8 0 ++ List.replicate 0xFF8 0 := by
    rw [wholeWords_of_dvd (by rw [himage]), bootCode]
    change List.drop 0x1000
      (ByteOrder.big.magic ++ List.replicate 0xFFC 0 ++ List.replicate 8 0 ++ _) = _
    rw [List.append_assoc]
    apply List.drop_left'
    rw [List.length_append, List.length_replicate]
    rfl
  have hsegment := segmentLength_ofLoader_nops options "game.z64" image.length .big header cic
    hcode (show (0 : Int) ≤ 0x80000480 by decide)
  have hfootprint := footprint_ofLoader options "game.z64" image.length .big header cic
    (wholeWords image)
  rw [bootReach_nops options hcode, hsegment] at hfootprint
  rw [ByteOrder.arrange_big] at accepted
  generalize ofLoader options "game.z64" image.length .big header cic (wholeWords image) = p
    at accepted hsegment hfootprint
  have hagree : ∀ (rest : Bytes) (i : Nat), (i : Int) < p.footprint →
      (front ++ rest)[i]? = image[i]? := by
    intro rest i hi
    rw [hfootprint] at hi
    have hi : i < front.length := by omega
    rw [List.getElem?_append_left hi, List.getElem?_append_left hi]
  have hinside : p.segmentLength < ((image.length - image.length % 4 : Nat) : Int) - 0x1000 := by
    rw [hsegment, himage]
    decide
  refine ⟨p, starts, accepted, fun i hi => ⟨hagree _ i hi, hagree _ i hi⟩, hother, hlonger,
    hinside, ?_, ?_⟩
  · exact (ofImage_eq_of_agree starts accepted other (hagree _)).1 hother
  · exact (ofImage_eq_of_agree starts accepted longer (hagree _)).2 hlonger hinside

end Profile

end CartBoot
