import CartBoot.Report
import CartBoot.Proofs.Profile.Footprint
import CartBoot.Proofs.Text.ShiftJis

/-!
# Terse records

A terse record can be split back into its values unless a text in it holds a semicolon or an end of
line. Four of its texts come from the header, and only one of them is cleared of semicolons, so that
the bytes of a header decide whether its record has the columns of the heading.
-/

namespace CartBoot

open Text (marks Unmarked IsRecord)

namespace Header

/-- A header whose texts can be fields of a record. A semicolon in the name does no harm. -/
structure FitsRecord (h : Header) : Prop where
  rawName : 0x0A ∉ h.rawName ∧ 0x0D ∉ h.rawName
  rawMediaFormat : ∀ c ∈ marks, h.rawMediaFormat.toNat ≠ c.toNat
  rawCartridgeId : ∀ c ∈ marks, UInt8.ofNat c.toNat ∉ h.rawCartridgeId
  rawCountryCode : ∀ c ∈ marks, h.rawCountryCode.toNat ≠ c.toNat

variable (h : Header)

/-- Only padding is lost when a name is trimmed. -/
theorem mem_trimPadding_iff {c : Char} (visible : c ≠ Char.ofNat 0 ∧ c ≠ ' ') (name : List Char) :
    c ∈ trimPadding name ↔ c ∈ name := by
  rw [trimPadding, List.mem_reverse, ← @List.mem_reverse _ c name]
  generalize name.reverse = name
  induction name with
  | nil => rfl
  | cons d name ih =>
    rw [List.dropWhile_cons]
    split
    next padding =>
      have hc : c ≠ d := by
        rintro rfl
        simp [visible] at padding
      rw [ih, List.mem_cons]
      exact (or_iff_right hc).symm
    next => rfl

theorem mem_imageName_iff {c : Char} (hc : c ∈ marks) :
    c ∈ h.imageName.toList ↔ UInt8.ofNat c.toNat ∈ h.rawName := by
  have hvisible : ∀ c ∈ marks, c ≠ Char.ofNat 0 ∧ c ≠ ' ' :=
    Text.forall_mem_marks.mpr (by decide)
  rw [imageName, String.toList_ofList, mem_trimPadding_iff (hvisible c hc),
    Text.ShiftJis.mem_decode_iff (Text.low_of_mem_marks c hc)]

theorem unmarked_imageName_iff :
    Unmarked (h.imageName.map fun c => if c = ';' then ',' else c) ↔
      0x0A ∉ h.rawName ∧ 0x0D ∉ h.rawName := by
  rw [Text.unmarked_ofString_iff, String.toList_map, Text.forall_mem_marks]
  simp only [Text.not_mem_map_replace (by decide : ',' ≠ ';'),
    Text.mem_map_replace_iff (by decide : '\n' ≠ ';') (by decide : '\n' ≠ ','),
    Text.mem_map_replace_iff (by decide : '\r' ≠ ';') (by decide : '\r' ≠ ','),
    mem_imageName_iff h (by decide : '\n' ∈ marks), mem_imageName_iff h (by decide : '\r' ∈ marks)]
  simp

theorem asciiChar_eq_iff {c : Char} (low : c.toNat < 0x40) (b : UInt8) :
    asciiChar b = c ↔ b = UInt8.ofNat c.toNat := by
  unfold asciiChar
  split
  next => exact Text.ShiftJis.ofNat_eq_iff low b
  next high =>
    exact iff_of_false (Text.ShiftJis.replacement_ne low) (Text.ShiftJis.ne_of_high low high)

theorem unmarked_cartridgeId_iff :
    Unmarked h.cartridgeId ↔ ∀ c ∈ marks, UInt8.ofNat c.toNat ∉ h.rawCartridgeId := by
  have hmem : ∀ c ∈ marks, c ∈ h.cartridgeId.toList ↔ UInt8.ofNat c.toNat ∈ h.rawCartridgeId := by
    intro c hc
    rw [cartridgeId, String.toList_ofList, List.mem_map]
    simp only [asciiChar_eq_iff (Text.low_of_mem_marks c hc), exists_eq_right]
  rw [Text.unmarked_ofString_iff]
  exact forall₂_congr fun c hc => not_congr (hmem c hc)

theorem unmarked_countryCode_iff :
    Unmarked (if h.rawCountryCode = 0 then "" else h.countryCode) ↔
      ∀ c ∈ marks, h.rawCountryCode.toNat ≠ c.toNat := by
  split
  next zero =>
    rw [zero]
    exact iff_of_true (by decide) (Text.forall_mem_marks.mpr (by decide))
  next => exact Text.unmarked_codePoint_iff _

end Header

/-- Zeros in front of a run of bytes leave its checksum as it is. -/
theorem Ipl3.checksum_zeros_append (n : Nat) (bytes : Bytes) :
    checksum (List.replicate n 0 ++ bytes) = checksum bytes := by
  have hzeros : ∀ n, (List.replicate n 0).foldl takeByte 0 = 0 := by
    intro n
    induction n with
    | zero => rfl
    | succ n ih =>
      rw [List.replicate_succ, List.foldl_cons, takeByte_eq]
      exact ih
  rw [checksum, remainder, List.foldl_append, hzeros]
  rfl

/-- A boot loader with the checksum of a licensed one. -/
def leastLoader : Bytes := List.replicate 0xFBC 0 ++ [0x78, 0x72, 0x26, 0xF1]

theorem length_leastLoader : leastLoader.length = 0xFC0 := by
  rw [leastLoader, List.length_append, List.length_replicate]
  rfl

theorem checksum_leastLoader : Ipl3.checksum leastLoader = 0xD1F2D592 := by
  rw [leastLoader, Ipl3.checksum_zeros_append]
  decide +kernel

/-- Where the media format and the cartridge number are read. -/
theorem Header.letters_of_parse {image : Bytes} {header : Header}
    (parsed : parse image = .ok header) :
    header.rawMediaFormat = wordField image 0x38 ∧
      header.rawCartridgeId = field image 0x3C 2 := by
  unfold parse at parsed
  split at parsed
  · cases parsed
  · cases parsed
    exact ⟨rfl, rfl⟩

theorem Cic.unmarked_licensed : ∀ cic ∈ licensed, Unmarked cic.name := by decide

namespace Profile

theorem cartridgeId_mem_terseValues (p : Profile) :
    (p.header.cartridgeId : Text) ∈ p.terseValues := by
  simp [terseValues]

section Values

variable (n : Int) (w : Nat)

theorem unmarked_hex : Unmarked ("0x" ++ Text.Numeral.hex w n) :=
  Text.unmarked_append_iff.mpr
    ⟨by decide, Text.Numeral.unmarked_padded (by decide) (Nat.le_refl 16) w n⟩

theorem unmarked_decimal : Unmarked (Text.Numeral.decimal n) :=
  Text.Numeral.unmarked_padded (by decide) (by decide) 0 n

theorem unmarked_tag (a : Analysis) (r : Register) : Unmarked (a.tag r) := by
  unfold Analysis.tag
  cases a.provenance r <;> decide

theorem unmarked_order (order : ByteOrder) : Unmarked order.name := by
  cases order <;> decide

theorem unmarked_slot (slot : DelaySlot) :
    Unmarked slot.name ∧ Unmarked (slot.hint.elim "" (·.name)) := by
  cases slot <;> decide

theorem unmarked_verdict (verdict : Toolchain) : Unmarked verdict.name := by
  cases verdict <;> decide

theorem unmarked_answer (yes : Bool) : Unmarked (if yes then "yes" else "no") := by
  cases yes <;> decide

end Values

/-- The record of a profile has the values of the columns exactly if the file name, the name of the
boot loader and the header hold nothing that breaks it. -/
theorem terse_isRecord_iff (p : Profile) :
    IsRecord (terseColumns.map Text.ofString) terseHeading ∧
      p.terseValues.length = terseColumns.length ∧
      (IsRecord p.terseValues p.terse ↔
        Unmarked p.filename ∧ Unmarked p.cic.name ∧ p.header.FitsRecord) := by
  have nonempty : p.terseValues ≠ [] := List.cons_ne_nil _ _
  have heading : IsRecord (terseColumns.map Text.ofString) terseHeading := by
    rw [terseHeading, Text.ofString_intercalate]
    refine (Text.isRecord_intercalate_iff (by decide)).mpr (List.forall_mem_map.mpr ?_)
    simp only [Text.unmarked_ofString_iff, Text.forall_mem_marks]
    decide
  refine ⟨heading, rfl, ?_⟩
  rw [terse, Text.isRecord_intercalate_iff nonempty]
  simp only [terseValues, List.forall_mem_cons, unmarked_hex, unmarked_decimal, unmarked_tag,
    unmarked_order, unmarked_slot, unmarked_verdict, unmarked_answer, Header.unmarked_imageName_iff,
    Header.unmarked_cartridgeId_iff, Header.unmarked_countryCode_iff, true_and]
  constructor
  · rintro ⟨filename, name, media, id, country, cic, -⟩
    exact ⟨filename, cic, name, (Text.unmarked_codePoint_iff _).mp media, id, country⟩
  · rintro ⟨filename, cic, header⟩
    exact ⟨filename, header.rawName, (Text.unmarked_codePoint_iff _).mpr header.rawMediaFormat,
      header.rawCartridgeId, header.rawCountryCode, cic, fun _ h => nomatch h⟩

/-- In front of the least loader every header is accepted that starts in the canonical order. -/
theorem exists_ofImage_of_front {front : Bytes} (starts : front.take 4 = ByteOrder.big.magic)
    (length : front.length = 0x40) {options : ScanOptions} (licensed : options.cics = .licensed)
    (filename : String) :
    let image := front ++ leastLoader ++ List.replicate 0x1000 0
    ∃ p, ofImage options filename image = .ok p ∧ Header.parse image = .ok p.header ∧
      p.filename = filename ∧ p.cic ∈ Cic.licensed := by
  intro image
  have hfront : (front ++ leastLoader).length = 0x1000 := by
    rw [List.length_append, length, length_leastLoader]
  have himage : image.length = 0x2000 := by
    rw [List.length_append, hfront, List.length_replicate]
  have hwhole : ByteOrder.big.arrange (wholeWords image) = image := by
    rw [ByteOrder.arrange_big, wholeWords_of_dvd (by rw [himage])]
  have hbytes : (image.take 0x1000).drop 0x40 = leastLoader := by
    rw [List.take_left' hfront]
    exact List.drop_left' length
  have himageStarts : image.take 4 = ByteOrder.big.magic := by
    have four : 4 ≤ front.length := by
      rw [length]
      decide
    change (front ++ leastLoader ++ _).take 4 = _
    rw [List.append_assoc, List.take_append_of_le_length four, starts]
  have enough : Layout.imageSize ≤ image.length := by
    rw [himage]
    exact Nat.le_refl 0x2000
  have found : options.cics.find? (loaderChecksum .big image) =
      some ⟨0xD1F2D592, "6102", "7101", 0x000000⟩ := by
    rw [licensed, loaderChecksum, hwhole, hbytes, checksum_leastLoader]
    rfl
  obtain ⟨header, parsed, -⟩ := ofImage_of_long options filename himageStarts enough
  refine ⟨_, ofImage_eq_ok himageStarts enough parsed found, ?_, rfl, List.mem_cons_self⟩
  rwa [hwhole] at parsed

/-- A licensed image with the cartridge number `;A` cannot be read back from its record. -/
theorem terse_not_isRecord_semicolon :
    let loader : Bytes := List.replicate 0xFBC 0 ++ [0x78, 0x72, 0x26, 0xF1]
    let image : Bytes := ByteOrder.big.magic ++ List.replicate 0x38 0 ++ [0x3B, 0x41, 0, 0] ++
      loader ++ List.replicate 0x1000 0
    ∃ p, ofImage {} "game.z64" image = .ok p ∧ Unmarked p.filename ∧ Unmarked p.cic.name ∧
      p.header.cartridgeId = ";A" ∧ ¬ IsRecord p.terseValues p.terse := by
  intro loader image
  let front : Bytes := ByteOrder.big.magic ++ List.replicate 0x38 0 ++ [0x3B, 0x41, 0, 0]
  have starts : front.take 4 = ByteOrder.big.magic := rfl
  have length : front.length = 0x40 := rfl
  have licensed : ({} : ScanOptions).cics = .licensed := rfl
  obtain ⟨p, accepted, parsed, hfilename, hcic⟩ :=
    exists_ofImage_of_front starts length licensed "game.z64"
  have hid : p.header.cartridgeId = ";A" := by
    rw [Header.cartridgeId, (Header.letters_of_parse parsed).2]
    rfl
  refine ⟨p, accepted, ?_, Cic.unmarked_licensed _ hcic, hid, ?_⟩
  · rw [hfilename]
    decide
  · intro record
    have unmarked := (Text.isRecord_intercalate_iff (List.cons_ne_nil _ _)).mp record
    have hbroken : ¬ Unmarked p.header.cartridgeId := by
      rw [hid]
      decide
    exact hbroken (unmarked _ (cartridgeId_mem_terseValues p))

end Profile

end CartBoot
