import CartBoot.Proofs.Text.Numeral

/-!
# Tokens: a line without its blanks and punctuation

The tokens of a text are its longest parts without a separator. They do not depend on how many
separators stand between two of them, so that a line written in columns has the same tokens at any
width of its columns.
-/

namespace CartBoot.Text

/-- The characters that stand between tokens. -/
def separators : List Char := [' ', ',', '(', ')']

/-- The tokens of a text. -/
def tokens (text : String) : List String :=
  ((text.toList.splitOnP (· ∈ separators)).filter (· ≠ [])).map String.ofList

/-- A text of separators only. -/
def IsGap (text : String) : Prop := ∀ c ∈ text.toList, c ∈ separators

/-- A text without a separator. -/
def Solid (text : String) : Prop := ∀ c ∈ text.toList, c ∉ separators

instance (text : String) : Decidable (IsGap text) :=
  List.decidableBAll (· ∈ separators) text.toList

instance (text : String) : Decidable (Solid text) :=
  List.decidableBAll (· ∉ separators) text.toList

variable {front gap back text : String}

theorem tokens_empty : tokens "" = [] := by
  decide

theorem tokens_eq_singleton (solid : Solid text) (nonempty : text ≠ "") :
    tokens text = [text] := by
  have hsplit : text.toList.splitOnP (· ∈ separators) = [text.toList] :=
    List.splitOnP_eq_singleton fun c hc => decide_eq_false (solid c hc)
  have hlist : text.toList ≠ [] := mt String.toList_eq_nil_iff.mp nonempty
  simp [tokens, hsplit, hlist]

/-- A separator divides the tokens in front of it from those behind it. -/
theorem tokens_append_separator {c : Char} (hc : c ∈ separators) :
    tokens (front ++ String.singleton c ++ back) = tokens front ++ tokens back := by
  have hsplit : (front ++ String.singleton c ++ back).toList.splitOnP (· ∈ separators) =
      front.toList.splitOnP (· ∈ separators) ++ back.toList.splitOnP (· ∈ separators) := by
    rw [String.toList_append, String.toList_append, String.toList_singleton, List.append_assoc]
    exact List.splitOnP_append_cons _ _ (decide_eq_true hc)
  rw [tokens, hsplit, List.filter_append, List.map_append]
  rfl

theorem tokens_gap_append (hgap : IsGap gap) : tokens (gap ++ back) = tokens back := by
  obtain ⟨chars, rfl⟩ : ∃ chars, gap = String.ofList chars := ⟨gap.toList, by simp⟩
  induction chars with
  | nil => rw [String.ofList_nil, String.empty_append]
  | cons c chars ih =>
    rw [IsGap, String.toList_ofList, List.forall_mem_cons] at hgap
    have hcons : String.ofList (c :: chars) ++ back =
        "" ++ String.singleton c ++ (String.ofList chars ++ back) := by
      simp [← String.toList_inj]
    rw [hcons, tokens_append_separator hgap.1, tokens_empty, List.nil_append]
    exact ih (by simpa [IsGap] using hgap.2)

/-- A gap between two texts divides their tokens, whatever its width. -/
theorem tokens_append_gap_append (hgap : IsGap gap) (nonempty : gap ≠ "") :
    tokens (front ++ gap ++ back) = tokens front ++ tokens back := by
  obtain ⟨c, chars, hchars⟩ : ∃ c chars, gap.toList = c :: chars :=
    List.exists_cons_of_ne_nil (mt String.toList_eq_nil_iff.mp nonempty)
  rw [IsGap, hchars, List.forall_mem_cons] at hgap
  have hcons : front ++ gap ++ back =
      front ++ String.singleton c ++ (String.ofList chars ++ back) := by
    simp [← String.toList_inj, hchars]
  rw [hcons, tokens_append_separator hgap.1, tokens_gap_append (by simpa [IsGap] using hgap.2)]

theorem tokens_append_gap (hgap : IsGap gap) : tokens (front ++ gap) = tokens front := by
  by_cases hempty : gap = ""
  · rw [hempty, String.append_empty]
  · have hlast : tokens (front ++ gap ++ "") = tokens front ++ tokens "" :=
      tokens_append_gap_append hgap hempty
    rwa [String.append_empty, tokens_empty, List.append_nil] at hlast

theorem solid_append_iff : Solid (front ++ back) ↔ Solid front ∧ Solid back := by
  simp only [Solid, String.toList_append, List.forall_mem_append]

namespace Numeral

theorem solid_padded {base : Nat} (hbase : 1 < base) (small : base ≤ 16) (width : Nat) (n : Int) :
    Solid (padded base width n) := by
  have digits : ∀ d < 16, d.digitChar.toUpper ∉ separators := by decide
  intro c hc
  obtain rfl | ⟨d, hd, rfl⟩ := mem_padded hbase width n c hc
  · decide
  · exact digits d (by omega)

theorem padded_ne_empty (base width : Nat) (n : Int) : padded base width n ≠ "" := by
  intro h
  have hlist := congrArg String.toList h
  rw [toList_padded, String.toList_empty, List.append_eq_nil_iff] at hlist
  exact Nat.toDigits_ne_nil (List.map_eq_nil_iff.mp hlist.2)

theorem tokens_append_padded {mark : String} (hmark : Solid mark) {base : Nat} (hbase : 1 < base)
    (small : base ≤ 16) (width : Nat) (n : Int) :
    tokens (mark ++ padded base width n) = [mark ++ padded base width n] := by
  apply tokens_eq_singleton
  · exact solid_append_iff.mpr ⟨hmark, solid_padded hbase small width n⟩
  · exact fun h => padded_ne_empty base width n (String.append_eq_empty_iff.mp h).2

theorem tokens_hex (width : Nat) (n : Int) : tokens (hex width n) = [hex width n] := by
  have hmark : tokens ("" ++ hex width n) = ["" ++ hex width n] :=
    tokens_append_padded (by decide) (by decide) (by decide) width n
  rwa [String.empty_append] at hmark

theorem tokens_signedHex (n : Int) : tokens (signedHex n) = [signedHex n] := by
  have hsign : Solid (String.ofList (sign n)) := by
    unfold sign
    split <;> decide
  have hmark : Solid (String.ofList (sign n) ++ "0x") := solid_append_iff.mpr ⟨hsign, by decide⟩
  exact tokens_append_padded hmark (by decide) (by decide) 0 _

end Numeral

end CartBoot.Text
