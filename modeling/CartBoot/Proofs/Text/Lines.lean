import CartBoot.Proofs.Text.Numeral
import CartBoot.Text.Lines

/-!
# Lines read back from a text

Texts without an end of line that are joined by line feeds are the lines of the join. An empty line
is read back only in front of another one.
-/

namespace CartBoot.Text

/-- A text without an end of line. -/
def OneLine (text : Text) : Prop := ∀ c ∈ text, isLineEnd c = false

instance (text : Text) : Decidable (OneLine text) :=
  List.decidableBAll (isLineEnd · = false) text

theorem oneLine_empty : OneLine "" := by
  decide

theorem oneLine_ofString_iff {text : String} :
    OneLine text ↔ ∀ c ∈ text.toList, isLineEnd (.ofChar c) = false :=
  List.forall_mem_map

theorem oneLine_append_iff {front back : String} :
    OneLine (ofString (front ++ back)) ↔ OneLine front ∧ OneLine back := by
  simp only [OneLine, ofString_append, List.forall_mem_append]

/-! ## Lines of a join -/

theorem linesOnto_cons {c : CodePoint} (inside : isLineEnd c = false) (done rest : Text) :
    linesOnto done (c :: rest) = linesOnto (c :: done) rest := by
  have hreturn : c ≠ 0x0D := by
    rintro rfl
    cases inside
  rw [linesOnto, inside]
  · rfl
  · exact fun _ h => absurd h hreturn

theorem linesOnto_append {part : Text} (inside : OneLine part) (done rest : Text) :
    linesOnto done (part ++ rest) = linesOnto (part.reverse ++ done) rest := by
  induction part generalizing done with
  | nil => rfl
  | cons c part ih =>
    rw [OneLine, List.forall_mem_cons] at inside
    rw [List.cons_append, linesOnto_cons inside.1, ih inside.2, List.reverse_cons,
      List.append_assoc]
    rfl

theorem linesOnto_newline (done rest : Text) :
    linesOnto done ("\n" ++ rest) = done.reverse :: linesOnto [] rest := by
  change linesOnto done (0x0A :: rest) = _
  rw [linesOnto]
  · rfl
  · exact fun _ h => absurd h (by decide)

/-- The lines of a join are the texts that it joins. -/
theorem lines_intercalate {parts : List Text} (inside : ∀ part ∈ parts, part ≠ [] ∧ OneLine part) :
    lines (("\n" : Text).intercalate parts) = parts := by
  rw [lines]
  induction parts with
  | nil => rfl
  | cons part parts ih =>
    rw [List.forall_mem_cons] at inside
    obtain ⟨⟨nonempty, hpart⟩, hparts⟩ := inside
    cases parts with
    | nil =>
      rw [List.intercalate_singleton, ← List.append_nil part, linesOnto_append hpart]
      simp [linesOnto, nonempty]
    | cons next parts =>
      rw [List.intercalate_cons_cons, List.append_assoc, linesOnto_append hpart,
        linesOnto_newline, ih hparts, List.append_nil, List.reverse_reverse]

namespace Numeral

theorem oneLine_padded {base : Nat} (hbase : 1 < base) (small : base ≤ 16) (width : Nat) (n : Int) :
    OneLine (padded base width n) := by
  have digits : ∀ d < 16, isLineEnd (.ofChar d.digitChar.toUpper) = false := by decide
  rw [oneLine_ofString_iff]
  intro c hc
  obtain rfl | ⟨d, hd, rfl⟩ := mem_padded hbase width n c hc
  · decide
  · exact digits d (by omega)

theorem oneLine_hex (width : Nat) (n : Int) : OneLine (hex width n) :=
  oneLine_padded (by decide) (by decide) width n

theorem oneLine_binary (width : Nat) (n : Int) : OneLine (binary width n) :=
  oneLine_padded (by decide) (by decide) width n

theorem oneLine_signedHex (n : Int) : OneLine (signedHex n) := by
  have hsign : OneLine (String.ofList (sign n)) := by
    unfold sign
    split <;> decide
  exact oneLine_append_iff.mpr ⟨oneLine_append_iff.mpr ⟨hsign, by decide⟩, oneLine_hex 0 _⟩

end Numeral

end CartBoot.Text
