import Mathlib.Data.List.Basic
import CartBoot.Text.CodePoint
import CartBoot.Proofs.Text.Numeral

/-!
# Records: the fields of one line

A record is one line whose fields stand between semicolons. Its values can be read back exactly if
none of them holds a semicolon or an end of line. Numerals never do, and the text of a code point
does for three codes alone.
-/

namespace CartBoot.Text

/-- The characters that break a record if they stand in a field. -/
def marks : List Char := [';', '\n', '\r']

/-- A text that can be a field of a record. -/
def Unmarked (text : Text) : Prop := ∀ c ∈ marks, CodePoint.ofChar c ∉ text

instance (text : Text) : Decidable (Unmarked text) :=
  List.decidableBAll (fun c => CodePoint.ofChar c ∉ text) marks

theorem forall_mem_marks {P : Char → Prop} :
    (∀ c ∈ marks, P c) ↔ P ';' ∧ P '\n' ∧ P '\r' := by
  simp only [marks, List.forall_mem_cons, List.not_mem_nil, false_imp_iff, implies_true, and_true]

theorem low_of_mem_marks : ∀ c ∈ marks, c.toNat < 0x40 :=
  forall_mem_marks.mpr (by decide)

theorem unmarked_append_iff {front back : Text} :
    Unmarked (front ++ back) ↔ Unmarked front ∧ Unmarked back := by
  simp only [Unmarked, List.mem_append, not_or, ← forall₂_and]

/-- A string has a code point exactly if it has its character. -/
theorem ofChar_mem_ofString_iff {c : Char} {text : String} :
    CodePoint.ofChar c ∈ ofString text ↔ c ∈ text.toList := by
  rw [ofString, List.mem_map]
  simp only [CodePoint.ofChar_inj, exists_eq_right]

theorem unmarked_ofString_iff {text : String} :
    Unmarked text ↔ ∀ c ∈ marks, c ∉ text.toList :=
  forall₂_congr fun _ _ => not_congr ofChar_mem_ofString_iff

/-- The fields of a line. -/
def fields (line : Text) : List Text := line.splitOn (.ofChar ';')

/-- A line that is one record of the given values. -/
structure IsRecord (values : List Text) (line : Text) : Prop where
  oneLine : .ofChar '\n' ∉ line ∧ .ofChar '\r' ∉ line
  fields_eq : fields line = values

section Splitting

variable {α : Type*} {a b : α} {sep : List α}

theorem not_mem_of_mem_splitOn [DecidableEq α] {l : List α} :
    ∀ part ∈ l.splitOn a, a ∉ part := by
  induction l with
  | nil => simp
  | cons b l ih =>
    rw [List.splitOn_cons_eq_if_modifyHead]
    split
    next => exact List.forall_mem_cons.mpr ⟨List.not_mem_nil, ih⟩
    next differ =>
      cases hparts : l.splitOn a with
      | nil => exact fun _ h => nomatch h
      | cons part parts =>
        rw [hparts, List.forall_mem_cons] at ih
        have hb : a ≠ b := fun h => differ (beq_iff_eq.mpr h.symm)
        have hhead : a ∉ b :: part := fun h => (List.mem_cons.mp h).elim hb ih.1
        exact List.forall_mem_cons.mpr ⟨hhead, ih.2⟩

theorem mem_intercalate_cons {part next : List α} {parts : List (List α)} :
    b ∈ sep.intercalate (part :: next :: parts) ↔
      b ∈ part ∨ b ∈ sep ∨ b ∈ sep.intercalate (next :: parts) := by
  rw [List.intercalate_cons_cons, List.mem_append, List.mem_append, or_assoc]

theorem mem_intercalate_of_mem {parts : List (List α)} :
    ∀ part ∈ parts, b ∈ part → b ∈ sep.intercalate parts := by
  induction parts with
  | nil => exact fun _ h => nomatch h
  | cons part parts ih =>
    cases parts with
    | nil => simp
    | cons next parts =>
      rw [List.forall_mem_cons]
      refine ⟨fun h => mem_intercalate_cons.mpr (.inl h), ?_⟩
      intro other hother h
      exact mem_intercalate_cons.mpr (.inr (.inr (ih other hother h)))

theorem mem_or_exists_of_mem_intercalate {parts : List (List α)} :
    b ∈ sep.intercalate parts → b ∈ sep ∨ ∃ part ∈ parts, b ∈ part := by
  induction parts with
  | nil => intro h; cases h
  | cons part parts ih =>
    cases parts with
    | nil =>
      intro h
      rw [List.intercalate_singleton] at h
      exact .inr ⟨part, List.mem_singleton_self part, h⟩
    | cons next parts =>
      intro h
      obtain h | h | h := mem_intercalate_cons.mp h
      · exact .inr ⟨part, List.mem_cons_self, h⟩
      · exact .inl h
      · refine (ih h).imp_right ?_
        rintro ⟨other, hother, h⟩
        exact ⟨other, List.mem_cons_of_mem _ hother, h⟩

/-- A character that is replaced everywhere is gone. -/
theorem not_mem_map_replace [DecidableEq α] (differ : b ≠ a) (l : List α) :
    a ∉ l.map fun c => if c = a then b else c := by
  intro h
  obtain ⟨c, -, hc⟩ := List.mem_map.mp h
  split at hc
  · exact differ hc
  · contradiction

theorem mem_map_replace_iff [DecidableEq α] {c : α} (ha : c ≠ a) (hb : c ≠ b) (l : List α) :
    (c ∈ l.map fun d => if d = a then b else d) ↔ c ∈ l := by
  rw [List.mem_map]
  constructor
  · rintro ⟨d, hd, rfl⟩
    split at hb
    · contradiction
    · rwa [if_neg ‹_›]
  · intro h
    exact ⟨c, h, if_neg ha⟩

end Splitting

theorem unmarked_of_mem_fields {line value : Text}
    (oneLine : .ofChar '\n' ∉ line ∧ .ofChar '\r' ∉ line) (h : value ∈ fields line) :
    Unmarked value := by
  have hjoined : (";" : Text).intercalate (fields line) = line := List.intercalate_splitOn _
  have inside : ∀ c ∈ value, c ∈ line := by
    intro c hc
    rw [← hjoined]
    exact mem_intercalate_of_mem value h hc
  rw [Unmarked, forall_mem_marks]
  refine ⟨not_mem_of_mem_splitOn value h, ?_, ?_⟩
  · exact fun h => oneLine.1 (inside _ h)
  · exact fun h => oneLine.2 (inside _ h)

/-- Values make up a record exactly if each of them can be a field. -/
theorem isRecord_intercalate_iff {values : List Text} (nonempty : values ≠ []) :
    IsRecord values ((";" : Text).intercalate values) ↔ ∀ value ∈ values, Unmarked value := by
  constructor
  · intro record value hvalue
    rw [← record.fields_eq] at hvalue
    exact unmarked_of_mem_fields record.oneLine hvalue
  · intro unmarked
    have hfree : ∀ c ∈ marks, c ≠ ';' → CodePoint.ofChar c ∉ (";" : Text).intercalate values := by
      intro c hc hsep h
      obtain h | ⟨value, hvalue, h⟩ := mem_or_exists_of_mem_intercalate h
      · exact hsep (List.mem_singleton.mp (ofChar_mem_ofString_iff.mp h))
      · exact unmarked value hvalue c hc h
    refine ⟨⟨hfree '\n' (by decide) (by decide), hfree '\r' (by decide) (by decide)⟩, ?_⟩
    have hparts : ∀ value ∈ values, CodePoint.ofChar ';' ∉ value :=
      fun value hvalue => unmarked value hvalue ';' (by decide)
    exact List.splitOn_intercalate _ hparts nonempty

/-- No digit is a mark, in either case. -/
theorem digitChar_ne_mark : ∀ d < 16, ∀ c ∈ marks, d.digitChar ≠ c ∧ d.digitChar.toUpper ≠ c := by
  simp only [forall_mem_marks]
  decide

/-- The text of a code point is unmarked unless it is a mark itself. -/
theorem unmarked_codePoint_iff (code : Nat) :
    Unmarked (codePoint code) ↔ ∀ c ∈ marks, code ≠ c.toNat := by
  unfold codePoint
  split
  next valid =>
    have hcode : ∀ c : Char, CodePoint.ofChar c ∈ [⟨code, valid⟩] ↔ code = c.toNat := by
      intro c
      rw [List.mem_singleton, CodePoint.ofChar, Fin.mk.injEq, eq_comm]
    exact forall₂_congr fun c _ => not_congr (hcode c)
  next beyond =>
    have hcode : ∀ c : Char, code ≠ c.toNat := by
      rintro c rfl
      exact beyond (CodePoint.toNat_lt c)
    exact iff_of_true (by decide) fun c _ => hcode c

namespace Numeral

theorem unmarked_padded {base : Nat} (hbase : 1 < base) (small : base ≤ 16) (width : Nat)
    (n : Int) : Unmarked (padded base width n) := by
  rw [unmarked_ofString_iff]
  intro c hc h
  obtain rfl | ⟨d, hd, rfl⟩ := mem_padded hbase width n c h
  · exact absurd hc (by decide)
  · exact (digitChar_ne_mark d (by omega) _ hc).2 rfl

end Numeral

end CartBoot.Text
