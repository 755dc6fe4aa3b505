import CartBoot.Text.ShiftJis
import CartBoot.Proofs.Text.Fields

/-!
# ASCII in Shift-JIS text

The characters below `@` are no part of a pair: no trail byte is that low, and the grid holds none
of them. So each of them stands in a text exactly if its byte stands among the bytes read.
-/

namespace CartBoot.Text

namespace KanjiGrid

/-- Every character of a row is outside ASCII, or marks a free cell. -/
def Foreign (row : String) : Prop := ∀ c ∈ row.toList, 0x80 ≤ c.toNat ∨ c = '.'

theorem foreign_ofList {cells : List Char}
    (foreign : (cells.all fun c => 0x80 ≤ c.toNat || c = '.') = true) :
    Foreign (String.ofList cells) := by
  intro c hc
  rw [String.toList_ofList] at hc
  simpa using List.all_eq_true.mp foreign c hc

set_option maxRecDepth 8000 in
theorem foreign_signRows : ∀ row ∈ signRows, Foreign row := by
  simp only [signRows, List.forall_mem_cons]
  repeat' apply And.intro
  any_goals exact foreign_ofList (by decide +kernel)
  exact fun _ h => nomatch h

set_option maxRecDepth 8000 in
theorem foreign_kanjiRows : ∀ row ∈ kanjiRows, Foreign row := by
  simp only [kanjiRows, List.forall_mem_cons]
  repeat' apply And.intro
  any_goals exact foreign_ofList (by decide +kernel)
  exact fun _ h => nomatch h

theorem foreign_getD {rows : List String} (foreign : ∀ row ∈ rows, Foreign row) (n : Nat) :
    Foreign (rows.getD n "") := by
  rw [List.getD_eq_getElem?_getD]
  cases hrow : rows[n]? with
  | none => exact fun _ h => nomatch h
  | some row => exact foreign row (List.mem_of_getElem? hrow)

/-- The grid holds no ASCII characters. -/
theorem le_toNat_of_cell? {number cell : Nat} {c : Char} (held : cell? number cell = some c) :
    0x80 ≤ c.toNat := by
  unfold cell? at held
  split at held
  next d hd =>
    have hmem : d ∈ row number := List.mem_of_getElem? hd
    split at held
    next => cases held
    next hfull =>
      cases held
      have hforeign : 0x80 ≤ c.toNat ∨ c = '.' := by
        unfold row at hmem
        split at hmem
        · exact foreign_getD foreign_signRows _ c hmem
        · exact foreign_getD foreign_kanjiRows _ c hmem
      exact hforeign.resolve_right hfull
  next => cases held

end KanjiGrid

namespace ShiftJis

/-- Both bytes of a pair and its character are above the low ASCII characters. -/
theorem le_of_pair? {lead trail : UInt8} {c : Char} (pair : pair? lead trail = some c) :
    0x40 ≤ lead.toNat ∧ 0x40 ≤ trail.toNat ∧ 0x80 ≤ c.toNat := by
  unfold pair? at pair
  split at pair
  next hbytes =>
    simp only [isLead, isTrail, Bool.and_eq_true, Bool.or_eq_true, decide_eq_true_eq,
      UInt8.le_iff_toNat_le, UInt8.reduceToNat] at hbytes
    refine ⟨?_, ?_, KanjiGrid.le_toNat_of_cell? pair⟩
    · omega
    · omega
  next => cases pair

variable {c : Char}

theorem toNat_ofNat {n : Nat} (valid : n.isValidChar) : (Char.ofNat n).toNat = n := by
  rw [Char.ofNat, dif_pos valid]
  rfl

theorem toNat_ofNat_low (low : c.toNat < 0x40) : (UInt8.ofNat c.toNat).toNat = c.toNat := by
  rw [UInt8.toNat_ofNat', Nat.mod_eq_of_lt]
  omega

theorem ofNat_eq_iff (low : c.toNat < 0x40) (b : UInt8) :
    Char.ofNat b.toNat = c ↔ b = UInt8.ofNat c.toNat := by
  have hb := b.toNat_lt
  rw [← UInt8.toNat_inj, toNat_ofNat_low low, ← Char.toNat_inj, toNat_ofNat (.inl (by omega))]

theorem ne_of_high (low : c.toNat < 0x40) {b : UInt8} (high : ¬b < 0x80) :
    b ≠ UInt8.ofNat c.toNat := by
  have hhigh : 0x80 ≤ b.toNat := Nat.not_lt.mp high
  rintro rfl
  rw [toNat_ofNat_low low] at hhigh
  omega

theorem replacement_ne (low : c.toNat < 0x40) : replacement ≠ c := by
  rintro rfl
  exact absurd low (by decide)

theorem single_eq_iff (low : c.toNat < 0x40) (b : UInt8) :
    single b = c ↔ b = UInt8.ofNat c.toNat := by
  unfold single
  split
  next => exact ofNat_eq_iff low b
  next high =>
    refine iff_of_false ?_ (ne_of_high low high)
    split
    next =>
      rintro rfl
      rw [toNat_ofNat (.inr (by have := b.toNat_lt; omega))] at low
      omega
    next => exact replacement_ne low

/-- A low ASCII character is read from its byte and from nothing else. -/
theorem mem_decode_iff (low : c.toNat < 0x40) (bytes : List UInt8) :
    c ∈ decode bytes ↔ UInt8.ofNat c.toNat ∈ bytes := by
  induction bytes using decode.induct with
  | case1 => simp [decode]
  | case2 b =>
    rw [decode, List.mem_singleton, List.mem_singleton, eq_comm, single_eq_iff low, eq_comm]
  | case3 b next rest d pair ih =>
    obtain ⟨hlead, htrail, hd⟩ := le_of_pair? pair
    have hc : c ≠ d := by rintro rfl; omega
    have hb : UInt8.ofNat c.toNat ≠ b := by
      rintro rfl; rw [toNat_ofNat_low low] at hlead; omega
    have hnext : UInt8.ofNat c.toNat ≠ next := by
      rintro rfl; rw [toNat_ofNat_low low] at htrail; omega
    rw [decode, pair]
    simp only [List.mem_cons, hc, hb, hnext, false_or, ih]
  | case4 b next rest pair ih =>
    rw [decode, pair]
    simp only [List.mem_cons, ih]
    rw [eq_comm, single_eq_iff low, eq_comm]

end ShiftJis

end CartBoot.Text
