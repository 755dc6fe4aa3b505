import Mathlib.Data.List.Basic
import CartBoot.Text.Numeral

/-!
# Numerals and their values

The value of a numeral is read back from its characters. Zeros in front do not count, so that
numerals of one base are equal for equal numbers only, whatever widths they are padded to.
-/

namespace CartBoot.Text.Numeral

variable {base : Nat}

/-! ## Digits -/

theorem mem_toDigits (hbase : 1 < base) (n : Nat) :
    ∀ c ∈ Nat.toDigits base n, ∃ d < base, c = Nat.digitChar d := by
  induction n using Nat.strongRecOn with
  | ind n ih =>
    rw [Nat.toDigits_eq_if hbase]
    split
    next small => simpa using ⟨n, small, rfl⟩
    next large =>
      have hless : n / base < n := Nat.div_lt_self (by omega) hbase
      rintro c hc
      obtain hc | hc := List.mem_append.mp hc
      · exact ih _ hless c hc
      · exact ⟨n % base, Nat.mod_lt _ (by omega), List.mem_singleton.mp hc⟩

theorem mem_digits (hbase : 1 < base) (n : Nat) :
    ∀ c ∈ digits base n, ∃ d < base, c = d.digitChar.toUpper := by
  intro c hc
  obtain ⟨digit, hdigit, rfl⟩ := List.mem_map.mp hc
  obtain ⟨d, hd, rfl⟩ := mem_toDigits hbase n digit hdigit
  exact ⟨d, hd, rfl⟩

/-- The last digit of a number stands behind those of its quotient by the base. -/
theorem digits_eq_if (hbase : 1 < base) (n : Nat) :
    digits base n =
      if n < base then [n.digitChar.toUpper]
      else digits base (n / base) ++ [(n % base).digitChar.toUpper] := by
  simp only [digits, Nat.toDigits_eq_if hbase (n := n)]
  split
  · rfl
  · rw [List.map_append, List.map_singleton]

/-- The value of an upper-case digit. -/
def digitValue (c : Char) : Nat :=
  if c.isDigit then c.toNat - '0'.toNat else c.toNat - 'A'.toNat + 10

theorem digitValue_digitChar : ∀ d < 16, digitValue d.digitChar.toUpper = d := by
  decide

/-- The number that digits stand for. -/
def valueOf (base : Nat) (body : List Char) : Nat :=
  body.foldl (fun value c => base * value + digitValue c) 0

theorem valueOf_concat (base : Nat) (body : List Char) (c : Char) :
    valueOf base (body ++ [c]) = base * valueOf base body + digitValue c := by
  simp only [valueOf, List.foldl_append, List.foldl_cons, List.foldl_nil]

theorem valueOf_zeros_append (base count : Nat) (body : List Char) :
    valueOf base (List.replicate count '0' ++ body) = valueOf base body := by
  induction count with
  | zero => rfl
  | succ count ih => exact ih

theorem valueOf_digits (hbase : 1 < base) (small : base ≤ 16) (n : Nat) :
    valueOf base (digits base n) = n := by
  induction n using Nat.strongRecOn with
  | ind n ih =>
    rw [digits_eq_if hbase]
    split
    next hn =>
      change base * 0 + digitValue n.digitChar.toUpper = n
      rw [digitValue_digitChar n (by omega), Nat.mul_zero, Nat.zero_add]
    next hn =>
      have hless : n / base < n := Nat.div_lt_self (by omega) hbase
      have hlast : n % base < base := Nat.mod_lt _ (by omega)
      rw [valueOf_concat, ih _ hless, digitValue_digitChar _ (by omega), Nat.div_add_mod]

/-! ## Signed numerals -/

/-- A numeral consists of digits and a minus. -/
theorem mem_padded (hbase : 1 < base) (width : Nat) (n : Int) :
    ∀ c ∈ (padded base width n).toList, c = '-' ∨ ∃ d < base, c = d.digitChar.toUpper := by
  intro c hc
  rw [toList_padded, List.mem_append, List.mem_append] at hc
  obtain (hc | hc) | hc := hc
  · unfold sign at hc
    split at hc
    · exact .inl (List.mem_singleton.mp hc)
    · cases hc
  · exact .inr ⟨0, by omega, List.eq_of_mem_replicate hc⟩
  · exact .inr (mem_digits hbase _ c hc)

theorem minus_notMem_body (hbase : 1 < base) (small : base ≤ 16) (count n : Nat) :
    '-' ∉ List.replicate count '0' ++ digits base n := by
  have differ : ∀ d < 16, d.digitChar.toUpper ≠ '-' := by decide
  intro h
  obtain h | h := List.mem_append.mp h
  · exact absurd (List.eq_of_mem_replicate h) (by decide)
  · obtain ⟨d, hd, hminus⟩ := mem_digits hbase n _ h
    exact differ d (by omega) hminus.symm

/-- A sign can be told from a body without a minus. -/
theorem sign_append_inj {m n : Int} {front back : List Char} (hfront : '-' ∉ front)
    (hback : '-' ∉ back) (h : sign m ++ front = sign n ++ back) :
    (m < 0 ↔ n < 0) ∧ front = back := by
  unfold sign at h
  split at h <;> split at h
  next hm hn => exact ⟨iff_of_true hm hn, (List.cons.inj h).2⟩
  next =>
    rw [List.nil_append] at h
    exact absurd (h ▸ List.mem_cons_self) hback
  next =>
    rw [List.nil_append] at h
    exact absurd (h ▸ List.mem_cons_self) hfront
  next hm hn => exact ⟨iff_of_false hm hn, h⟩

theorem eq_of_sign_of_natAbs {m n : Int} (hsign : m < 0 ↔ n < 0) (h : m.natAbs = n.natAbs) :
    m = n := by
  omega

/-- Numerals of one base tell their numbers apart, at any widths. -/
theorem padded_inj (hbase : 1 < base) (small : base ≤ 16) {width width' : Nat} {m n : Int}
    (h : padded base width m = padded base width' n) : m = n := by
  have hlist := congrArg String.toList h
  rw [toList_padded, toList_padded, List.append_assoc, List.append_assoc] at hlist
  obtain ⟨hsign, hbody⟩ := sign_append_inj (minus_notMem_body hbase small _ _)
    (minus_notMem_body hbase small _ _) hlist
  have hvalue := congrArg (valueOf base) hbody
  simp only [valueOf_zeros_append, valueOf_digits hbase small] at hvalue
  exact eq_of_sign_of_natAbs hsign hvalue

theorem hex_inj {width : Nat} {m n : Int} : hex width m = hex width n ↔ m = n :=
  ⟨padded_inj (by decide) (by decide), congrArg (hex width)⟩

/-- Hexadecimal literals tell their numbers apart. -/
theorem signedHex_injective : Function.Injective signedHex := by
  intro m n h
  have free : ∀ k : Nat, '-' ∉ "0x".toList ++ (hex 0 k).toList := by
    intro k hmem
    rw [hex, toList_padded, sign_natCast, List.nil_append] at hmem
    obtain hmem | hmem := List.mem_append.mp hmem
    · exact absurd hmem (by decide)
    · exact minus_notMem_body (by decide) (by decide) _ _ hmem
  have hlist := congrArg String.toList h
  simp only [signedHex, String.toList_append, String.toList_ofList, List.append_assoc] at hlist
  obtain ⟨hsign, hbody⟩ := sign_append_inj (free _) (free _) hlist
  have hvalue : (m.natAbs : Int) = n.natAbs :=
    padded_inj (by decide) (by decide) (String.toList_inj.mp (List.append_cancel_left hbody))
  exact eq_of_sign_of_natAbs hsign (Int.ofNat_inj.mp hvalue)

end CartBoot.Text.Numeral
