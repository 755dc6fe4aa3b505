/-!
# Numerals: signed digits in a base, zero-padded to a width

A numeral is a sign, zeros up to the width, and the digits. The sign counts towards the width, and a
numeral wider than the width is never cut.
-/

namespace CartBoot.Text.Numeral

/-- The digits of a natural number, most significant first, in upper case. -/
def digits (base n : Nat) : List Char :=
  (Nat.toDigits base n).map Char.toUpper

/-- The sign of a numeral: a minus for negative values, nothing otherwise. -/
def sign (n : Int) : List Char :=
  if n < 0 then ['-'] else []

/-- The numeral of `n` in `base`, at least `width` characters long. -/
def padded (base width : Nat) (n : Int) : String :=
  let mark := sign n
  let body := digits base n.natAbs
  String.ofList (mark ++ List.replicate (width - mark.length - body.length) '0' ++ body)

/-- Upper-case hexadecimal of at least `width` characters. -/
def hex (width : Nat) (n : Int) : String :=
  padded 16 width n

/-- Binary of at least `width` characters. -/
def binary (width : Nat) (n : Int) : String :=
  padded 2 width n

/-- Plain decimal. -/
def decimal (n : Int) : String :=
  padded 10 0 n

/-- A hexadecimal literal: the sign stands before the `0x` mark. -/
def signedHex (n : Int) : String :=
  String.ofList (sign n) ++ "0x" ++ hex 0 n.natAbs

/-- The lower-case form of `signedHex`. -/
def signedHexLower (n : Int) : String :=
  String.ofList (sign n) ++ "0x" ++ String.ofList (Nat.toDigits 16 n.natAbs)

/-- Bytes as two hexadecimal digits each, separated by blanks. -/
def spacedBytes (bytes : List UInt8) : String :=
  " ".intercalate (bytes.map fun b => hex 2 b.toNat)

@[simp]
theorem sign_natCast (n : Nat) : sign (n : Int) = [] := by
  simp [sign]

theorem toList_padded (base width : Nat) (n : Int) :
    (padded base width n).toList =
      sign n ++ List.replicate (width - (sign n).length - (digits base n.natAbs).length) '0' ++
        digits base n.natAbs := by
  simp [padded]

end CartBoot.Text.Numeral
