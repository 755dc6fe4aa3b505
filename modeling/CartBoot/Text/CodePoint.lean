/-!
# Texts of code points

A text is a list of code points. Most of them are characters, and every string is such a text. But a
number taken from an image is shown as the code point of that number, which may be a surrogate: it
is no character, and not every stream takes it.
-/

namespace CartBoot

/-- The code of a character or of a lone surrogate. -/
abbrev CodePoint := Fin 0x110000

namespace CodePoint

theorem toNat_lt (c : Char) : c.toNat < 0x110000 := by
  obtain low | ⟨-, high⟩ := c.valid
  · exact Nat.lt_trans low (by decide)
  · exact high

def ofChar (c : Char) : CodePoint := ⟨c.toNat, toNat_lt c⟩

theorem ofChar_inj {c d : Char} : ofChar c = ofChar d ↔ c = d := by
  rw [ofChar, ofChar, Fin.mk.injEq, Char.toNat_inj]

/-- The character with a code, unless it is that of a surrogate. -/
def char? (c : CodePoint) : Option Char :=
  if c.val.isValidChar then some (Char.ofNat c.val) else none

/-- A backslash, a mark and a code in at least `width` lower-case digits. -/
def markedEscape (mark : Char) (width : Nat) (c : CodePoint) : List Char :=
  let digits := Nat.toDigits 16 c.val
  '\\' :: mark :: (List.replicate (width - digits.length) '0' ++ digits)

/-- A code point by its code. -/
def escape (c : CodePoint) : List Char :=
  if c.val ≤ 0xFF then c.markedEscape 'x' 2
  else if c.val ≤ 0xFFFF then c.markedEscape 'u' 4
  else c.markedEscape 'U' 8

end CodePoint

/-- A text that may hold lone surrogates. -/
abbrev Text := List CodePoint

namespace Text

/-- A string as a text. -/
@[coe]
def ofString (text : String) : Text := text.toList.map .ofChar

instance : Coe String Text := ⟨ofString⟩

@[simp]
theorem ofString_append (front back : String) :
    ofString (front ++ back) = ofString front ++ ofString back := by
  simp [ofString]

theorem ofString_intercalate (separator : String) (parts : List String) :
    ofString (separator.intercalate parts) =
      (ofString separator).intercalate (parts.map ofString) := by
  rw [ofString, String.toList_intercalate]
  induction parts with
  | nil => rfl
  | cons part parts ih =>
    cases parts with
    | nil => simp [ofString]
    | cons next parts =>
      simp only [List.map_cons, List.intercalate_cons_cons, List.map_append] at ih ⊢
      rw [ih]
      rfl

theorem ofString_inj {text other : String} : ofString text = ofString other ↔ text = other := by
  rw [ofString, ofString, List.map_inj_right fun _ _ => CodePoint.ofChar_inj.mp, String.toList_inj]

/-- The character that stands for a byte that cannot be read. -/
def replacement : Char := '\uFFFD'

/-- The text of the code point with the given number. A number beyond the last one is shown as a
question mark. -/
def codePoint (code : Nat) : Text :=
  if h : code < 0x110000 then [⟨code, h⟩] else "?"

/-- A text in characters alone: lone surrogates are escaped. -/
def escaped (text : Text) : String :=
  String.ofList (text.flatMap fun c => c.char?.elim c.escape fun d => [d])

end Text

end CartBoot
