import CartBoot.Text.CodePoint

/-!
# Lines of a text

A line ends at any of the characters that Unicode lets end one; a carriage return and a line feed
together end a single line. No line follows the last end.
-/

namespace CartBoot.Text

/-- Whether a code point ends a line. -/
def isLineEnd (c : CodePoint) : Bool :=
  c.val ∈ [0x0A, 0x0B, 0x0C, 0x0D, 0x1C, 0x1D, 0x1E, 0x85, 0x2028, 0x2029]

/-- Splits a text after the part of its current line that was already read, held backwards. -/
def linesOnto (done : Text) : Text → List Text
  | [] => if done.isEmpty then [] else [done.reverse]
  | 0x0D :: 0x0A :: rest => done.reverse :: linesOnto [] rest
  | c :: rest =>
    if isLineEnd c then done.reverse :: linesOnto [] rest else linesOnto (c :: done) rest

/-- The lines of a text without their ends. -/
def lines (text : Text) : List Text := linesOnto [] text

end CartBoot.Text
