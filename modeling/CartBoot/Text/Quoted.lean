import CartBoot.Text.CodePoint
import CartBoot.Text.Unprintable

/-!
# Quoted text

A text is quoted with apostrophes, or with double quotes if it holds an apostrophe and no double
quote. The quotes in use and backslashes are escaped, and so are code points without a shape.
-/

namespace CartBoot.Text

/-- The apostrophe. -/
def apostrophe : Char := Char.ofNat 0x27

/-- The double quote. -/
def doubleQuote : Char := Char.ofNat 0x22

/-- A character as it stands between the quotes. -/
def escapeChar (quote c : Char) : List Char :=
  if c = quote || c = '\\' then ['\\', c]
  else if c = '\t' then ['\\', 't']
  else if c = '\n' then ['\\', 'n']
  else if c = '\r' then ['\\', 'r']
  else if isPrintable c then [c]
  else (CodePoint.ofChar c).escape

/-- The quote to use around a text. -/
def quoteFor (text : Text) : Char :=
  if text.contains (.ofChar apostrophe) && !text.contains (.ofChar doubleQuote) then doubleQuote
  else apostrophe

/-- A text in quotes. -/
def quoted (text : Text) : String :=
  let quote := quoteFor text
  String.ofList ([quote] ++
    text.flatMap (fun c => c.char?.elim c.escape (escapeChar quote)) ++ [quote])

end CartBoot.Text
