import CartBoot.Text.Digit

/-!
# Reading integers

An integer is written as an optional sign and decimal digits of any script, with blanks around it
and single underscores between digits. A number of more digits than `maxDigits` is refused.
-/

namespace CartBoot.Text

/-- The most digits that are read. -/
def maxDigits : Nat := 4300

/-- The values of digits with single underscores between them; there has to be a digit. -/
def digitValues? : List Char → Option (List Nat)
  | [] => none
  | [c] => (digitValue? c).map ([·])
  | c :: '_' :: rest => do return (← digitValue? c) :: (← digitValues? rest)
  | c :: rest => do return (← digitValue? c) :: (← digitValues? rest)

/-- Drops the blanks on both sides of a text. -/
def trimBlanks (text : List Char) : List Char :=
  ((text.dropWhile isBlank).reverse.dropWhile isBlank).reverse

/-- Reads digits without a sign. -/
def readNatural? (text : List Char) : Option Nat := do
  let values ← digitValues? text
  if maxDigits < values.length then none
  else return values.foldl (fun n digit => 10 * n + digit) 0

/-- Reads an integer. -/
def readInteger? (text : String) : Option Int :=
  match trimBlanks text.toList with
  | '-' :: digits => (readNatural? digits).map fun n => -(n : Int)
  | '+' :: digits => (readNatural? digits).map fun n => (n : Int)
  | digits => (readNatural? digits).map fun n => (n : Int)

end CartBoot.Text
