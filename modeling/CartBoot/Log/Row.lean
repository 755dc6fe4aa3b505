import CartBoot.Log.Line
import CartBoot.Text.Paragraph

/-!
# Rows of the console

The console shows an event as a row of columns: its level, its wording laid out as a paragraph, and,
if asked for, the place that it comes from, which ends the first line of the row.
-/

namespace CartBoot

/-- The columns of the console. -/
def consoleColumns : Nat := 80

/-- Whether the console leaves a character out: a bell, a backspace, a vertical tab, a form feed or
a carriage return. -/
def isLeftOut (c : Char) : Bool := c.toNat ∈ [0x07, 0x08, 0x0B, 0x0C, 0x0D]

/-- Sets texts beside the first of some lines, and blanks of their size beside the others. -/
def beside (left right : List Char) : List (List Char) → List (List Char)
  | [] => []
  | first :: rest =>
    (left ++ first ++ right) :: rest.map fun line =>
      List.replicate left.length ' ' ++ line ++ List.replicate right.length ' '

/-- The rows of an event on the console, with the place that it comes from if asked for. -/
def Event.rows (withSite : Bool) (e : Event) : String :=
  let left := (leftAligned 8 e.level.name ++ " ").toList
  let right := if withSite then
    (" " ++ e.site.file ++ ":" ++ Text.Numeral.decimal e.site.line).toList else []
  let body := Text.paragraph (consoleColumns - left.length - right.length)
    (e.message.toList.filter fun c => !isLeftOut c)
  String.join ((beside left right body).map fun line => String.ofList line ++ "\n")

end CartBoot
