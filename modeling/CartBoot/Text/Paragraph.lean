import CartBoot.Text.Columns
import CartBoot.Text.Digit

/-!
# Paragraphs

A text is laid out in lines of a fixed number of columns. As many words as fit go on a line, each
with the blanks behind it; a word that is wider than a whole line starts on a line of its own and is
folded.
-/

namespace CartBoot.Text

/-- Whether a character stands between words: a blank or an information separator. -/
def isSpacing (c : Char) : Bool :=
  isBlank c || 0x1C ≤ c.toNat && c.toNat ≤ 0x1F

/-- Puts spaces up to the next of the tab stops, which are eight columns apart, in place of each
tab. The text stands behind a number of columns. -/
def expandTabs (before : Nat) : List Char → List Char
  | [] => []
  | '\t' :: rest =>
    List.replicate (8 - before % 8) ' ' ++ expandTabs (before - before % 8 + 8) rest
  | c :: rest => c :: expandTabs (before + columns c) rest

/-- Whether a word, held backwards, has the blanks behind it already. -/
def isEnded (word : List Char) : Bool :=
  word.head?.any isSpacing && word.any fun c => !isSpacing c

/-- Splits a text into words after the part of the current word that was already read, held
backwards. -/
def wordsOnto (done : List Char) : List Char → List (List Char)
  | [] => if done.isEmpty then [] else [done.reverse]
  | c :: rest =>
    if isEnded done && !isSpacing c then done.reverse :: wordsOnto [c] rest
    else wordsOnto (c :: done) rest

/-- The words of a text, each with the blanks behind it. Blanks at the start belong to the first
word. -/
def words (text : List Char) : List (List Char) := wordsOnto [] text

/-- A text without the blanks at its end. -/
def trimEnd (text : List Char) : List Char := (text.reverse.dropWhile isSpacing).reverse

/-- Folds a word into pieces of at most so many columns after the part of the current piece that was
already read, held backwards. -/
def foldOnto (limit : Nat) (done : List Char) : List Char → List (List Char)
  | [] => [done.reverse]
  | c :: rest =>
    if limit < span done + columns c then done.reverse :: foldOnto limit [c] rest
    else foldOnto limit (c :: done) rest

/-- Lays words out in lines after the part of the current line that is already there. Blanks at the
end of a line may stand beyond its limit. -/
def fill (limit : Nat) (line : List Char) : List (List Char) → List (List Char)
  | [] => [line]
  | word :: rest =>
    if span line + span (trimEnd word) ≤ limit then fill limit (line ++ word) rest
    else if span (trimEnd word) ≤ limit then line :: fill limit word rest
    else
      let pieces := foldOnto limit [] word
      (if line.isEmpty then [] else [line]) ++ pieces.dropLast ++
        fill limit (pieces.getLastD []) rest

/-- Takes as many blanks off the end of a line as it has more characters than the limit. -/
def dropOverhang (limit : Nat) (line : List Char) : List Char :=
  let blanks := (line.reverse.takeWhile isSpacing).length
  line.take (line.length - min blanks (line.length - limit))

/-- The first characters of a text that fit into so many columns. -/
def crop (limit : Nat) : List Char → List Char
  | [] => []
  | c :: rest => if limit < columns c then [] else c :: crop (limit - columns c) rest

/-- Looks for the cut of a text that is too wide by bisection between two numbers of characters, and
takes the first number it meets whose characters fill the columns; characters without columns at the
cut stay or go as the search falls. A wide character on the last column gives way to a space. -/
def cutBetween (limit : Nat) (text : List Char) (low high : Nat) : List Char :=
  let middle := (low + high) / 2
  let part := text.take (middle + 1)
  if span part = limit then part
  else if span part = limit + 1 ∧ span (part.drop middle) = 2 then part.take middle ++ [' ']
  else if limit < span part then
    if middle < high then cutBetween limit text low middle else crop limit text
  else if low < middle then cutBetween limit text middle high else crop limit text
termination_by high - low

/-- A text in at most so many columns. -/
def cut (limit : Nat) (text : List Char) : List Char :=
  if span text ≤ limit then text else cutBetween limit text 0 text.length

/-- Fills a text up with spaces to so many columns. -/
def padEnd (limit : Nat) (text : List Char) : List Char :=
  text ++ List.replicate (limit - span text) ' '

/-- The lines of a text, each of the same number of columns. -/
def paragraph (limit : Nat) (text : List Char) : List (List Char) :=
  (text.splitOn '\n').flatMap fun line =>
    (fill limit [] (words (expandTabs 0 line))).map fun line =>
      padEnd limit (cut limit (dropOverhang limit line))

end CartBoot.Text
