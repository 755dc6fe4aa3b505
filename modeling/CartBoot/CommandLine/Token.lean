import CartBoot.CommandLine.Flag
import CartBoot.Text.Digit

/-!
# Tokens of the command line

Before options are carried out, every argument is read as an operand, an option or the end of the
options. A long option may be abbreviated as far as it stays unique, and a value may be attached to
an option. An argument that looks like a negative number or holds a blank is an operand, unless it
spells an option.
-/

namespace CartBoot.CommandLine

/-- What an argument is. -/
inductive Token where
  | operand (text : String)
  /-- The mark that ends the options. -/
  | divider
  | short (flag : Flag) (attached : Option (List Char))
  | long (flag : Flag) (attached : Option (List Char))
  /-- An argument that looks like an option and is none. -/
  | unknown (text : String)
  deriving DecidableEq, Repr

/-- An abbreviation that fits several options. -/
structure Ambiguity where
  text : String
  candidates : List Flag
  deriving DecidableEq, Repr

namespace Token

/-- Whether a text is a minus and a number, with or without a fraction. -/
def isNegativeNumber : List Char → Bool
  | '-' :: digits =>
    let digits := if digits.getLast? = some '\n' then digits.dropLast else digits
    let isDigit := fun c => (Text.digitValue? c).isSome
    match digits.dropWhile isDigit with
    | [] => !digits.isEmpty
    | '.' :: fraction => !fraction.isEmpty && fraction.all isDigit
    | _ => false
  | _ => false

/-- Splits a text at its first equals sign. -/
def splitEquals (text : List Char) : List Char × Option (List Char) :=
  match text.dropWhile (· != '=') with
  | [] => (text, none)
  | _ :: value => (text.takeWhile (· != '='), some value)

/-- What an argument is that spells no option. -/
def other (text : List Char) : Token :=
  if isNegativeNumber text || text.contains ' ' then .operand (.ofList text)
  else .unknown (.ofList text)

/-- Reads an argument that starts with two minus signs. -/
def ofLong (text : List Char) : Except Ambiguity Token :=
  let (spelling, attached) := splitEquals text
  match Flag.ofLong? spelling with
  | some flag => .ok (.long flag attached)
  | none =>
    match Flag.abbreviated spelling with
    | [] => .ok (other text)
    | [flag] => .ok (.long flag attached)
    | candidates => .error ⟨.ofList text, candidates⟩

/-- Reads an argument that starts with one minus sign and a letter. The text behind the letter is
attached to it, with or without an equals sign. -/
def ofShort (text : List Char) (letter : Char) (rest : List Char) : Token :=
  match Flag.ofLetter? letter, rest with
  | some flag, [] => .short flag none
  | some flag, '=' :: value => .short flag (some value)
  | some flag, _ => .short flag (some rest)
  | none, _ => other text

/-- Reads one argument. -/
def ofArgument (argument : String) : Except Ambiguity Token :=
  match argument.toList with
  | '-' :: '-' :: rest => ofLong ('-' :: '-' :: rest)
  | '-' :: letter :: rest => .ok (ofShort ('-' :: letter :: rest) letter rest)
  | _ => .ok (.operand argument)

/-- Reads all arguments; those after the end of the options are operands. -/
def ofArguments : List String → Except Ambiguity (List Token)
  | [] => .ok []
  | argument :: rest =>
    if argument = "--" then .ok (.divider :: rest.map .operand)
    else do return (← ofArgument argument) :: (← ofArguments rest)

end Token

end CartBoot.CommandLine
