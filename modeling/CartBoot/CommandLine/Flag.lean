import CartBoot.Register
import CartBoot.Stub.Tracker
import CartBoot.Toolchain.Scan

/-!
# Options of the command line

Every option has a long spelling, some have a short one, and some take a value.
-/

namespace CartBoot.CommandLine

/-- The options in the order of their declaration. -/
inductive Flag where
  | help
  | terse
  | listing
  | header
  | abi
  | width
  | stopRule
  | direction
  | minEvidence
  | failFast
  | verbose
  | quiet
  | logFile
  | version
  deriving DecidableEq, Repr

namespace Flag

def all : List Flag :=
  [help, terse, listing, header, abi, width, stopRule, direction, minEvidence, failFast, verbose,
    quiet, logFile, version]

/-- The letter of the short spelling. -/
def letter? : Flag → Option Char
  | help => some 'h'
  | terse => some 't'
  | listing => some 'l'
  | verbose => some 'v'
  | quiet => some 'q'
  | _ => none

/-- The long spelling. -/
def long : Flag → String
  | help => "--help"
  | terse => "--terse"
  | listing => "--listing"
  | header => "--header"
  | abi => "--abi"
  | width => "--width"
  | stopRule => "--stop-rule"
  | direction => "--classify-direction"
  | minEvidence => "--min-evidence"
  | failFast => "--fail-fast"
  | verbose => "--verbose"
  | quiet => "--quiet"
  | logFile => "--log-file"
  | version => "--version"

def takesValue : Flag → Bool
  | abi | width | stopRule | direction | minEvidence | logFile => true
  | _ => false

/-- Both spellings, as messages name an option. -/
def display (flag : Flag) : String :=
  match flag.letter? with
  | some letter => "-" ++ String.singleton letter ++ "/" ++ flag.long
  | none => flag.long

/-- The option with a short spelling. -/
def ofLetter? (letter : Char) : Option Flag :=
  all.find? fun flag => flag.letter? = some letter

/-- The option with a long spelling. -/
def ofLong? (text : List Char) : Option Flag :=
  all.find? fun flag => flag.long.toList = text

/-- The options whose long spelling starts with a text. -/
def abbreviated (text : List Char) : List Flag :=
  all.filter fun flag => text.isPrefixOf flag.long.toList

end Flag

end CartBoot.CommandLine
