import CartBoot.CommandLine.FileTree
import CartBoot.Fault
import CartBoot.Text.Quoted

/-!
# Breakdowns

What ends a run without an outcome. An option that takes a value may be given the end mark of the
options in place of one. It is left blank then, which shows only where its value is needed.
-/

namespace CartBoot.CommandLine

/-- Causes of a breakdown. -/
inductive Breakdown where
  /-- A fault that belongs to no image. -/
  | fault (cause : Fault)
  /-- A path holds the null character. -/
  | nullInPath
  /-- A choice out of a list was left blank. -/
  | blankChoice (list : String)
  /-- The width of the mnemonic column was left blank. -/
  | blankWidth
  /-- The evidence for a verdict was left blank. -/
  | blankEvidence
  /-- The log file cannot be opened, or a directory on the way to it cannot be made. -/
  | logFile (failure : FileFailure) (path : String)
  /-- An output holds code points that its encoding lacks, the first of them at a position. -/
  | unencodable (encoding reason : String) (position : Nat) (lacking : Text)
  deriving DecidableEq, Repr

open Text.Numeral

/-- Where code points that cannot be encoded stand in a text. -/
def lackingPlace (position : Nat) : Text → String
  | [c] => " '" ++ String.ofList c.escape ++ "' in position " ++ decimal position
  | lacking =>
    "s in position " ++ decimal position ++ "-" ++ decimal (position + lacking.length - 1)

/-- The wording of a breakdown. -/
def Breakdown.message : Breakdown → String
  | fault cause => cause.message
  | nullInPath => "embedded null byte"
  | blankChoice list => "[] is not a valid " ++ list
  | blankWidth => "Invalid format specifier '<[]' for object of type 'str'"
  | blankEvidence => "'<' not supported between instances of 'int' and 'list'"
  | logFile failure path =>
    "[Errno " ++ decimal failure.code ++ "] " ++ failure.message ++ ": " ++ Text.quoted path
  | unencodable encoding reason position lacking =>
    "'" ++ encoding ++ "' codec can't encode character" ++ lackingPlace position lacking ++ ": " ++
      reason

end CartBoot.CommandLine
