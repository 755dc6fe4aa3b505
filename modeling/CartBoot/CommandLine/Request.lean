import CartBoot.CommandLine.Token
import CartBoot.Report
import CartBoot.Text.Integer
import CartBoot.Text.Quoted

/-!
# Requests

Options are carried out from left to right, and the images to scan have to stand together: operands
of a later run are left over. Reading a command line gives a request or says what is wrong with it.
-/

namespace CartBoot.CommandLine

/-- What to scan and how. -/
structure Options where
  images : List String := []
  terse : Bool := false
  listing : Bool := false
  header : Bool := false
  abi : Abi := .o32
  width : Int := Statement.defaultColumn
  stopRule : StopRule := .delaySlot
  direction : Direction := .reverse
  minEvidence : Int := Toolchain.defaultEvidence
  failFast : Bool := false
  verbose : Nat := 0
  quiet : Bool := false
  logFile : Option String := none
  /-- The options that were left blank. -/
  blanks : List Flag := []
  deriving DecidableEq, Repr

namespace Options

/-- Leaves an option blank. Without a name there is no log file. -/
def leaveBlank (o : Options) (flag : Flag) : Options :=
  { o with
    blanks := flag :: o.blanks
    logFile := if flag = .logFile then none else o.logFile }

/-- An option that is given a value is not blank any more. -/
def fill (o : Options) (flag : Flag) : Options :=
  { o with blanks := o.blanks.filter (· != flag) }

/-- Whether an option was left blank. -/
def isBlank (o : Options) (flag : Flag) : Bool := o.blanks.contains flag

end Options

/-- What is wrong with a command line. -/
inductive Misuse where
  | ambiguous (ambiguity : Ambiguity)
  /-- A value is attached to an option that takes none. -/
  | ignoredValue (flag : Flag) (text : String)
  | missingValue (flag : Flag)
  | notAnInteger (flag : Flag) (text : String)
  | unlisted (flag : Flag) (text : String) (choices : List String)
  | noImages
  | leftOver (arguments : List String)
  deriving DecidableEq, Repr

/-- The wording of a misuse. -/
def Misuse.message : Misuse → String
  | ambiguous ambiguity =>
    "ambiguous option: " ++ ambiguity.text ++ " could match " ++
      ", ".intercalate (ambiguity.candidates.map Flag.long)
  | ignoredValue flag text =>
    "argument " ++ flag.display ++ ": ignored explicit argument " ++ Text.quoted text
  | missingValue flag => "argument " ++ flag.display ++ ": expected one argument"
  | notAnInteger flag text =>
    "argument " ++ flag.display ++ ": invalid int value: " ++ Text.quoted text
  | unlisted flag text choices =>
    "argument " ++ flag.display ++ ": invalid choice: " ++ Text.quoted text ++ " (choose from " ++
      ", ".intercalate (choices.map fun choice : String => Text.quoted choice) ++ ")"
  | noImages => "the following arguments are required: ROM"
  | leftOver arguments => "unrecognized arguments: " ++ " ".intercalate arguments

/-- What a command line asks for. -/
inductive Request where
  | help
  | version
  | scan (options : Options)
  | misused (misuse : Misuse)
  deriving DecidableEq, Repr

/-- How far the run of images has come. -/
inductive ImageRun where
  | awaited
  /-- The end of the options was met before the first image. -/
  | divided
  | gathering
  | closed
  deriving DecidableEq, Repr

/-- What is known while a command line is read, images and left-over arguments held backwards. -/
structure Reading where
  options : Options := {}
  run : ImageRun := .awaited
  images : List String := []
  leftOver : List String := []
  deriving DecidableEq, Repr

namespace Reading

/-- Ends the run of images, if it has begun. -/
def closeRun (r : Reading) : Reading :=
  match r.run with
  | .gathering => { r with run := .closed }
  | _ => r

/-- Takes an operand. -/
def operand (r : Reading) (text : String) : Reading :=
  match r.run with
  | .closed => { r with leftOver := text :: r.leftOver }
  | _ => { r with run := .gathering, images := text :: r.images }

/-- Takes the end of the options. -/
def divider (r : Reading) : Reading :=
  match r.run with
  | .awaited => { r with run := .divided }
  | .closed => { r with leftOver := "--" :: r.leftOver }
  | _ => r

/-- Sets an option without a value. Help and version end the reading. -/
def setFlag (r : Reading) (flag : Flag) : Except Request Reading :=
  let o := r.options
  match flag with
  | .help => .error .help
  | .version => .error .version
  | .terse => .ok { r with options := { o with terse := true } }
  | .listing => .ok { r with options := { o with listing := true } }
  | .header => .ok { r with options := { o with header := true } }
  | .failFast => .ok { r with options := { o with failFast := true } }
  | .verbose => .ok { r with options := { o with verbose := o.verbose + 1 } }
  | .quiet => .ok { r with options := { o with quiet := true } }
  | .abi | .width | .stopRule | .direction | .minEvidence | .logFile =>
    .error (.misused (.missingValue flag))

/-- Sets several options without a value in order. -/
def setFlags (r : Reading) (flags : List Flag) : Except Request Reading :=
  flags.foldlM setFlag r

/-- A value out of a list of choices. -/
def choose {α : Type} (flag : Flag) (all : List α) (name : α → String) (text : String) :
    Except Request α :=
  match all.find? fun choice => name choice = text with
  | some choice => .ok choice
  | none => .error (.misused (.unlisted flag text (all.map name)))

/-- A value that is an integer. -/
def integer (flag : Flag) (text : String) : Except Request Int :=
  match Text.readInteger? text with
  | some n => .ok n
  | none => .error (.misused (.notAnInteger flag text))

/-- Sets an option to a value. -/
def fillValue (r : Reading) (flag : Flag) (text : String) : Except Request Reading := do
  let o := r.options.fill flag
  match flag with
  | .abi => return { r with options := { o with abi := ← choose flag Abi.all Abi.name text } }
  | .width => return { r with options := { o with width := ← integer flag text } }
  | .stopRule =>
    return { r with
      options := { o with stopRule := ← choose flag StopRule.all StopRule.name text } }
  | .direction =>
    return { r with
      options := { o with direction := ← choose flag Direction.all Direction.name text } }
  | .minEvidence => return { r with options := { o with minEvidence := ← integer flag text } }
  | .logFile => return { r with options := { o with logFile := some text } }
  | _ => throw (.misused (.ignoredValue flag text))

/-- Sets an option to a value, unless the end mark stands in place of one. -/
def setValue (r : Reading) (flag : Flag) (text : String) : Except Request Reading :=
  if flag.takesValue && text = "--" then .ok { r with options := r.options.leaveBlank flag }
  else r.fillValue flag text

/-- Reads the letters behind a short option as further options. -/
def cluster (flag : Flag) : List Char → Except Misuse (List Flag)
  | [] => .ok [flag]
  | letter :: rest =>
    match Flag.ofLetter? letter with
    | none => .error (.ignoredValue flag (.ofList (letter :: rest)))
    | some next => do return flag :: (← cluster next rest)

/-- Carries out a short option with what is attached to it. Nothing is carried out before all the
letters are known. -/
def shortOption (r : Reading) (flag : Flag) (attached : Option (List Char)) :
    Except Request Reading :=
  match attached with
  | none => r.setFlag flag
  | some [] => .error (.misused (.ignoredValue flag ""))
  | some letters =>
    match cluster flag letters with
    | .error misuse => .error (.misused misuse)
    | .ok flags => r.setFlags flags

/-- Reads the tokens of a command line. An option with a value takes the attached text or else the
operand that follows it. -/
def tokens (r : Reading) : List Token → Except Request Reading
  | [] => .ok r
  | .operand text :: rest => (r.operand text).tokens rest
  | .divider :: rest => r.divider.tokens rest
  | .unknown text :: rest =>
    tokens { r.closeRun with leftOver := text :: r.leftOver } rest
  | .short flag attached :: rest => do (← r.closeRun.shortOption flag attached).tokens rest
  | .long flag (some attached) :: rest => do
    (← r.closeRun.setValue flag (.ofList attached)).tokens rest
  | .long flag none :: rest =>
    if flag.takesValue then
      match rest with
      | .operand text :: rest => do (← r.closeRun.setValue flag text).tokens rest
      | _ => .error (.misused (.missingValue flag))
    else do (← r.closeRun.setFlag flag).tokens rest

/-- The request at the end of a command line. -/
def finish (r : Reading) : Request :=
  let leftOver := match r.run with
    | .divided => "--" :: r.leftOver
    | _ => r.leftOver
  if r.images.isEmpty then .misused .noImages
  else if leftOver.isEmpty then .scan { r.options with images := r.images.reverse }
  else .misused (.leftOver leftOver.reverse)

end Reading

namespace Request

/-- Reads a command line. -/
def ofArguments (arguments : List String) : Request :=
  match Token.ofArguments arguments with
  | .error ambiguity => .misused (.ambiguous ambiguity)
  | .ok tokens =>
    match Reading.tokens {} tokens with
    | .error request => request
    | .ok reading => reading.finish

end Request

end CartBoot.CommandLine
