/-!
# Usage texts

What the command line prints about itself.
-/

namespace CartBoot.CommandLine

/-- The version of the program. -/
def version : String := "0.4.0"

/-- The answer to the version option. -/
def versionText : String := "bootscan " ++ version ++ "\n"

/-- The forms of a call. -/
def usageLines : List String :=
  ["usage: bootscan [-h] [-t] [-l] [--header] [--abi \x7bo32,n32,n64\x7d]",
    "                [--width WIDTH] [--stop-rule \x7bdouble-nop,delay-slot\x7d]",
    "                [--classify-direction \x7breverse,forward\x7d]",
    "                [--min-evidence MIN_EVIDENCE] [--fail-fast] [-v] [-q]",
    "                [--log-file LOG_FILE] [--version]",
    "                ROM [ROM ...]"]

/-- The explanation of the arguments. -/
def helpLines : List String :=
  ["",
    "Recover entrypoint, BSS, stack and toolchain from N64 ROM boot code",
    "",
    "positional arguments:",
    "  ROM                   ROM image(s) in z64, n64 or v64 byte order",
    "",
    "options:",
    "  -h, --help            show this help message and exit",
    "  -t, --terse           One semicolon-delimited line per ROM",
    "  -l, --listing         Append the disassembly of the boot stub",
    "  --header              Print every header field instead of the summary line",
    "  --abi \x7bo32,n32,n64\x7d   Register names used in the listing (default: o32)",
    "  --width WIDTH         Mnemonic column width in the listing (default: 10)",
    "  --stop-rule \x7bdouble-nop,delay-slot\x7d",
    "                        When the entrypoint walk stops (default: delay-slot)",
    "  --classify-direction \x7breverse,forward\x7d",
    "                        Scan order of the toolchain heuristic (default:",
    "                        reverse)",
    "  --min-evidence MIN_EVIDENCE",
    "                        Branches+jumps needed for a verdict (default: 8)",
    "  --fail-fast           Stop the batch at the first ROM that fails",
    "  -v, --verbose         More log output (-vv for debug)",
    "  -q, --quiet           Only log errors",
    "  --log-file LOG_FILE   Also write a debug log to this file",
    "  --version             show program's version number and exit"]

/-- Lines as they are printed. -/
def printed (lines : List String) : String :=
  String.join (lines.map (· ++ "\n"))

def usageText : String := printed usageLines

def helpText : String := printed (usageLines ++ helpLines)

end CartBoot.CommandLine
