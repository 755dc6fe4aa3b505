import CartBoot.Header
import CartBoot.Text.CodePoint
import CartBoot.Text.Quoted
import CartBoot.Text.ShiftJis

/-!
# Header fields as text

The letters, names and codes of a header as a reader sees them, the one-line summary and the list of
all fields.
-/

namespace CartBoot.Header

open Text.Numeral

/-- What the media letters stand for. -/
def mediaFormats : List (Char × String) :=
  [('N', "cartridge"),
    ('D', "64DD disk"),
    ('C', "cartridge part of expandable game OR GameCube"),
    ('E', "64DD expansion for cart"),
    ('Z', "Aleck64 cartridge")]

/-- What the country letters stand for. -/
def countryCodes : List (Char × String) :=
  [('7', "Beta"),
    ('A', "Asian (NTSC)"),
    ('B', "Brazilian"),
    ('C', "Chinese"),
    ('D', "German"),
    ('E', "North America"),
    ('F', "French"),
    ('G', "Gateway 64 (NTSC)"),
    ('H', "Dutch"),
    ('I', "Italian"),
    ('J', "Japanese"),
    ('K', "Korean"),
    ('L', "Gateway 64 (PAL)"),
    ('N', "Canadian"),
    ('P', "European (basic spec.)"),
    ('S', "Spanish"),
    ('U', "Australian"),
    ('W', "Scandinavian"),
    ('X', "European"),
    ('Y', "European"),
    (Char.ofNat 0, "iQue roms have zeros here")]

/-- The meaning of a code in a list of letters. -/
def meaning (letters : List (Char × String)) (code : Nat) : String :=
  ((letters.find? fun entry => entry.1.toNat = code).map (·.2)).getD "Unknown"

/-- The letter of the library revision. -/
def libraryLetter (h : Header) : Text :=
  Text.codePoint (h.revision.toNat % 256)

/-- Drops the zeros and spaces that fill a name up. -/
def trimPadding (name : List Char) : List Char :=
  (name.reverse.dropWhile fun c => c = Char.ofNat 0 || c = ' ').reverse

def imageName (h : Header) : String :=
  String.ofList (trimPadding (Text.ShiftJis.decode h.rawName))

/-- The letter of the media format, for which the whole word counts. -/
def mediaFormat (h : Header) : Text :=
  Text.codePoint h.rawMediaFormat.toNat

def mediaMeaning (h : Header) : String :=
  meaning mediaFormats h.rawMediaFormat.toNat

/-- An ASCII character; bytes outside ASCII are replaced. -/
def asciiChar (b : UInt8) : Char :=
  if b < 0x80 then Char.ofNat b.toNat else Text.replacement

def cartridgeId (h : Header) : String :=
  String.ofList (h.rawCartridgeId.map asciiChar)

def countryCode (h : Header) : Text :=
  Text.codePoint h.rawCountryCode.toNat

def countryMeaning (h : Header) : String :=
  meaning countryCodes h.rawCountryCode.toNat

/-- The header on one line. -/
def summary (h : Header) : Text :=
  hex 8 h.clockRate.toNat ++ ", " ++ hex 8 h.entrypoint.toNat ++ ", " ++
    hex 8 h.revision.toNat ++ ", " ++ hex 8 h.checksum1.toNat ++ " " ++ hex 8 h.checksum2.toNat ++
    ", " ++ h.imageName ++ ", " ++ h.mediaFormat ++ ", " ++ h.cartridgeId ++ ", " ++
    Text.quoted h.countryCode ++ ", " ++ hex 0 h.version.toNat

/-- Every field after its name. -/
def fields (h : Header) : List Text :=
  ["pi_bsd_dom1:            " ++ spacedBytes h.busSettings,
    "clock_rate:             " ++ hex 8 h.clockRate.toNat,
    "reported_entrypoint:    " ++ hex 8 h.entrypoint.toNat,
    "revision:               " ++ hex 8 h.revision.toNat ++ " (libultra " ++ h.libraryLetter ++ ")",
    "checksum:               " ++ hex 8 h.checksum1.toNat ++ " " ++ hex 8 h.checksum2.toNat,
    "unk_18:                 " ++ spacedBytes h.reserved18,
    "image_name:             \"" ++ h.imageName ++ "\"",
    "unk_34:                 " ++ spacedBytes h.reserved34,
    "media_format:           " ++ h.mediaFormat ++ " (" ++ h.mediaMeaning ++ ")",
    "cartridge_id:           " ++ h.cartridgeId,
    "country_code:           " ++ Text.quoted h.countryCode ++ " (" ++ h.countryMeaning ++ ")",
    "version:                0x" ++ hex 2 h.version.toNat]

/-- The header as a list of its fields. -/
def description (h : Header) : Text :=
  ("\n" : Text).intercalate h.fields

end CartBoot.Header
