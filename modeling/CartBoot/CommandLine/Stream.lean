import CartBoot.CommandLine.Breakdown

/-!
# Output streams

A text is written to a stream as a whole, if the encoding of the stream has all of its code points.
Every encoding has the ASCII characters. The standard output of an ordinary system is UTF-8, which
has every character but no lone surrogate; a stream that is kept as text has them too.
-/

namespace CartBoot.CommandLine

/-- An output with its encoding. -/
structure Stream where
  encoding : String
  /-- What is wrong with a code point that the encoding lacks. -/
  reason : String
  has : CodePoint → Bool
  has_of_ascii : ∀ c : CodePoint, c.val < 0x80 → has c = true

namespace Stream

def utf8 : Stream where
  encoding := "utf-8"
  reason := "surrogates not allowed"
  has c := c.val.isValidChar
  has_of_ascii _ low := decide_eq_true (Or.inl (Nat.lt_trans low (by decide)))

/-- A stream that is kept as text. -/
def kept : Stream where
  encoding := ""
  reason := ""
  has _ := true
  has_of_ascii _ _ := rfl

/-- Whether a text can be written. -/
def Takes (s : Stream) (text : Text) : Prop := ∀ c ∈ text, s.has c = true

instance (s : Stream) (text : Text) : Decidable (s.Takes text) :=
  List.decidableBAll (s.has · = true) text

/-- Writes a text. The code points that keep it from being written are the first ones without
another one between them. -/
def write (s : Stream) (text : Text) : Except Breakdown Text :=
  if s.Takes text then .ok text
  else
    .error (.unencodable s.encoding s.reason (text.takeWhile s.has).length
      ((text.dropWhile s.has).takeWhile fun c => !s.has c))

end Stream

/-- The system that a run takes place on. -/
structure Host where
  /-- The standard output. -/
  out : Stream
  /-- The most characters that a text has room for. -/
  room : Nat

end CartBoot.CommandLine
