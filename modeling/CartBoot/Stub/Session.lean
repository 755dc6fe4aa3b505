import CartBoot.Stub.Log

/-!
# Sessions

A session keeps a tracker between operations: instructions can be tracked one by one, a whole stub
can be walked, and the result can be read back at any time. A walk starts from a blank tracker,
whatever the session did before.
-/

namespace CartBoot

/-- A tracker with the settings of its walks. -/
structure Session where
  address : Int
  order : ByteOrder := .big
  rule : StopRule := .delaySlot
  romOffset : Int := Layout.bootOffset
  tracker : Tracker := {}
  deriving DecidableEq, Repr

namespace Session

/-- Forgets everything that was tracked. -/
def reset (s : Session) : Session := { s with tracker := {} }

/-- Tracks one instruction. -/
def track (s : Session) (i : Instruction) : Session :=
  { s with tracker := s.tracker.track s.rule i }

/-- Tracks a piece of code. -/
def trackAll (s : Session) (code : List Instruction) : Session :=
  code.foldl track s

/-- The words of a buffer that a walk is given. -/
def words (s : Session) (data : Bytes) : List Word := s.order.words data

/-- Walks over a buffer. -/
def run (s : Session) (data : Bytes) : Analysis × Session :=
  let seen := Walk.walked s.rule (s.words data)
  (Walk.analyze s.rule s.address s.romOffset (s.words data),
    s.reset.trackAll (seen.map .decode))

/-- The result as it stands. -/
def result (s : Session) : Analysis := .ofTracker s.rule s.tracker

/-- The events of `track`. -/
def trackLog (s : Session) (i : Instruction) : List Event := s.tracker.log s.rule i

/-- The events of `run`. -/
def runLog (s : Session) (data : Bytes) : List Event :=
  Walk.log s.rule s.address s.romOffset (s.words data)

/-- The events of `result`. -/
def resultLog (s : Session) : List Event := s.tracker.readLog s.rule

end Session

end CartBoot
