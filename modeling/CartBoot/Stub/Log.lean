import CartBoot.Log
import CartBoot.Stub.Walk

/-!
# The log of a walk

The events of a walk, told from its words: refused patches in program order, then the reason of the
end, then what is read back.
-/

namespace CartBoot

/-- The event of one instruction, if the tracker ignores it. -/
def Tracker.log (rule : StopRule) (t : Tracker) (i : Instruction) : List Event :=
  (t.patched? rule i).toList.map fun r => .alreadyPatched r i

/-- The events of a piece of code. -/
def Tracker.runLog (rule : StopRule) (t : Tracker) : List Instruction → List Event
  | [] => []
  | i :: rest => t.log rule i ++ runLog rule (t.track rule i) rest

/-- The events of reading a result out of a tracker. -/
def Tracker.readLog (rule : StopRule) (t : Tracker) : List Event :=
  let size := t.sizeRegister rule
  if size.2 then [.guessingSize size.1] else []

namespace Walk

/-- The event of the end of a walk. -/
def stopLog (reason : StopReason) (romEnd : Int) (trace : List Step) : List Event :=
  match reason with
  | .secondNop => [.secondNop romEnd]
  | .unknownWord | .invalidWord => (trace.getLast?.map .stopping).toList
  | _ => []

/-- The events of `analyze`. -/
def log (rule : StopRule) (address romOffset : Int) (words : List Word) : List Event :=
  let result := analyze rule address romOffset words
  let final := tracker rule words
  Tracker.runLog rule {} ((walked rule words).map .decode) ++
    stopLog result.stopReason (romOffset + 4 * result.words) result.trace ++
    [.registersAtStop final.registers] ++ final.readLog rule

/-- The events of `analyzeWindow`. -/
def windowLog (rule : StopRule) (order : ByteOrder) (address : Int) (window : Bytes) :
    List Event :=
  let result := analyzeWindow rule order address window
  log rule address Layout.bootOffset (order.words (window.take Layout.windowSize)) ++
    [.walked address result.words result.stopReason]

end Walk

end CartBoot
