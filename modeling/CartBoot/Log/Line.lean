import CartBoot.Log

/-!
# Lines of a log file

A line of a log file holds the time, the level, the source, the place and the wording of an event,
with bars between them. The time is the same for all events of a run.
-/

namespace CartBoot

open Text.Numeral

/-- Fills a text up with spaces to a number of characters. -/
def leftAligned (width : Nat) (text : String) : String :=
  text ++ String.ofList (List.replicate (width - text.length) ' ')

namespace Event

/-- An event as a line of a log file. -/
def line (time : String) (e : Event) : String :=
  " | ".intercalate [time, leftAligned 7 e.level.name, e.source.name,
    e.site.routine ++ ":" ++ decimal e.site.line, e.message] ++ "\n"

end Event

/-- What a log file gains by some events. -/
def logText (time : String) (log : List Event) : String := String.join (log.map (·.line time))

end CartBoot
