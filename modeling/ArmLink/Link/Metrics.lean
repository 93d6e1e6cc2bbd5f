/-!
Counters of one link.  Every packet is counted once as received and once by what became of it, so
`total = decoded + unexpected + incomplete + malformed` throughout.

The counters are words of 64 bits that begin again at zero after the last number.  Even at a million
packets a second no link gets there within half a million years, so here they are numbers.
-/

namespace ArmLink.Link

/-- What one link has seen since it was last reset. -/
structure Metrics where
  total : Nat := 0
  /-- Packets read completely. -/
  decoded : Nat := 0
  unexpected : Nat := 0
  /-- Packets that break off early. -/
  incomplete : Nat := 0
  /-- Packets that contradict the format. -/
  malformed : Nat := 0
  /-- Reads that brought nothing in time. -/
  timeouts : Nat := 0
  readErrors : Nat := 0
  stateChanges : Nat := 0
deriving DecidableEq, Repr

/-- Starts counting anew. -/
def Metrics.reset (_ : Metrics) : Metrics := {}

/-- Malformed packets in a hundred; zero if there were none at all. -/
def Metrics.malformedRate (metrics : Metrics) : Float :=
  if metrics.total = 0 then 0
  else Float.ofNat metrics.malformed / Float.ofNat metrics.total * 100

end ArmLink.Link
