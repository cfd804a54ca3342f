import DeviceLink.Failure.Basic

/-!
# Failures nobody waits for

Failures of the background go to a sink that logs each one, counts them all and remembers the
latest.

* `Unhandled` — the sink.
* `Unhandled.tally`, `Unhandled.makeRoom`, `Unhandled.remember` — the steps of a report.
* `Unhandled.report` — one more failure.
* `Unhandled.line` — the log line of a failure.
-/

namespace DeviceLink

/-- A count and the latest failures, oldest first. -/
structure Unhandled where
  capacity : Nat
  count : UInt64 := 0
  recent : List Failure := []
  deriving Repr

namespace Unhandled

/-- An empty sink that remembers up to `capacity` failures, and one at least. -/
def ofCapacity (capacity : Nat) : Unhandled := { capacity := max capacity 1 }

/-- How many failures a sink remembers unless told otherwise. -/
def defaultCapacity : Nat := 64

def tally (u : Unhandled) : Unhandled := { u with count := u.count + 1 }

/-- The oldest failure goes if there is no room for another. -/
def makeRoom (u : Unhandled) : Unhandled :=
  if u.recent.length = u.capacity then { u with recent := u.recent.drop 1 } else u

def remember (u : Unhandled) (f : Failure) : Unhandled := { u with recent := u.recent ++ [f] }

def report (u : Unhandled) (f : Failure) : Unhandled := u.tally.makeRoom.remember f

def lineOf (text : String) : String :=
  "Exception caught in background thread. Unable to handle: " ++ text

def line (f : Failure) : String := lineOf f.report

def shown (u : Unhandled) : String :=
  Text.record "UnhandledFailures"
    [("count", toString u.count.toNat), ("capacity", toString u.capacity)]

end Unhandled

end DeviceLink
