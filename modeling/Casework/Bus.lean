import Casework.Notification

/-!
A bus that hands notices to its receivers.

The bus keeps the latest notices, as many as its capacity. A receiver gets the
notices that were sent since it subscribed or last received; those that are no
longer kept are counted as missed.
-/

namespace Casework

/-- A bus with its receivers. -/
structure Bus where
  capacity : Nat
  /-- The number of notices sent so far. -/
  sent : Nat := 0
  /-- The latest notices, oldest first. -/
  kept : List Notice := []
  /-- For each receiver, oldest first, how many notices were sent when it last received. -/
  receivers : List Nat := []

namespace Bus

/-- The least power of two from `n` on. -/
def capacityFor (n : Nat) : Nat := (max n 1).nextPowerOfTwo

/-- A bus that keeps at least so many notices, and at least one. -/
def ofBuffer (buffer : Nat) : Bus := { capacity := capacityFor buffer }

/-- The buffer when none is given. -/
def defaultBuffer : Nat := 1024

/-- Somebody receives. -/
def hasReceivers (b : Bus) : Bool := !b.receivers.isEmpty

/-- The bus after a notice was sent; without receivers nothing is sent. -/
def send (b : Bus) (notice : Notice) : Bus :=
  if b.hasReceivers then
    let kept := b.kept ++ [notice]
    { b with sent := b.sent + 1, kept := kept.drop (kept.length - b.capacity) }
  else b

/-- The bus with one more receiver. -/
def subscribe (b : Bus) : Bus := { b with receivers := b.receivers ++ [b.sent] }

/-- The bus without its newest receiver. -/
def unsubscribe (b : Bus) : Bus := { b with receivers := b.receivers.dropLast }

/-- How many notices a receiver at this position has missed, and the notices that it gets. -/
def pending (b : Bus) (position : Nat) : Nat × List Notice :=
  let waiting := b.sent - position
  (waiting - b.kept.length, b.kept.drop (b.kept.length - waiting))

/-- What each receiver gets, and the bus after that. -/
def receive (b : Bus) : List (Nat × List Notice) × Bus :=
  (b.receivers.map b.pending, { b with receivers := b.receivers.map fun _ => b.sent })

end Bus
end Casework
