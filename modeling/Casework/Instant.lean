/-!
Points in time, to the nanosecond. A leap second is the continuation of the 59th
second of a minute: its nanoseconds are counted on from one second.
-/

namespace Casework

/-- A point in time. -/
structure Instant where
  /-- Seconds since 1970-01-01T00:00:00Z, leap seconds left out. -/
  second : Int
  /-- Nanoseconds into the second, from one second on into the leap second behind it. -/
  nano : Nat
  nano_lt : nano < 2000000000
  leap : 1000000000 ≤ nano → second % 60 = 59

namespace Instant

theorem ext {a b : Instant} (second : a.second = b.second) (nano : a.nano = b.nano) : a = b := by
  cases a; cases b; cases second; cases nano; rfl

instance : DecidableEq Instant := fun a b =>
  if h : a.second = b.second ∧ a.nano = b.nano then isTrue (ext h.1 h.2)
  else isFalse fun e => h (e ▸ ⟨rfl, rfl⟩)

/-- The point in time with a whole number of seconds. -/
def ofSecond (second : Int) : Instant := ⟨second, 0, by decide, fun h => absurd h (by decide)⟩

instance : Inhabited Instant := ⟨ofSecond 0⟩

/-- The point in time with nanoseconds below one second. -/
def ofNanos (second : Int) (nano : Nat) : Instant :=
  ⟨second, nano % 1000000000, by omega, fun h => absurd h (by omega)⟩

/-- Earlier points in time come first. -/
instance : Ord Instant where
  compare a b := (compare a.second b.second).then (compare a.nano b.nano)

instance : Std.TransOrd Instant :=
  inferInstanceAs (Std.TransCmp (compareLex (compareOn Instant.second) (compareOn Instant.nano)))

instance : Std.LawfulEqOrd Instant where
  compare_self := Std.ReflCmp.compare_self
  eq_of_compare same := by
    obtain ⟨second, nano⟩ := Ordering.then_eq_eq.1 same
    exact ext (Std.LawfulEqOrd.eq_of_compare second) (Std.LawfulEqOrd.eq_of_compare nano)

end Instant
end Casework
