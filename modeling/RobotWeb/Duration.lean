/-!
# Durations

Spans of time in whole seconds, counted in 64 bits, and nanoseconds below one second.
-/

namespace RobotWeb

/-- A span of time. -/
@[ext]
structure Duration where
  seconds : Nat
  nanoseconds : Nat
  seconds_lt : seconds < UInt64.size := by decide
  nanoseconds_lt : nanoseconds < 1_000_000_000 := by decide
  deriving DecidableEq, Repr

namespace Duration

/-- The span of the seconds and the nanoseconds, of which whole seconds are carried over; `none`
if there are too many seconds. -/
def carrying? (seconds nanoseconds : Nat) : Option Duration :=
  if h : seconds + nanoseconds / 1_000_000_000 < UInt64.size then
    some ⟨seconds + nanoseconds / 1_000_000_000, nanoseconds % 1_000_000_000, h,
      Nat.mod_lt _ (by decide)⟩
  else none

def ofMilliseconds (n : UInt64) : Duration :=
  ⟨n.toNat / 1000, n.toNat % 1000 * 1_000_000,
    Nat.lt_of_le_of_lt (Nat.div_le_self _ _) n.toNat_lt_size, by omega⟩

def milliseconds (d : Duration) : Nat :=
  d.seconds * 1000 + d.nanoseconds / 1_000_000

/-- The parts of a duration make up that duration. -/
theorem carrying?_eq_some (d : Duration) : carrying? d.seconds d.nanoseconds = some d := by
  have h : d.seconds + d.nanoseconds / 1_000_000_000 = d.seconds := by
    rw [Nat.div_eq_of_lt d.nanoseconds_lt, Nat.add_zero]
  have hs : d.seconds + d.nanoseconds / 1_000_000_000 < UInt64.size := by
    rw [h]
    exact d.seconds_lt
  rw [carrying?, dif_pos hs, Option.some.injEq]
  exact Duration.ext h (Nat.mod_eq_of_lt d.nanoseconds_lt)

end Duration

end RobotWeb
