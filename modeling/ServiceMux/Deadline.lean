import ServiceMux.Duration
/-! Points in time, counted from a start in nanoseconds, and deadlines set at them. -/
namespace ServiceMux

abbrev Instant := Nat

/-- Timers run in whole milliseconds. -/
structure Deadline where
  /-- The time from which it is due; one too far off to be represented never is. -/
  due : Option Instant
  after : Duration
  deriving DecidableEq, Repr

namespace Deadline

def horizon : Instant := Nat.pow 2 63 * Duration.perSecond

/-- The next whole millisecond at or after `time`. -/
def roundUp (time : Instant) : Instant := (Duration.mk time).millisUp * Duration.perMilli

def set (now : Instant) (after : Duration) : Deadline :=
  let time := now + after.nanos
  ⟨if time < horizon then some (roundUp time) else none, after⟩

def isDue (d : Deadline) (now : Instant) : Bool :=
  match d.due with
  | some time => time ≤ now
  | none => false

end Deadline
end ServiceMux
