set_option autoImplicit false

namespace Geoflow.Throttle

def nanosPerSecond : Nat := 1000000000

def nanosPerMilli : Nat := 1000000

/-- The distance of slots; a rate of zero counts as one. -/
def interval (requestsPerSecond : Nat) : Nat := nanosPerSecond / max requestsPerSecond 1

/-- A time rounded up to a whole millisecond, on which timers fire. -/
def roundUp (nanos : Nat) : Nat := (nanos + nanosPerMilli - 1) / nanosPerMilli * nanosPerMilli

/-- One passage, in nanoseconds from the creation of the throttle: when the caller got the lock, its
slot, and when it returned. -/
structure Passage where
  arrived : Nat
  slot : Nat
  returned : Nat
  deriving DecidableEq, Repr

/-- A caller that gets the lock at a time when the next free slot is given. -/
def pass (next now : Nat) : Passage :=
  ⟨now, max next now, if now < next then roundUp next else now⟩

/-- Callers one after the other; each waits its own time after the one before returned. -/
def sequential (interval : Nat) : Nat → Nat → List Nat → List Passage
  | _, _, [] => []
  | next, now, wait :: waits =>
    let p := pass next (now + wait)
    p :: sequential interval (p.slot + interval) p.returned waits

/-- Callers that queue for the lock in the order of their arrival times. -/
def queued (interval : Nat) : Nat → Nat → List Nat → List Passage
  | _, _, [] => []
  | next, free, arrival :: arrivals =>
    let p := pass next (max free arrival)
    p :: queued interval (p.slot + interval) p.returned arrivals

/-- Callers that start together and arrive each after its own time, in the order in which they were
given; of those that arrive at once the earlier one queues first. -/
def concurrent (interval : Nat) (waits : List Nat) : List Passage :=
  let arrivals := waits.zipIdx.mergeSort fun a b => a.1 ≤ b.1
  let passages := queued interval 0 0 (arrivals.map (·.1))
  (((arrivals.map (·.2)).zip passages).mergeSort fun a b => a.1 ≤ b.1).map (·.2)

end Geoflow.Throttle
