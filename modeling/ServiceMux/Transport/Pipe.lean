import ServiceMux.Connection.Dispatch
import ServiceMux.Connection.Send
/-! A byte stream that behaves as it is told: how much it takes and when, where it fails, and what
the far side sends. -/
namespace ServiceMux

structure Pipe where
  /-- Bytes it still takes before writes stall; without it, any number. -/
  budget : Option Nat := none
  /-- The most it takes in one go. Taking nothing at all in one go fails a frame, whatever the
  budget. -/
  chunk : Option Nat := none
  writeError : Option StreamError := none
  flushError : Option StreamError := none
  flushStall : Bool := false
  disconnectOnWrite : Bool := false
  disconnectOnFlush : Bool := false
  /-- What the far side sent and was not read yet, in the pieces in which it arrives. -/
  inbound : List Arrival := []
  deriving DecidableEq, Repr

namespace Pipe

def flush (p : Pipe) (taken : Nat) (disconnects : Bool) : WriteAttempt × Pipe :=
  let disconnects := disconnects || p.disconnectOnFlush
  let p := { p with disconnectOnFlush := false }
  match p.flushError with
  | some e => (⟨.failed taken e, disconnects⟩, p)
  | none =>
    if p.flushStall then (⟨.stalled taken, disconnects⟩, p) else (⟨.complete, disconnects⟩, p)

/-- Takes as much of `left` bytes as it can, and flushes once it has all. How often it has to be
asked for that makes no difference, unless it takes nothing at all when asked. -/
def write (p : Pipe) (left : Nat) : WriteAttempt × Pipe :=
  if left = 0 then p.flush 0 false
  else
    let disconnects := p.disconnectOnWrite
    let p := { p with disconnectOnWrite := false }
    match p.writeError with
    | some e => (⟨.failed 0 e, disconnects⟩, p)
    | none =>
      if p.chunk = some 0 then (⟨.failed 0 .nothingTaken, disconnects⟩, p)
      else if p.budget = some 0 then (⟨.stalled 0, disconnects⟩, p)
      else
        match p.budget with
        | none => p.flush left disconnects
        | some budget =>
          let p := { p with budget := some (budget - left) }
          if budget < left then (⟨.stalled budget, disconnects⟩, p) else p.flush left disconnects

/-- Whether asking it to take `left` bytes would come to anything. -/
def responds (p : Pipe) (left : Nat) : Bool :=
  match (p.write left).1 with
  | ⟨.stalled 0, false⟩ => false
  | _ => true

/-- One read of at most `size` bytes, and never of more than one piece. -/
def read (p : Pipe) (size : Nat) : Option (Arrival × Pipe) :=
  match p.inbound with
  | [] => none
  | .failed e :: rest => some (.failed e, { p with inbound := rest })
  | .bytes data :: rest =>
    let size := max size 1
    if data.length ≤ size then some (.bytes data, { p with inbound := rest })
    else some (.bytes (data.take size), { p with inbound := .bytes (data.drop size) :: rest })

def send (p : Pipe) (arrival : Arrival) : Pipe := { p with inbound := p.inbound ++ [arrival] }

/-- The pieces of `data` between these offsets, in order; none of them is empty. -/
def pieces (cuts : List Nat) (data : List UInt8) : List (List UInt8) :=
  go (cuts.mergeSort (· ≤ ·)) 0 data
where
  go : List Nat → Nat → List UInt8 → List (List UInt8)
  | [], _, data => if data.isEmpty then [] else [data]
  | cut :: cuts, offset, data =>
    let piece := data.take (cut - offset)
    if piece.isEmpty then go cuts offset data
    else piece :: go cuts cut (data.drop (cut - offset))

end Pipe
end ServiceMux
