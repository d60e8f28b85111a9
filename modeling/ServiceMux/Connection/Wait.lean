import ServiceMux.Connection.Send
/-! Waiting for replies, and giving up. The first event that removes a registration's entry decides
what its wait comes to. -/
namespace ServiceMux.Connection
open Text
variable {μ : Type}

def beginWait (c : Connection μ) (call : CallId) (r : Registration) (within : Option Duration)
    (now : Instant) : Connection μ :=
  { c with waits := c.waits ++ [Wait.mk call r (within.map (Deadline.set now))] }

def endWait (c : Connection μ) (w : Wait) : Connection μ :=
  { c.dropInbox w.registration with waits := c.waits.filter (·.call != w.call) }

/-- A result that is there comes before a deadline that has passed. -/
def pollWait (c : Connection μ) (w : Wait) (now : Instant) : Connection μ × Option (Outcome μ) :=
  match (c.inboxOf w.registration).bind (·.result) with
  | some result => (c.endWait w, some (result.map .reply))
  | none =>
    if !c.table.holds w.registration then (c.endWait w, some (.error .connectionLost))
    else
      match w.deadline with
      | none => (c, none)
      | some deadline =>
        if deadline.isDue now then
          (c.endWait w,
            some (.error (.timeout w.registration.correlationId deadline.after)))
        else (c, none)

/-- Ends a wait with an error, and tells whether there was one to end. -/
def interrupt (c : Connection μ) (r : Registration) : Connection μ × Bool :=
  match c.table.cancel r with
  | (none, _) => (c, false)
  | (some slot, table) =>
    let c := { c with table }
    match slot.fate with
    | .dropped => (c, false)
    | .awaited => ((c.deliver r.ticket (.error (.interrupted r.correlationId))).1, true)

/-- Lets a call run as far as it gets. -/
def poll (c : Connection μ) (call : CallId) (now : Instant) (attempt : WriteAttempt) :
    Connection μ × Option (Outcome μ) :=
  match c.waits.find? (·.call == call) with
  | some w => c.pollWait w now
  | none =>
    match c.line with
    | .write first frame errand :: _ =>
      if first == call then c.takeTurn call frame errand now attempt else (c, none)
    | _ => (c, none)

/-- A call that is not first in line just leaves it. -/
def leaveLine (c : Connection μ) (call : CallId) : Connection μ :=
  match c.line.find? (·.call? == some call) with
  | some (.write _ _ errand) =>
    let c := { c with line := c.line.filter (·.call? != some call) }
    c.letGo errand
  | _ => c

/-- A caller gives a call up. In the middle of a frame, that takes the connection down: the host
could not tell where the next frame starts. -/
def abandon (c : Connection μ) (call : CallId) : Connection μ :=
  match c.waits.find? (·.call == call) with
  | some w => c.endWait w
  | none =>
    match c.line with
    | .write first _ errand :: _ =>
      if first == call then
        let c :=
          if c.progress.isSome then { c with writeHalf := false }.close .writeAbandoned else c
        c.stepAside.letGo errand
      else c.leaveLine call
    | _ => c.leaveLine call

def inspectHandle (r : Registration) : String :=
  record "PendingReply" [("correlation_id", toString r.correlationId.toNat), ("finished", "false")]

def inspectInterrupter (r : Registration) : String :=
  record "Interrupter" [("correlation_id", toString r.correlationId.toNat)]

end ServiceMux.Connection
