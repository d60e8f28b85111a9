import ServiceMux.Connection.Dispatch
import ServiceMux.Connection.Lease
import ServiceMux.Connection.Wait
/-! All that can happen to a connection, one step at a time, and what it looks like after any
number of steps. -/
namespace ServiceMux

inductive Event (μ : Type) where
  | submit (call : CallId) (purpose : Purpose) (request : μ)
  | poll (call : CallId) (now : Instant) (attempt : WriteAttempt)
  | abandon (call : CallId)
  | wait (call : CallId) (registration : Registration) (within : Option Duration) (now : Instant)
  | dropReply (registration : Registration)
  | interrupt (registration : Registration)
  | read (arrival : Option Arrival)
  | attach
  | release
  | disconnect
  | allocate
  | setReplyTimeout (timeout : Option Duration)
  | setJob (job : String)
  | setAttributes (reply : Reply μ)
  | addPrototype (discriminator : UInt16) (prototype : Prototype μ)
  | clearPrototypes

namespace Connection
variable {μ : Type}

/-- No call of this number is under way. -/
def isFresh (c : Connection μ) (call : CallId) : Bool :=
  c.waits.all (·.call != call) && c.line.all (·.call? != some call)

/-- The pending reply of this registration is in a caller's hands, and no call has it. -/
def isHandedOut (c : Connection μ) (r : Registration) : Bool :=
  c.inboxes.any (·.registration == r) && c.waits.all (·.registration != r) &&
    c.line.all (Turn.inbox? · != some r)

/-- One step. A step that the state does not allow changes nothing. -/
def step [Message μ] (c : Connection μ) : Event μ → Connection μ
  | .submit call purpose request =>
    if c.isFresh call then (c.submit call purpose request).connection else c
  | .poll call now attempt => (c.poll call now attempt).1
  | .abandon call => c.abandon call
  | .wait call r within now =>
    if c.isFresh call && c.isHandedOut r then c.beginWait call r within now else c
  | .dropReply r => if c.isHandedOut r then c.dropInbox r else c
  | .interrupt r => (c.interrupt r).1
  | .read arrival => c.pollReader arrival
  | .attach => match c.attach with | .ok c => c | .error _ => c
  | .release => if c.references = 0 then c else c.release
  | .disconnect => c.close .forced
  | .allocate => match c.newCorrelationId with | .ok (_, c) => c | .error _ => c
  | .setReplyTimeout timeout => { c with replyTimeout := timeout }
  | .setJob job => { c with job }
  | .setAttributes reply => { c with attributes := some reply }
  | .addPrototype discriminator prototype => c.addPrototype discriminator prototype
  | .clearPrototypes => c.clearPrototypes

def run [Message μ] (c : Connection μ) (events : List (Event μ)) : Connection μ :=
  events.foldl step c

end Connection
end ServiceMux
