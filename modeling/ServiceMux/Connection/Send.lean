import ServiceMux.Connection.Basic
/-! Sending requests. A call registers what it is to be answered under, puts that id on the request,
and stands in line; the frame is written when its turn comes. -/
namespace ServiceMux

/-- What a caller wants of a request. -/
inductive Purpose where
  /-- A handle on the pending reply. -/
  | request
  /-- The reply, perhaps within a given time. -/
  | receive (within : Option Duration)
  /-- That the reply is dropped on arrival. -/
  | discard
  /-- Nothing; the host does not answer. -/
  | send
  /-- Nothing, under an id of the caller's choice. -/
  | sendAs (id : UInt32)
  deriving DecidableEq, Repr

inductive Answer (μ : Type) where
  | handle (registration : Registration)
  | reply (reply : Reply μ)
  | id (correlationId : UInt32)
  | done

abbrev Outcome (μ : Type) := Except ServerError (Answer μ)

/-- A call that was begun: the request as it is stamped now, and the outcome if there is one
already. -/
structure Begun (μ : Type) where
  connection : Connection μ
  request : μ
  outcome : Option (Outcome μ)

/-- How the transport met one attempt to hand over what is left of a frame and to flush it. -/
inductive WriteResult where
  /-- It took so many bytes, and then no more for now. -/
  | stalled (taken : Nat)
  | complete
  /-- It took so many bytes before it failed. -/
  | failed (taken : Nat) (cause : StreamError)
  deriving DecidableEq, Repr

structure WriteAttempt where
  result : WriteResult
  /-- Whether, from inside the attempt, the transport had the connection disconnected. -/
  disconnects : Bool := false
  deriving DecidableEq, Repr

namespace Connection
variable {μ : Type}

/-- A call that ends without having sent takes its registration back. -/
def takeBack (c : Connection μ) (errand : Errand) : Connection μ :=
  match errand.inbox? with
  | some r => c.dropInbox r
  | none =>
    match errand.registration? with
    | some r => c.withdraw r
    | none => c

/-- A call that is given up drops the inbox it holds. -/
def letGo (c : Connection μ) (errand : Errand) : Connection μ :=
  match errand.inbox? with
  | some r => c.dropInbox r
  | none => c

section Begin
variable [Message μ]

def standInLine (c : Connection μ) (call : CallId) (request : μ) (errand : Errand) : Begun μ :=
  match Message.frame c.service.wireCode request c.config.maxFrameSize with
  | .error e => ⟨c.takeBack errand, request, some (.error e)⟩
  | .ok frame =>
    ⟨{ c with line := c.line ++ [.write call frame errand] }, request, none⟩

/-- Registers a caller who waits, with an empty inbox. -/
def submitAwaited (c : Connection μ) (call : CallId) (request : μ)
    (errand : Registration → Errand) : Begun μ :=
  match c.table.register .awaited with
  | .error e => ⟨c, request, some (.error e)⟩
  | .ok (r, table) =>
    let c := { c with table, inboxes := c.inboxes ++ [Inbox.mk r none] }
    c.standInLine call (Message.stamp r.correlationId request) (errand r)

def submit (c : Connection μ) (call : CallId) (purpose : Purpose) (request : μ) : Begun μ :=
  if !c.isLive then ⟨c, request, some (.error .connectionClosed)⟩
  else
    match purpose with
    | .request => c.submitAwaited call request .handOut
    | .receive within => c.submitAwaited call request (.await · within)
    | .discard =>
      match c.table.register .dropped with
      | .error e => ⟨c, request, some (.error e)⟩
      | .ok (r, table) =>
        { c with table }.standInLine call (Message.stamp r.correlationId request) (.discard r)
    | .send =>
      match c.table.allocate with
      | .error e => ⟨c, request, some (.error e)⟩
      | .ok (id, table) =>
        { c with table }.standInLine call (Message.stamp id request) (.numbered id)
    | .sendAs id => c.standInLine call (Message.stamp id request) .plain

/-- The reply is waited for as long as the connection's default says. -/
def sendAndReceive (c : Connection μ) (call : CallId) (request : μ) : Begun μ :=
  c.submit call (.receive c.replyTimeout) request

end Begin

/-- The frame is out: the call has what it wants, or starts to wait for it. -/
def sent (c : Connection μ) (call : CallId) (errand : Errand) (now : Instant) :
    Connection μ × Option (Outcome μ) :=
  match errand with
  | .handOut r => (c, some (.ok (.handle r)))
  | .await r within =>
    ({ c with waits := c.waits ++ [Wait.mk call r (within.map (Deadline.set now))] }, none)
  | .discard r => (c, some (.ok (.id r.correlationId)))
  | .numbered id => (c, some (.ok (.id id)))
  | .plain => (c, some (.ok .done))

def notSent (c : Connection μ) (errand : Errand) (e : ServerError) :
    Connection μ × Option (Outcome μ) :=
  (c.letGo errand, some (.error e))

/-- A registered request was pending when the connection went down. -/
def downError (errand : Errand) : ServerError :=
  match errand.registration? with
  | some _ => .connectionLost
  | none => .connectionClosed

/-- The first in line, which has handed over `before` bytes, tries to hand over the rest. -/
def writeOn (c : Connection μ) (call : CallId) (frame : List UInt8) (errand : Errand)
    (before : Nat) (now : Instant) (attempt : WriteAttempt) :
    Connection μ × Option (Outcome μ) :=
  if c.shutdown then
    ({ c with writeHalf := false }.stepAside).notSent errand .connectionLost
  else
    let left := frame.drop before
    let c := if attempt.disconnects then c.close .forced else c
    match attempt.result with
    | .stalled taken =>
      let taken := min taken left.length
      ({ c with progress := some (before + taken), written := c.written ++ left.take taken }, none)
    | .complete =>
      let metrics :=
        { c.metrics with
          requestsSent := c.metrics.requestsSent + 1
          bytesWritten := c.metrics.bytesWritten + frame.length }
      let c :=
        { c with
          metrics
          written := c.written ++ left
          writeHalf := c.writeHalf && !c.shutdown && c.isLive }
      c.stepAside.sent call errand now
    | .failed taken cause =>
      let c := { c.takeBack errand with written := c.written ++ left.take taken }
      let c := { c with writeHalf := false }
      let c := (c.stepAside.warn (.writeFailed c.service cause)).close .writeFailed
      c.notSent errand (.stream cause)

/-- The turn of a call that stands first in line. -/
def takeTurn (c : Connection μ) (call : CallId) (frame : List UInt8) (errand : Errand)
    (now : Instant) (attempt : WriteAttempt) : Connection μ × Option (Outcome μ) :=
  match c.progress with
  | some before => c.writeOn call frame errand before now attempt
  | none =>
    if !c.isLive || !c.writeHalf then
      ({ c with writeHalf := false }.stepAside).notSent errand (downError errand)
    else c.writeOn call frame errand 0 now attempt

end Connection
end ServiceMux
