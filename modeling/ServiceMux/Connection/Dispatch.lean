import ServiceMux.Connection.Basic
/-! The reader: bytes in, frames out, each reply to the caller who waits for it. A frame that cannot
be used harms nobody but that caller; only bytes that cannot be split into frames any more take the
connection down. -/
namespace ServiceMux

inductive Arrival where
  /-- Some bytes; none of them means the stream has ended. -/
  | bytes (data : List UInt8)
  | failed (cause : StreamError)
  deriving DecidableEq, Repr

namespace Metrics

def countDiscarded (m : Metrics) : Metrics := { m with repliesDiscarded := m.repliesDiscarded + 1 }
def countDelivered (m : Metrics) : Metrics := { m with repliesDelivered := m.repliesDelivered + 1 }
def countFault (m : Metrics) : Metrics := { m with protocolErrors := m.protocolErrors + 1 }

end Metrics

namespace Connection
variable {μ : Type}

/-- Removes what is outstanding under the id of a frame that yields no reply: who waits is told
why, and an entry whose reply would be dropped counts as having had it. -/
def failWaiter (c : Connection μ) (id : UInt32) (fault : RoutingFault) : Connection μ :=
  match c.table.take id with
  | (none, _) => c
  | (some slot, table) =>
    let c := { c with table }
    match slot.fate with
    | .awaited => (c.deliver slot.ticket (.error fault.toServerError)).1
    | .dropped => { c with metrics := c.metrics.countDiscarded }

def decodeFor [Message μ] (c : Connection μ) (ticket : Nat) (p : Prototype μ) (frame : Frame) :
    Connection μ :=
  let id := frame.header.correlationId
  let discriminator := frame.header.requestReplyId
  match p.decode frame.header frame.body with
  | .ok reply =>
    match c.deliver ticket (.ok (reply.stamp id)) with
    | (c, true) => { c with metrics := c.metrics.countDelivered }
    | (c, false) => { c with metrics := c.metrics.countDiscarded }
  | .error cause =>
    let c := { c with metrics := c.metrics.countFault }
    let c := c.warn (.undecodable id discriminator cause)
    let fault : RoutingFault := .undecodable p.typeName discriminator cause
    match c.deliver ticket (.error fault.toServerError) with
    | (c, true) => c
    | (c, false) => { c with metrics := c.metrics.countDiscarded }

def route [Message μ] (c : Connection μ) (frame : Frame) : Connection μ :=
  let header := frame.header
  let id := header.correlationId
  let discriminator := header.requestReplyId
  if !c.service.accepts header.serverId then
    let c := { c with metrics := c.metrics.countFault }
    let c := c.warn (.foreignFrame id header.serverId)
    c.failWaiter id (.foreign header.serverId c.service.wireCode)
  else
    match c.prototypeFor discriminator with
    | none =>
      let c := { c with metrics := c.metrics.countFault }
      let c := c.warn (.unregistered id discriminator)
      c.failWaiter id (.unregistered discriminator)
    | some p =>
      match c.table.take id with
      | (some ⟨ticket, .awaited⟩, table) => { c with table }.decodeFor ticket p frame
      | (_, table) => { c with table, metrics := c.metrics.countDiscarded }

/-- The reader stops taking bytes in. It lets go of its half once it has made sure of the other. -/
def leave (c : Connection μ) : Connection μ :=
  if c.line.isEmpty then { c with writeHalf := false, reader := .stopped }
  else { c with line := c.line ++ [.release], reader := .leaving }

/-- Adds bytes to those of the frame not complete yet, and routes every frame that is. -/
def feed [Message μ] (c : Connection μ) (buffer data : List UInt8) : Connection μ :=
  let c := { c with metrics := { c.metrics with bytesRead := c.metrics.bytesRead + data.length } }
  let run := Frame.splitAll c.config.maxFrameSize (buffer ++ data)
  let c := run.frames.foldl route c
  match run.fault with
  | none => { c with reader := .reading run.rest }
  | some cause =>
    let c := c.warn (.framingLost cause)
    let c := { c with metrics := c.metrics.countFault }
    (c.close .corrupted).leave

def pollReader [Message μ] (c : Connection μ) (arrival : Option Arrival) : Connection μ :=
  match c.reader with
  | .stopped => c
  | .leaving =>
    match c.line with
    | .release :: _ => { c with writeHalf := false, reader := .stopped }.stepAside
    | _ => c
  | .reading buffer =>
    if c.shutdown then c.leave
    else
      match arrival with
      | none => c
      | some (.bytes []) => (c.close .endOfStream).leave
      | some (.bytes data) => c.feed buffer data
      | some (.failed cause) => ((c.warn (.readFailed cause)).close .readFailed).leave

end Connection
end ServiceMux
