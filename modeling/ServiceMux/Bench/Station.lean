import ServiceMux.Bench.Datastream
import ServiceMux.Connection.Wait
import ServiceMux.Opening
import ServiceMux.Transport.Pipe
/-! A station of the bench: one stream, and the connection that is opened or held over it. -/
namespace ServiceMux.Bench

inductive Link where
  /-- Nobody has taken the stream yet. -/
  | vacant
  | opening (opening : Opening Datastream) (negotiating : Opening.Negotiating Datastream)
  | connected (c : Connection Datastream)

namespace Link

def connection? : Link → Option (Connection Datastream)
  | vacant => none
  | opening _ n => some n.connection
  | connected c => some c

def withConnection (link : Link) (c : Connection Datastream) : Link :=
  match link with
  | vacant => vacant
  | opening o n => opening o { n with connection := c }
  | connected _ => connected c

end Link

structure Station where
  /-- The slot that the stream belongs to. -/
  slot : Nat
  pipe : Pipe := {}
  link : Link := .vacant
  /-- How many of the bytes written were shown already. -/
  shown : Nat := 0

namespace Station

def isVacant (s : Station) : Bool := s.link.connection?.isNone

def connection? (s : Station) : Option (Connection Datastream) := s.link.connection?

def withConnection (s : Station) (c : Connection Datastream) : Station :=
  { s with link := s.link.withConnection c }

def warnings (s : Station) : List Warning :=
  match s.connection? with
  | some c => c.warnings
  | none => []

/-- How many bytes of a frame the call has to hand over next, if the stream is its to write on. -/
def owed (c : Connection Datastream) (call : CallId) : Option Nat :=
  match c.line with
  | .write first frame _ :: _ =>
    if first == call && !c.shutdown && (c.progress.isSome || (c.isLive && c.writeHalf)) then
      some (frame.length - c.progress.getD 0)
    else none
  | _ => none

/-- What the pipe makes of the call's next attempt to write. -/
def attempt (s : Station) (c : Connection Datastream) (call : CallId) : WriteAttempt × Station :=
  match owed c call with
  | none => (⟨.stalled 0, false⟩, s)
  | some left =>
    let (attempt, pipe) := s.pipe.write left
    (attempt, { s with pipe })

/-- Whether a call would get any further if it ran now. -/
def isReady (pipe : Pipe) (c : Connection Datastream) (call : CallId) (now : Instant) : Bool :=
  match c.waits.find? (·.call == call) with
  | some w =>
    ((c.inboxOf w.registration).bind (·.result)).isSome || !c.table.holds w.registration ||
      w.deadline.any (·.isDue now)
  | none =>
    match c.line with
    | .write first frame _ :: _ =>
      first == call &&
        (c.progress.isNone || c.shutdown || pipe.responds (frame.length - c.progress.getD 0))
    | _ => false

def readerIsReady (s : Station) : Bool :=
  match s.connection? with
  | none => false
  | some c =>
    match c.reader with
    | .reading _ => c.shutdown || !s.pipe.inbound.isEmpty
    | .leaving => c.line.head? == some .release
    | .stopped => false

/-- Lets the reader run once. Going down comes before anything there is to read. -/
def pollReader (s : Station) : Station :=
  match s.connection? with
  | none => s
  | some c =>
    match c.reader, c.shutdown, s.pipe.read c.config.readBufferSize with
    | .reading _, false, some (arrival, pipe) =>
      { s with pipe }.withConnection (c.pollReader (some arrival))
    | _, _, _ => s.withConnection (c.pollReader none)

/-- How often the reader can find something to read. -/
def readerWork (s : Station) : Nat :=
  s.pipe.inbound.foldl (fun
    | work, .bytes data => work + data.length + 1
    | work, .failed _ => work + 1) 2

end Station
end ServiceMux.Bench
